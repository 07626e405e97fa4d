/-
In which order rules are tried, and what the first of them says.

Sorting keeps rules of one order as they stood.  So the rules that may map a name are tried
in ten passes: those of order 1 as they were added, then those of order 2, and so on.  And
`StoredRule.rank?` reads the order off the fields of a rule as they are stored, row by row
from the table in `Rule/Priority`.

The two meet where the order of a rule is the one that its own fields have.  That is a
condition on a table and not a fact of all tables: the order is worked out once, from the
fields that were submitted, and is stored as a number.
-/
import IdentityMap.Proofs.Rule.Deny
import Mathlib.Data.List.Basic

namespace IdentityMap

/-! ### Sorting by a number -/

section Sorting

variable {β γ : Type} {key : β → Nat} {l : List β}

/-- Sorting leaves the members with one key as they stood. -/
theorem filter_mergeSort (key : β → Nat) (n : Nat) (l : List β) :
    (l.mergeSort fun a b => key a ≤ key b).filter (key · == n) = l.filter (key · == n) := by
  have hsame : (l.filter (key · == n)).Pairwise fun a b => decide (key a ≤ key b) = true := by
    refine List.pairwise_iff_forall_sublist.mpr fun {a b} hpair => ?_
    have hmem := hpair.subset
    have ha : key a = n := by
      simpa using (List.mem_filter.mp (hmem (List.mem_cons_self ..))).2
    have hb : key b = n := by
      simpa using (List.mem_filter.mp (hmem (by simp : b ∈ [a, b]))).2
    rw [ha, hb]
    exact decide_eq_true (Nat.le_refl n)
  have hkept : (l.filter (key · == n)).Sublist (l.mergeSort fun a b => key a ≤ key b) :=
    List.sublist_mergeSort (by intro a b c; simp only [decide_eq_true_iff]; omega)
      (by intro a b; simp only [Bool.or_eq_true, decide_eq_true_iff]; omega) hsame
      List.filter_sublist
  have hsub := hkept.filter (key · == n)
  simp only [List.filter_filter, Bool.and_self] at hsub
  have hlength : (l.filter (key · == n)).length
      = ((l.mergeSort fun a b => key a ≤ key b).filter (key · == n)).length :=
    ((List.mergeSort_perm l _).filter _).length_eq.symm
  exact (hsub.eq_of_length hlength).symm

/-- A sorted list is its members with the least key, and then the others. -/
theorem eq_filter_append_filter {n : Nat} (hsorted : l.Pairwise fun a b => key a ≤ key b)
    (hle : ∀ a ∈ l, n ≤ key a) :
    l = l.filter (key · == n) ++ l.filter (key · != n) := by
  induction l with
  | nil => rfl
  | cons a rest ih =>
      obtain ⟨hfirst, hrest⟩ := List.pairwise_cons.mp hsorted
      by_cases hkey : key a = n
      · have hih := ih hrest fun b hb => hle b (List.mem_cons_of_mem _ hb)
        simp only [List.filter_cons, hkey, beq_self_eq_true, if_true, bne_self_eq_false,
          Bool.false_eq_true, if_false, List.cons_append]
        rw [← hih]
      · -- Nothing behind a greater key has the least one.
        have hgreater : ∀ b ∈ a :: rest, key b ≠ n := by
          intro b hb
          have ha := hle a (List.mem_cons_self ..)
          rcases List.mem_cons.mp hb with rfl | hb
          · exact hkey
          · have hab := hfirst b hb
            omega
        rw [List.filter_eq_nil_iff.mpr fun b hb => by simpa using hgreater b hb,
          List.filter_eq_self.mpr fun b hb => by simpa using hgreater b hb, List.nil_append]

/-- A sorted list is its members with each key, one key after another. -/
theorem eq_flatMap_filter {first count : Nat} (hsorted : l.Pairwise fun a b => key a ≤ key b)
    (hkeys : ∀ a ∈ l, first ≤ key a ∧ key a < first + count) :
    l = (List.range' first count).flatMap fun n => l.filter (key · == n) := by
  induction count generalizing first l with
  | zero =>
      cases l with
      | nil => rfl
      | cons a rest =>
          obtain ⟨hle, hlt⟩ := hkeys a (List.mem_cons_self ..)
          omega
  | succ count ih =>
      have hothers : ∀ a ∈ l.filter (key · != first), first + 1 ≤ key a ∧
          key a < first + 1 + count := by
        intro a ha
        obtain ⟨hmem, hne⟩ := List.mem_filter.mp ha
        have hrange := hkeys a hmem
        have hdiffers : key a ≠ first := by simpa using hne
        omega
      have hrest := ih (hsorted.sublist List.filter_sublist) hothers
      have hfilter : ∀ n ∈ List.range' (first + 1) count,
          (l.filter (key · != first)).filter (key · == n) = l.filter (key · == n) := by
        intro n hn
        have hgreater : first < n := by
          obtain ⟨i, -, rfl⟩ := List.mem_range'.mp hn
          omega
        rw [List.filter_filter]
        refine List.filter_congr fun a _ => ?_
        by_cases ha : key a = n
        · have hne : key a ≠ first := by omega
          simp [ha] at hne ⊢
          exact hne
        · simp [ha]
      have hsplit := eq_filter_append_filter hsorted fun a ha => (hkeys a ha).1
      rw [hrest, List.flatMap_congr hfilter] at hsplit
      rw [List.range'_succ, List.flatMap_cons]
      exact hsplit

end Sorting

/-- Rules are tried by ascending order. -/
theorem RuleTable.ascending_byOrder (order : StoredRule → Option Nat) (rules : List StoredRule) :
    (byOrder order rules).Pairwise fun a b => (order a).getD 0 ≤ (order b).getD 0 := by
  refine (List.pairwise_mergeSort ?_ ?_ rules).imp fun hle => of_decide_eq_true hle
  · intro a b c
    simp only [decide_eq_true_iff]
    omega
  · intro a b
    simp only [Bool.or_eq_true, decide_eq_true_iff]
    omega

/-- Rules of an order are tried in the order in which they stand. -/
theorem RuleTable.byOrder_eq_flatMap {order : StoredRule → Option Nat} {rules : List StoredRule}
    {first count : Nat}
    (h : ∀ rule ∈ rules, first ≤ (order rule).getD 0 ∧ (order rule).getD 0 < first + count) :
    byOrder order rules
      = (List.range' first count).flatMap fun n =>
          rules.filter fun rule => (order rule).getD 0 == n := by
  have hmem : ∀ rule ∈ byOrder order rules, rule ∈ rules := fun rule hrule =>
    List.mem_mergeSort.mp hrule
  rw [eq_flatMap_filter (ascending_byOrder order rules) fun rule hrule => h rule (hmem rule hrule)]
  simp only [byOrder, filter_mergeSort]

/-! ### What a rule says -/

namespace StoredRule

/-- To whom a rule sends the Windows names that it may map. -/
inductive Target where
  | nobody
  /-- The unix account of the same name. -/
  | sameName
  | account
deriving DecidableEq, Repr

def target (rule : StoredRule) : Target :=
  if isEmptyName rule.unixName then .nobody
  else if isWildcard rule.unixName then .sameName
  else .account

/-- What a rule says of a Windows name that it may map.  It says nothing if it sends the
name to an account of the same name and there is none. -/
def verdict? (names : NameService) (kind : IdKind) (name : String) (rule : StoredRule) :
    Option (Except Failure UnixMatch) :=
  let found (unixName : String) (number : UInt32) : UnixMatch :=
    { id := { kind, number }, unixName
      direction := if applies rule.toWindowsOrder then .both else .toUnix }
  match rule.target with
  | .nobody => some (.error .denied)
  | .sameName =>
    match names.idOf kind name with
    | .ok number => some (.ok (found name number))
    | .error .notFound => none
    | .error e => some (.error e)
  | .account =>
    match names.idOf kind rule.unixName with
    | .ok number => some (.ok (found rule.unixName number))
    | .error .notFound => some (.error .denied)
    | .error e => some (.error e)

variable {names : NameService} {kind : IdKind} {name : String} {rule : StoredRule}

/-- A rule says nothing of a name, since it is a self-reference to a name that is not there, or
it says something else than that nothing was found. -/
theorem verdict?_cases (names : NameService) (kind : IdKind) (name : String) (rule : StoredRule) :
    (rule.target = .sameName ∧ names.idOf kind name = .error .notFound ∧
      rule.verdict? names kind name = none) ∨
    (¬(rule.target = .sameName ∧ names.idOf kind name = .error .notFound) ∧
      ∃ verdict, rule.verdict? names kind name = some verdict ∧ verdict ≠ .error .notFound) := by
  cases htarget : rule.target with
  | nobody => exact Or.inr (by simp [verdict?, htarget])
  | sameName =>
      cases hfound : names.idOf kind name with
      | ok number => exact Or.inr (by simp [verdict?, htarget, hfound])
      | error failure =>
          by_cases hmissing : failure = .notFound
          · subst hmissing
            exact Or.inl ⟨rfl, rfl, by simp [verdict?, htarget, hfound]⟩
          · exact Or.inr (by simp [verdict?, htarget, hfound, hmissing])
  | account =>
      cases hfound : names.idOf kind rule.unixName with
      | ok number => exact Or.inr (by simp [verdict?, htarget, hfound])
      | error failure =>
          by_cases hmissing : failure = .notFound
          · exact Or.inr (by simp [verdict?, htarget, hfound, hmissing])
          · exact Or.inr (by simp [verdict?, htarget, hfound, hmissing])

theorem verdict?_eq_none_iff :
    rule.verdict? names kind name = none
      ↔ rule.target = .sameName ∧ names.idOf kind name = .error .notFound := by
  rcases verdict?_cases names kind name rule with ⟨hself, hmissing, hnone⟩ | ⟨hother, v, hv, -⟩
  · simp [hself, hmissing, hnone]
  · simp [hother, hv]

theorem verdict?_ne_notFound : rule.verdict? names kind name ≠ some (.error .notFound) := by
  intro hverdict
  rcases verdict?_cases names kind name rule with ⟨-, -, hnone⟩ | ⟨-, v, hv, hne⟩
  · rw [hnone] at hverdict
    cases hverdict
  · rw [hv] at hverdict
    exact hne (Option.some.inj hverdict)

end StoredRule

namespace Rule

variable {table : RuleTable} {names : NameService} {mappingDomain : Option String}
  {kind : IdKind} {name : String} {domain : Option String}

/-- The first of the rules that says anything decides. -/
theorem tryUnix_map (names : NameService) (kind : IdKind) (name : String)
    (rules : List StoredRule) :
    tryUnix names kind name (rules.map fun rule =>
        { unixName := rule.unixName, toWindowsOrder := rule.toWindowsOrder })
      = (rules.findSome? (·.verdict? names kind name)).getD (.error .notFound) := by
  induction rules with
  | nil => rfl
  | cons rule rest ih =>
      rw [List.map_cons, tryUnix, List.findSome?_cons]
      by_cases hempty : isEmptyName rule.unixName = true
      · simp [StoredRule.verdict?, StoredRule.target, hempty]
      · by_cases hself : isWildcard rule.unixName = true
        · cases hfound : names.idOf kind name with
          | ok number =>
              simp [StoredRule.verdict?, StoredRule.target, hempty, hself, hfound]
          | error failure =>
              cases failure <;>
                simp [StoredRule.verdict?, StoredRule.target, hempty, hself, hfound, ih]
        · cases hfound : names.idOf kind rule.unixName with
          | ok number =>
              simp [StoredRule.verdict?, StoredRule.target, hempty, hself, hfound]
          | error failure =>
              cases failure <;>
                simp [StoredRule.verdict?, StoredRule.target, hempty, hself, hfound]

theorem mapToUnix_eq_findSome? :
    mapToUnix table names mappingDomain name domain kind
      = ((table.rulesForWindows kind.isUser name (domain.getD "")
          (isDefaultDomain mappingDomain (domain.getD ""))).findSome?
            (·.verdict? names kind name)).getD (.error .notFound) :=
  tryUnix_map names kind name _

/-- Nothing is found just when every rule that may map the name is a self-reference, and
there is no account of the same name. -/
theorem mapToUnix_eq_notFound_iff :
    mapToUnix table names mappingDomain name domain kind = .error .notFound
      ↔ ∀ rule ∈ table.rules,
          RuleTable.matchesWindows kind.isUser name (domain.getD "")
            (isDefaultDomain mappingDomain (domain.getD "")) rule = true →
          rule.target = .sameName ∧ names.idOf kind name = .error .notFound := by
  rw [mapToUnix_eq_findSome?]
  constructor
  · intro hnone rule hrule hmatches
    have hmem : rule ∈ table.rulesForWindows kind.isUser name (domain.getD "")
        (isDefaultDomain mappingDomain (domain.getD "")) :=
      List.mem_mergeSort.mpr (List.mem_filter.mpr ⟨hrule, hmatches⟩)
    cases hfirst : (table.rulesForWindows kind.isUser name (domain.getD "")
        (isDefaultDomain mappingDomain (domain.getD ""))).findSome?
          (·.verdict? names kind name) with
    | none =>
        exact StoredRule.verdict?_eq_none_iff.mp (List.findSome?_eq_none_iff.mp hfirst rule hmem)
    | some verdict =>
        obtain ⟨decisive, -, hverdict⟩ := List.exists_of_findSome?_eq_some hfirst
        rw [hfirst, Option.getD_some] at hnone
        rw [hnone] at hverdict
        exact absurd hverdict StoredRule.verdict?_ne_notFound
  · intro hall
    rw [List.findSome?_eq_none_iff.mpr, Option.getD_none]
    intro rule hmem
    obtain ⟨hrule, hmatches⟩ := List.mem_filter.mp (List.mem_mergeSort.mp hmem)
    exact StoredRule.verdict?_eq_none_iff.mpr (hall rule hrule hmatches)

end Rule

/-! ### Rules that stand where their fields say -/

namespace RuleOrder

variable {windowsName unixName : String} {windowsDomain : Option String} {direction : Direction}
  {order : RuleOrder}

/-- A rule has an order in each direction that it claims, and none in another. -/
theorem ofRule_ok (h : ofRule windowsName windowsDomain unixName direction = .ok order) :
    (direction.isToUnix = true → ∃ n, order.toUnix = some n ∧
      ofToUnix windowsName windowsDomain unixName = .ok n) ∧
    (direction.isToUnix = false → order.toUnix = none) ∧
    (direction.isToWindows = true → ∃ n, order.toWindows = some n ∧
      ofToWindows windowsName windowsDomain unixName = .ok n) ∧
    (direction.isToWindows = false → order.toWindows = none) := by
  unfold ofRule at h
  cases hunix : ofToUnix windowsName windowsDomain unixName <;>
    cases hwindows : ofToWindows windowsName windowsDomain unixName <;>
    cases direction <;>
    rw [hunix, hwindows] at h <;>
    cases h <;>
    simp [Direction.isToUnix, Direction.isToWindows]

theorem ofToUnix_of_ofRule {n : Nat}
    (h : ofRule windowsName windowsDomain unixName direction = .ok order)
    (horder : order.toUnix = some n) : ofToUnix windowsName windowsDomain unixName = .ok n := by
  obtain ⟨hunix, hnone, -⟩ := ofRule_ok h
  cases hclaims : direction.isToUnix with
  | false =>
      rw [hnone hclaims] at horder
      cases horder
  | true =>
      obtain ⟨own, hown, hn⟩ := hunix hclaims
      rw [hown] at horder
      cases horder
      exact hn

end RuleOrder

namespace StoredRule

/-- The row in the table from Windows to unix that the fields of a rule put it in. -/
def rank? (rule : StoredRule) : Option Nat :=
  match isWildcard rule.windowsName, rule.windowsDomain.any isWildcard, rule.target with
  | false, false, .nobody => some 1
  | false, false, .account => some 2
  | false, true, .nobody => some 3
  | false, true, .account => some 4
  | true, false, .sameName => some 5
  | true, false, .nobody => some 6
  | true, false, .account => some 7
  | true, true, .sameName => some 8
  | true, true, .nobody => some 9
  | true, true, .account => some 10
  | false, _, .sameName => none

/-- The stored orders are those that the stored fields have. -/
def HasOwnOrders (rule : StoredRule) : Prop :=
  ∃ direction, RuleOrder.ofRule rule.windowsName rule.windowsDomain rule.unixName direction
    = .ok { toUnix := rule.toUnixOrder, toWindows := rule.toWindowsOrder }

variable {rule : StoredRule} {n : Nat}

theorem rank?_of_ofToUnix
    (h : RuleOrder.ofToUnix rule.windowsName rule.windowsDomain rule.unixName = .ok n) :
    rule.rank? = some n := by
  have hname : isEmptyName rule.windowsName = false := by
    by_cases hname : isEmptyName rule.windowsName = true
    · simp [RuleOrder.ofToUnix, hname] at h
    · simpa using hname
  rw [RuleOrder.ofToUnix, hname] at h
  by_cases hself : isWildcard rule.unixName = true
  · have hempty := Rule.isEmptyName_of_isWildcard hself
    cases hany : isWildcard rule.windowsName <;>
      cases hdomain : rule.windowsDomain.any isWildcard <;>
      simp [hany, hdomain, hself] at h <;>
      simp [rank?, target, hany, hdomain, hself, hempty, h]
  · cases hempty : isEmptyName rule.unixName <;>
      cases hany : isWildcard rule.windowsName <;>
      cases hdomain : rule.windowsDomain.any isWildcard <;>
      simp [hany, hdomain, hself, hempty] at h <;>
      simp [rank?, target, hany, hdomain, hself, hempty, h]

theorem rank?_range (h : rule.rank? = some n) : 1 ≤ n ∧ n < 1 + 10 := by
  unfold rank? at h
  split at h <;> simp at h <;> omega

/-- The order from Windows to unix is the number of the row. -/
theorem HasOwnOrders.rank?_eq (h : rule.HasOwnOrders) (horder : rule.toUnixOrder = some n) :
    rule.rank? = some n := by
  obtain ⟨direction, hown⟩ := h
  exact rank?_of_ofToUnix (RuleOrder.ofToUnix_of_ofRule hown horder)

theorem HasOwnOrders.rank?_eq_toUnixOrder (h : rule.HasOwnOrders)
    (happlies : applies rule.toUnixOrder = true) : rule.rank? = rule.toUnixOrder := by
  obtain ⟨n, hn, -⟩ := (Option.any_eq_true _ _).mp happlies
  rw [h.rank?_eq hn, hn]

end StoredRule

/-- Rules that apply and have their own orders are tried row by row. -/
theorem RuleTable.byOrder_toUnixOrder {rules : List StoredRule}
    (hown : ∀ rule ∈ rules, rule.HasOwnOrders)
    (happlies : ∀ rule ∈ rules, applies rule.toUnixOrder = true) :
    byOrder (·.toUnixOrder) rules
      = (List.range' 1 10).flatMap fun n => rules.filter (·.toUnixOrder == some n) := by
  have horder : ∀ rule ∈ rules, rule.toUnixOrder = some (rule.toUnixOrder.getD 0) := by
    intro rule hrule
    obtain ⟨n, hn, -⟩ := (Option.any_eq_true _ _).mp (happlies rule hrule)
    rw [hn, Option.getD_some]
  rw [byOrder_eq_flatMap fun rule hrule =>
    StoredRule.rank?_range ((hown rule hrule).rank?_eq (horder rule hrule))]
  refine List.flatMap_congr fun n _ => List.filter_congr fun rule hrule => ?_
  rw [horder rule hrule]
  rfl

end IdentityMap
