/-
The order of rules decides between them, and not when they were added.

The order of a rule says whether it is for any name and whether it is for any domain.  So two
rules of one order that may map a name are both for any name or both for this one, and the
same goes for their domains.  Then they have one key, and only one of them is stored.  There
is one exception: in the default domain, a rule without a domain may stand beside a rule for
that domain.

Candidates that never tie are fixed by which rules there are.  So whoever gets no tie gets the
same answer however the rules came into the table.
-/
import IdentityMap.Proofs.Rule.DefaultDomain

namespace IdentityMap

/-! ### Ties -/

namespace StoredRule

/-- The rules have one order. -/
def Ties (order : StoredRule → Option Nat) (a b : StoredRule) : Prop :=
  ∃ n, order a = some n ∧ order b = some n

/-- `a` has a lower order than `b`. -/
def Before (order : StoredRule → Option Nat) (a b : StoredRule) : Prop :=
  ∃ m n, order a = some m ∧ order b = some n ∧ m < n

/-- One of the rules has no domain, and the other has this one, in whatever spelling the store
takes for it. -/
def DifferInDomain (domain : String) (a b : StoredRule) : Prop :=
  (a.windowsDomain = some "" ∧ ∃ d, b.windowsDomain = some d ∧ sameInStore d domain = true) ∨
    (b.windowsDomain = some "" ∧ ∃ d, a.windowsDomain = some d ∧ sameInStore d domain = true)

variable {order : StoredRule → Option Nat} {a b : StoredRule}

theorem Ties.symm (h : Ties order a b) : Ties order b a := by
  obtain ⟨n, ha, hb⟩ := h
  exact ⟨n, hb, ha⟩

theorem Before.asymm (h : Before order a b) : ¬Before order b a := by
  rintro ⟨n', m', hb', ha', hlt'⟩
  obtain ⟨m, n, ha, hb, hlt⟩ := h
  obtain rfl : m = m' := Option.some.inj (ha.symm.trans ha')
  obtain rfl : n = n' := Option.some.inj (hb.symm.trans hb')
  omega

theorem DifferInDomain.symm {domain : String} (h : DifferInDomain domain a b) :
    DifferInDomain domain b a :=
  Or.symm h

theorem SharesWindowsKey.symm (h : a.SharesWindowsKey sameInStore b) :
    b.SharesWindowsKey sameInStore a := by
  obtain ⟨huser, hname, ⟨d, d', hd, hd', hdomain⟩, n, hn, hn'⟩ := h
  rw [sameInStore_comm] at hname hdomain
  exact ⟨huser.symm, hname, ⟨d', d, hd', hd, hdomain⟩, n, hn', hn⟩

theorem SharesUnixKey.symm (h : a.SharesUnixKey b) : b.SharesUnixKey a := by
  obtain ⟨huser, hname, n, hn, hn'⟩ := h
  exact ⟨huser.symm, hname.symm, n, hn', hn⟩

/-! ### What a stored order says -/

/-- An order from Windows to unix says whether the rule is for any name, and whether for any
domain. -/
theorem IsWritten.of_order {n : Nat} (h : a.IsWritten) (hn : a.toUnixOrder = some n) :
    (isWildcard a.windowsName = true ↔ 5 ≤ n) ∧
      (a.windowsDomain.any isWildcard = true ↔ n = 3 ∨ n = 4 ∨ 8 ≤ n) := by
  obtain ⟨direction, hown⟩ := h.ownOrders
  exact (RuleOrder.ofToUnix_spec (RuleOrder.ofToUnix_of_ofRule hown hn)).2

/-- An order from unix to Windows says whether the rule is for any unix name, and whether it is
a self-reference. -/
theorem Stores.of_order {rule : Rule} {defaultDomain : Option String} {n : Nat}
    (h : a.Stores rule defaultDomain) (hn : a.toWindowsOrder = some n) :
    (isWildcard a.unixName = true ↔ 3 ≤ n) ∧ (isWildcard a.windowsName = true ↔ n = 3) := by
  obtain ⟨-, -, hclaims, hnone⟩ := RuleOrder.ofRule_ok h.orders
  rw [h.unixName, h.windowsName]
  cases hdirection : rule.direction.isToWindows with
  | false => exact absurd ((hnone hdirection).symm.trans hn) (by simp)
  | true =>
      obtain ⟨n', hn', horder⟩ := hclaims hdirection
      obtain rfl : n' = n := Option.some.inj (hn'.symm.trans hn)
      obtain ⟨-, hunix, hself, -⟩ := RuleOrder.ofToWindows_spec horder
      exact ⟨hunix, hself⟩

end StoredRule

namespace RuleTable

open StoredRule

/-- Sorted rules ascend, up to ties; what ties had in common before, they have then. -/
theorem pairwise_byOrder {order : StoredRule → Option Nat} {rules : List StoredRule}
    {R : StoredRule → StoredRule → Prop} (hsymm : ∀ {a b}, R a b → R b a)
    (happlies : ∀ rule ∈ rules, applies (order rule) = true)
    (hties : rules.Pairwise fun a b => Ties order a b → R a b) :
    (byOrder order rules).Pairwise fun a b => Before order a b ∨ (Ties order a b ∧ R a b) := by
  have hties' : (byOrder order rules).Pairwise fun a b => Ties order a b → R a b :=
    hties.perm (List.mergeSort_perm rules _).symm fun h htie => hsymm (h htie.symm)
  have horder : ∀ rule ∈ byOrder order rules, ∃ n, order rule = some n := by
    intro rule hrule
    obtain ⟨n, hn, -⟩ :=
      (Option.any_eq_true _ _).mp (happlies rule (List.mem_mergeSort.mp hrule))
    exact ⟨n, hn⟩
  refine ((ascending_byOrder order rules).and hties').imp_of_mem fun {a b} ha hb ⟨hle, htie⟩ => ?_
  obtain ⟨m, hm⟩ := horder a ha
  obtain ⟨n, hn⟩ := horder b hb
  rw [hm, hn, Option.getD_some, Option.getD_some] at hle
  rcases Nat.lt_or_eq_of_le hle with hlt | rfl
  · exact Or.inl ⟨m, n, hm, hn, hlt⟩
  · exact Or.inr ⟨⟨m, hm, hn⟩, htie ⟨m, hm, hn⟩⟩

/-- Without ties, sorted rules ascend strictly. -/
theorem pairwise_before_byOrder {order : StoredRule → Option Nat} {rules : List StoredRule}
    (happlies : ∀ rule ∈ rules, applies (order rule) = true)
    (hties : rules.Pairwise fun a b => ¬Ties order a b) :
    (byOrder order rules).Pairwise (Before order) :=
  (pairwise_byOrder (R := fun _ _ => False) (fun h => h) happlies hties).imp fun h =>
    h.resolve_right fun htie => htie.2

/-- Sorting forgets how the rules stood, if that decides between none of them. -/
theorem byOrder_eq_of_perm {order : StoredRule → Option Nat} {rules rules' : List StoredRule}
    (hperm : rules.Perm rules') (hrules : (byOrder order rules).Pairwise (Before order))
    (hrules' : (byOrder order rules').Pairwise (Before order)) :
    byOrder order rules = byOrder order rules' := by
  have hsorted : (byOrder order rules).Perm (byOrder order rules') :=
    (List.mergeSort_perm rules _).trans (hperm.trans (List.mergeSort_perm rules' _).symm)
  exact hsorted.eq_of_pairwise (fun a b _ _ hab hba => absurd hba hab.asymm) hrules hrules'

/-! ### Rules that may map one name -/

section Matches

variable {a b : StoredRule} {isUser inDefaultDomain : Bool} {name domain unixName : String}

/-- Two names that both stand for a name, as any name or neither of them so, are one name. -/
theorem sameInStore_of_alike {s t : String} (hs : (sameInStore s name || isWildcard s) = true)
    (ht : (sameInStore t name || isWildcard t) = true)
    (halike : isWildcard s = true ↔ isWildcard t = true) : sameInStore s t = true := by
  rw [Bool.or_eq_true] at hs ht
  by_cases hany : isWildcard s = true
  · have hs' : s = wildcard := by simpa [isWildcard] using hany
    have ht' : t = wildcard := by simpa [isWildcard] using halike.mp hany
    rw [hs', ht']
    exact sameInStore_refl _
  · have hs' := sameInStore_iff.mp (hs.resolve_right hany)
    have ht' := sameInStore_iff.mp (ht.resolve_right fun h => hany (halike.mpr h))
    exact sameInStore_iff.mpr (hs'.trans ht'.symm)

/-- The same for domains, of which the default one may be left out. -/
theorem sameInStore_or_absent {d d' : String}
    (hd : (sameInStore d domain || isWildcard d || (inDefaultDomain && d.isEmpty)) = true)
    (hd' : (sameInStore d' domain || isWildcard d' || (inDefaultDomain && d'.isEmpty)) = true)
    (halike : isWildcard d = true ↔ isWildcard d' = true) :
    sameInStore d d' = true ∨ (inDefaultDomain = true ∧
      ((d = "" ∧ sameInStore d' domain = true) ∨ (d' = "" ∧ sameInStore d domain = true))) := by
  have hnever : ¬isWildcard "" = true := by decide
  rw [Bool.or_eq_true, Bool.and_eq_true, String.isEmpty_iff] at hd hd'
  rcases hd with hd | ⟨hdefault, rfl⟩ <;> rcases hd' with hd' | ⟨hdefault', rfl⟩
  · exact Or.inl (sameInStore_of_alike hd hd' halike)
  · have hown := (Bool.or_eq_true_iff.mp hd).resolve_right fun h => hnever (halike.mp h)
    exact Or.inr ⟨hdefault', Or.inr ⟨rfl, hown⟩⟩
  · have hown := (Bool.or_eq_true_iff.mp hd').resolve_right fun h => hnever (halike.mpr h)
    exact Or.inr ⟨hdefault, Or.inl ⟨rfl, hown⟩⟩
  · exact Or.inl (sameInStore_refl _)

/-- Rules of one order that may map one Windows account have one key, or one of them has no
domain and the other one has the account's. -/
theorem sharesWindowsKey_of_ties (ha : matchesWindows isUser name domain inDefaultDomain a = true)
    (hb : matchesWindows isUser name domain inDefaultDomain b = true) (hownA : a.IsWritten)
    (hownB : b.IsWritten) (htie : Ties (·.toUnixOrder) a b) :
    a.SharesWindowsKey sameInStore b ∨
      (inDefaultDomain = true ∧ DifferInDomain domain a b) := by
  obtain ⟨n, hn, hn'⟩ := htie
  obtain ⟨d, hd⟩ := Option.isSome_iff_exists.mp hownA.hasDomain
  obtain ⟨d', hd'⟩ := Option.isSome_iff_exists.mp hownB.hasDomain
  obtain ⟨hanyName, hanyDomain⟩ := hownA.of_order hn
  obtain ⟨hanyName', hanyDomain'⟩ := hownB.of_order hn'
  rw [hd, Option.any_some] at hanyDomain
  rw [hd', Option.any_some] at hanyDomain'
  simp only [matchesWindows, hd, hd', Bool.and_eq_true, beq_iff_eq] at ha hb
  obtain ⟨⟨⟨-, huser⟩, hname⟩, hdomain⟩ := ha
  obtain ⟨⟨⟨-, huser'⟩, hname'⟩, hdomain'⟩ := hb
  rcases sameInStore_or_absent hdomain hdomain' (hanyDomain.trans hanyDomain'.symm) with
    hsame | ⟨hdefault, hdiffer⟩
  · exact Or.inl ⟨huser.trans huser'.symm,
      sameInStore_of_alike hname hname' (hanyName.trans hanyName'.symm),
      ⟨d, d', hd, hd', hsame⟩, n, hn, hn'⟩
  · refine Or.inr ⟨hdefault, ?_⟩
    rcases hdiffer with ⟨rfl, hrequested⟩ | ⟨rfl, hrequested⟩
    · exact Or.inl ⟨hd, d', hd', hrequested⟩
    · exact Or.inr ⟨hd', d, hd, hrequested⟩

/-- Rules of one order that may map one unix name have one key. -/
theorem sharesUnixKey_of_ties {rule rule' : Rule} {defaultDomain defaultDomain' : Option String}
    (ha : matchesUnix isUser unixName a = true) (hb : matchesUnix isUser unixName b = true)
    (hstoresA : a.Stores rule defaultDomain) (hstoresB : b.Stores rule' defaultDomain')
    (htie : Ties (·.toWindowsOrder) a b) : a.SharesUnixKey b := by
  obtain ⟨n, hn, hn'⟩ := htie
  have halike : isWildcard a.unixName = true ↔ isWildcard b.unixName = true :=
    (hstoresA.of_order hn).1.trans (hstoresB.of_order hn').1.symm
  simp only [matchesUnix, Bool.and_eq_true, Bool.or_eq_true, beq_iff_eq] at ha hb
  obtain ⟨⟨-, huser⟩, hname⟩ := ha
  obtain ⟨⟨-, huser'⟩, hname'⟩ := hb
  refine ⟨huser.trans huser'.symm, ?_, n, hn, hn'⟩
  by_cases hany : isWildcard a.unixName = true
  · have hA : a.unixName = wildcard := by simpa [isWildcard] using hany
    have hB : b.unixName = wildcard := by simpa [isWildcard] using halike.mp hany
    rw [hA, hB]
  · rw [hname.resolve_right hany, hname'.resolve_right fun h => hany (halike.mpr h)]

end Matches

section Candidates

variable {commands : List RuleCommand}

/-- The rules that may map a unix name never tie. -/
theorem pairwise_rulesForUnix (commands : List RuleCommand) (isUser : Bool) (unixName : String) :
    ((after commands).rulesForUnix isUser unixName).Pairwise (Before (·.toWindowsOrder)) := by
  refine pairwise_before_byOrder ?_ ?_
  · intro rule hrule
    have hmatches := (List.mem_filter.mp hrule).2
    simp only [matchesUnix, Bool.and_eq_true] at hmatches
    exact hmatches.1.1
  · refine ((keysApart_after commands).unix.filter _).imp_of_mem fun {a b} ha hb hapart htie => ?_
    obtain ⟨hmemA, hmatchesA⟩ := List.mem_filter.mp ha
    obtain ⟨hmemB, hmatchesB⟩ := List.mem_filter.mp hb
    obtain ⟨_, _, -, hstoresA⟩ := exists_add_of_mem_after hmemA
    obtain ⟨_, _, -, hstoresB⟩ := exists_add_of_mem_after hmemB
    exact hapart (sharesUnixKey_of_ties hmatchesA hmatchesB hstoresA hstoresB htie)

/-- The rules that may map a Windows account tie in the default domain only, where one of them
has no domain. -/
theorem pairwise_rulesForWindows (hplain : ∀ command ∈ commands, command.HasPlainDefault)
    (isUser : Bool) (name domain : String) (inDefaultDomain : Bool) :
    ((after commands).rulesForWindows isUser name domain inDefaultDomain).Pairwise fun a b =>
      Before (·.toUnixOrder) a b ∨
        (Ties (·.toUnixOrder) a b ∧ inDefaultDomain = true ∧ DifferInDomain domain a b) := by
  refine pairwise_byOrder (fun ⟨hdefault, hdiffer⟩ => ⟨hdefault, hdiffer.symm⟩) ?_ ?_
  · intro rule hrule
    have hmatches := (List.mem_filter.mp hrule).2
    simp only [matchesWindows, Bool.and_eq_true] at hmatches
    exact hmatches.1.1.1
  · have hwritten := isWritten_after hplain
    refine ((keysApart_after commands).windows.filter _).imp_of_mem
      fun {a b} ha hb hapart htie => ?_
    obtain ⟨hmemA, hmatchesA⟩ := List.mem_filter.mp ha
    obtain ⟨hmemB, hmatchesB⟩ := List.mem_filter.mp hb
    exact (sharesWindowsKey_of_ties hmatchesA hmatchesB (hwritten a hmemA) (hwritten b hmemB)
      htie).resolve_left hapart

theorem pairwise_before_rulesForWindows
    (hplain : ∀ command ∈ commands, command.HasPlainDefault) (isUser : Bool)
    (name domain : String) :
    ((after commands).rulesForWindows isUser name domain false).Pairwise
      (Before (·.toUnixOrder)) :=
  (pairwise_rulesForWindows hplain isUser name domain false).imp fun h =>
    h.resolve_right fun htie => Bool.false_ne_true htie.2.1

end Candidates

/-! ### Rules added in another order -/

/-- The commands that add rules, each with its default domain. -/
def adding (adds : List (Rule × Option String)) : List RuleCommand :=
  adds.map fun add => .add add.1 add.2

/-- The rows of the rules among these that are not refused for themselves. -/
def newRows (adds : List (Rule × Option String)) : List StoredRule :=
  adds.filterMap fun add => (rowFor add.1 add.2).toOption

/-- None of the rules is in the way of another, nor a stored one of any of them. -/
def Admits (table : RuleTable) (adds : List (Rule × Option String)) : Prop :=
  KeysApart { rules := table.rules ++ newRows adds }

variable {table : RuleTable} {adds adds' : List (Rule × Option String)}
  {commands : List RuleCommand}

theorem KeysApart.perm {rules rules' : List StoredRule} (h : KeysApart { rules })
    (hperm : rules.Perm rules') : KeysApart { rules := rules' } :=
  ⟨h.windows.perm hperm fun hapart hshares => hapart hshares.symm,
    h.unix.perm hperm fun hapart hshares => hapart hshares.symm⟩

theorem newRows_perm (hperm : adds.Perm adds') : (newRows adds).Perm (newRows adds') :=
  hperm.filterMap _

theorem Admits.perm (h : table.Admits adds) (hperm : adds.Perm adds') : table.Admits adds' :=
  KeysApart.perm h ((newRows_perm hperm).append_left _)

/-- Rules that are not in each other's way are all stored, as they come. -/
theorem rules_foldl_adding (h : table.Admits adds) :
    ((adding adds).foldl does table).rules = table.rules ++ newRows adds := by
  induction adds generalizing table with
  | nil => simp [adding, newRows]
  | cons add rest ih =>
      obtain ⟨rule, defaultDomain⟩ := add
      rw [adding, List.map_cons, List.foldl_cons, ← adding]
      cases hrow : rowFor rule defaultDomain with
      | error failure =>
          have hnew : newRows ((rule, defaultDomain) :: rest) = newRows rest := by
            simp [newRows, hrow, Except.toOption]
          rw [Admits, hnew] at h
          rw [does_of_refused (add_of_rowFor_error hrow), hnew]
          exact ih h
      | ok row =>
          have hnew : newRows ((rule, defaultDomain) :: rest) = row :: newRows rest := by
            simp [newRows, hrow, Except.toOption]
          rw [Admits, hnew] at h
          have hroom : table.HasRoomFor row := fun old hold =>
            ⟨(List.pairwise_append.mp h.windows).2.2 old hold row (List.mem_cons_self ..),
              (List.pairwise_append.mp h.unix).2.2 old hold row (List.mem_cons_self ..)⟩
          have hrules : (table.does (.add rule defaultDomain)).rules = table.rules ++ [row] :=
            does_of_hasRoomFor (StoredRule.rowFor_eq_ok_iff.mp hrow) hroom
          have hrest : (table.does (.add rule defaultDomain)).Admits rest := by
            rw [Admits, hrules, List.append_assoc]
            exact h
          rw [ih hrest, hrules, hnew, List.append_assoc]
          rfl

theorem rules_after_adding (h : (after commands).Admits adds) :
    (after (commands ++ adding adds)).rules = (after commands).rules ++ newRows adds := by
  rw [after, List.foldl_append]
  exact rules_foldl_adding h

theorem hasPlainDefault_adding (hplain : ∀ command ∈ commands, command.HasPlainDefault)
    (hdefaults : ∀ add ∈ adds, add.2 ≠ some wildcard) :
    ∀ command ∈ commands ++ adding adds, command.HasPlainDefault := by
  intro command hcommand
  rcases List.mem_append.mp hcommand with hold | hnew
  · exact hplain command hold
  · obtain ⟨add, hadd, rfl⟩ := List.mem_map.mp hnew
    exact hdefaults add hadd

/-- One set of rules leads a unix name to one list of candidates. -/
theorem windowsCandidates_of_perm {commands commands' : List RuleCommand}
    (hperm : (after commands).rules.Perm (after commands').rules) (isUser : Bool)
    (unixName : String) :
    (after commands).windowsCandidates isUser unixName
      = (after commands').windowsCandidates isUser unixName := by
  have hrules := byOrder_eq_of_perm (hperm.filter (matchesUnix isUser unixName))
    (pairwise_rulesForUnix commands isUser unixName)
    (pairwise_rulesForUnix commands' isUser unixName)
  rw [windowsCandidates, windowsCandidates, rulesForUnix, rulesForUnix, hrules]

/-- One set of rules leads a Windows account outside the default domain to one list of
candidates. -/
theorem unixCandidates_of_perm {commands commands' : List RuleCommand}
    (hplain : ∀ command ∈ commands, command.HasPlainDefault)
    (hplain' : ∀ command ∈ commands', command.HasPlainDefault)
    (hperm : (after commands).rules.Perm (after commands').rules) (isUser : Bool)
    (name domain : String) :
    (after commands).unixCandidates isUser name domain false
      = (after commands').unixCandidates isUser name domain false := by
  have hrules := byOrder_eq_of_perm (hperm.filter (matchesWindows isUser name domain false))
    (pairwise_before_rulesForWindows hplain isUser name domain)
    (pairwise_before_rulesForWindows hplain' isUser name domain)
  rw [unixCandidates, unixCandidates, rulesForWindows, rulesForWindows, hrules]

end RuleTable

/--
**Rules are strictly ordered, and it does not matter when they were added.**

Whatever commands have made the rules, those that may map a unix name have ascending orders,
and so have those that may map a Windows account outside the default domain.  In the default
domain two of them have one order only if one has no domain and the other has the requested
one.

So rules of which none is in the way of another, nor of a rule that is there, may be added in
any order.  All are stored, and unix names are mapped the same, and so are Windows accounts
outside the default domain.
-/
theorem rules_strictly_ordered (commands : List RuleCommand)
    (hplain : ∀ command ∈ commands, command.HasPlainDefault) :
    (∀ isUser unixName,
      ((RuleTable.after commands).rulesForUnix isUser unixName).Pairwise
        (StoredRule.Before (·.toWindowsOrder))) ∧
    (∀ isUser name domain,
      ((RuleTable.after commands).rulesForWindows isUser name domain false).Pairwise
        (StoredRule.Before (·.toUnixOrder))) ∧
    (∀ isUser name domain,
      ((RuleTable.after commands).rulesForWindows isUser name domain true).Pairwise fun a b =>
        StoredRule.Before (·.toUnixOrder) a b ∨
          (StoredRule.Ties (·.toUnixOrder) a b ∧ StoredRule.DifferInDomain domain a b)) ∧
    ∀ adds adds' : List (Rule × Option String), adds.Perm adds' →
      (∀ add ∈ adds, add.2 ≠ some wildcard) → (RuleTable.after commands).Admits adds →
      (RuleTable.after (commands ++ RuleTable.adding adds')).rules
          = (RuleTable.after commands).rules ++ RuleTable.newRows adds' ∧
      (∀ names mappingDomain name domain kind,
        Rule.isDefaultDomain mappingDomain (domain.getD "") = false →
        Rule.mapToUnix (.after (commands ++ RuleTable.adding adds)) names mappingDomain name
            domain kind
          = Rule.mapToUnix (.after (commands ++ RuleTable.adding adds')) names mappingDomain
              name domain kind) ∧
      ∀ {σ : Type} mappingDomain unixName kind
        (resolve : String → String → σ → Except Failure NamedAccount × σ) s,
        Rule.mapToWindows (.after (commands ++ RuleTable.adding adds)) mappingDomain unixName
            kind resolve s
          = Rule.mapToWindows (.after (commands ++ RuleTable.adding adds')) mappingDomain
              unixName kind resolve s := by
  refine ⟨RuleTable.pairwise_rulesForUnix commands,
    RuleTable.pairwise_before_rulesForWindows hplain, ?_, ?_⟩
  · intro isUser name domain
    refine (RuleTable.pairwise_rulesForWindows hplain isUser name domain true).imp fun h => ?_
    exact h.imp_right fun htie => ⟨htie.1, htie.2.2⟩
  · intro adds adds' hperm hdefaults hadmits
    have hrules := RuleTable.rules_after_adding hadmits
    have hrules' := RuleTable.rules_after_adding (hadmits.perm hperm)
    have hsame : (RuleTable.after (commands ++ RuleTable.adding adds)).rules.Perm
        (RuleTable.after (commands ++ RuleTable.adding adds')).rules := by
      rw [hrules, hrules']
      exact (RuleTable.newRows_perm hperm).append_left _
    refine ⟨hrules', ?_, ?_⟩
    · intro names mappingDomain name domain kind houtside
      have hplainAdds := RuleTable.hasPlainDefault_adding hplain hdefaults
      have hplainAdds' := RuleTable.hasPlainDefault_adding hplain
        fun add hadd => hdefaults add (hperm.mem_iff.mpr hadd)
      simp only [Rule.mapToUnix, houtside,
        RuleTable.unixCandidates_of_perm hplainAdds hplainAdds' hsame]
    · intro σ mappingDomain unixName kind resolve s
      rw [Rule.mapToWindows, Rule.mapToWindows, RuleTable.windowsCandidates_of_perm hsame]

namespace Staff

/-- Two more rules: in CORP, alice is a guest and carol is nobody. -/
def moreRules : List (Rule × Option String) :=
  let rule (windowsName : String) (windowsDomain : Option String) (unixName : String) : Rule :=
    { isUser := true, windowsDomain, windowsName, unixName, isNt4 := false
      direction := .toUnix }
  [(rule "alice" (some "CORP") "guest", none), (rule "carol" none "", some "CORP")]

end Staff

/-- The two rules are stored in either order, and alice is mapped alike. -/
theorem rules_strictly_ordered_staff :
    (RuleTable.after Staff.commands).Admits Staff.moreRules ∧
    (RuleTable.after (Staff.commands ++ RuleTable.adding Staff.moreRules.reverse)).rules.length
      = 5 ∧
    Rule.mapToUnix (.after (Staff.commands ++ RuleTable.adding Staff.moreRules)) Staff.names
        (some "LAB") "ALICE" (some "corp") .uid
      = Rule.mapToUnix (.after (Staff.commands ++ RuleTable.adding Staff.moreRules.reverse))
          Staff.names (some "LAB") "ALICE" (some "corp") .uid := by
  have hplain : ∀ command ∈ Staff.commands, command.HasPlainDefault := by
    simp [Staff.commands, RuleCommand.HasPlainDefault, wildcard]
  have hdefaults : ∀ add ∈ Staff.moreRules, add.2 ≠ some wildcard := by
    decide
  have hadmits : (RuleTable.after Staff.commands).Admits Staff.moreRules := by
    unfold RuleTable.Admits
    decide +kernel
  obtain ⟨-, -, -, hany⟩ := rules_strictly_ordered Staff.commands hplain
  obtain ⟨hstored, hmapped, -⟩ :=
    hany Staff.moreRules _ Staff.moreRules.reverse_perm.symm hdefaults hadmits
  refine ⟨hadmits, ?_, hmapped _ _ _ _ _ (by decide +kernel)⟩
  rw [hstored]
  decide +kernel

end IdentityMap
