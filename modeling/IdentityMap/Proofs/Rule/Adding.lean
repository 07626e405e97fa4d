/-
When a rule is refused, for what, and what adding leaves behind.

A rule is refused for itself, or because a stored rule has one of its keys.  The keys are
said here on the fields of two rules, so that it shows what they compare: unix names exactly,
Windows names and domains as a store does, and orders only where both rules have one.  As a
rule is never stored without a domain, no column but the order is ever empty.

`RuleTable.Adds` lists all that can come of adding.  What holds of every table follows from
it by one induction on the commands.
-/
import IdentityMap.Proofs.Rule.Reference

namespace IdentityMap

/-! ### The orders that a rule is stored with -/

namespace RuleOrder

variable {windowsName unixName : String} {windowsDomain : Option String} {direction : Direction}
  {order : RuleOrder} {n : Nat}

/-- What the order from Windows to unix says of the Windows name: those from 5 on are of rules
for any name, and 3, 4 and those from 8 on are of rules for any domain. -/
theorem ofToUnix_spec (h : ofToUnix windowsName windowsDomain unixName = .ok n) :
    0 < n ∧ (isWildcard windowsName = true ↔ 5 ≤ n) ∧
      (windowsDomain.any isWildcard = true ↔ n = 3 ∨ n = 4 ∨ 8 ≤ n) := by
  unfold ofToUnix at h
  split at h
  · cases h
  · by_cases hdomain : windowsDomain.any isWildcard = true
    all_goals
      simp only [hdomain, if_true, Bool.false_eq_true, if_false] at h
      split at h
      · next hany =>
          split at h
          · cases h
            simp [hany, hdomain]
          · split at h <;> cases h <;> simp [hany, hdomain]
      · next hone =>
          split at h
          · cases h
          · split at h <;> cases h <;> simp [hone, hdomain]

/-- The domain of a rule is never why it has no order from Windows to unix. -/
theorem exists_ofToUnix (h : ofToUnix windowsName windowsDomain unixName = .ok n)
    (windowsDomain' : Option String) :
    ∃ n', ofToUnix windowsName windowsDomain' unixName = .ok n' := by
  simp only [ofToUnix] at h ⊢
  split at h
  · cases h
  · next hname =>
      rw [if_neg hname]
      split at h
      · next hany =>
          rw [if_pos hany]
          split
          · exact ⟨_, rfl⟩
          · split <;> exact ⟨_, rfl⟩
      · next hone =>
          rw [if_neg hone]
          split at h
          · cases h
          · next hother =>
              rw [if_neg hother]
              split <;> exact ⟨_, rfl⟩

/-- What the order from unix to Windows says of the names: those from 3 on are of rules for any
unix name, and 3 is the order of self-references.  No rule has one for any domain. -/
theorem ofToWindows_spec (h : ofToWindows windowsName windowsDomain unixName = .ok n) :
    0 < n ∧ (isWildcard unixName = true ↔ 3 ≤ n) ∧ (isWildcard windowsName = true ↔ n = 3) ∧
      windowsDomain.any isWildcard = false := by
  unfold ofToWindows at h
  split at h
  · cases h
  · split at h
    · cases h
    · next hdomain =>
        rw [Bool.not_eq_true] at hdomain
        split at h
        · next hany =>
            split at h
            · next hself =>
                cases h
                simp [hany, hself, hdomain]
            · next hother =>
                split at h <;> cases h <;> simp [hany, hother, hdomain]
        · next hone =>
            split at h
            · cases h
            · next hother =>
                split at h <;> cases h <;> simp [hone, hother, hdomain]

/-- The orders of a rule make it apply in the directions that it claims. -/
theorem applies_of_ofRule (h : ofRule windowsName windowsDomain unixName direction = .ok order) :
    applies order.toUnix = direction.isToUnix ∧
      applies order.toWindows = direction.isToWindows := by
  obtain ⟨hunix, hnoUnix, hwindows, hnoWindows⟩ := ofRule_ok h
  constructor
  · cases hclaims : direction.isToUnix with
    | false =>
        rw [hnoUnix hclaims]
        rfl
    | true =>
        obtain ⟨n, horder, hn⟩ := hunix hclaims
        rw [horder]
        exact decide_eq_true (ofToUnix_spec hn).1
  · cases hclaims : direction.isToWindows with
    | false =>
        rw [hnoWindows hclaims]
        rfl
    | true =>
        obtain ⟨n, horder, hn⟩ := hwindows hclaims
        rw [horder]
        exact decide_eq_true (ofToWindows_spec hn).1

end RuleOrder

namespace StoredRule

/-- The row is what the rule becomes in a table. -/
structure Stores (row : StoredRule) (rule : Rule) (defaultDomain : Option String) : Prop where
  isUser : row.isUser = rule.isUser
  windowsName : row.windowsName = rule.windowsName
  windowsDomain : row.windowsDomain = some (RuleTable.storedDomain rule defaultDomain)
  unixName : row.unixName = rule.unixName
  isNt4 : row.isNt4 = rule.isNt4
  /-- The orders are those of the rule as it was submitted. -/
  orders : RuleOrder.ofRule rule.windowsName rule.windowsDomain rule.unixName rule.direction
    = .ok { toUnix := row.toUnixOrder, toWindows := row.toWindowsOrder }

variable {row row' : StoredRule} {rule : Rule} {defaultDomain : Option String}

theorem Stores.eq (h : row.Stores rule defaultDomain) (h' : row'.Stores rule defaultDomain) :
    row = row' := by
  have horders := Except.ok.inj (h.orders.symm.trans h'.orders)
  obtain ⟨hunix, hwindows⟩ := RuleOrder.mk.inj horders
  cases row
  cases row'
  rw [mk.injEq]
  exact ⟨h.isUser.trans h'.isUser.symm, h.windowsDomain.trans h'.windowsDomain.symm,
    h.windowsName.trans h'.windowsName.symm, h.unixName.trans h'.unixName.symm,
    h.isNt4.trans h'.isNt4.symm, hunix, hwindows⟩

/-- A rule holds in the direction in which it was submitted. -/
theorem Stores.direction (h : row.Stores rule defaultDomain) :
    row.direction = some rule.direction := by
  obtain ⟨hunix, hwindows⟩ := RuleOrder.applies_of_ofRule h.orders
  rw [StoredRule.direction, hunix, hwindows]
  cases rule.direction <;> rfl

theorem rowFor_eq_ok_iff :
    RuleTable.rowFor rule defaultDomain = .ok row ↔ row.Stores rule defaultDomain := by
  constructor
  · intro h
    obtain ⟨order, horder, hrow⟩ := RuleTable.exists_of_bind_ok h
    cases hrow
    exact ⟨rfl, rfl, rfl, rfl, rfl, horder⟩
  · intro h
    rw [RuleTable.rowFor, h.orders]
    cases row
    obtain ⟨rfl, rfl, rfl, rfl, rfl, -⟩ := h
    rfl

theorem rowFor_eq_error_iff {failure : Failure} :
    RuleTable.rowFor rule defaultDomain = .error failure
      ↔ RuleOrder.ofRule rule.windowsName rule.windowsDomain rule.unixName rule.direction
          = .error failure := by
  rw [RuleTable.rowFor]
  cases RuleOrder.ofRule rule.windowsName rule.windowsDomain rule.unixName rule.direction with
  | error other =>
      constructor <;> (intro h; exact congrArg _ (Except.error.inj h))
  | ok order => constructor <;> (intro h; cases h)

/-! ### Keys -/

/-- The rules map one Windows account, with one order.  `same` says which spellings of a name
are spellings of one name. -/
def SharesWindowsKey (same : String → String → Bool) (a b : StoredRule) : Prop :=
  a.isUser = b.isUser ∧ same a.windowsName b.windowsName = true ∧
    (∃ d d', a.windowsDomain = some d ∧ b.windowsDomain = some d' ∧ same d d' = true) ∧
    ∃ n, a.toUnixOrder = some n ∧ b.toUnixOrder = some n

/-- The rules map one unix name, with one order. -/
def SharesUnixKey (a b : StoredRule) : Prop :=
  a.isUser = b.isUser ∧ a.unixName = b.unixName ∧
    ∃ n, a.toWindowsOrder = some n ∧ b.toWindowsOrder = some n

variable {a b : StoredRule}

theorem sameWindowsKey_iff : a.sameWindowsKey b = true ↔ a.SharesWindowsKey sameInStore b := by
  have hdomain : Table.sameKey (a.windowsDomain.map storeKey) (b.windowsDomain.map storeKey) = true
      ↔ ∃ d d', a.windowsDomain = some d ∧ b.windowsDomain = some d' ∧ sameInStore d d' = true := by
    simp only [Table.sameKey_iff, Option.map_eq_some_iff, sameInStore_iff]
    constructor
    · rintro ⟨key, ⟨d, hd, hkey⟩, d', hd', hkey'⟩
      exact ⟨d, d', hd, hd', hkey.trans hkey'.symm⟩
    · rintro ⟨d, d', hd, hd', hkey⟩
      exact ⟨storeKey d', ⟨d, hd, hkey⟩, d', hd', rfl⟩
  simp only [sameWindowsKey, SharesWindowsKey, Bool.and_eq_true, hdomain, beq_iff_eq,
    Table.sameKey_iff]
  constructor
  · rintro ⟨⟨⟨hname, hd⟩, huser⟩, horder⟩
    exact ⟨huser, hname, hd, horder⟩
  · rintro ⟨huser, hname, hd, horder⟩
    exact ⟨⟨⟨hname, hd⟩, huser⟩, horder⟩

theorem sameUnixKey_iff : a.sameUnixKey b = true ↔ a.SharesUnixKey b := by
  simp only [sameUnixKey, SharesUnixKey, Bool.and_eq_true, beq_iff_eq, Table.sameKey_iff]
  constructor
  · rintro ⟨⟨hname, huser⟩, horder⟩
    exact ⟨huser, hname, horder⟩
  · rintro ⟨huser, hname, horder⟩
    exact ⟨⟨hname, huser⟩, horder⟩

/-- Without a NUL, the windows key is shared in any ASCII case and not otherwise. -/
theorem Stores.sharesWindowsKey_iff (h : row.Stores rule defaultDomain)
    (hname : '\x00' ∉ rule.windowsName.toList)
    (hdomain : '\x00' ∉ (RuleTable.storedDomain rule defaultDomain).toList) :
    a.SharesWindowsKey sameInStore row ↔ a.SharesWindowsKey sameFolded row := by
  simp only [SharesWindowsKey, h.windowsName, h.windowsDomain, Option.some.injEq,
    exists_and_left, exists_eq_left', sameInStore_eq_sameFolded hname,
    sameInStore_eq_sameFolded hdomain]

end StoredRule

/-! ### What can come of adding a rule -/

namespace RuleTable

variable {table table' : RuleTable} {rule : Rule} {defaultDomain : Option String}
  {row : StoredRule} {command : RuleCommand} {commands : List RuleCommand}

/-- Neither key of the row is taken. -/
def HasRoomFor (table : RuleTable) (row : StoredRule) : Prop :=
  ∀ old ∈ table.rules, ¬old.SharesWindowsKey sameInStore row ∧ ¬old.SharesUnixKey row

/-- Why a rule is refused.  A taken windows key is named whether the unix key is taken or not. -/
inductive Refuses (table : RuleTable) (rule : Rule) (defaultDomain : Option String) :
    Failure → Prop
  | bad {failure : Failure}
      (h : RuleOrder.ofRule rule.windowsName rule.windowsDomain rule.unixName rule.direction
        = .error failure) : Refuses table rule defaultDomain failure
  | windowsKey {row old : StoredRule} (hrow : row.Stores rule defaultDomain)
      (hold : old ∈ table.rules) (htaken : old.SharesWindowsKey sameInStore row) :
      Refuses table rule defaultDomain (.ruleConflict .windows)
  | unixKey {row old : StoredRule} (hrow : row.Stores rule defaultDomain)
      (hfree : ∀ other ∈ table.rules, ¬other.SharesWindowsKey sameInStore row)
      (hold : old ∈ table.rules) (htaken : old.SharesUnixKey row) :
      Refuses table rule defaultDomain (.ruleConflict .unix)

/-- What comes of adding a rule. -/
inductive Adds (table : RuleTable) (rule : Rule) (defaultDomain : Option String) :
    Except Failure RuleTable → Prop
  | refused {failure : Failure} (h : table.Refuses rule defaultDomain failure) :
      Adds table rule defaultDomain (.error failure)
  | stored {row : StoredRule} (hrow : row.Stores rule defaultDomain)
      (hroom : table.HasRoomFor row) :
      Adds table rule defaultDomain (.ok { rules := table.rules ++ [row] })

/-- The conflict that is reported is that of the windows key, if both keys are taken. -/
theorem conflict?_cases (table : RuleTable) (row : StoredRule) :
    (table.conflict? row = some .windows ∧
      ∃ old ∈ table.rules, old.SharesWindowsKey sameInStore row) ∨
    (table.conflict? row = some .unix ∧
      (∀ old ∈ table.rules, ¬old.SharesWindowsKey sameInStore row) ∧
      ∃ old ∈ table.rules, old.SharesUnixKey row) ∨
    (table.conflict? row = none ∧ table.HasRoomFor row) := by
  have hwindows : table.rules.any (·.sameWindowsKey row) = true
      ↔ ∃ old ∈ table.rules, old.SharesWindowsKey sameInStore row := by
    simp only [List.any_eq_true, StoredRule.sameWindowsKey_iff]
  have hunix : table.rules.any (·.sameUnixKey row) = true
      ↔ ∃ old ∈ table.rules, old.SharesUnixKey row := by
    simp only [List.any_eq_true, StoredRule.sameUnixKey_iff]
  rw [conflict?]
  by_cases hw : table.rules.any (·.sameWindowsKey row) = true
  · exact .inl ⟨if_pos hw, hwindows.mp hw⟩
  · have hfree : ∀ old ∈ table.rules, ¬old.SharesWindowsKey sameInStore row :=
      fun old hold htaken => hw (hwindows.mpr ⟨old, hold, htaken⟩)
    rw [if_neg hw]
    by_cases hu : table.rules.any (·.sameUnixKey row) = true
    · exact .inr (.inl ⟨if_pos hu, hfree, hunix.mp hu⟩)
    · exact .inr (.inr ⟨if_neg hu, fun old hold =>
        ⟨hfree old hold, fun htaken => hu (hunix.mpr ⟨old, hold, htaken⟩)⟩⟩)

theorem add_of_rowFor_error {failure : Failure} (h : rowFor rule defaultDomain = .error failure) :
    table.add rule defaultDomain = .error failure := by
  rw [add, h]
  rfl

theorem add_of_conflict {key : RuleKey} (hrow : rowFor rule defaultDomain = .ok row)
    (hkey : table.conflict? row = some key) :
    table.add rule defaultDomain = .error (.ruleConflict key) := by
  simp only [add, hrow, bind, Except.bind, hkey]
  rfl

theorem add_of_no_conflict (hrow : rowFor rule defaultDomain = .ok row)
    (hnone : table.conflict? row = none) :
    table.add rule defaultDomain = .ok { rules := table.rules ++ [row] } := by
  simp only [add, hrow, bind, Except.bind, hnone]
  rfl

theorem adds_add (table : RuleTable) (rule : Rule) (defaultDomain : Option String) :
    table.Adds rule defaultDomain (table.add rule defaultDomain) := by
  cases hrow : rowFor rule defaultDomain with
  | error failure =>
      rw [add_of_rowFor_error hrow]
      exact .refused (.bad (StoredRule.rowFor_eq_error_iff.mp hrow))
  | ok row =>
      have hstores := StoredRule.rowFor_eq_ok_iff.mp hrow
      rcases table.conflict?_cases row with ⟨hkey, old, hold, htaken⟩ |
        ⟨hkey, hfree, old, hold, htaken⟩ | ⟨hnone, hroom⟩
      · rw [add_of_conflict hrow hkey]
        exact .refused (.windowsKey hstores hold htaken)
      · rw [add_of_conflict hrow hkey]
        exact .refused (.unixKey hstores hfree hold htaken)
      · rw [add_of_no_conflict hrow hnone]
        exact .stored hstores hroom

theorem exists_row_of_add_ok (h : table.add rule defaultDomain = .ok table') :
    ∃ row : StoredRule, row.Stores rule defaultDomain ∧ table.HasRoomFor row ∧
      table'.rules = table.rules ++ [row] := by
  have hadds := adds_add table rule defaultDomain
  rw [h] at hadds
  cases hadds with
  | stored hrow hroom => exact ⟨_, hrow, hroom, rfl⟩

theorem refuses_of_add_error {failure : Failure}
    (h : table.add rule defaultDomain = .error failure) :
    table.Refuses rule defaultDomain failure := by
  have hadds := adds_add table rule defaultDomain
  rw [h] at hadds
  cases hadds with
  | refused hrefuses => exact hrefuses

/-- A rule that is refused has no room in the table, if it becomes a row at all. -/
theorem Refuses.not_hasRoomFor {failure : Failure} (h : table.Refuses rule defaultDomain failure)
    (hrow : row.Stores rule defaultDomain) : ¬table.HasRoomFor row := by
  intro hroom
  cases h with
  | bad hbad =>
      have horders := hrow.orders
      rw [hbad] at horders
      cases horders
  | windowsKey hrow' hold htaken =>
      obtain rfl := hrow.eq hrow'
      exact (hroom _ hold).1 htaken
  | unixKey hrow' _ hold htaken =>
      obtain rfl := hrow.eq hrow'
      exact (hroom _ hold).2 htaken

/-- A rule is stored just when it becomes a row and there is room for the row. -/
theorem add_ok_iff :
    (∃ table', table.add rule defaultDomain = .ok table') ↔
      ∃ row : StoredRule, row.Stores rule defaultDomain ∧ table.HasRoomFor row := by
  constructor
  · rintro ⟨table', hadd⟩
    obtain ⟨row, hrow, hroom, -⟩ := exists_row_of_add_ok hadd
    exact ⟨row, hrow, hroom⟩
  · rintro ⟨row, hrow, hroom⟩
    cases hadd : table.add rule defaultDomain with
    | ok table' => exact ⟨table', rfl⟩
    | error failure => exact absurd hroom ((refuses_of_add_error hadd).not_hasRoomFor hrow)

/-! ### Every table -/

/-- A command leaves rules out, or puts one row at the end for which there is room. -/
theorem does_cases (table : RuleTable) (command : RuleCommand) :
    (table.does command).rules.Sublist table.rules ∨
      ∃ rule defaultDomain row, command = .add rule defaultDomain ∧
        row.Stores rule defaultDomain ∧ table.HasRoomFor row ∧
        (table.does command).rules = table.rules ++ [row] := by
  cases command with
  | add rule defaultDomain =>
      cases hadd : table.add rule defaultDomain with
      | error failure =>
          left
          simp only [does, hadd]
          exact List.Sublist.refl _
      | ok table' =>
          right
          obtain ⟨row, hrow, hroom, hrules⟩ := exists_row_of_add_ok hadd
          refine ⟨rule, defaultDomain, row, rfl, hrow, hroom, ?_⟩
          rw [does, hadd]
          exact hrules
  | remove filter =>
      left
      simp only [does, remove]
      split
      · exact List.Sublist.refl _
      · exact List.filter_sublist
  | flush isUser => exact .inl List.filter_sublist

/-- Every row is that of a rule that was added. -/
theorem exists_add_of_mem_after (hrow : row ∈ (after commands).rules) :
    ∃ rule defaultDomain, .add rule defaultDomain ∈ commands ∧ row.Stores rule defaultDomain := by
  refine after_inv (fun table => ∀ row ∈ table.rules, ∃ rule defaultDomain,
    .add rule defaultDomain ∈ commands ∧ row.Stores rule defaultDomain) (by simp) ?_ row hrow
  intro table command hcommand hrows row hrow
  rcases does_cases table command with hsub | ⟨rule, defaultDomain, new, rfl, hnew, -, hrules⟩
  · exact hrows row (hsub.subset hrow)
  · rw [hrules] at hrow
    rcases List.mem_append.mp hrow with hold | hlast
    · exact hrows row hold
    · obtain rfl := List.mem_singleton.mp hlast
      exact ⟨rule, defaultDomain, hcommand, hnew⟩

/-- No two rules share a key. -/
structure KeysApart (table : RuleTable) : Prop where
  windows : table.rules.Pairwise fun a b => ¬a.SharesWindowsKey sameInStore b
  unix : table.rules.Pairwise fun a b => ¬a.SharesUnixKey b

theorem keysApart_iff (table : RuleTable) :
    table.KeysApart ↔
      (table.rules.Pairwise fun a b => a.sameWindowsKey b = false) ∧
        table.rules.Pairwise fun a b => a.sameUnixKey b = false := by
  simp only [← Bool.not_eq_true, StoredRule.sameWindowsKey_iff, StoredRule.sameUnixKey_iff]
  exact ⟨fun h => ⟨h.windows, h.unix⟩, fun ⟨hwindows, hunix⟩ => ⟨hwindows, hunix⟩⟩

instance (table : RuleTable) : Decidable table.KeysApart :=
  decidable_of_iff _ (keysApart_iff table).symm

theorem KeysApart.does (h : table.KeysApart) (command : RuleCommand) :
    (table.does command).KeysApart := by
  rcases does_cases table command with hsub | ⟨rule, defaultDomain, row, -, -, hroom, hrules⟩
  · exact ⟨h.windows.sublist hsub, h.unix.sublist hsub⟩
  · have happend : ∀ {R : StoredRule → StoredRule → Prop}, table.rules.Pairwise R →
        (∀ old ∈ table.rules, R old row) → (table.does command).rules.Pairwise R := by
      intro R hpairs hlast
      rw [hrules]
      refine List.pairwise_append.mpr ⟨hpairs, List.pairwise_singleton _ _, ?_⟩
      intro old hold new hnew
      obtain rfl := List.mem_singleton.mp hnew
      exact hlast old hold
    exact ⟨happend h.windows fun old hold => (hroom old hold).1,
      happend h.unix fun old hold => (hroom old hold).2⟩

theorem keysApart_after (commands : List RuleCommand) : (after commands).KeysApart :=
  after_inv KeysApart ⟨.nil, .nil⟩ fun _ command _ h => h.does command

theorem does_of_refused {failure : Failure} (h : table.add rule defaultDomain = .error failure) :
    table.does (.add rule defaultDomain) = table := by
  simp only [does, h]
  rfl

theorem does_of_hasRoomFor (hrow : row.Stores rule defaultDomain) (hroom : table.HasRoomFor row) :
    (table.does (.add rule defaultDomain)).rules = table.rules ++ [row] := by
  obtain ⟨table', hadd⟩ := add_ok_iff.mpr ⟨row, hrow, hroom⟩
  obtain ⟨row', hrow', -, hrules⟩ := exists_row_of_add_ok hadd
  rw [does, hadd, hrow.eq hrow']
  exact hrules

theorem list_none (table : RuleTable) : table.list none = table.rules :=
  List.filter_eq_self.mpr fun _ _ => rfl

end RuleTable

/--
**Adding a rule is all or nothing, and a refusal says what is in the way.**

Whatever commands have made the rules, a rule is stored just when its orders can be worked out
and no stored rule has one of its keys.  Then it stands behind the others, in the direction in
which it was submitted.  Otherwise the rules stay as they were, and the failure is that of the
orders, or else names the windows key if that is taken, or else the unix key.  So no two rules
ever share a key.

The windows key is the same if a store holds names and domains for the same.  For a name and
a domain without a NUL that is in any ASCII case.
-/
theorem add_after (commands : List RuleCommand) (rule : Rule) (defaultDomain : Option String) :
    let table := RuleTable.after commands
    ((∃ table', table.add rule defaultDomain = .ok table') ↔
      ∃ row : StoredRule, row.Stores rule defaultDomain ∧ table.HasRoomFor row) ∧
    (∀ table', table.add rule defaultDomain = .ok table' →
      ∃ row : StoredRule, row.Stores rule defaultDomain ∧
        row.direction = some rule.direction ∧ table'.list none = table.list none ++ [row]) ∧
    (∀ failure, table.add rule defaultDomain = .error failure →
      (table.does (.add rule defaultDomain)).list none = table.list none ∧
      table.Refuses rule defaultDomain failure) ∧
    table.KeysApart ∧
    ('\x00' ∉ rule.windowsName.toList →
      '\x00' ∉ (RuleTable.storedDomain rule defaultDomain).toList →
      ∀ old row : StoredRule, row.Stores rule defaultDomain →
        (old.SharesWindowsKey sameInStore row ↔ old.SharesWindowsKey sameFolded row)) := by
  intro table
  refine ⟨RuleTable.add_ok_iff, ?_, ?_, RuleTable.keysApart_after commands, ?_⟩
  · intro table' hadd
    obtain ⟨row, hrow, -, hrules⟩ := RuleTable.exists_row_of_add_ok hadd
    refine ⟨row, hrow, hrow.direction, ?_⟩
    rw [RuleTable.list_none, RuleTable.list_none, hrules]
  · intro failure hadd
    exact ⟨by rw [RuleTable.does_of_refused hadd], RuleTable.refuses_of_add_error hadd⟩
  · intro hname hdomain old row hrow
    exact hrow.sharesWindowsKey_iff hname hdomain

namespace Staff

/-- Alice keeps her name both ways. -/
def aliceCommands : List RuleCommand :=
  [.add
    { isUser := true, windowsDomain := some "CORP", windowsName := "Alice", unixName := "alice"
      isNt4 := false, direction := .both } none]

/-- The same for another spelling of her Windows name. -/
def aliceAgain : Rule :=
  { isUser := true, windowsDomain := some "corp", windowsName := "alice", unixName := "alice"
    isNt4 := false, direction := .both }

/-- A name that differs from that of the rule in `nulCommands` behind the NUL. -/
def nulRule : Rule :=
  { isUser := true, windowsDomain := some "d", windowsName := "A\x00z", unixName := "alice"
    isNt4 := false, direction := .toUnix }

end Staff

/-- Both keys of the second rule for alice are taken, and the windows key is named. -/
theorem add_after_alice :
    (RuleTable.after Staff.aliceCommands).add Staff.aliceAgain none
        = .error (.ruleConflict .windows) ∧
      (RuleTable.after Staff.aliceCommands).Refuses Staff.aliceAgain none
        (.ruleConflict .windows) ∧
      ∀ old row : StoredRule, row.Stores Staff.aliceAgain none →
        (old.SharesWindowsKey sameInStore row ↔ old.SharesWindowsKey sameFolded row) := by
  obtain ⟨-, -, hrefused, -, hfolded⟩ := add_after Staff.aliceCommands Staff.aliceAgain none
  have hadd : (RuleTable.after Staff.aliceCommands).add Staff.aliceAgain none
      = .error (.ruleConflict .windows) := by
    decide +kernel
  exact ⟨hadd, (hrefused _ hadd).2, hfolded (by decide) (by decide)⟩

/-- Two names that differ behind a NUL are taken for one, although no ASCII case of one is the
other. -/
theorem add_after_nul :
    (∃ row : StoredRule, row.Stores Staff.nulRule none ∧
      ∀ old ∈ (RuleTable.after Staff.nulCommands).rules,
        ¬old.SharesWindowsKey sameFolded row ∧ ¬old.SharesUnixKey row) ∧
    (RuleTable.after Staff.nulCommands).add Staff.nulRule none
      = .error (.ruleConflict .windows) := by
  refine ⟨?_, by decide +kernel⟩
  refine ⟨{ isUser := true, windowsDomain := some "d", windowsName := "A\x00z"
            unixName := "alice", isNt4 := false, toUnixOrder := some 2, toWindowsOrder := none },
    ⟨rfl, rfl, rfl, rfl, rfl, by decide⟩, ?_⟩
  intro old hold
  have hname : sameFolded "a\x00b" "A\x00z" = false := by decide +kernel
  have hrules : (RuleTable.after Staff.nulCommands).rules
      = [{ isUser := true, windowsDomain := some "D", windowsName := "a\x00b"
           unixName := "guest", isNt4 := false, toUnixOrder := some 2
           toWindowsOrder := none }] := by
    decide +kernel
  rw [hrules, List.mem_singleton] at hold
  subst hold
  exact ⟨fun hshares => by simp [StoredRule.SharesWindowsKey, hname] at hshares,
    fun hshares => by simp [StoredRule.SharesUnixKey] at hshares⟩

end IdentityMap
