/-
What taking rules out does for a rule that could not be added.

The key that refuses a rule and the filter that takes rules out do not read names alike.  To
the key, two spellings of a Windows name in different ASCII case are one name, as they are to
every lookup.  To the filter they are two.  So an administrator may be told of a conflict over
a name, remove the rule of that name, and be told of the conflict again.

As rules are kept apart by the key, just one rule is in the way of another.  A filter clears
the way if and only if it takes out that one.
-/
import Mathlib.Data.List.Pairwise
import IdentityMap.Proofs.Rule.TotalOrder

namespace IdentityMap

/-! ### Why a rule has no order -/

namespace RuleOrder

variable {windowsName unixName : String} {windowsDomain : Option String} {direction : Direction}
  {failure : Failure}

theorem ofToUnix_error (h : ofToUnix windowsName windowsDomain unixName = .error failure) :
    ∃ detail, failure = .badWindowsRule detail := by
  simp only [ofToUnix] at h
  by_cases hempty : isEmptyName windowsName = true
  · rw [if_pos hempty] at h
    exact ⟨_, (Except.error.inj h).symm⟩
  · rw [if_neg hempty] at h
    by_cases hany : isWildcard windowsName = true
    · rw [if_pos hany] at h
      split at h
      · cases h
      · split at h <;> cases h
    · rw [if_neg hany] at h
      split at h
      · exact ⟨_, (Except.error.inj h).symm⟩
      · split at h <;> cases h

theorem ofToWindows_error (h : ofToWindows windowsName windowsDomain unixName = .error failure) :
    ∃ detail, failure = .badUnixRule detail := by
  simp only [ofToWindows] at h
  split at h
  · exact ⟨_, (Except.error.inj h).symm⟩
  · split at h
    · exact ⟨_, (Except.error.inj h).symm⟩
    · by_cases hany : isWildcard unixName = true
      · rw [if_pos hany] at h
        split at h
        · cases h
        · split at h <;> cases h
      · rw [if_neg hany] at h
        split at h
        · exact ⟨_, (Except.error.inj h).symm⟩
        · split at h <;> cases h

/-- A rule has no orders because it has none in a direction that it claims. -/
theorem ofRule_error (h : ofRule windowsName windowsDomain unixName direction = .error failure) :
    ofToUnix windowsName windowsDomain unixName = .error failure ∨
      ofToWindows windowsName windowsDomain unixName = .error failure := by
  unfold ofRule at h
  cases hunix : ofToUnix windowsName windowsDomain unixName <;>
    cases hwindows : ofToWindows windowsName windowsDomain unixName <;>
    cases direction <;>
    rw [hunix, hwindows] at h <;>
    cases h <;>
    simp

/-- A rule without orders is a bad rule, and never one in conflict. -/
theorem ofRule_ne_conflict (key : RuleKey) :
    ofRule windowsName windowsDomain unixName direction ≠ .error (.ruleConflict key) := by
  intro h
  rcases ofRule_error h with hunix | hwindows
  · obtain ⟨detail, hdetail⟩ := ofToUnix_error hunix
    cases hdetail
  · obtain ⟨detail, hdetail⟩ := ofToWindows_error hwindows
    cases hdetail

end RuleOrder

/-! ### Rules of one windows key -/

theorem StoredRule.SharesWindowsKey.trans {a b c : StoredRule}
    (h : a.SharesWindowsKey sameInStore b) (h' : b.SharesWindowsKey sameInStore c) :
    a.SharesWindowsKey sameInStore c := by
  obtain ⟨huser, hname, ⟨d, d', hd, hd', hdomain⟩, n, hn, hn'⟩ := h
  obtain ⟨huser', hname', ⟨e, e', he, he', hdomain'⟩, m, hm, hm'⟩ := h'
  obtain rfl : d' = e := Option.some.inj (hd'.symm.trans he)
  obtain rfl : n = m := Option.some.inj (hn'.symm.trans hm)
  rw [sameInStore_iff] at hname hname' hdomain hdomain'
  exact ⟨huser.trans huser', sameInStore_iff.mpr (hname.trans hname'),
    ⟨d, e', hd, he', sameInStore_iff.mpr (hdomain.trans hdomain')⟩, n, hn, hm'⟩

/-! ### What a filter takes out -/

namespace RuleFilter

/-- The filter that names a Windows account of one type, and nothing else. -/
def ofAccount (isUser : Bool) (windowsName windowsDomain : String) : RuleFilter :=
  { isUser, windowsDomain := some windowsDomain, windowsName := some windowsName
    unixName := none, direction := none }

theorem picks_ofAccount_iff {isUser : Bool} {windowsName windowsDomain : String}
    {row : StoredRule} :
    (ofAccount isUser windowsName windowsDomain).picks row = true ↔
      row.isUser = isUser ∧ row.windowsName = windowsName ∧
        row.windowsDomain = some windowsDomain := by
  simp only [picks, ofAccount, Option.all_some, Option.all_none, Bool.and_true, Bool.and_eq_true,
    beq_iff_eq]
  exact ⟨fun ⟨⟨huser, hdomain⟩, hname⟩ => ⟨huser, hname, hdomain⟩,
    fun ⟨huser, hname, hdomain⟩ => ⟨⟨huser, hdomain⟩, hname⟩⟩

end RuleFilter

namespace RuleTable

variable {table : RuleTable} {rule : Rule} {defaultDomain : Option String}
  {row old old' : StoredRule} {filter : RuleFilter}

theorem mem_removed_iff :
    row ∈ table.removed filter ↔
      row ∈ table.rules ∧ filter.isEmpty = false ∧ filter.picks row = true := by
  rw [removed]
  by_cases hempty : filter.isEmpty = true
  · simp [hempty]
  · rw [if_neg hempty, List.mem_filter]
    simp [hempty]

/-- A rule stays unless it is taken out. -/
theorem mem_remove_iff :
    row ∈ (table.remove filter).rules ↔ row ∈ table.rules ∧ row ∉ table.removed filter := by
  rw [mem_removed_iff, remove]
  by_cases hempty : filter.isEmpty = true
  · simp [hempty]
  · rw [if_neg hempty, List.mem_filter]
    by_cases hmem : row ∈ table.rules
    · simp [hempty, hmem]
    · simp [hmem]

/-! ### The rule in the way -/

/-- A stored rule has the windows key of the rule that is to be added. -/
def Blocks (table : RuleTable) (rule : Rule) (defaultDomain : Option String) (old : StoredRule) :
    Prop :=
  old ∈ table.rules ∧
    ∃ row : StoredRule, row.Stores rule defaultDomain ∧ old.SharesWindowsKey sameInStore row

/-- The windows key is reported as taken just when a stored rule has it. -/
theorem add_windows_conflict_iff :
    table.add rule defaultDomain = .error (.ruleConflict .windows) ↔
      ∃ old, table.Blocks rule defaultDomain old := by
  constructor
  · intro hadd
    cases refuses_of_add_error hadd with
    | bad hbad => exact absurd hbad (RuleOrder.ofRule_ne_conflict .windows)
    | windowsKey hrow hold htaken => exact ⟨_, hold, _, hrow, htaken⟩
  · intro ⟨old, hold, row, hrow, htaken⟩
    refine add_of_conflict (StoredRule.rowFor_eq_ok_iff.mpr hrow) ?_
    rw [conflict?, if_pos]
    exact List.any_eq_true.mpr ⟨old, hold, StoredRule.sameWindowsKey_iff.mpr htaken⟩

/-- Of the rules in the way, those stay that were not taken out. -/
theorem blocks_remove_iff :
    (table.remove filter).Blocks rule defaultDomain old ↔
      table.Blocks rule defaultDomain old ∧ old ∉ table.removed filter := by
  rw [Blocks, Blocks, mem_remove_iff]
  exact and_right_comm

/-- Where keys are kept apart, only one rule is in the way. -/
theorem KeysApart.blocks_unique (h : table.KeysApart) (hold : table.Blocks rule defaultDomain old)
    (hold' : table.Blocks rule defaultDomain old') : old' = old := by
  obtain ⟨hmem, row, hrow, htaken⟩ := hold
  obtain ⟨hmem', row', hrow', htaken'⟩ := hold'
  obtain rfl := hrow.eq hrow'
  by_contra hne
  have hsymm : Std.Symm fun a b : StoredRule => ¬a.SharesWindowsKey sameInStore b :=
    ⟨fun _ _ hapart hshares => hapart hshares.symm⟩
  exact h.windows.forall hmem' hmem hne (htaken'.trans htaken.symm)

end RuleTable

/--
**A conflict goes away with the one rule in the way, and only with that one.**

Whatever commands have made the rules, a rule that is refused for its windows key has exactly
one stored rule in its way, and it is no longer refused for that key just when the filter takes
this one out.  So taking out the rules of the refused rule's own name and domain helps only if
the rule in the way is spelled the same, letter for letter.  In another case of the name or the
domain it stays, and so does the conflict.
-/
theorem windows_conflict_cleared_iff (commands : List RuleCommand) (rule : Rule)
    (defaultDomain : Option String)
    (hconflict : (RuleTable.after commands).add rule defaultDomain
      = .error (.ruleConflict .windows)) :
    let table := RuleTable.after commands
    let domain := RuleTable.storedDomain rule defaultDomain
    ∃ old, table.Blocks rule defaultDomain old ∧
      (∀ other, table.Blocks rule defaultDomain other → other = old) ∧
      (∀ filter, (table.remove filter).add rule defaultDomain ≠ .error (.ruleConflict .windows) ↔
        old ∈ table.removed filter) ∧
      ((table.remove (.ofAccount rule.isUser rule.windowsName domain)).add rule defaultDomain
          ≠ .error (.ruleConflict .windows) ↔
        old.windowsName = rule.windowsName ∧ old.windowsDomain = some domain) := by
  intro table domain
  obtain ⟨old, hblocks⟩ := RuleTable.add_windows_conflict_iff.mp hconflict
  have honly : ∀ other, table.Blocks rule defaultDomain other → other = old :=
    fun other hother => (RuleTable.keysApart_after commands).blocks_unique hblocks hother
  have hcleared : ∀ filter, (table.remove filter).add rule defaultDomain
      ≠ .error (.ruleConflict .windows) ↔ old ∈ table.removed filter := by
    intro filter
    rw [ne_eq, RuleTable.add_windows_conflict_iff, not_exists]
    constructor
    · intro hnone
      by_contra hstays
      exact hnone old (RuleTable.blocks_remove_iff.mpr ⟨hblocks, hstays⟩)
    · intro hremoved other hother
      obtain ⟨hblocks', hstays⟩ := RuleTable.blocks_remove_iff.mp hother
      rw [honly other hblocks'] at hstays
      exact hstays hremoved
  refine ⟨old, hblocks, honly, hcleared, ?_⟩
  obtain ⟨hold, row, hrow, hshares⟩ := hblocks
  have huser : old.isUser = rule.isUser := hshares.1.trans hrow.isUser
  have hnotEmpty : (RuleFilter.ofAccount rule.isUser rule.windowsName domain).isEmpty = false := rfl
  rw [hcleared, RuleTable.mem_removed_iff, RuleFilter.picks_ofAccount_iff]
  exact ⟨fun ⟨_, _, _, hname, hdomain⟩ => ⟨hname, hdomain⟩,
    fun ⟨hname, hdomain⟩ => ⟨hold, hnotEmpty, huser, hname, hdomain⟩⟩

/-- The rule for Alice is in the way of one for alice, until it is taken out. -/
theorem windows_conflict_cleared_iff_alice :
    (RuleTable.after Staff.aliceCommands).add Staff.aliceAgain none
        = .error (.ruleConflict .windows) ∧
      ∃ old, (RuleTable.after Staff.aliceCommands).Blocks Staff.aliceAgain none old ∧
        ∀ filter, ((RuleTable.after Staff.aliceCommands).remove filter).add Staff.aliceAgain none
            ≠ .error (.ruleConflict .windows) ↔
          old ∈ (RuleTable.after Staff.aliceCommands).removed filter := by
  have hadd : (RuleTable.after Staff.aliceCommands).add Staff.aliceAgain none
      = .error (.ruleConflict .windows) := by
    decide +kernel
  obtain ⟨old, hblocks, -, hcleared, -⟩ :=
    windows_conflict_cleared_iff Staff.aliceCommands Staff.aliceAgain none hadd
  exact ⟨hadd, old, hblocks, hcleared⟩

/-- Removing alice@corp takes nothing out, and the rule for alice@corp is refused as before. -/
theorem windows_conflict_stays_alice :
    let table := RuleTable.after Staff.aliceCommands
    let filter := RuleFilter.ofAccount true "alice" "corp"
    table.add Staff.aliceAgain none = .error (.ruleConflict .windows) ∧
      table.removed filter = [] ∧
      (table.remove filter).add Staff.aliceAgain none = .error (.ruleConflict .windows) := by
  decide +kernel

end IdentityMap
