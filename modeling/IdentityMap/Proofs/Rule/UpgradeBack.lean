/-
What the upgrade of old rules costs on the way back, from unix to Windows.

A rule is dropped for what it says of Windows names, and it is dropped as a whole.  If it
also applies from unix to Windows, its Windows name is gone from there too, although no rule
that is kept need have its unix name.  Nothing else is lost: the rules that may map a unix
name are, in their order, those that did before without the ones that were dropped.

The unix key makes this simple.  Two rules that apply from unix to Windows are never one row
written twice, so such a rule has one place among the rows, and what stands before it is all
that decides whether it is dropped.
-/
import IdentityMap.Proofs.Rule.Upgrade

namespace IdentityMap

/-- The Windows key of old rules, under which letters differ from their other case. -/
def StoredRule.sameSpelledKey (a b : StoredRule) : Bool :=
  a.windowsName == b.windowsName && Table.sameKey a.windowsDomain b.windowsDomain &&
    a.isUser == b.isUser && Table.sameKey a.toUnixOrder b.toUnixOrder

namespace RuleTable

variable {a b row : StoredRule} {before seen rows : List StoredRule} {p : StoredRule → Bool}

/-! ### Sorting and leaving out -/

/-- It is the same to leave rules out before they are sorted and after. -/
theorem byOrder_filter (order : StoredRule → Option Nat) (p : StoredRule → Bool)
    (rules : List StoredRule) :
    byOrder order (rules.filter p) = (byOrder order rules).filter p := by
  let count := (rules.map fun rule => (order rule).getD 0).max?.getD 0 + 1
  have hkeys : ∀ rule ∈ rules, 0 ≤ (order rule).getD 0 ∧ (order rule).getD 0 < 0 + count := by
    intro rule hrule
    have hmem : (order rule).getD 0 ∈ rules.map fun rule => (order rule).getD 0 :=
      List.mem_map.mpr ⟨rule, hrule, rfl⟩
    have hle : (order rule).getD 0 ≤ (rules.map fun rule => (order rule).getD 0).max?.getD 0 :=
      List.le_max?_getD_of_mem hmem
    omega
  rw [byOrder_eq_flatMap hkeys,
    byOrder_eq_flatMap fun rule hrule => hkeys rule (List.mem_filter.mp hrule).1,
    List.filter_flatMap]
  simp only [List.filter_comm p]

/-! ### The rules that are dropped -/

/-- The row applies from Windows to unix and stands in the group of a row before it. -/
def isRepeat (rows : List StoredRule) (row : StoredRule) : Bool :=
  row.toUnixOrder.isSome && (rows.takeWhile (· != row)).any (sameGroup · row)

theorem isRepeat_append_cons (hfirst : row ∉ before) (rest : List StoredRule) :
    isRepeat (before ++ row :: rest) row
      = (row.toUnixOrder.isSome && before.any (sameGroup · row)) := by
  have hbefore : (before ++ row :: rest).takeWhile (· != row) = before := by
    rw [List.takeWhile_append_of_pos, List.takeWhile_cons_of_neg (by simp), List.append_nil]
    intro a ha
    exact bne_iff_ne.mpr (ne_of_mem_of_not_mem ha hfirst)
  rw [isRepeat, hbefore]

theorem sameGroup_trans {c : StoredRule} (hab : sameGroup a b = true)
    (hbc : sameGroup b c = true) : sameGroup a c = true := by
  obtain ⟨hname, hdomain, hkind, horder⟩ := sameGroup_iff.mp hab
  obtain ⟨hname', hdomain', hkind', horder'⟩ := sameGroup_iff.mp hbc
  exact sameGroup_iff.mpr ⟨hname.trans hname', hdomain.trans hdomain', hkind.trans hkind',
    horder.trans horder'⟩

/-- Of rules of which each stands once among the rows, those stay that are no repeats.  Every
row before has its group among those that were seen, whether it was dropped or not. -/
theorem filter_dropRepeats_eq_filter_isRepeat
    (hseen : ∀ row, before.any (sameGroup · row) = seen.any (sameGroup · row))
    (honce : ∀ row ∈ rows, p row = true → row ∉ before)
    (hapart : rows.Pairwise fun a b => p b = true → a ≠ b) :
    (dropRepeats seen rows).filter p
      = (rows.filter p).filter (!isRepeat (before ++ rows) ·) := by
  induction rows generalizing before seen with
  | nil => rfl
  | cons row rest ih =>
      obtain ⟨hfirst, hrest⟩ := List.pairwise_cons.mp hapart
      have honce' : ∀ r ∈ rest, p r = true → r ∉ before ++ [row] := by
        intro r hr hp hmem
        rcases List.mem_append.mp hmem with hbefore | hlast
        · exact honce r (List.mem_cons_of_mem _ hr) hp hbefore
        · exact hfirst r hr hp (List.mem_singleton.mp hlast).symm
      have hrow : p row = true → isRepeat (before ++ row :: rest) row
          = (row.toUnixOrder.isSome && seen.any (sameGroup · row)) := fun hp => by
        rw [isRepeat_append_cons (honce row (List.mem_cons_self ..) hp), hseen]
      have hsplit : before ++ row :: rest = before ++ [row] ++ rest := by simp
      rw [dropRepeats]
      split
      · next hdrop =>
          obtain ⟨kept, hkept, hsame⟩ := List.any_eq_true.mp (Bool.and_eq_true_iff.mp hdrop).2
          -- Whoever stands in the dropped row's group stands in that of the one that was kept.
          have hseen' : ∀ r, (before ++ [row]).any (sameGroup · r) = seen.any (sameGroup · r) := by
            intro r
            rw [List.any_append, hseen, List.any_cons, List.any_nil, Bool.or_false]
            refine Bool.or_eq_left_iff_imp.mpr fun hgroup => ?_
            exact List.any_eq_true.mpr ⟨kept, hkept, sameGroup_trans hsame hgroup⟩
          rw [ih hseen' honce' hrest, hsplit]
          by_cases hp : p row = true
          · rw [List.filter_cons_of_pos hp, List.filter_cons_of_neg]
            rw [← hsplit, hrow hp, hdrop]
            decide
          · rw [List.filter_cons_of_neg hp]
      · next hkeep =>
          have hseen' : ∀ r, (before ++ [row]).any (sameGroup · r)
              = (seen ++ [row]).any (sameGroup · r) := by
            intro r
            rw [List.any_append, List.any_append, hseen]
          by_cases hp : p row = true
          · rw [List.filter_cons_of_pos hp, List.filter_cons_of_pos hp, List.filter_cons_of_pos,
              ih hseen' honce' hrest, hsplit]
            rw [hrow hp, Bool.eq_false_iff.mpr hkeep]
            rfl
          · rw [List.filter_cons_of_neg hp, List.filter_cons_of_neg hp, ih hseen' honce' hrest,
              hsplit]

/-- A rule that may map a unix name is nowhere among the rows a second time. -/
theorem pairwise_ne_of_matchesUnix (hunix : rows.Pairwise fun a b => a.sameUnixKey b = false)
    (isUser : Bool) (unixName : String) :
    rows.Pairwise fun a b => matchesUnix isUser unixName b = true → a ≠ b := by
  refine hunix.imp fun {a b} hkey hmatches heq => ?_
  subst heq
  simp only [matchesUnix, applies, Bool.and_eq_true, Option.any_eq_true] at hmatches
  obtain ⟨⟨⟨n, horder, -⟩, -⟩, -⟩ := hmatches
  have hsame : a.sameUnixKey a = true := by
    simp [StoredRule.sameUnixKey, Table.sameKey_iff.mpr ⟨n, horder, horder⟩]
  rw [hsame] at hkey
  cases hkey

theorem rulesForUnix_filter (p : StoredRule → Bool) (rows : List StoredRule) (isUser : Bool)
    (unixName : String) :
    rulesForUnix { rules := rows.filter p } isUser unixName
      = (rulesForUnix { rules := rows } isUser unixName).filter p := by
  rw [rulesForUnix, rulesForUnix, ← byOrder_filter, List.filter_comm]

/-- The rules that may map a unix name are those that would without the repeats. -/
theorem rulesForUnix_upgrade (hunix : rows.Pairwise fun a b => a.sameUnixKey b = false)
    (isUser : Bool) (unixName : String) :
    (upgrade rows).rulesForUnix isUser unixName
      = rulesForUnix { rules := rows.filter (!isRepeat rows ·) } isUser unixName := by
  have hkept : (upgrade rows).rules.filter (matchesUnix isUser unixName)
      = (rows.filter (matchesUnix isUser unixName)).filter (!isRepeat rows ·) :=
    filter_dropRepeats_eq_filter_isRepeat (fun _ => rfl) (fun _ _ _ => List.not_mem_nil)
      (pairwise_ne_of_matchesUnix hunix isUser unixName)
  rw [rulesForUnix, hkept, rulesForUnix, List.filter_comm]

/-- Leaving rules out changes what a unix name leads to exactly if one of them may map it. -/
theorem windowsCandidates_filter_eq_iff (p : StoredRule → Bool) (rows : List StoredRule)
    (isUser : Bool) (unixName : String) :
    windowsCandidates { rules := rows.filter p } isUser unixName
        = windowsCandidates { rules := rows } isUser unixName
      ↔ ∀ row ∈ rows, matchesUnix isUser unixName row = true → p row = true := by
  have hmem : ∀ row, row ∈ rulesForUnix { rules := rows } isUser unixName
      ↔ row ∈ rows ∧ matchesUnix isUser unixName row = true := by
    intro row
    rw [rulesForUnix, byOrder, List.mem_mergeSort, List.mem_filter]
  rw [windowsCandidates, windowsCandidates, rulesForUnix_filter]
  constructor
  · intro heq row hrow hmatches
    have hlength := congrArg List.length heq
    rw [List.length_map, List.length_map, List.length_filter_eq_length_iff] at hlength
    exact hlength row ((hmem row).mpr ⟨hrow, hmatches⟩)
  · intro hkeeps
    rw [List.filter_eq_self.mpr]
    intro row hrow
    exact hkeeps row ((hmem row).mp hrow).1 ((hmem row).mp hrow).2

/-- Leaving rules out gives no name a candidate, and the others stay in their order. -/
theorem windowsCandidates_filter_sublist (p : StoredRule → Bool) (rows : List StoredRule)
    (isUser : Bool) (unixName : String) :
    (windowsCandidates { rules := rows.filter p } isUser unixName).Sublist
      (windowsCandidates { rules := rows } isUser unixName) := by
  rw [windowsCandidates, windowsCandidates, rulesForUnix_filter]
  exact List.filter_sublist.map _

end RuleTable

/--
**What a unix name leads to after the upgrade of old rules.**

Let no two rules share their unix key.  Then the upgrade succeeds, and a unix name leads to
what it would without the rules that repeat an earlier one: the earlier candidates in their
order, less those of such rules.  So a unix name leads to the same as before exactly if no
such rule may map it, and all of them do exactly if no such rule applies from unix to
Windows.
-/
theorem upgrade?_drops_whole_rules (rows : List StoredRule)
    (hunix : rows.Pairwise fun a b => a.sameUnixKey b = false) :
    ∃ table, RuleTable.upgrade? rows = some table ∧
      (∀ isUser unixName,
        table.windowsCandidates isUser unixName
          = RuleTable.windowsCandidates { rules := rows.filter (!RuleTable.isRepeat rows ·) }
              isUser unixName) ∧
      (∀ isUser unixName,
        (table.windowsCandidates isUser unixName).Sublist
          (RuleTable.windowsCandidates { rules := rows } isUser unixName)) ∧
      (∀ isUser unixName,
        table.windowsCandidates isUser unixName
            = RuleTable.windowsCandidates { rules := rows } isUser unixName
          ↔ ∀ row ∈ rows, RuleTable.matchesUnix isUser unixName row = true →
              RuleTable.isRepeat rows row = false) ∧
      ((∀ isUser unixName, table.windowsCandidates isUser unixName
            = RuleTable.windowsCandidates { rules := rows } isUser unixName)
          ↔ ∀ row ∈ rows, applies row.toWindowsOrder = true →
              RuleTable.isRepeat rows row = false) := by
  have hcandidates : ∀ isUser unixName,
      (RuleTable.upgrade rows).windowsCandidates isUser unixName
        = RuleTable.windowsCandidates { rules := rows.filter (!RuleTable.isRepeat rows ·) }
            isUser unixName := by
    intro isUser unixName
    rw [RuleTable.windowsCandidates, RuleTable.rulesForUnix_upgrade hunix,
      RuleTable.windowsCandidates]
  have hsame : ∀ isUser unixName,
      (RuleTable.upgrade rows).windowsCandidates isUser unixName
          = RuleTable.windowsCandidates { rules := rows } isUser unixName
        ↔ ∀ row ∈ rows, RuleTable.matchesUnix isUser unixName row = true →
            RuleTable.isRepeat rows row = false := by
    intro isUser unixName
    rw [hcandidates, RuleTable.windowsCandidates_filter_eq_iff]
    simp only [Bool.not_eq_true']
  refine ⟨.upgrade rows, if_pos (RuleTable.sameWindowsKey_upgrade rows), hcandidates, ?_, hsame, ?_⟩
  · intro isUser unixName
    rw [hcandidates]
    exact RuleTable.windowsCandidates_filter_sublist ..
  · simp only [hsame]
    constructor
    · -- A rule that applies from unix to Windows may map its own unix name.
      intro hkept row hrow happlies
      refine hkept row.isUser row.unixName row hrow ?_
      simp [RuleTable.matchesUnix, happlies]
    · intro hkept isUser unixName row hrow hmatches
      simp only [RuleTable.matchesUnix, Bool.and_eq_true] at hmatches
      exact hkept row hrow hmatches.1.1

namespace OldStaff

/-- Two rules for alice, of which the second also applies to `al`, and one to bob. -/
def corpRows : List StoredRule :=
  let rule (windowsDomain windowsName unixName : String) (toUnixOrder toWindowsOrder : Option Nat) :
      StoredRule :=
    { isUser := true, windowsDomain := some windowsDomain, windowsName, unixName, isNt4 := false
      toUnixOrder, toWindowsOrder }
  [rule "CORP" "Alice" "alice" (some 2) none, rule "corp" "alice" "al" (some 2) (some 2),
    rule "CORP" "bob" "bob" none (some 2)]

end OldStaff

/-- Nothing changes for bob. -/
theorem upgrade?_drops_whole_rules_bob :
    ∃ table, RuleTable.upgrade? OldStaff.corpRows = some table ∧
      table.windowsCandidates true "bob"
        = RuleTable.windowsCandidates { rules := OldStaff.corpRows } true "bob" := by
  obtain ⟨table, htable, -, -, hsame, -⟩ :=
    upgrade?_drops_whole_rules OldStaff.corpRows (by decide +kernel)
  exact ⟨table, htable, (hsame true "bob").mpr (by decide +kernel)⟩

/-- The rule for alice that applies in both directions is dropped for its Windows name, and no
other has the unix name `al`. -/
theorem upgrade?_loses_al :
    (OldStaff.corpRows.Pairwise fun a b => a.sameSpelledKey b = false) ∧
    (OldStaff.corpRows.Pairwise fun a b => a.sameUnixKey b = false) ∧
    (∀ row ∈ OldStaff.corpRows, row.HasOwnOrders) ∧
    ∃ table, RuleTable.upgrade? OldStaff.corpRows = some table ∧
      RuleTable.windowsCandidates { rules := OldStaff.corpRows } true "al"
        = [{ windowsName := "alice", windowsDomain := some "corp", toUnixOrder := some 2 }] ∧
      table.windowsCandidates true "al" = [] := by
  refine ⟨by decide +kernel, by decide +kernel, ?_, ?_⟩
  · intro row hrow
    simp only [OldStaff.corpRows, List.mem_cons, List.not_mem_nil, or_false] at hrow
    rcases hrow with rfl | rfl | rfl
    · exact ⟨.toUnix, by decide⟩
    · exact ⟨.both, by decide⟩
    · exact ⟨.toWindows, by decide⟩
  · exact ⟨.upgrade OldStaff.corpRows, by decide +kernel, by decide +kernel, by decide +kernel⟩

end IdentityMap
