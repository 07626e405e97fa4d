/-
Making the first key of old rules ignore case costs no answer.

Of rules that only their case told apart, the upgrade keeps the earliest.  Such rules may
map the same names, and they have the same order, so the one that is kept is tried before
those that are dropped.  It decides, unless it is a self-reference; but the order tells
self-references, so then those that are dropped are self-references too and have nothing to
add.

The upgrade holds absent domains for one domain, which the key does not.  Hence it drops
more than the key asks for, and the argument is about its groups and not about the key.
-/
import IdentityMap.Proofs.Rule.Ranking

namespace IdentityMap

/-! ### Names that a store holds for a given name -/

namespace RuleTable

variable {a b : StoredRule} {seen rows : List StoredRule}

/-- What two rules of one group have in common. -/
theorem sameGroup_iff :
    sameGroup a b = true ↔
      storeKey a.windowsName = storeKey b.windowsName ∧
      a.windowsDomain.map storeKey = b.windowsDomain.map storeKey ∧
      a.isUser = b.isUser ∧ a.toUnixOrder = b.toUnixOrder := by
  simp only [sameGroup, Bool.and_eq_true, sameInStore_iff, beq_iff_eq, and_assoc]

/-- Rules with one windows key stand in one group, and they apply from Windows to unix. -/
theorem sameGroup_of_sameWindowsKey (h : a.sameWindowsKey b = true) :
    sameGroup a b = true ∧ b.toUnixOrder.isSome = true := by
  simp only [StoredRule.sameWindowsKey, Bool.and_eq_true, sameInStore_iff, beq_iff_eq,
    Table.sameKey_iff] at h
  obtain ⟨⟨⟨hname, domain, hdomain, hdomain'⟩, hkind⟩, n, horder, horder'⟩ := h
  refine ⟨sameGroup_iff.mpr ⟨hname, hdomain.trans hdomain'.symm, hkind, ?_⟩, ?_⟩
  · rw [horder, horder']
  · rw [horder']
    rfl

/-- No rule that is kept stands in the group of one before it. -/
theorem sameGroup_dropRepeats (seen rows : List StoredRule) :
    (∀ b ∈ dropRepeats seen rows, b.toUnixOrder.isSome = true →
      ∀ a ∈ seen, sameGroup a b = false) ∧
    (dropRepeats seen rows).Pairwise fun a b =>
      b.toUnixOrder.isSome = true → sameGroup a b = false := by
  induction rows generalizing seen with
  | nil => exact ⟨fun _ hb => absurd hb List.not_mem_nil, .nil⟩
  | cons row rest ih =>
      rw [dropRepeats]
      split
      · exact ih seen
      · next hkeep =>
          obtain ⟨hseen, hpairs⟩ := ih (seen ++ [row])
          constructor
          · intro b hb happlies a ha
            rcases List.mem_cons.mp hb with rfl | hb
            · by_contra hsame
              have hany : seen.any (sameGroup · b) = true :=
                List.any_eq_true.mpr ⟨a, ha, by simpa using hsame⟩
              exact hkeep (by rw [happlies, hany, Bool.and_self])
            · exact hseen b hb happlies a (List.mem_append_left _ ha)
          · refine List.pairwise_cons.mpr ⟨fun b hb happlies => ?_, hpairs⟩
            exact hseen b hb happlies row (List.mem_append_right _ (List.mem_singleton_self _))

/-- No two rules that are kept share the key that ignores case. -/
theorem sameWindowsKey_upgrade (rows : List StoredRule) :
    (upgrade rows).rules.Pairwise fun a b => a.sameWindowsKey b = false := by
  refine (sameGroup_dropRepeats [] rows).2.imp fun {a b} hapart => ?_
  by_contra hsame
  obtain ⟨hgroup, happlies⟩ := sameGroup_of_sameWindowsKey (by simpa using hsame)
  rw [hapart happlies] at hgroup
  cases hgroup

end RuleTable

namespace OldStaff

/-- A host with the accounts `alice` and `al`. -/
def names : NameService where
  idOf _ name :=
    if name = "alice" then .ok 1001 else if name = "al" then .ok 1002 else .error .notFound
  nameOf _ _ := .error .notFound

/-- Two rules for alice, without a domain, and one to bob. -/
def rows : List StoredRule :=
  let rule (windowsName unixName : String) (toUnixOrder toWindowsOrder : Option Nat) :
      StoredRule :=
    { isUser := true, windowsDomain := none, windowsName, unixName, isNt4 := false
      toUnixOrder, toWindowsOrder }
  [rule "Alice" "alice" (some 2) none, rule "alice" "al" (some 2) (some 2),
    rule "bob" "bob" none (some 2)]

end OldStaff

end IdentityMap
