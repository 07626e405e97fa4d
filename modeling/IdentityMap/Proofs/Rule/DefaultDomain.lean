/-
Which rules stand where their stored fields say.

The orders of a rule are worked out before it is given a domain, and a rule without a domain
ranks as a rule for one.  That is what it becomes under any default domain but `*`: then it is
stored as a rule for any domain, which it would not rank as, and may not be at all if it
applies from unix to Windows.  No other rule is out of place.
-/
import IdentityMap.Proofs.Rule.Adding

namespace IdentityMap

/-- The rule has no domain, and is stored as a rule for any domain by default. -/
def Rule.IsAnyByDefault (rule : Rule) (defaultDomain : Option String) : Prop :=
  rule.windowsDomain = none ∧ WellKnown.ofName rule.windowsName = none ∧
    defaultDomain = some wildcard

/-- The stored orders are those of the stored fields, in the direction in which the rule
holds. -/
def StoredRule.RanksAsStored (row : StoredRule) : Prop :=
  ∃ direction, row.direction = some direction ∧
    RuleOrder.ofRule row.windowsName row.windowsDomain row.unixName direction
      = .ok { toUnix := row.toUnixOrder, toWindows := row.toWindowsOrder }

variable {rule : Rule} {defaultDomain : Option String} {row : StoredRule}

namespace Rule

theorem storedDomain_of_isAnyByDefault (h : rule.IsAnyByDefault defaultDomain) :
    RuleTable.storedDomain rule defaultDomain = wildcard := by
  obtain ⟨hnone, hordinary, rfl⟩ := h
  simp [RuleTable.storedDomain, hnone, hordinary]

/-- The default domain makes no other rule one for any domain. -/
theorem isWildcard_storedDomain_of_not (h : ¬rule.IsAnyByDefault defaultDomain) :
    isWildcard (RuleTable.storedDomain rule defaultDomain)
      = rule.windowsDomain.any isWildcard := by
  by_cases hplain : defaultDomain = some wildcard
  · cases hdomain : rule.windowsDomain with
    | some domain => simp only [RuleTable.storedDomain, hdomain, Option.any_some]
    | none =>
        -- Reserved names are stored without a domain, whatever the default is.
        have hreserved : (WellKnown.ofName rule.windowsName).isSome = true := by
          rw [Option.isSome_iff_ne_none]
          exact fun hordinary => h ⟨hdomain, hordinary, hplain⟩
        simp only [RuleTable.storedDomain, hdomain, if_pos hreserved]
        rfl
  · exact RuleTable.isWildcard_storedDomain hplain

end Rule

namespace StoredRule

/-- The orders that the stored fields have are those of the rule with its stored domain. -/
theorem Stores.ranksAsStored_iff_ofRule (h : row.Stores rule defaultDomain) :
    row.RanksAsStored ↔
      RuleOrder.ofRule rule.windowsName (some (RuleTable.storedDomain rule defaultDomain))
        rule.unixName rule.direction
          = .ok { toUnix := row.toUnixOrder, toWindows := row.toWindowsOrder } := by
  rw [RanksAsStored, h.direction, h.windowsName, h.windowsDomain, h.unixName]
  constructor
  · rintro ⟨direction, hdirection, horders⟩
    rwa [Option.some.inj hdirection]
  · intro horders
    exact ⟨rule.direction, rfl, horders⟩

theorem Stores.ranksAsStored (h : row.Stores rule defaultDomain)
    (hown : ¬rule.IsAnyByDefault defaultDomain) : row.RanksAsStored := by
  have hsame : (some (RuleTable.storedDomain rule defaultDomain)).any isWildcard
      = rule.windowsDomain.any isWildcard := Rule.isWildcard_storedDomain_of_not hown
  exact h.ranksAsStored_iff_ofRule.mpr
    ((RuleTable.ofRule_congr hsame rule.direction).trans h.orders)

/-- Where a rule is one for any domain by default, the fields it is stored with have no order
from unix to Windows, and another one from Windows to unix. -/
theorem Stores.not_ranksAsStored (h : row.Stores rule defaultDomain)
    (hany : rule.IsAnyByDefault defaultDomain) : ¬row.RanksAsStored := by
  rw [h.ranksAsStored_iff_ofRule, Rule.storedDomain_of_isAnyByDefault hany]
  intro hranks
  obtain ⟨hunix, -, hwindows, -⟩ := RuleOrder.ofRule_ok hranks
  cases hclaims : rule.direction.isToUnix with
  | true =>
      obtain ⟨n, horder, hn⟩ := hunix hclaims
      obtain ⟨n', horder', hn'⟩ := (RuleOrder.ofRule_ok h.orders).1 hclaims
      obtain rfl : n = n' := Option.some.inj (horder.symm.trans horder')
      -- One order cannot be that of a rule for any domain and of one for a domain.
      have hsubmitted := (RuleOrder.ofToUnix_spec hn').2.2
      rw [hany.1, ← (RuleOrder.ofToUnix_spec hn).2.2] at hsubmitted
      exact absurd (hsubmitted.mpr rfl) Bool.false_ne_true
  | false =>
      have hwindowsOnly : rule.direction.isToWindows = true := by
        cases hdirection : rule.direction with
        | both | toUnix =>
            rw [hdirection] at hclaims
            cases hclaims
        | toWindows => rfl
      obtain ⟨n, -, hn⟩ := hwindows hwindowsOnly
      exact absurd (RuleOrder.ofToWindows_spec hn).2.2.2 Bool.noConfusion

/-- The fields that a rule is stored with are refused only if the rule applies from unix to
Windows and is one for any domain by default. -/
theorem Stores.accepted_iff (h : row.Stores rule defaultDomain) :
    (∃ order, RuleOrder.ofRule row.windowsName row.windowsDomain row.unixName rule.direction
        = .ok order) ↔
      ¬(rule.IsAnyByDefault defaultDomain ∧ rule.direction.isToWindows = true) := by
  rw [h.windowsName, h.windowsDomain, h.unixName]
  constructor
  · rintro ⟨order, horder⟩ ⟨hany, hclaims⟩
    rw [Rule.storedDomain_of_isAnyByDefault hany] at horder
    obtain ⟨n, -, hn⟩ := (RuleOrder.ofRule_ok horder).2.2.1 hclaims
    exact absurd (RuleOrder.ofToWindows_spec hn).2.2.2 Bool.noConfusion
  · intro hfine
    by_cases hany : rule.IsAnyByDefault defaultDomain
    · have hdirection : rule.direction = .toUnix := by
        cases hdirection : rule.direction with
        | both | toWindows =>
            rw [hdirection] at hfine
            exact absurd ⟨hany, rfl⟩ hfine
        | toUnix => rfl
      have horders := h.orders
      rw [hdirection] at horders ⊢
      obtain ⟨n, -, hn⟩ := (RuleOrder.ofRule_ok horders).1 rfl
      obtain ⟨n', hn'⟩ := RuleOrder.exists_ofToUnix hn
        (some (RuleTable.storedDomain rule defaultDomain))
      exact ⟨{ toUnix := some n', toWindows := none }, by rw [RuleOrder.ofRule, hn']; rfl⟩
    · exact ⟨_, h.ranksAsStored_iff_ofRule.mp (h.ranksAsStored hany)⟩

end StoredRule

/--
**Stored orders are those of the stored fields, but for rules that a default makes rules for
any domain.**

Whatever commands have made the rules, each row comes from a rule that was added.  Its orders
are those of the fields it is stored with, in the direction in which it holds, unless the rule
had no domain and was given `*` for one.  Such a row never has its own orders, and if it
applies from unix to Windows a rule with its fields would be refused.  So with other default
domains all rows have their own orders.
-/
theorem ranksAsStored_after (commands : List RuleCommand) :
    (∀ row ∈ (RuleTable.after commands).rules,
      (∃ rule defaultDomain, .add rule defaultDomain ∈ commands ∧
        row.Stores rule defaultDomain) ∧
      ∀ rule defaultDomain, row.Stores rule defaultDomain →
        (row.RanksAsStored ↔ ¬rule.IsAnyByDefault defaultDomain) ∧
        ((∃ order, RuleOrder.ofRule row.windowsName row.windowsDomain row.unixName
            rule.direction = .ok order) ↔
          ¬(rule.IsAnyByDefault defaultDomain ∧ rule.direction.isToWindows = true))) ∧
    ((∀ command ∈ commands, command.HasPlainDefault) →
      ∀ row ∈ (RuleTable.after commands).rules, row.RanksAsStored) := by
  constructor
  · intro row hrow
    refine ⟨RuleTable.exists_add_of_mem_after hrow, fun rule defaultDomain hstores => ?_⟩
    exact ⟨⟨fun hranks hany => hstores.not_ranksAsStored hany hranks, hstores.ranksAsStored⟩,
      hstores.accepted_iff⟩
  · intro hplain row hrow
    obtain ⟨rule, defaultDomain, hadd, hstores⟩ := RuleTable.exists_add_of_mem_after hrow
    exact hstores.ranksAsStored fun hany => hplain _ hadd hany.2.2

namespace Staff

/-- Two rules without a domain where the default is any domain: alice is to be `al` on the host,
and bob keeps his name both ways. -/
def anyCommands : List RuleCommand :=
  let rule (windowsName unixName : String) (direction : Direction) : Rule :=
    { isUser := true, windowsDomain := none, windowsName, unixName, isNt4 := false, direction }
  [.add (rule "alice" "al" .toUnix) (some "*"), .add (rule "bob" "bob" .both) (some "*")]

end Staff

/-- Under a default domain that is a domain, the row for a rule without one has its own
orders.  Under the default domain `*` it has not. -/
theorem ranksAsStored_after_staff :
    (∀ command ∈ Staff.commands, command.HasPlainDefault) ∧
    (∀ row ∈ (RuleTable.after Staff.commands).rules, row.RanksAsStored) ∧
    ∀ row ∈ (RuleTable.after Staff.anyCommands).rules, ¬row.RanksAsStored := by
  have hplain : ∀ command ∈ Staff.commands, command.HasPlainDefault := by
    simp [Staff.commands, RuleCommand.HasPlainDefault, wildcard]
  refine ⟨hplain, (ranksAsStored_after Staff.commands).2 hplain, fun row hrow hranks => ?_⟩
  obtain ⟨⟨rule, defaultDomain, hadd, hstores⟩, hexact⟩ :=
    (ranksAsStored_after Staff.anyCommands).1 row hrow
  have hany : rule.IsAnyByDefault defaultDomain := by
    simp only [Staff.anyCommands, List.mem_cons, List.not_mem_nil, or_false,
      RuleCommand.add.injEq] at hadd
    rcases hadd with ⟨rfl, rfl⟩ | ⟨rfl, rfl⟩ <;> exact ⟨rfl, by decide +kernel, rfl⟩
  exact (hexact rule defaultDomain hstores).1.mp hranks hany

/-- Under the default domain `*`, alice's rule is stored for any domain with the order of a rule
for one, and bob's is stored although a rule with its fields is refused. -/
theorem any_domain_by_default :
    (∃ row ∈ (RuleTable.after Staff.anyCommands).rules,
      row.direction = some .toUnix ∧ row.toUnixOrder = some 2 ∧
      RuleOrder.ofRule row.windowsName row.windowsDomain row.unixName .toUnix
        = .ok { toUnix := some 4, toWindows := none }) ∧
    ∃ row ∈ (RuleTable.after Staff.anyCommands).rules,
      row.direction = some .both ∧
      RuleOrder.ofRule row.windowsName row.windowsDomain row.unixName .both
        = .error (.badUnixRule "a Windows domain wildcard cannot be a destination") := by
  decide +kernel

end IdentityMap
