/-
What name rules mean for a Windows name, read off their fields.

`Rule.reference` never looks at a stored order.  It takes the rules that concern a name,
goes through the ten rows of the table in `Rule/Priority` and asks the rules of each row in
the order in which they were added.  The table of rules works with orders instead, which
were worked out when a rule was submitted, maybe without a domain, and it sorts by them.

What carries the proof is an invariant of the commands that change a table: a rule is stored
with a domain, and its orders are those of the fields it is stored with.  A default domain
`*` would break it, since then a rule is stored as one for any domain and ranked as one for
a domain.
-/
import IdentityMap.Proofs.Rule.Ranking

namespace IdentityMap

/-! ### Tables that commands have made -/

/-- The commands that change the rules. -/
inductive RuleCommand where
  | add (rule : Rule) (defaultDomain : Option String)
  | remove (filter : RuleFilter)
  | flush (isUser : Bool)
deriving DecidableEq, Repr

/-- The default domain of an added rule is a domain, and not any. -/
def RuleCommand.HasPlainDefault : RuleCommand → Prop
  | .add _ defaultDomain => defaultDomain ≠ some wildcard
  | .remove _ | .flush _ => True

/-- The table after a command.  A rule that is refused leaves it as it was. -/
def RuleTable.does (table : RuleTable) : RuleCommand → RuleTable
  | .add rule defaultDomain => (table.add rule defaultDomain).toOption.getD table
  | .remove filter => table.remove filter
  | .flush isUser => table.flush isUser

/-- The table that commands make out of an empty one. -/
def RuleTable.after (commands : List RuleCommand) : RuleTable :=
  commands.foldl does {}

/-- A rule stands in the table as `add` writes it. -/
structure StoredRule.IsWritten (rule : StoredRule) : Prop where
  hasDomain : rule.windowsDomain.isSome = true
  ownOrders : rule.HasOwnOrders

namespace RuleTable

variable {table : RuleTable} {rule : Rule} {defaultDomain : Option String} {row : StoredRule}
  {command : RuleCommand}

/-- The orders of a rule ask of its domain only whether it is any domain. -/
theorem ofRule_congr {windowsName unixName : String} {domain domain' : Option String}
    (h : domain.any isWildcard = domain'.any isWildcard) (direction : Direction) :
    RuleOrder.ofRule windowsName domain unixName direction
      = RuleOrder.ofRule windowsName domain' unixName direction := by
  simp only [RuleOrder.ofRule, RuleOrder.ofToUnix, RuleOrder.ofToWindows, h]

theorem isWildcard_storedDomain (h : defaultDomain ≠ some wildcard) :
    isWildcard (storedDomain rule defaultDomain) = rule.windowsDomain.any isWildcard := by
  cases hdomain : rule.windowsDomain with
  | some domain => simp only [storedDomain, hdomain, Option.any_some]
  | none =>
      simp only [storedDomain, hdomain, Option.any_none]
      by_cases hreserved : (WellKnown.ofName rule.windowsName).isSome = true
      · rw [if_pos hreserved]
        rfl
      · rw [if_neg hreserved]
        cases defaultDomain with
        | none => rfl
        | some domain =>
            have hplain : domain ≠ wildcard := fun heq => h (congrArg some heq)
            simpa [isWildcard] using hplain

theorem exists_of_bind_ok {β γ : Type} {x : Except Failure β} {f : β → Except Failure γ} {c : γ}
    (h : (x >>= f) = .ok c) : ∃ b, x = .ok b ∧ f b = .ok c := by
  cases x with
  | error failure => cases h
  | ok b => exact ⟨b, rfl, h⟩

theorem isWritten_of_rowFor (hplain : defaultDomain ≠ some wildcard)
    (h : rowFor rule defaultDomain = .ok row) : row.IsWritten := by
  obtain ⟨order, horder, hrow⟩ := exists_of_bind_ok h
  cases hrow
  have hsame : (some (storedDomain rule defaultDomain)).any isWildcard
      = rule.windowsDomain.any isWildcard := isWildcard_storedDomain hplain
  exact ⟨rfl, rule.direction, (ofRule_congr hsame rule.direction).trans horder⟩

/-- Adding a rule puts its row behind the others. -/
theorem exists_row_of_add {table' : RuleTable} (h : table.add rule defaultDomain = .ok table') :
    ∃ row, rowFor rule defaultDomain = .ok row ∧ table'.rules = table.rules ++ [row] := by
  obtain ⟨row, hrow, hadded⟩ := exists_of_bind_ok h
  refine ⟨row, hrow, ?_⟩
  split at hadded
  · cases hadded
  · cases hadded
    rfl

/-- A command leaves rules as `add` writes them. -/
theorem isWritten_does (hplain : command.HasPlainDefault)
    (h : ∀ row ∈ table.rules, row.IsWritten) :
    ∀ row ∈ (table.does command).rules, row.IsWritten := by
  cases command with
  | add rule defaultDomain =>
      simp only [does]
      cases hadd : table.add rule defaultDomain with
      | error failure => exact h
      | ok table' =>
          obtain ⟨row, hrow, hrules⟩ := exists_row_of_add hadd
          intro other hother
          rw [Except.toOption, Option.getD_some, hrules] at hother
          rcases List.mem_append.mp hother with hold | hnew
          · exact h other hold
          · obtain rfl := List.mem_singleton.mp hnew
            exact isWritten_of_rowFor hplain hrow
  | remove filter =>
      simp only [does, remove]
      split
      · exact h
      · exact fun row hrow => h row (List.mem_filter.mp hrow).1
  | flush isUser => exact fun row hrow => h row (List.mem_filter.mp hrow).1

/-- What the empty table has and every command keeps, every table has. -/
theorem after_inv {commands : List RuleCommand} (Inv : RuleTable → Prop) (hempty : Inv {})
    (hstep : ∀ table command, command ∈ commands → Inv table → Inv (table.does command)) :
    Inv (after commands) :=
  List.foldlRecOn commands does hempty fun table htable command hcommand =>
    hstep table command hcommand htable

/-- Whatever the commands were, the rules stand as `add` writes them. -/
theorem isWritten_after {commands : List RuleCommand}
    (hplain : ∀ command ∈ commands, command.HasPlainDefault) :
    ∀ row ∈ (after commands).rules, row.IsWritten :=
  after_inv (fun table => ∀ row ∈ table.rules, row.IsWritten) (by simp)
    fun _ command hcommand h => isWritten_does (hplain command hcommand) h

end RuleTable

/-! ### The reference -/

namespace StoredRule

/-- The rule may map the account `name@domain`.  `same` says which spellings of a name are
spellings of one name. -/
def concerns (same : String → String → Bool) (mappingDomain : Option String) (isUser : Bool)
    (name domain : String) (rule : StoredRule) : Bool :=
  rule.isUser == isUser && rule.direction.any (·.isToUnix) &&
    (isWildcard rule.windowsName || same rule.windowsName name) &&
    rule.windowsDomain.any fun d =>
      isWildcard d || same d domain || (d.isEmpty && Rule.isDefaultDomain mappingDomain domain)

/-- The rules row by row, and in each row as they stand. -/
def ranked (rules : List StoredRule) : List StoredRule :=
  (List.range' 1 10).flatMap fun n => rules.filter (·.rank? == some n)

end StoredRule

/-- The unix id that the rules give a Windows account, as their fields say. -/
def Rule.reference (same : String → String → Bool) (table : RuleTable) (names : NameService)
    (mappingDomain : Option String) (name domain : String) (kind : IdKind) :
    Except Failure UnixMatch :=
  ((StoredRule.ranked (table.rules.filter
      (·.concerns same mappingDomain kind.isUser name domain))).findSome?
    (·.verdict? names kind name)).getD (.error .notFound)

section Reference

variable {rule : StoredRule} {table : RuleTable} {names : NameService}
  {mappingDomain : Option String} {kind : IdKind} {name domain : String}

theorem StoredRule.isToUnix_direction :
    rule.direction.any (·.isToUnix) = applies rule.toUnixOrder := by
  unfold StoredRule.direction
  cases applies rule.toUnixOrder <;> cases applies rule.toWindowsOrder <;> rfl

theorem StoredRule.matchesWindows_eq_concerns (h : rule.IsWritten) (isUser : Bool) :
    RuleTable.matchesWindows isUser name domain (Rule.isDefaultDomain mappingDomain domain) rule
      = rule.concerns sameInStore mappingDomain isUser name domain := by
  obtain ⟨d, hd⟩ := Option.isSome_iff_exists.mp h.hasDomain
  simp only [RuleTable.matchesWindows, concerns, isToUnix_direction, hd, Option.any_some]
  grind

/-- Sorting by the stored orders goes through the rows of the table. -/
theorem StoredRule.byOrder_eq_ranked {rules : List StoredRule}
    (hown : ∀ rule ∈ rules, rule.HasOwnOrders)
    (happlies : ∀ rule ∈ rules, applies rule.toUnixOrder = true) :
    RuleTable.byOrder (·.toUnixOrder) rules = ranked rules := by
  rw [RuleTable.byOrder_toUnixOrder hown happlies, ranked]
  refine List.flatMap_congr fun n _ => List.filter_congr fun rule hrule => ?_
  rw [(hown rule hrule).rank?_eq_toUnixOrder (happlies rule hrule)]

theorem Rule.mapToUnix_eq_reference (h : ∀ rule ∈ table.rules, rule.IsWritten)
    (names : NameService) (mappingDomain : Option String) (name : String)
    (domain : Option String) (kind : IdKind) :
    mapToUnix table names mappingDomain name domain kind
      = reference sameInStore table names mappingDomain name (domain.getD "") kind := by
  have hfilter : table.rules.filter (RuleTable.matchesWindows kind.isUser name (domain.getD "")
        (isDefaultDomain mappingDomain (domain.getD "")))
      = table.rules.filter
          (·.concerns sameInStore mappingDomain kind.isUser name (domain.getD "")) :=
    List.filter_congr fun rule hrule => StoredRule.matchesWindows_eq_concerns (h rule hrule) _
  rw [mapToUnix_eq_findSome?, RuleTable.rulesForWindows, hfilter, StoredRule.byOrder_eq_ranked]
  · rfl
  · intro rule hrule
    exact (h rule (List.mem_filter.mp hrule).1).ownOrders
  · intro rule hrule
    have hconcerns := (List.mem_filter.mp hrule).2
    simp only [StoredRule.concerns, StoredRule.isToUnix_direction, Bool.and_eq_true] at hconcerns
    exact hconcerns.1.1.2

/-- For a name without a NUL, the spellings are those that differ in ASCII case. -/
theorem Rule.reference_sameInStore (hname : '\x00' ∉ name.toList)
    (hdomain : '\x00' ∉ domain.toList) :
    reference sameInStore table names mappingDomain name domain kind
      = reference sameFolded table names mappingDomain name domain kind := by
  simp only [reference, StoredRule.concerns, sameInStore_eq_sameFolded hname,
    sameInStore_eq_sameFolded hdomain]

end Reference

/-! ### Any commands -/

namespace Staff

/-- A host with the accounts `alice` and `guest`. -/
def names : NameService where
  idOf _ name :=
    if name = "alice" then .ok 1001 else if name = "guest" then .ok 1002 else .error .notFound
  nameOf _ _ := .error .notFound

/-- Users keep their names or are guests, and bob has no account, whatever his domain is. -/
def commands : List RuleCommand :=
  let rule (windowsName : String) (windowsDomain : Option String) (unixName : String) : Rule :=
    { isUser := true, windowsDomain, windowsName, unixName, isNt4 := false
      direction := .toUnix }
  [.add (rule "*" none "guest") (some "CORP"), .add (rule "Bob" (some "*") "") none,
    .add (rule "*" none "*") (some "CORP"), .flush false]

/-- One rule, for a name with a NUL in it. -/
def nulCommands : List RuleCommand :=
  [.add
    { isUser := true, windowsDomain := some "D", windowsName := "a\x00b", unixName := "guest"
      isNt4 := false, direction := .toUnix } none]

end Staff

/--
**Rules mean what the table of their fields says.**

Whatever commands have made the rules, the answer for a Windows account is that of the
reference; two names are one as the store has it, and for a name and a domain without a
NUL that is in any ASCII case.  Nothing is found just when every rule that concerns the
account is a self-reference, and there is no unix account of the same name.
-/
theorem mapToUnix_after (commands : List RuleCommand)
    (hplain : ∀ command ∈ commands, command.HasPlainDefault) (names : NameService)
    (mappingDomain : Option String) (name : String) (domain : Option String) (kind : IdKind) :
    (Rule.mapToUnix (.after commands) names mappingDomain name domain kind
      = Rule.reference sameInStore (.after commands) names mappingDomain name (domain.getD "")
          kind) ∧
    ('\x00' ∉ name.toList → '\x00' ∉ (domain.getD "").toList →
      Rule.mapToUnix (.after commands) names mappingDomain name domain kind
        = Rule.reference sameFolded (.after commands) names mappingDomain name (domain.getD "")
            kind) ∧
    (Rule.mapToUnix (.after commands) names mappingDomain name domain kind = .error .notFound ↔
      ∀ rule ∈ (RuleTable.after commands).rules,
        rule.concerns sameInStore mappingDomain kind.isUser name (domain.getD "") = true →
        rule.target = .sameName ∧ names.idOf kind name = .error .notFound) := by
  have hwritten := RuleTable.isWritten_after hplain
  have hmeans := Rule.mapToUnix_eq_reference hwritten names mappingDomain name domain kind
  refine ⟨hmeans, ?_, ?_⟩
  · intro hname hdomain
    rw [hmeans, Rule.reference_sameInStore hname hdomain]
  · rw [Rule.mapToUnix_eq_notFound_iff]
    refine forall_congr' fun rule => forall_congr' fun hrule => ?_
    rw [StoredRule.matchesWindows_eq_concerns (hwritten rule hrule)]

/-- Bob is denied, alice keeps her name, and carol is a guest. -/
theorem mapToUnix_after_staff :
    [("BOB", "lab"), ("alice", "corp"), ("Carol", "corp")].map (fun (name, domain) =>
        Rule.mapToUnix (.after Staff.commands) Staff.names none name (some domain) .uid)
      = [.error .denied,
        .ok { id := { kind := .uid, number := 1001 }, unixName := "alice", direction := .toUnix },
        .ok { id := { kind := .uid, number := 1002 }, unixName := "guest"
              direction := .toUnix }] := by
  have hplain : ∀ command ∈ Staff.commands, command.HasPlainDefault := by
    simp [Staff.commands, RuleCommand.HasPlainDefault, wildcard]
  have hmeans := fun name domain =>
    (mapToUnix_after Staff.commands hplain Staff.names none name (some domain) .uid).1
  simp only [List.map_cons, List.map_nil, hmeans]
  decide +kernel

/-- Behind a NUL the store compares nothing, so a rule concerns names of other letters. -/
theorem mapToUnix_after_nul :
    (∀ command ∈ Staff.nulCommands, command.HasPlainDefault) ∧
    Rule.mapToUnix (.after Staff.nulCommands) Staff.names none "A\x00z" (some "d") .uid
      ≠ Rule.reference sameFolded (.after Staff.nulCommands) Staff.names none "A\x00z" "d"
          .uid := by
  have hplain : ∀ command ∈ Staff.nulCommands, command.HasPlainDefault := by
    simp [Staff.nulCommands, RuleCommand.HasPlainDefault]
  refine ⟨hplain, ?_⟩
  rw [Rule.mapToUnix_eq_reference (RuleTable.isWritten_after hplain)]
  decide +kernel

end IdentityMap
