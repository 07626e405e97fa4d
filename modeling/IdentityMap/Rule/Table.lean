/-
The table of name rules.

Rules stand in the order in which they were added.  Two keys hold: the Windows name and
domain (in any ASCII case), the account type and the order from Windows to unix; and the
unix name (exactly), the account type and the order from unix to Windows.  A rule that
does not apply in a direction has no order there and collides with nothing in it.

Adding is all or nothing.  Removing compares names exactly, unlike the first key.
-/
import IdentityMap.Rule.Priority
import IdentityMap.Table
import IdentityMap.WellKnown

namespace IdentityMap

/-- A rule as an administrator submits it. -/
structure Rule where
  isUser : Bool
  /-- Without a domain the rule takes the default domain. -/
  windowsDomain : Option String
  windowsName : String
  unixName : String
  isNt4 : Bool
  direction : Direction
deriving DecidableEq, Repr

/-- A rule as it stands in the table. -/
structure StoredRule where
  isUser : Bool
  windowsDomain : Option String
  windowsName : String
  unixName : String
  isNt4 : Bool
  toUnixOrder : Option Nat
  toWindowsOrder : Option Nat
deriving DecidableEq, Repr

/-- Which rules to remove.  A part that is left out matches every rule. -/
structure RuleFilter where
  isUser : Bool
  windowsDomain : Option String
  windowsName : Option String
  unixName : Option String
  /-- Only rules that hold in exactly this direction. -/
  direction : Option Direction
deriving DecidableEq, Repr

/-- An order that makes a rule apply: one is there, and it is not 0. -/
def applies (order : Option Nat) : Bool :=
  order.any (0 < ·)

namespace StoredRule

/-- The direction in which a stored rule holds. -/
def direction (rule : StoredRule) : Option Direction :=
  Direction.ofHalves? (applies rule.toUnixOrder) (applies rule.toWindowsOrder)

/-- The windows key of two rules is the same. -/
def sameWindowsKey (a b : StoredRule) : Bool :=
  sameInStore a.windowsName b.windowsName &&
    Table.sameKey (a.windowsDomain.map storeKey) (b.windowsDomain.map storeKey) &&
    a.isUser == b.isUser && Table.sameKey a.toUnixOrder b.toUnixOrder

/-- The unix key of two rules is the same. -/
def sameUnixKey (a b : StoredRule) : Bool :=
  a.unixName == b.unixName && a.isUser == b.isUser &&
    Table.sameKey a.toWindowsOrder b.toWindowsOrder

end StoredRule

namespace RuleFilter

/-- The filter names nothing; such a filter removes nothing. -/
def isEmpty (filter : RuleFilter) : Bool :=
  filter.windowsDomain.isNone && filter.windowsName.isNone && filter.unixName.isNone &&
    filter.direction.isNone

/-- The filter picks this rule. -/
def picks (filter : RuleFilter) (rule : StoredRule) : Bool :=
  rule.isUser == filter.isUser &&
    filter.windowsDomain.all (fun d => rule.windowsDomain == some d) &&
    filter.windowsName.all (rule.windowsName == ·) &&
    filter.unixName.all (rule.unixName == ·) &&
    filter.direction.all fun d => rule.direction == some d

end RuleFilter

/-- A destination of a Windows name, with the order of the same rule the other way. -/
structure UnixCandidate where
  unixName : String
  toWindowsOrder : Option Nat
deriving DecidableEq, Repr

/-- A destination of a unix name, with the order of the same rule the other way. -/
structure WindowsCandidate where
  windowsName : String
  windowsDomain : Option String
  toUnixOrder : Option Nat
deriving DecidableEq, Repr

/-- The rules, in the order in which they were added. -/
structure RuleTable where
  rules : List StoredRule := []
deriving DecidableEq, Repr

namespace RuleTable

/-- The domain a rule is stored with.  A rule without one gets the empty domain if its
Windows name is reserved, and else the default domain, if there is one. -/
def storedDomain (rule : Rule) (defaultDomain : Option String) : String :=
  match rule.windowsDomain with
  | some domain => domain
  | none =>
    if (WellKnown.ofName rule.windowsName).isSome then "" else defaultDomain.getD ""

/-- The row for a rule, or why the rule is refused. -/
def rowFor (rule : Rule) (defaultDomain : Option String) : Except Failure StoredRule := do
  let order ← RuleOrder.ofRule rule.windowsName rule.windowsDomain rule.unixName rule.direction
  pure
    { isUser := rule.isUser
      windowsDomain := some (storedDomain rule defaultDomain)
      windowsName := rule.windowsName
      unixName := rule.unixName
      isNt4 := rule.isNt4
      toUnixOrder := order.toUnix
      toWindowsOrder := order.toWindows }

/-- The key of a stored rule that `row` collides with; the windows key is named first. -/
def conflict? (table : RuleTable) (row : StoredRule) : Option RuleKey :=
  if table.rules.any (·.sameWindowsKey row) then some .windows
  else if table.rules.any (·.sameUnixKey row) then some .unix
  else none

/-- Adds a rule at the end. -/
def add (table : RuleTable) (rule : Rule) (defaultDomain : Option String) :
    Except Failure RuleTable := do
  let row ← rowFor rule defaultDomain
  match table.conflict? row with
  | some key => throw (.ruleConflict key)
  | none => pure { rules := table.rules ++ [row] }

/-- The rules that `remove` takes out. -/
def removed (table : RuleTable) (filter : RuleFilter) : List StoredRule :=
  if filter.isEmpty then [] else table.rules.filter filter.picks

/-- Takes out the rules that the filter picks. -/
def remove (table : RuleTable) (filter : RuleFilter) : RuleTable :=
  if filter.isEmpty then table
  else { rules := table.rules.filter fun rule => !filter.picks rule }

/-- The rules of one account type, or all of them. -/
def list (table : RuleTable) (isUser : Option Bool) : List StoredRule :=
  table.rules.filter fun rule => isUser.all (rule.isUser == ·)

/-- Takes out all rules of one account type. -/
def flush (table : RuleTable) (isUser : Bool) : RuleTable :=
  { rules := table.rules.filter fun rule => rule.isUser != isUser }

/-- The rule may map this Windows account.  Rules stored without a domain count only
when the account's domain is the default domain. -/
def matchesWindows (isUser : Bool) (name domain : String) (inDefaultDomain : Bool)
    (rule : StoredRule) : Bool :=
  applies rule.toUnixOrder && rule.isUser == isUser &&
    (sameInStore rule.windowsName name || isWildcard rule.windowsName) &&
    match rule.windowsDomain with
    | some d => sameInStore d domain || isWildcard d || (inDefaultDomain && d.isEmpty)
    | none => inDefaultDomain

/-- The rule may map this unix name. -/
def matchesUnix (isUser : Bool) (unixName : String) (rule : StoredRule) : Bool :=
  applies rule.toWindowsOrder && rule.isUser == isUser &&
    (rule.unixName == unixName || isWildcard rule.unixName)

/-- The rules by ascending order; rules of one order stay as they stood. -/
def byOrder (order : StoredRule → Option Nat) (rules : List StoredRule) : List StoredRule :=
  rules.mergeSort fun a b => (order a).getD 0 ≤ (order b).getD 0

/-- The rules that may map a Windows account, the first one first. -/
def rulesForWindows (table : RuleTable) (isUser : Bool) (name domain : String)
    (inDefaultDomain : Bool) : List StoredRule :=
  byOrder (·.toUnixOrder) (table.rules.filter (matchesWindows isUser name domain inDefaultDomain))

/-- The rules that may map a unix name, the first one first. -/
def rulesForUnix (table : RuleTable) (isUser : Bool) (unixName : String) : List StoredRule :=
  byOrder (·.toWindowsOrder) (table.rules.filter (matchesUnix isUser unixName))

/-- What the rules that may map a Windows account lead to. -/
def unixCandidates (table : RuleTable) (isUser : Bool) (name domain : String)
    (inDefaultDomain : Bool) : List UnixCandidate :=
  (table.rulesForWindows isUser name domain inDefaultDomain).map fun rule =>
    { unixName := rule.unixName, toWindowsOrder := rule.toWindowsOrder }

/-- What the rules that may map a unix name lead to. -/
def windowsCandidates (table : RuleTable) (isUser : Bool) (unixName : String) :
    List WindowsCandidate :=
  (table.rulesForUnix isUser unixName).map fun rule =>
    { windowsName := rule.windowsName, windowsDomain := rule.windowsDomain,
      toUnixOrder := rule.toUnixOrder }

/-! ### Taking rules out of old tables -/

/-- Two rows stand in one group when the first key is made to ignore case.  Here, unlike
in the key, two absent domains are the same domain. -/
def sameGroup (a b : StoredRule) : Bool :=
  sameInStore a.windowsName b.windowsName &&
    a.windowsDomain.map storeKey == b.windowsDomain.map storeKey &&
    a.isUser == b.isUser && a.toUnixOrder == b.toUnixOrder

/-- The rows without those that repeat an earlier row's group.  Rows that do not apply
from Windows to unix all stay. -/
def dropRepeats : List StoredRule → List StoredRule → List StoredRule
  | _, [] => []
  | seen, row :: rows =>
    if row.toUnixOrder.isSome && seen.any (sameGroup · row) then dropRepeats seen rows
    else row :: dropRepeats (seen ++ [row]) rows

/-- The table made from rows whose first key still told letters by their case: of the
rows that the key no longer tells apart, the earliest stays. -/
def upgrade (rows : List StoredRule) : RuleTable :=
  { rules := dropRepeats [] rows }

/-- Puts the first key on rows, which cannot be done if two of them share it. -/
def underKey? (table : RuleTable) : Option RuleTable :=
  if table.rules.Pairwise (fun a b => a.sameWindowsKey b = false) then some table else none

/-- Upgrades rows and puts the key on them that ignores case. -/
def upgrade? (rows : List StoredRule) : Option RuleTable :=
  (upgrade rows).underKey?

end RuleTable
end IdentityMap
