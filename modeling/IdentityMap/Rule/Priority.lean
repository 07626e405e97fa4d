/-
The order of a name rule within each direction.

A lower order wins.  Of two rules that are equally specific, a deny goes before a
destination, and a rule for any domain goes after a rule for one.

Windows to unix:

  1   name@domain  ->  deny         6   *@domain  ->  deny
  2   name@domain  ->  unix name    7   *@domain  ->  unix name
  3   name@*       ->  deny         8   *@*       ->  same name
  4   name@*       ->  unix name    9   *@*       ->  deny
  5   *@domain     ->  same name   10   *@*       ->  unix name

Unix to Windows:

  1   unix name  ->  deny            3   *  ->  *@domain
  2   unix name  ->  name@domain     4   *  ->  deny
                                     5   *  ->  name@domain

A rule that could never be evaluated in a direction it claims is refused as a whole.
-/
import IdentityMap.Identity

namespace IdentityMap

/-- The name that stands for every name. -/
def wildcard : String := "*"

/-- The empty name, also when it is spelled as two quotes.  It denies a mapping. -/
def isEmptyName (name : String) : Bool :=
  name.isEmpty || name == "\"\""

def isWildcard (name : String) : Bool :=
  name == wildcard

/-- The orders of a rule.  An order is absent in a direction in which the rule does not
apply. -/
structure RuleOrder where
  toUnix : Option Nat
  toWindows : Option Nat
deriving DecidableEq, Repr

namespace RuleOrder

/-- The order of `name@domain -> unix` from Windows to unix. -/
def ofToUnix (windowsName : String) (windowsDomain : Option String) (unixName : String) :
    Except Failure Nat :=
  if isEmptyName windowsName then
    .error (.badWindowsRule "Windows name must not be empty")
  else
    let anyDomain := windowsDomain.any isWildcard
    if isWildcard windowsName then
      if isWildcard unixName then .ok (if anyDomain then 8 else 5)
      else if isEmptyName unixName then .ok (if anyDomain then 9 else 6)
      else .ok (if anyDomain then 10 else 7)
    else if isWildcard unixName then
      .error (.badWindowsRule ("'" ++ windowsName ++ "' cannot map to the wildcard Unix name"))
    else if isEmptyName unixName then .ok (if anyDomain then 3 else 1)
    else .ok (if anyDomain then 4 else 2)

/-- The order of `unix -> name@domain` from unix to Windows. -/
def ofToWindows (windowsName : String) (windowsDomain : Option String) (unixName : String) :
    Except Failure Nat :=
  if isEmptyName unixName then
    .error (.badUnixRule "Unix name must not be empty")
  else if windowsDomain.any isWildcard then
    .error (.badUnixRule "a Windows domain wildcard cannot be a destination")
  else if isWildcard unixName then
    if isWildcard windowsName then .ok 3
    else if isEmptyName windowsName then .ok 4
    else .ok 5
  else if isWildcard windowsName then
    .error (.badUnixRule ("'" ++ unixName ++ "' cannot map to the wildcard Windows name"))
  else if isEmptyName windowsName then .ok 1
  else .ok 2

/-- The orders of a rule in the directions it claims.  When it is bad in both, the fault
from Windows to unix is the one that is named. -/
def ofRule (windowsName : String) (windowsDomain : Option String) (unixName : String)
    (direction : Direction) : Except Failure RuleOrder := do
  let toUnix ←
    if direction.isToUnix then some <$> ofToUnix windowsName windowsDomain unixName
    else pure none
  let toWindows ←
    if direction.isToWindows then some <$> ofToWindows windowsName windowsDomain unixName
    else pure none
  pure { toUnix, toWindows }

end RuleOrder
end IdentityMap
