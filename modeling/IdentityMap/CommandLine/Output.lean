/-
How answers, rules and cache rows are shown: as lines and tables, or as JSON.

JSON has the fields of a mapping and of a cache row in alphabetical order, and those of a
rule in the order of its columns.
-/
import IdentityMap.CommandLine.Json
import IdentityMap.CommandLine.Session
import IdentityMap.Text.Calendar
import IdentityMap.Text.Grid

namespace IdentityMap.CommandLine
open Session

/-! ### Mappings -/

def identityJson : Identity → Json
  | .sid sid => .object [("sid", .object
      [("prefix", .text sid.base), ("rid", .integer sid.rid.toNat)])]
  | .unix id => .object [(id.kind.text, .integer id.number.toNat)]

def answerJson (label : String) (sid : Option Sid) (a : Answer) : Json :=
  .object [("direction", .text a.direction.code), ("domain", .ofText? a.domain),
    ("id", a.id.elim .null identityJson), ("input", .text label), ("name", .ofText? a.name),
    ("sid", .ofText? (sid.map (·.text))),
    ("status", .text (a.failure.elim "ok" (·.message)))]

/-- A name with its domain, if it has one. -/
def qualified (name : String) (domain : Option String) : String :=
  match domain.filter (!·.isEmpty) with
  | some d => name ++ "@" ++ d
  | none => name

/-- Shows what an input maps to.  As JSON a failure is an answer too. -/
def showAnswer (json : Bool) (label : String) (sid : Option Sid) (a : Answer) :
    Session Unit := do
  if json then say (answerJson label sid a).toText
  else
    say ("Input     : " ++ label)
    match sid with
    | some sid => say ("SID       : " ++ sid.text)
    | none => pure ()
    match a.failure with
    | some e => throw ["no mapping for " ++ label ++ ": " ++ e.message]
    | none =>
      say ("Maps to   : " ++ a.id.elim "-" (·.text))
      say ("Direction : " ++ a.direction.text)
      match a.name with
      | some name => say ("Name      : " ++ qualified name a.domain)
      | none => pure ()

/-! ### Rules -/

/-- A name, with quotes for the empty one. -/
def visibleName (name : String) : String :=
  if name.isEmpty then "\"\"" else name

def orderText (order : Option Nat) : String :=
  order.elim "-" Nat.repr

def ruleCells (r : StoredRule) : List String :=
  [(AccountType.ofIsUser r.isUser).kind.noun,
    qualified (visibleName r.windowsName) r.windowsDomain, visibleName r.unixName,
    r.direction.elim "-" (·.text), orderText r.toUnixOrder ++ "/" ++ orderText r.toWindowsOrder]

def ruleJson (r : StoredRule) : Json :=
  .object [("is_user", .boolean r.isUser), ("windomain", .ofText? r.windowsDomain),
    ("winname", .text r.windowsName), ("unixname", .text r.unixName),
    ("is_nt4", .boolean r.isNt4), ("w2u_order", .ofNat? r.toUnixOrder),
    ("u2w_order", .ofNat? r.toWindowsOrder)]

def showRules (json : Bool) (rules : List StoredRule) : Session Unit := do
  if json then say (Json.array (rules.map ruleJson)).toText
  else if rules.isEmpty then say "No name rules defined."
  else
    say (Grid.draw {
      header := ["Type", "Windows name", "Unix name", "Direction", "Order"]
      rows := rules.map ruleCells })
    say (Nat.repr rules.length ++ " rule(s)")

/-! ### Cache rows -/

/-- When a row is past its time; a row without a time never is. -/
def expiryText (expiration : Option Int) : String :=
  match expiration with
  | none => "never"
  | some t =>
    if t = 0 ∨ t = Expiry.noExpiry then "never" else (Calendar.text? t).getD (toString t)

def arrow : Bool → Bool → String
  | true, true => "<->"
  | true, false => "->"
  | false, true => "<-"
  | false, false => "-"

def rowName (r : Cache.Listed) : String :=
  match r.windowsName, r.windowsDomain with
  | some name, some domain => name ++ "@" ++ domain
  | some name, none => name
  | none, _ => "-"

def rowCells (r : Cache.Listed) : List String :=
  [r.sid.text, rowName r, (IdKind.ofIsUser r.isUser).text ++ " " ++ Nat.repr r.number.toNat,
    r.unixName.getD "-", arrow r.toUnix r.toWindows, expiryText r.expiration]

def rowJson (r : Cache.Listed) : Json :=
  .object [("expiration", r.expiration.elim .null .integer),
    ("kind", .text (IdKind.ofIsUser r.isUser).text), ("pid", .integer r.number.toNat),
    ("sid", .text r.sid.text), ("u2w", .boolean r.toWindows), ("unixname", .ofText? r.unixName),
    ("w2u", .boolean r.toUnix), ("windomain", .ofText? r.windowsDomain),
    ("winname", .ofText? r.windowsName)]

def showRows (json : Bool) (rows : List Cache.Listed) : Session Unit := do
  if json then say (Json.array (rows.map rowJson)).toText
  else if rows.isEmpty then say "Cache is empty."
  else
    say (Grid.draw {
      header := ["SID", "Windows name", "Id", "Unix name", "Dir", "Expires"]
      rows := rows.map rowCells })
    say (Nat.repr rows.length ++ " row(s) shown")

end IdentityMap.CommandLine
