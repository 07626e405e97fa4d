/-
The stores as text, for files that outlive a run.

The first line names the store and its version.  Each further line is a row: cells with a
tab between them.  A cell that is missing is a dash, and a text stands behind an equals
sign, with its tabs and line ends escaped, so that every text reads back.
-/
import IdentityMap.Host.Disk

namespace IdentityMap.StoreText

/-! ### Cells -/

def escape : List Char → List Char
  | [] => []
  | '\\' :: rest => '\\' :: '\\' :: escape rest
  | '\t' :: rest => '\\' :: 't' :: escape rest
  | '\n' :: rest => '\\' :: 'n' :: escape rest
  | c :: rest => c :: escape rest

def unescape? : List Char → Option (List Char)
  | [] => some []
  | '\\' :: '\\' :: rest => (unescape? rest).map ('\\' :: ·)
  | '\\' :: 't' :: rest => (unescape? rest).map ('\t' :: ·)
  | '\\' :: 'n' :: rest => (unescape? rest).map ('\n' :: ·)
  | '\\' :: _ => none
  | c :: rest => (unescape? rest).map (c :: ·)

theorem unescape?_escape (cs : List Char) : unescape? (escape cs) = some cs := by
  fun_induction escape cs <;> simp_all [unescape?]

def ofText (s : Option String) : List Char :=
  match s with
  | none => ['-']
  | some s => '=' :: escape s.toList

def text? : List Char → Option (Option String)
  | ['-'] => some none
  | '=' :: cs => (unescape? cs).map fun cs => some (String.ofList cs)
  | _ => none

def ofNumber (n : Option Int) : List Char :=
  match n with
  | none => ['-']
  | some n => (toString n).toList

def number? : List Char → Option (Option Int)
  | ['-'] => some none
  | '-' :: cs => (Numeral.digits? cs).map fun n => some (-n)
  | cs => (Numeral.digits? cs).map fun n => some n

/-! ### Rows -/

def ofIdRow (row : IdRow) : List (List Char) :=
  [ofText row.base, ofNumber row.rid, ofText row.windowsDomain, ofText row.windowsName,
    ofNumber row.number, ofText row.unixName, ofNumber row.isUser, ofNumber row.toUnix,
    ofNumber row.toWindows, ofNumber row.expiration]

def idRow? : List (List Char) → Option IdRow
  | [base, rid, domain, name, number, unixName, isUser, toUnix, toWindows, expiration] =>
    return {
      base := ← text? base, rid := ← number? rid, windowsDomain := ← text? domain
      windowsName := ← text? name, number := ← number? number, unixName := ← text? unixName
      isUser := ← number? isUser, toUnix := ← number? toUnix, toWindows := ← number? toWindows
      expiration := ← number? expiration }
  | _ => none

def ofNameRow (row : NameRow) : List (List Char) :=
  [ofText row.base, ofNumber row.rid, ofText row.name, ofText row.domain, ofNumber row.type,
    ofNumber row.expiration]

def nameRow? : List (List Char) → Option NameRow
  | [base, rid, name, domain, type, expiration] =>
    return {
      base := ← text? base, rid := ← number? rid, name := ← text? name
      domain := ← text? domain, type := ← number? type, expiration := ← number? expiration }
  | _ => none

def ofFlag (b : Bool) : List Char :=
  ofNumber (some (if b then 1 else 0))

def flag? (cell : List Char) : Option Bool := do
  return (← ← number? cell) != 0

def natural? (cell : List Char) : Option (Option Nat) :=
  (number? cell).map fun n => n.map (·.toNat)

def ofRule (rule : StoredRule) : List (List Char) :=
  [ofFlag rule.isUser, ofText rule.windowsDomain, ofText (some rule.windowsName),
    ofText (some rule.unixName), ofFlag rule.isNt4,
    ofNumber (rule.toUnixOrder.map (·)), ofNumber (rule.toWindowsOrder.map (·))]

def rule? : List (List Char) → Option StoredRule
  | [isUser, domain, name, unixName, isNt4, toUnix, toWindows] =>
    return {
      isUser := ← flag? isUser, windowsDomain := ← text? domain, windowsName := ← ← text? name
      unixName := ← ← text? unixName, isNt4 := ← flag? isNt4, toUnixOrder := ← natural? toUnix
      toWindowsOrder := ← natural? toWindows }
  | _ => none

/-! ### Stores -/

def line (cells : List (List Char)) : List Char :=
  ['\t'].intercalate cells ++ ['\n']

def cacheTitle : List Char := "identity map cache 2".toList
def nameTitle : List Char := "names".toList
def rulesTitle : List Char := "identity map rules 2".toList
def oldRulesTitle : List Char := "identity map rules 1".toList

/-- The text of a store; bytes of another kind stay as they are. -/
def ofBody : FileBody → ByteArray
  | .bytes content => content
  | .cache cache =>
    (String.ofList (line [cacheTitle] ++ cache.ids.flatMap (fun row => line (ofIdRow row)) ++
      line [nameTitle] ++ cache.names.flatMap fun row => line (ofNameRow row))).toUTF8
  | .rules table =>
    (String.ofList (line [rulesTitle] ++
      table.rules.flatMap fun rule => line (ofRule rule))).toUTF8
  | .oldRules rows =>
    (String.ofList (line [oldRulesTitle] ++ rows.flatMap fun rule => line (ofRule rule))).toUTF8

/-- The cells of a line. -/
def cells (line : List Char) : List (List Char) :=
  line.splitOn '\t'

/-- The store that the lines of a text are. -/
def store? : List (List Char) → Option FileBody
  | [] => none
  | title :: lines =>
    if title = cacheTitle then do
      let ids ← (lines.takeWhile (· ≠ nameTitle)).mapM fun line => idRow? (cells line)
      let names ← ((lines.dropWhile (· ≠ nameTitle)).drop 1).mapM fun line =>
        nameRow? (cells line)
      pure (.cache { ids, names })
    else if title = rulesTitle then
      (lines.mapM fun line => rule? (cells line)).map fun rules => .rules { rules }
    else if title = oldRulesTitle then
      (lines.mapM fun line => rule? (cells line)).map .oldRules
    else none

/-- What a file with these bytes holds. -/
def body (content : ByteArray) : FileBody :=
  let store := (String.fromUTF8? content).bind fun s => store? (s.toList.splitOn '\n').dropLast
  store.getD (.bytes content)

end IdentityMap.StoreText
