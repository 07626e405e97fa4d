/-
TOML documents.

A document is a list of statements, each on lines of its own.  A header names the table
to which the statements after it add.
-/
import IdentityMap.Toml.Expression

namespace IdentityMap.Toml
open Reader Spacing

/-- What a line of a document says. -/
inductive Statement where
  | blank
  | assignment (key : Key) (value : Value)
  /-- Opens a table. -/
  | header (key : Key)
  /-- Opens one more table of a list. -/
  | repeatedHeader (key : Key)

namespace Statement

def headerReader : Reader Statement := do
  char '['
  let key ← Key.reader
  char ']'
  lineEnd
  pure (.header key)

def repeatedHeaderReader : Reader Statement := do
  word ['[', '[']
  let key ← Key.reader
  word [']', ']']
  lineEnd
  pure (.repeatedHeader key)

def assignmentReader : Reader Statement := do
  let key ← Key.reader
  char '='
  space
  let value ← Value.reader maxDepth
  lineEnd
  pure (.assignment key value)

def blankReader : Reader Statement := do
  lineEnd
  pure .blank

/-- A statement, with the end of its line. -/
def reader : Reader Statement := do
  beforeEnd
  space
  repeatedHeaderReader <|> headerReader <|> assignmentReader <|> blankReader

end Statement

/-- The tables so far, and the path of the one that a header opened last. -/
structure Draft where
  fields : Fields := []
  path : List String := []

namespace Draft

/-- Follows a statement, unless it sets or opens what is there already. -/
def add (draft : Draft) : Statement → Option Draft
  | .blank => some draft
  | .assignment key value => do
    let fields ← draft.fields.modifyAt draft.path (Fields.assign true key.path key.name value)
    pure { draft with fields }
  | .header key => do
    let fields ← draft.fields.modifyAt key.path (Fields.openTable key.name)
    pure { fields, path := key.path ++ [key.name] }
  | .repeatedHeader key => do
    let fields ← draft.fields.modifyAt key.path (Fields.openElement key.name)
    pure { fields, path := key.path ++ [key.name] }

end Draft

/-- A byte order mark at the start of a text does not count. -/
def withoutMark : List Char → List Char
  | '\uFEFF' :: rest => rest
  | cs => cs

/-- The fields of the document that a text is. -/
def document? (text : String) : Option Fields := do
  let statements ← whole (many Statement.reader) (withoutMark text.toList)
  let draft ← statements.foldlM Draft.add {}
  pure draft.fields

end IdentityMap.Toml
