/-
Adding to the tables of a TOML document.

A key is set once, and a table is opened once.  A header may lead through any table, but
it opens only one that is not there yet or that was so far only on the way to others.  A
dotted key leads through tables that other dotted keys made, and never into one that a
header opened.
-/
import IdentityMap.Toml.Value

namespace IdentityMap.Toml.Fields

/-- Sets the value of a key that is there. -/
def replace (key : String) (value : Value) (fields : Fields) : Fields :=
  fields.map fun (k, v) => if k = key then (k, value) else (k, v)

/-- Adds a key that is not there yet. -/
def addNew (key : String) (value : Value) (fields : Fields) : Option Fields :=
  if (fields.lookup key).isSome then none else some (fields ++ [(key, value)])

/-- Sets a key that is reached by a dotted path.  Values may be added to the table that
the path starts at, and to tables that dotted keys made; a path may lead through a table
that is only implied, and into the last table of a repeated header, but not end there. -/
def assign (isOpen : Bool) : List String → String → Value → Fields → Option Fields
  | [], key, value, fields => if isOpen then fields.addNew key value else none
  | step :: path, key, value, fields =>
    match fields.lookup step with
    | none => (assign true path key value []).map fun inner =>
        fields ++ [(step, .table .dotted inner)]
    | some (.table .dotted inner) => (assign true path key value inner).map fun inner =>
        fields.replace step (.table .dotted inner)
    | some (.table .implied inner) => (assign false path key value inner).map fun inner =>
        fields.replace step (.table .implied inner)
    | some (.tables elements) => do
      let inner ← assign false path key value (← elements.getLast?)
      pure (fields.replace step (.tables (elements.dropLast ++ [inner])))
    | some _ => none

/-- Changes the table at a path.  What is not there yet on the way is implied. -/
def modifyAt : List String → (Fields → Option Fields) → Fields → Option Fields
  | [], change, fields => change fields
  | step :: path, change, fields =>
    match fields.lookup step with
    | none => (modifyAt path change []).map fun inner =>
        fields ++ [(step, .table .implied inner)]
    | some (.table .inline _) => none
    | some (.table origin inner) => (modifyAt path change inner).map fun inner =>
        fields.replace step (.table origin inner)
    | some (.tables elements) => do
      let inner ← modifyAt path change (← elements.getLast?)
      pure (fields.replace step (.tables (elements.dropLast ++ [inner])))
    | some _ => none

/-- Opens the table of a header. -/
def openTable (key : String) (fields : Fields) : Option Fields :=
  match fields.lookup key with
  | none => some (fields ++ [(key, .table .header [])])
  | some (.table .implied inner) => some (fields.replace key (.table .header inner))
  | some _ => none

/-- Opens one more table of a repeated header. -/
def openElement (key : String) (fields : Fields) : Option Fields :=
  match fields.lookup key with
  | none => some (fields ++ [(key, .tables [[]])])
  | some (.tables elements) => some (fields.replace key (.tables (elements ++ [[]])))
  | some _ => none

end IdentityMap.Toml.Fields
