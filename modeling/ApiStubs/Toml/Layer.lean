import ApiStubs.Settings
import ApiStubs.Toml.Statement

/-!
Layers of settings read from TOML files. Every name is given at most once, and no other names are.
-/

namespace ApiStubs.Toml

inductive Error
  | notToml
  | unknownName (name : String)
  | repeatedName (name : String)
  | wrongType (name : String)
  deriving DecidableEq, Repr, Inhabited

def Error.message : Error → String
  | notToml => "the text is not well-formed"
  | unknownName name => s!"there is no setting '{name}'"
  | repeatedName name => s!"'{name}' is given twice"
  | wrongType name => s!"'{name}' has a value of another type"

inductive TableName
  | owners
  | types
  deriving DecidableEq, Repr, Inhabited

namespace TableName

def text : TableName → String
  | owners => "owners"
  | types => "types"

def ofText? (text : String) : Option TableName :=
  if text = "owners" then some .owners
  else if text = "types" then some .types
  else none

end TableName

-- The part of a file that has been read.
structure Draft where
  layer : Layer := {}
  -- The names that may not be given again.
  settled : List String := []
  -- The tables to which single entries have been given.
  started : List TableName := []
  -- The table whose header came last.
  current : Option TableName := none
  deriving Inhabited

namespace Draft

def table (d : Draft) : TableName → Table
  | .owners => d.layer.owners
  | .types => d.layer.types

def setTable (d : Draft) (name : TableName) (table : Table) : Draft :=
  match name with
  | .owners => { d with layer := { d.layer with owners := table } }
  | .types => { d with layer := { d.layer with types := table } }

-- Notes that a name is given, which it may not have been before.
def settle (d : Draft) (name : String) : Except Error Draft :=
  if name ∈ d.settled then .error (.repeatedName name)
  else .ok { d with settled := name :: d.settled }

def addEntry (d : Draft) (name : TableName) (key value : String) : Except Error Draft :=
  if (d.table name).any (·.1 = key) then .error (.repeatedName key)
  else .ok (d.setTable name (d.table name ++ [(key, value)]))

-- Begins a table that is given as a whole.
def beginTable (d : Draft) (name : TableName) : Except Error Draft :=
  if name ∈ d.started then .error (.repeatedName name.text) else d.settle name.text

-- Gives a setting that is no table.
def setScalar (d : Draft) (name : String) (value : Value) : Except Error Draft := do
  let d ← d.settle name
  let layer : Layer ← match name, value with
    | "url", .text s => pure { d.layer with url := some s }
    | "target_version", .text s => pure { d.layer with versions := some s }
    | "single_return_type", .boolean b => pure { d.layer with singleType := some b }
    | "output", .text s => pure { d.layer with output := some s }
    | "header", .text s => pure { d.layer with header := some s }
    | "url", _ | "target_version", _ | "single_return_type", _ | "output", _ | "header", _ =>
      throw (.wrongType name)
    | _, _ => throw (.unknownName name)
  return { d with layer }

def setEntries (d : Draft) (name : TableName) (entries : Table) : Except Error Draft := do
  let d ← d.beginTable name
  entries.foldlM (fun d (key, value) => d.addEntry name key value) d

-- The entries that a value stands for as a table. A date or a time is a table with one entry.
def entriesOf? : Value → Option Table
  | .table entries => some entries
  | .dateTime d => some [("$__toml_private_datetime", d.text)]
  | .text _ | .boolean _ => none

def apply (d : Draft) : Statement → Except Error Draft
  | .header [name] =>
    match TableName.ofText? name with
    | none => .error (.unknownName name)
    | some table => do return { (← d.beginTable table) with current := some table }
  | .header key => .error (.unknownName (".".intercalate key))
  | .assign key value =>
    match d.current, key, value with
    | some table, [name], .text s => d.addEntry table name s
    | some _, _, _ => .error (.wrongType (".".intercalate key))
    | none, [name], value =>
      match TableName.ofText? name, entriesOf? value with
      | none, _ => d.setScalar name value
      | some table, some entries => d.setEntries table entries
      | some _, none => .error (.wrongType name)
    | none, [name, entry], .text s =>
      match TableName.ofText? name with
      | none => .error (.unknownName name)
      | some table =>
        if table.text ∈ d.settled then .error (.repeatedName name)
        else { d with started := table :: d.started }.addEntry table entry s
    | none, _, _ => .error (.wrongType (".".intercalate key))

end Draft

def sorted (table : Table) : Table :=
  table.mergeSort fun a b => decide (a.1 ≤ b.1)

def readLayer (text : String) : Except Error Layer :=
  match statements? text with
  | none => .error .notToml
  | some statements => do
    let d ← statements.foldlM Draft.apply {}
    return { d.layer with owners := sorted d.layer.owners, types := sorted d.layer.types }

end ApiStubs.Toml
