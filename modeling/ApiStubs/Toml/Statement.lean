import ApiStubs.Table
import ApiStubs.Toml.DateTime
import ApiStubs.Toml.Literal

/-!
The lines of a TOML file, as far as settings are written with them: headers of tables, and keys with
strings, truth values, dates and times, and tables of strings.
-/

namespace ApiStubs.Toml

open Text (dropWord?)

inductive Value
  | text (s : String)
  | boolean (b : Bool)
  | dateTime (d : DateTime)
  | table (entries : Table)
  deriving DecidableEq, Repr, Inhabited

inductive Statement
  | header (key : List String)
  | assign (key : List String) (value : Value)
  deriving DecidableEq, Repr, Inhabited

-- A key with the equals sign behind it, and what follows.
def assigned? (s : List Char) : Option (List String × List Char) := do
  let (key, after) ← key? s
  match skipGaps after with
  | '=' :: after => return (key, skipGaps after)
  | _ => none

-- The entries of a table between braces, up to its end.
def entries? : Nat → List Char → Option (Table × List Char)
  | 0, _ => none
  | fuel + 1, s => do
    let (key, after) ← assigned? s
    let (value, after) ← string? after
    match key, skipGaps after with
    | [name], '\x7d' :: after => return ([(name, value)], after)
    | [name], ',' :: after =>
      let (rest, after) ← entries? fuel (skipGaps after)
      return ((name, value) :: rest, after)
    | _, _ => none

def value? (s : List Char) : Option (Value × List Char) :=
  match s with
  | '\x7b' :: rest =>
    match skipGaps rest with
    | '\x7d' :: after => some (.table [], after)
    | inside => (entries? inside.length inside).map fun (entries, after) => (.table entries, after)
  | _ =>
    ((dropWord? "true".toList s).map (.boolean true, ·)) <|>
      ((dropWord? "false".toList s).map (.boolean false, ·)) <|>
      ((string? s).map fun (text, after) => (.text text, after)) <|>
      (dateTime? s).map fun (d, after) => (.dateTime d, after)

-- The key of a header, the bracket before it excepted, and what follows.
def header? (s : List Char) : Option (Statement × List Char) := do
  let (key, after) ← key? (skipGaps s)
  match skipGaps after with
  | ']' :: after => return (.header key, after)
  | _ => none

-- A statement at the beginning of a text, if there is one, and what follows.
def statement? (s : List Char) : Option (List Statement × List Char) :=
  match s with
  | [] => some ([], s)
  | '[' :: s => (header? s).map fun (statement, after) => ([statement], after)
  | c :: _ =>
    if c = '#' ∨ (lineEnd? s).isSome then some ([], s)
    else do
      let (key, after) ← assigned? s
      let (value, after) ← value? after
      return ([.assign key value], after)

-- What follows the end of a line, gaps and a comment before it left out.
def nextLine? (s : List Char) : Option (List Char) :=
  let rest :=
    match skipGaps s with
    | '#' :: comment => comment.dropWhile isPlain
    | rest => rest
  if rest.isEmpty then some [] else lineEnd? rest

-- The statements of a text with at most so many lines.
def statementsUpTo? : Nat → List Char → Option (List Statement)
  | _, [] => some []
  | 0, _ :: _ => none
  | fuel + 1, s => do
    let (first, after) ← statement? (skipGaps s)
    let rest ← statementsUpTo? fuel (← nextLine? after)
    return first ++ rest

-- The statements of a text. A byte order mark before them does not count.
def statements? (text : String) : Option (List Statement) :=
  let s := text.toList
  let body := (dropWord? ['\uFEFF'] s).getD s
  statementsUpTo? body.length body

end ApiStubs.Toml
