import ApiStubs.Escape
import ApiStubs.Placeholder
import ApiStubs.Target
import ApiStubs.Text.Lines

/-!
Blocks: the doc comment and the stub statement of an entry.
-/

namespace ApiStubs.Entry

-- The parameters that the stub of an entry shows. Properties have none.
def shownParameters (settings : Settings) (entry : Entry) : List Parameter :=
  match entry.kind with
  | .method => entry.parameters.map (Parameter.ofRaw settings)
  | .property => []

def shownType (settings : Settings) (entry : Entry) : String :=
  let type := (TypeList.read settings entry.returns).text settings
  if type = "" then "undefined" else type

-- The long description, which only methods show.
def longSection (entry : Entry) : String :=
  match entry.kind with
  | .method => if entry.long = "" then "" else "\n" ++ Escape.comment entry.long
  | .property => ""

def exampleSection (ex : Example) : String :=
  "\nExample: " ++ Escape.comment (Escape.html ex.description) ++ "\n<pre>\n" ++
    Escape.comment (Escape.html ex.code) ++ "\n</pre>"

def parameterSection (p : Parameter) : String :=
  "\n@param \x7b" ++ Escape.comment p.type ++ "\x7d " ++ Escape.comment p.name ++
    if p.description = "" then "" else " " ++ Escape.comment p.description

def typeSection (settings : Settings) (entry : Entry) : String :=
  let type := Escape.comment (entry.shownType settings)
  match entry.kind with
  | .method => "\n@returns \x7b" ++ type ++ "\x7d"
  | .property => "\n@type " ++ type

-- The text inside the doc comment. Every piece that comes from the feed is made safe on its own.
def docText (settings : Settings) (parameters : List Parameter) (entry : Entry) : String :=
  Escape.comment entry.short ++ entry.longSection ++
    String.join (entry.examples.map exampleSection) ++
    String.join (parameters.map parameterSection) ++
    "\n@since " ++ Escape.comment entry.added ++ entry.typeSection settings

def commentBlock (text : String) : String :=
  "/**\n" ++ String.join ((Text.lines text).map fun line => " * " ++ line ++ "\n") ++ " */"

def doc (settings : Settings) (parameters : List Parameter) (entry : Entry) : String :=
  commentBlock (entry.docText settings parameters)

def placeholder (settings : Settings) (entry : Entry) : Placeholder :=
  .ofType entry.kind (TypeList.read settings entry.returns).primary

def statement (settings : Settings) (parameters : List Parameter) (entry : Entry) : String :=
  let target := (Target.ofName settings entry.name).text
  let value := entry.placeholder settings
  match entry.kind with
  | .method =>
    let body := if value = .nothing then "\x7b\x7d" else "\x7b return " ++ value.text ++ "; \x7d"
    target ++ " = function(" ++ ", ".intercalate (parameters.map (·.name)) ++ ") " ++ body ++ ";"
  | .property => target ++ " = " ++ value.text ++ ";"

-- The doc comment of an entry and below it the statement that it documents.
def block (settings : Settings) (entry : Entry) : String :=
  let parameters := entry.shownParameters settings
  entry.doc settings parameters ++ "\n" ++ entry.statement settings parameters

end ApiStubs.Entry
