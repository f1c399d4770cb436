import ApiStubs.Block
import ApiStubs.Entry.Reading
import ApiStubs.Log
import ApiStubs.Query

/-!
From the text of a feed to blocks.
-/

namespace ApiStubs

-- Selects the entries that are rendered.
def entryQuery : String := "//entries/entry[@type=\"method\" or @type=\"property\"]"

-- The entry that the header declares by hand.
def constructorName : String := "jQuery"

-- Blocks, and the counts of the entries that they were made from.
structure Transformed where
  blocks : List String := []
  report : Report := {}
  deriving DecidableEq, Repr, Inhabited

namespace Transformed

def consBlock (block : String) (t : Transformed) : Transformed :=
  ⟨block :: t.blocks, { t.report with rendered := t.report.rendered + 1 }⟩

def skipConstructor (t : Transformed) : Transformed :=
  { t with report := { t.report with skippedConstructor := t.report.skippedConstructor + 1 } }

def skipVersion (t : Transformed) : Transformed :=
  { t with report := { t.report with skippedVersion := t.report.skippedVersion + 1 } }

end Transformed

-- A result and the events on the way to it.
structure Logged (α : Type) where
  log : List Event := []
  result : Except Error α

namespace Logged

def map (f : α → β) (l : Logged α) : Logged β :=
  ⟨l.log, l.result.map f⟩

def cons (e : Event) (l : Logged α) : Logged α :=
  { l with log := e :: l.log }

end Logged

namespace Settings

-- Reads and renders elements one after the other. An element that is no entry ends the run, whether
-- or not it would have been rendered.
def transformElements (settings : Settings) : List Xml.Element → Logged Transformed
  | [] => { result := .ok {} }
  | e :: rest =>
    match Entry.ofElement e with
    | .error err => { result := .error err }
    | .ok entry =>
      if entry.name = constructorName then
        (settings.transformElements rest).map .skipConstructor
      else if settings.versions.admits entry.added then
        (settings.transformElements rest).map (.consBlock (entry.block settings))
      else
        ((settings.transformElements rest).map .skipVersion).cons (.tooNew entry.name entry.added)

def selectEntries (xml : String) : Except Error (List Xml.Element) := do
  select (← readDocument xml) entryQuery

def transform (settings : Settings) (xml : String) : Logged Transformed :=
  match selectEntries xml with
  | .error err => { result := .error err }
  | .ok elements => (settings.transformElements elements).cons (.selected elements.length)

end Settings
end ApiStubs
