import ApiStubs.Assembly
import ApiStubs.Source
import ApiStubs.Transform

/-!
A whole run: fetching the feed, rendering it and writing the generated file.
-/

namespace ApiStubs

-- What a run leaves behind.
structure Outcome (ε α : Type) where
  files : FileTree
  log : List Event
  result : Except ε α

-- Writes the header and the blocks to the generated file.
def writeOutput (files : FileTree) (header : String) (blocks : List String) (output : String) :
    Except Error FileTree := do
  let text ← (files.readText header).mapError fun fault => .file header fault.message
  (files.writeText output (assemble text blocks)).mapError fun fault => .file output fault.message

-- Fetches a feed, renders it and writes the generated file.
def Settings.generate (settings : Settings) (source : Source) (files : FileTree) :
    Outcome Error Report :=
  let start : List Event := [.fetching source.describe]
  match source.fetch files with
  | .error e => ⟨files, start, .error e⟩
  | .ok xml =>
    let start := start ++ source.events xml
    let ⟨log, transformed⟩ := settings.transform xml
    match transformed with
    | .error e => ⟨files, start ++ log, .error e⟩
    | .ok ⟨blocks, report⟩ =>
      match writeOutput files settings.header blocks settings.output with
      | .error e => ⟨files, start ++ log, .error e⟩
      | .ok written =>
        ⟨written, start ++ log ++ [.wrote settings.output report.rendered], .ok report⟩

end ApiStubs
