import ApiStubs.Proofs.Entry.Reading
import ApiStubs.Proofs.Generate
import ApiStubs.Proofs.Transform
import ApiStubs.Proofs.XPath.Selection

/-!
Running twice. What a run reads are two files that it does not write, so the next run reads the same
texts and writes what is already there.
-/

namespace ApiStubs

variable {settings : Settings} {files : FileTree} {input output xml text : String} {t : Transformed}
  {place : Place} {content : ByteArray}

theorem Source.fetch_set (hp : files.placeToWrite output = .ok place)
    (hn : ¬files.SameFile output input) (h : (Source.file input).fetch files = .ok xml) :
    (Source.file input).fetch (files.set place (.file content)) = .ok xml := by
  cases hr : files.readText input
  case error => cases h.symm.trans (fetch_eq_error hr)
  case ok =>
    cases h.symm.trans (fetch_eq_ok hr)
    exact fetch_eq_ok <| FileTree.readText_set hp hn hr

namespace Settings

-- Whatever a run writes, its steps come to the same afterwards.
theorem Steps.set (hh : ¬files.SameFile settings.output settings.header)
    (hi : ¬files.SameFile settings.output input)
    (h : settings.Steps (.file input) files xml t text place) :
    settings.Steps (.file input) (files.set place (.file content)) xml t text place where
  fetch := Source.fetch_set h.output hi h.fetch
  transform := h.transform
  header := FileTree.readText_set h.output hh h.header
  output := FileTree.placeToWrite_set h.output

-- If the output is neither the header nor the feed, a second run after one that succeeds comes to
-- the same report and to the same files.
theorem generate_again {report : Report} (hh : ¬files.SameFile settings.output settings.header)
    (hi : ¬files.SameFile settings.output input)
    (h : (settings.generate (.file input) files).result = .ok report) :
    let first := settings.generate (.file input) files
    let second := settings.generate (.file input) first.files
    second.result = .ok report ∧ second.files = first.files := by
  intro first second
  obtain ⟨_, _, hr, _⟩ | ⟨xml, t, text, place, hs, hr, hf⟩ :=
    settings.generate_cases (.file input) files
  · cases hr.symm.trans h
  · have hs' : settings.Steps (.file input) first.files xml t text place := hf ▸ hs.set hh hi
    have ⟨hr', hf'⟩ := hs'.generate
    let written := FileNode.file (assemble text t.blocks).toUTF8
    have he : second.files = first.files := calc
      second.files = first.files.set place written := hf'
      _ = (files.set place written).set place written := hf ▸ rfl
      _ = files.set place written := FileTree.set_set
      _ = first.files := hf.symm
    exact ⟨hr'.trans (hr.symm.trans h), he⟩

-- A feed with one entry, beside a header and a generated file that is out of date.
def hideFeed : String :=
  "<entries><entry type=\"method\" name=\"hide\"/></entries>"

def hideFiles : FileTree where
  nodes := [
    (["header.js"], .file "var $;\n".toUTF8),
    (["api.xml"], .file hideFeed.toUTF8),
    (["stubs.js"], .file "stale".toUTF8)]

def hideElement : Xml.Element :=
  bareElement "method" "hide"

def hideDocument : Xml.Document :=
  entriesDocument [hideElement.node]

def hideSettings : Settings where
  output := "stubs.js"
  header := "header.js"

def hideTransformed : Transformed where
  blocks := ["/**\n * \n * @since 1.0\n * @returns \x7bundefined\x7d\n */\n" ++
    "jQuery.prototype.hide = function() \x7b\x7d;"]
  report := { rendered := 1 }

theorem generate_hideFiles :
    let first := hideSettings.generate (.file "api.xml") hideFiles
    let second := hideSettings.generate (.file "api.xml") first.files
    (¬hideFiles.SameFile "stubs.js" "header.js" ∧ ¬hideFiles.SameFile "stubs.js" "api.xml") ∧
      first.result = .ok { rendered := 1 } ∧
      first.files.get? ["stubs.js"] =
        some (.file (assemble "var $;\n" hideTransformed.blocks).toUTF8) ∧
      second.result = .ok { rendered := 1 } ∧ second.files = first.files := by
  intro first second
  have hh : ¬hideFiles.SameFile "stubs.js" "header.js" :=
    FileTree.not_sameFile_of_plain (by decide) (by decide) (by decide)
  have hi : ¬hideFiles.SameFile "stubs.js" "api.xml" :=
    FileTree.not_sameFile_of_plain (by decide) (by decide) (by decide)
  have hd : readDocument hideFeed = .ok hideDocument := by cbv
  have ho : (hideDocument.occurrences.filter (·.isRendered)).map (·.element) =
      [hideElement] :=
    rfl
  have hs := ho ▸ select_eq_rendered (distinct_of_readDocument hd)
  have ht : (hideSettings.transformElements [hideElement]).result = .ok hideTransformed :=
    rfl
  have hsteps : hideSettings.Steps (.file "api.xml") hideFiles hideFeed hideTransformed
      "var $;\n" ["stubs.js"] := by
    constructor
    case fetch     => exact Source.fetch_eq_ok <| FileTree.readText_of_file (by decide) rfl
    case transform => exact (transform_result _ hd hs).trans ht
    case header    => exact FileTree.readText_of_file (by decide) rfl
    case output    =>
      have hg : hideFiles.get? (hideFiles.here ++ ["stubs.js"]) = some (.file "stale".toUTF8) :=
        rfl
      have hp : hideFiles.placeToWrite "stubs.js" = .ok (hideFiles.here ++ ["stubs.js"]) :=
        FileTree.placeToWrite_of_plain (by decide) (by simp [hg])
      exact hp
  obtain ⟨hr, hf⟩ := hsteps.generate
  have hg : first.files.get? ["stubs.js"] =
      some (.file (assemble "var $;\n" hideTransformed.blocks).toUTF8) := by
    rw [hf]
    exact FileTree.get?_set_self (by decide)
  obtain ⟨hr', hf'⟩ := generate_again hh hi hr
  exact ⟨⟨hh, hi⟩, hr, hg, hr', hf'⟩

end Settings
end ApiStubs
