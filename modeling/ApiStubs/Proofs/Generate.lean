import ApiStubs.Generate
import ApiStubs.Proofs.Files.Access

/-!
A whole run: it fails with the error of the first step that fails and leaves all files as they are,
or it writes the generated file and nothing else.
-/

namespace ApiStubs

variable {settings : Settings} {source : Source} {files : FileTree} {e : Error} {path : String}

namespace Source

theorem fetch_eq_ok {xml : String} (h : files.readText path = .ok xml) :
    (Source.file path).fetch files = .ok xml := by
  simp [fetch, h, Except.mapError]

theorem fetch_eq_error {fault : FileFault} (h : files.readText path = .error fault) :
    (Source.file path).fetch files = .error (.file path fault.message) := by
  simp [fetch, h, Except.mapError]

end Source

theorem writeOutput_eq_ok {header output text : String} {blocks : List String} {place : Place}
    (hh : files.readText header = .ok text) (ho : files.placeToWrite output = .ok place) :
    writeOutput files header blocks output =
      .ok (files.set place (.file (assemble text blocks).toUTF8)) := by
  simp [writeOutput, FileTree.writeText, hh, ho, Except.mapError, bind, Except.bind, pure,
    Except.pure]

-- What writing the generated file comes to. The header is read before the output is looked up.
theorem writeOutput_cases (files : FileTree) (header : String) (blocks : List String)
    (output : String) :
    (∃ fault, files.readText header = .error fault ∧
      writeOutput files header blocks output = .error (.file header fault.message)) ∨
    (∃ text fault, files.readText header = .ok text ∧ files.placeToWrite output = .error fault ∧
      writeOutput files header blocks output = .error (.file output fault.message)) ∨
    ∃ text place, files.readText header = .ok text ∧ files.placeToWrite output = .ok place ∧
      writeOutput files header blocks output =
        .ok (files.set place (.file (assemble text blocks).toUTF8)) := by
  cases hh : files.readText header
  case error fault =>
    refine .inl ⟨fault, rfl, ?_⟩
    simp [writeOutput, hh, Except.mapError, bind, Except.bind]
  case ok text =>
    cases ho : files.placeToWrite output
    case error fault =>
      refine .inr <| .inl ⟨text, fault, rfl, rfl, ?_⟩
      simp [writeOutput, FileTree.writeText, hh, ho, Except.mapError, bind, Except.bind]
    case ok place =>
      exact .inr <| .inr ⟨text, place, rfl, rfl, writeOutput_eq_ok hh ho⟩

namespace Settings

-- The error of the first step that fails, in the order in which a run takes its steps.
inductive FirstError (settings : Settings) (source : Source) (files : FileTree) : Error → Prop
  | fetch {e : Error} (fetch : source.fetch files = .error e) : FirstError settings source files e
  | transform {xml : String} {e : Error} (fetch : source.fetch files = .ok xml)
    (transform : (settings.transform xml).result = .error e) : FirstError settings source files e
  | header {xml : String} {t : Transformed} {fault : FileFault}
    (fetch : source.fetch files = .ok xml)
    (transform : (settings.transform xml).result = .ok t)
    (header : files.readText settings.header = .error fault) :
    FirstError settings source files (.file settings.header fault.message)
  | output {xml text : String} {t : Transformed} {fault : FileFault}
    (fetch : source.fetch files = .ok xml) (transform : (settings.transform xml).result = .ok t)
    (header : files.readText settings.header = .ok text)
    (output : files.placeToWrite settings.output = .error fault) :
    FirstError settings source files (.file settings.output fault.message)

-- What all steps come to if none of them fails.
structure Steps (settings : Settings) (source : Source) (files : FileTree) (xml : String)
    (t : Transformed) (text : String) (place : Place) : Prop where
  fetch : source.fetch files = .ok xml
  transform : (settings.transform xml).result = .ok t
  header : files.readText settings.header = .ok text
  output : files.placeToWrite settings.output = .ok place

theorem Steps.generate {xml text : String} {t : Transformed} {place : Place}
    (h : settings.Steps source files xml t text place) :
    (settings.generate source files).result = .ok t.report ∧
      (settings.generate source files).files =
        files.set place (.file (assemble text t.blocks).toUTF8) := by
  have hw : writeOutput files settings.header t.blocks settings.output =
      .ok (files.set place (.file (assemble text t.blocks).toUTF8)) :=
    writeOutput_eq_ok h.header h.output
  simp [Settings.generate, h.fetch, h.transform, hw]

-- A run that fails has not touched anything, and one that succeeds has set a single file.
theorem generate_cases (settings : Settings) (source : Source) (files : FileTree) :
    (∃ e, settings.FirstError source files e ∧ (settings.generate source files).result = .error e ∧
      (settings.generate source files).files = files) ∨
    ∃ xml t text place, settings.Steps source files xml t text place ∧
      (settings.generate source files).result = .ok t.report ∧
      (settings.generate source files).files =
        files.set place (.file (assemble text t.blocks).toUTF8) := by
  cases hf : source.fetch files
  case error e => exact .inl ⟨e, .fetch hf, by simp [generate, hf]⟩
  case ok xml =>
    cases ht : (settings.transform xml).result
    case error e => exact .inl ⟨e, .transform hf ht, by simp [generate, hf, ht]⟩
    case ok t =>
      obtain ⟨fault, hh, hw⟩ | ⟨text, fault, hh, ho, hw⟩ | ⟨text, place, hh, ho, hw⟩ :=
        writeOutput_cases files settings.header t.blocks settings.output
      · exact .inl ⟨_, .header hf ht hh, by simp [generate, hf, ht, hw]⟩
      · exact .inl ⟨_, .output hf ht hh ho, by simp [generate, hf, ht, hw]⟩
      · have hs : settings.Steps source files xml t text place := ⟨hf, ht, hh, ho⟩
        exact .inr ⟨xml, t, text, place, hs, hs.generate⟩

theorem FirstError.unique {e₁ e₂ : Error} (h₁ : settings.FirstError source files e₁)
    (h₂ : settings.FirstError source files e₂) : e₁ = e₂ := by
  cases h₁ <;> cases h₂ <;> simp_all

theorem FirstError.not_steps {xml text : String} {t : Transformed} {place : Place}
    (h : settings.FirstError source files e) :
    ¬settings.Steps source files xml t text place := by
  rintro ⟨_, _, _, _⟩
  cases h <;> simp_all

theorem generate_eq_error :
    (settings.generate source files).result = .error e ↔ settings.FirstError source files e := by
  constructor
  case mp =>
    intro h
    obtain ⟨e', he, hr, _⟩ | ⟨_, _, _, _, _, hr, _⟩ := settings.generate_cases source files
    · cases hr.symm.trans h
      exact he
    · cases hr.symm.trans h
  case mpr =>
    intro h
    obtain ⟨e', he, hr, _⟩ | ⟨_, _, _, _, hs, _⟩ := settings.generate_cases source files
    · rw [h.unique he, hr]
    · exact absurd hs h.not_steps

-- A run is all or nothing: after an error no file has changed, and otherwise only the generated
-- file has, which then holds the header and the blocks whatever it held before.
theorem generate_all_or_nothing (settings : Settings) (source : Source) (files : FileTree) :
    (∀ e, (settings.generate source files).result = .error e ↔ settings.FirstError source files e) ∧
    (∀ e, (settings.generate source files).result = .error e →
      (settings.generate source files).files = files) ∧
    ∀ report, (settings.generate source files).result = .ok report →
      ∃ xml blocks header place, source.fetch files = .ok xml ∧
        (settings.transform xml).result = .ok ⟨blocks, report⟩ ∧
        files.read settings.header = .ok header.toUTF8 ∧
        files.placeToWrite settings.output = .ok place ∧
        (settings.generate source files).files.read settings.output =
          .ok (header ++ "\n\n".intercalate blocks).toUTF8 ∧
        (settings.generate source files).files.get? place =
          some (.file (header ++ "\n\n".intercalate blocks).toUTF8) ∧
        ∀ p ≠ place, (settings.generate source files).files.get? p = files.get? p := by
  refine ⟨fun _ => generate_eq_error, fun e h => ?error, fun report h => ?ok⟩
  case error =>
    obtain ⟨_, _, _, hn⟩ | ⟨_, _, _, _, _, hr, _⟩ := settings.generate_cases source files
    · exact hn
    · cases hr.symm.trans h
  case ok =>
    obtain ⟨_, _, hr, _⟩ | ⟨xml, t, text, place, hs, hr, hf⟩ := settings.generate_cases source files
    · cases hr.symm.trans h
    · cases hr.symm.trans h
      have hp := FileTree.ne_nil_of_placeToWrite hs.output
      rw [hf]
      exact ⟨xml, t.blocks, text, place, hs.fetch, hs.transform,
        FileTree.readText_eq_ok.mp hs.header, hs.output, FileTree.read_set hs.output,
        FileTree.get?_set_self hp, fun p hne => FileTree.get?_set_of_ne hne⟩

end Settings
end ApiStubs
