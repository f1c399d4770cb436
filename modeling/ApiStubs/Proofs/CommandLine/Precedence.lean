import ApiStubs.CommandLine.Program
import ApiStubs.Proofs.Files.Access
import ApiStubs.Proofs.Toml.Reading
import ApiStubs.Proofs.Toml.Written

/-!
Where the settings of a run come from: an option wins over the configuration file, and the file over
the built-in settings. A file that is named is never passed over.
-/

namespace ApiStubs

open Toml (Assignment Holds Statement Value WrittenLines assignments? givenBy valueAt?)

variable {files : FileTree} {options : Options} {layer : Layer} {path text : String} {net : Net}
  {assigned : List Assignment}

-- A file that no layer can be read from: there is no text, or the text is refused.
inductive Unusable (files : FileTree) (path : String) : Prop
  | unreadable {fault : FileFault} (read : files.readText path = .error fault)
  | refused {text : String} {e : Toml.Error} (read : files.readText path = .ok text)
    (parse : Toml.readLayer text = .error e)

theorem loadLayer_eq_ok :
    loadLayer files path = .ok layer ↔
      ∃ text, files.readText path = .ok text ∧ Toml.readLayer text = .ok layer := by
  cases hr : files.readText path
  case error fault => simp [loadLayer, hr, Except.mapError, bind, Except.bind]
  case ok text =>
    cases hl : Toml.readLayer text <;>
      simp [loadLayer, hr, hl, Except.mapError, bind, Except.bind]

theorem unusable_iff : Unusable files path ↔ ∃ cause, loadLayer files path = .error cause := by
  constructor
  case mp =>
    rintro (hr | ⟨hr, hl⟩)
    · simp [loadLayer, hr, Except.mapError, bind, Except.bind]
    · simp [loadLayer, hr, hl, Except.mapError, bind, Except.bind]
  case mpr =>
    rintro ⟨cause, h⟩
    cases hr : files.readText path
    case error fault => exact .unreadable hr
    case ok text =>
      cases hl : Toml.readLayer text
      case error e  => exact .refused hr hl
      case ok layer => cases h.symm.trans (loadLayer_eq_ok.mpr ⟨text, hr, hl⟩)

-- A text is refused exactly if its statements may not be given together.
theorem unusable_iff_of_text (hr : files.readText path = .ok text) :
    Unusable files path ↔ assignments? text = none := by
  obtain ⟨ha, e, he⟩ | ⟨assigned, layer, ha, hl, _⟩ := Toml.readLayer_cases text
  case inl => exact iff_of_true (.refused hr he) ha
  case inr =>
    have ho := loadLayer_eq_ok.mpr ⟨text, hr, hl⟩
    exact iff_of_false (by simp [unusable_iff, ho]) (by simp [ha])

namespace Options

theorem configPath?_eq_some :
    options.configPath? files = some path ↔
      options.config = some path ∨
        options.config = none ∧ path = defaultConfig ∧
          ∃ content, files.get? (files.here ++ [defaultConfig]) = some (.file content) := by
  rw [← FileTree.isFile_of_plain (by decide)]
  cases hc : options.config
  case some other => simp [configPath?, hc]
  case none =>
    by_cases hf : files.isFile defaultConfig
    case pos => simp [configPath?, hc, hf, eq_comm]
    case neg => simp [configPath?, hc, hf]

-- What is assigned between the built-in settings and the options: by the file, or nothing.
inductive Reads (options : Options) (files : FileTree) : List Assignment → Prop
  | file {path text : String} {assigned : List Assignment}
    (configPath : options.configPath? files = some path) (read : files.readText path = .ok text)
    (parse : assignments? text = some assigned) : Reads options files assigned
  | nothing (configPath : options.configPath? files = none) : Reads options files []

theorem Reads.not_unusable (h : options.Reads files assigned)
    (hc : options.configPath? files = some path) : ¬Unusable files path := by
  cases h
  case nothing hc' => cases hc.symm.trans hc'
  case file text hc' hr ha =>
    cases hc.symm.trans hc'
    simp [unusable_iff_of_text hr, ha]

-- What the settings of a run are, given the options and what is assigned below them. Of a table
-- that has a name twice, the first entry counts.
structure Resolves (options : Options) (assigned : List Assignment) (settings : Settings) :
    Prop where
  url : settings.url =
    (options.url.or (valueAt? Value.text? ["url"] assigned)).getD ({} : Settings).url
  versions : settings.versions =
    (options.versions.or (valueAt? Value.text? ["target_version"] assigned)).elim .latest
      fun version => if version = "latest" then .latest else .upTo version
  singleType : settings.singleType =
    if options.unionTypes then false
    else (valueAt? Value.boolean? ["single_return_type"] assigned).getD true
  output : settings.output =
    (options.output.or (valueAt? Value.text? ["output"] assigned)).getD ({} : Settings).output
  header : settings.header =
    (options.header.or (valueAt? Value.text? ["header"] assigned)).getD ({} : Settings).header
  owners (key : String) : settings.owners.find? key =
    (valueAt? Value.text? ["owners", key] assigned).or
      ((List.find? (·.1 = key) ({} : Settings).owners).map (·.2))
  types (key : String) : settings.types.find? key =
    (valueAt? Value.text? ["types", key] assigned).or
      ((List.find? (·.1 = key) ({} : Settings).types).map (·.2))

theorem resolves_applyTo (options : Options) (hd : layer.Distinct) (hh : Holds assigned layer) :
    options.Resolves assigned (options.applyTo (layer.applyTo {})) where
  url := by rw [← hh.url, Option.getD_or]; rfl
  versions := by
    rw [← hh.versions]
    cases ho : options.versions <;> cases hl : layer.versions <;>
      simp [applyTo, Layer.applyTo, ho, hl, VersionFilter.read]
  singleType := by rw [← hh.singleType]; rfl
  output := by rw [← hh.output, Option.getD_or]; rfl
  header := by rw [← hh.header, Option.getD_or]; rfl
  owners key := by
    rw [← hh.owners, ← Table.find?_eq_map_find?, ← Table.find?_merge hd.owners]
    rfl
  types key := by
    rw [← hh.types, ← Table.find?_eq_map_find?, ← Table.find?_merge hd.types]
    rfl

theorem resolves_of_nothing (options : Options) : options.Resolves [] (options.applyTo {}) :=
  have hd : Layer.Distinct {} := ⟨List.nodup_nil, List.nodup_nil⟩
  options.resolves_applyTo hd Toml.holds_nil

theorem settings_cases (options : Options) (files : FileTree) :
    (∃ path cause, options.configPath? files = some path ∧
      loadLayer files path = .error cause ∧
      options.settings files = .error ⟨"failed to load " ++ path, cause⟩) ∨
    ∃ assigned settings, options.Reads files assigned ∧ options.settings files = .ok settings ∧
      options.Resolves assigned settings := by
  cases hc : options.configPath? files
  case none =>
    exact .inr ⟨[], _, .nothing hc, by simp only [settings, hc], options.resolves_of_nothing⟩
  case some path =>
    cases hl : loadLayer files path
    case error cause => exact .inl ⟨path, cause, rfl, hl, by simp only [settings, hc, hl]⟩
    case ok layer =>
      have ⟨text, hr, ht⟩ := loadLayer_eq_ok.mp hl
      have hd := Toml.readLayer_yields_distinct text layer ht
      obtain ⟨_, _, he⟩ | ⟨assigned, _, ha, ht', hh⟩ := Toml.readLayer_cases text
      case inl => cases ht.symm.trans he
      case inr =>
        cases ht.symm.trans ht'
        refine .inr ⟨assigned, _, .file hc hr ha, ?_, options.resolves_applyTo hd hh⟩
        simp only [settings, hc, hl]

-- A configuration file with statements on lines of their own is used if these may be given
-- together, and it assigns what they say.
theorem settings_of_writtenLines {statements : List Statement} {lines : List Char}
    (hc : options.configPath? files = some path)
    (hr : files.readText path = .ok (String.ofList lines)) (hw : WrittenLines statements lines)
    (hp : (givenBy [] statements).Proper) :
    ∃ settings, options.settings files = .ok settings ∧
      options.Resolves (givenBy [] statements).assigned settings := by
  have ha : assignments? (String.ofList lines) = some (givenBy [] statements).assigned := by
    rw [Toml.assignments?_of_writtenLines hw, if_pos hp]
  obtain ⟨_, cause, hc', hl, _⟩ | ⟨_, settings, hs, ho, hv⟩ := options.settings_cases files
  case inl =>
    cases hc.symm.trans hc'
    cases ha.symm.trans ((unusable_iff_of_text hr).mp (unusable_iff.mpr ⟨cause, hl⟩))
  case inr =>
    cases hs
    case nothing hc' => cases hc.symm.trans hc'
    case file hc' hr' ha' =>
      cases hc.symm.trans hc'
      cases hr.symm.trans hr'
      cases ha.symm.trans ha'
      exact ⟨settings, ho, hv⟩

-- The configuration file is the one that is named, or the default one if there is such a file.
-- Settings fail exactly if there is a configuration file that cannot be used. Otherwise every field
-- is that of the options, else what the file assigns, else the built-in one, and the feed comes
-- from the file that is named or from the resulting URL. With statements on lines of their own a
-- file assigns what they say.
theorem settings_precedence (options : Options) (files : FileTree) (net : Net) :
    (∀ path, options.configPath? files = some path ↔
      options.config = some path ∨
        options.config = none ∧ path = defaultConfig ∧
          ∃ content, files.get? (files.here ++ [defaultConfig]) = some (.file content)) ∧
    ((∃ failure, options.settings files = .error failure) ↔
      ∃ path, options.configPath? files = some path ∧ Unusable files path) ∧
    (∀ (path : String) (statements : List Statement) (lines : List Char),
      options.configPath? files = some path → files.readText path = .ok (String.ofList lines) →
      WrittenLines statements lines → (givenBy [] statements).Proper →
        ∃ settings, options.settings files = .ok settings ∧
          options.Resolves (givenBy [] statements).assigned settings) ∧
    ∀ settings, options.settings files = .ok settings →
      (∃ assigned, options.Reads files assigned ∧ options.Resolves assigned settings) ∧
      (∀ path, options.input = some path → options.source settings net = .file path) ∧
      (options.input = none →
        options.source settings net = .web settings.url (net settings.url)) := by
  refine ⟨fun _ => configPath?_eq_some, ⟨?fails, ?unusable⟩,
    fun _ _ _ => settings_of_writtenLines, fun settings hs => ?_⟩
  case fails =>
    rintro ⟨failure, hf⟩
    obtain ⟨path, cause, hc, hl, _⟩ | ⟨_, _, _, hs, _⟩ := options.settings_cases files
    · exact ⟨path, hc, unusable_iff.mpr ⟨cause, hl⟩⟩
    · cases hs.symm.trans hf
  case unusable =>
    rintro ⟨path, hc, hu⟩
    obtain ⟨_, cause, _, _, hf⟩ | ⟨_, _, hr, _⟩ := options.settings_cases files
    · exact ⟨_, hf⟩
    · exact absurd hu (hr.not_unusable hc)
  refine ⟨?resolves, fun path hi => ?file, fun hi => ?web⟩
  case resolves =>
    obtain ⟨_, _, _, _, hf⟩ | ⟨assigned, _, hr, hs', hv⟩ := options.settings_cases files
    · cases hs.symm.trans hf
    · cases hs.symm.trans hs'
      exact ⟨assigned, hr, hv⟩
  case file => simp only [source, hi]
  case web  => simp only [source, hi]

def configText : String :=
  "url = \"http://localhost/api.xml\"\ntarget_version = \"latest\"\n\n[types]\nPromise = \"P\"\n"

-- A name that no setting has.
def retriesText : String :=
  "retries = \"3\"\n"

def configFiles : FileTree where
  nodes := [
    (["stubgen.toml"], .file configText.toUTF8), (["retries.toml"], .file retriesText.toUTF8)]

-- Beside a configuration file the options win, but only for what they say. A file that is named and
-- cannot be used is no reason to take the default one.
theorem settings_precedence_configFiles (net : Net) :
    let options : Options := { versions := some "1.5", output := some "stubs.js" }
    read ["--target-version", "1.5", "-o", "stubs.js"] = .ok options ∧
      options.configPath? configFiles = some "stubgen.toml" ∧
      (∃ settings, options.settings configFiles = .ok settings ∧
        settings.url = "http://localhost/api.xml" ∧ settings.versions = .upTo "1.5" ∧
        settings.singleType ∧ settings.output = "stubs.js" ∧
        settings.header = "assets/jquery-header.js" ∧
        settings.types.find? "Promise" = some "P" ∧
        settings.types.find? "Integer" = some "Number" ∧
        options.source settings net =
          .web "http://localhost/api.xml" (net "http://localhost/api.xml")) ∧
      ∃ failure, ({ config := some "retries.toml" } : Options).settings configFiles =
        .error failure := by
  intro options
  have ha : assignments? configText = some [
      (["url"], .text "http://localhost/api.xml"), (["target_version"], .text "latest"),
      (["types", "Promise"], .text "P")] := by
    decide +kernel
  have ht : configFiles.readText "stubgen.toml" = .ok configText :=
    FileTree.readText_of_file (by decide) rfl
  have hn : assignments? retriesText = none := by decide +kernel
  have hx : configFiles.readText "retries.toml" = .ok retriesText :=
    FileTree.readText_of_file (by decide) rfl
  obtain ⟨hc, hf, _, hs⟩ := options.settings_precedence configFiles net
  obtain ⟨hc', hf', _⟩ :=
    ({ config := some "retries.toml" } : Options).settings_precedence configFiles net
  have hp : options.configPath? configFiles = some "stubgen.toml" :=
    (hc _).mpr (.inr ⟨rfl, rfl, configText.toUTF8, rfl⟩)
  refine ⟨rfl, hp, ?settings, hf'.mpr ⟨"retries.toml", (hc' _).mpr (.inl rfl), ?unusable⟩⟩
  case settings =>
    cases ho : options.settings configFiles
    case error failure =>
      obtain ⟨path, hc, hu⟩ := hf.mp ⟨failure, ho⟩
      cases hp.symm.trans hc
      cases ha.symm.trans ((unusable_iff_of_text ht).mp hu)
    case ok settings =>
      obtain ⟨⟨assigned, hr, hv⟩, _, hw⟩ := hs settings ho
      have he : assigned = [
          (["url"], .text "http://localhost/api.xml"), (["target_version"], .text "latest"),
          (["types", "Promise"], .text "P")] := by
        cases hr
        case nothing hn => cases hn.symm.trans hp
        case file hc hr ha' =>
          cases hp.symm.trans hc
          cases ht.symm.trans hr
          cases ha.symm.trans ha'
          rfl
      subst he
      have hu : settings.url = "http://localhost/api.xml" := hv.url
      exact ⟨settings, rfl, hu, hv.versions, hv.singleType, hv.output, hv.header, hv.types _,
        hv.types _, by rw [hw rfl, hu]⟩
  case unusable => exact (unusable_iff_of_text hx).mpr hn

end Options
end ApiStubs
