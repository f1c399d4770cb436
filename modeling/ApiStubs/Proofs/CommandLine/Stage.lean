import ApiStubs.CommandLine.Program
import ApiStubs.Proofs.CommandLine.Precedence
import ApiStubs.Proofs.Entry.Reading
import ApiStubs.Proofs.Generate
import ApiStubs.Proofs.Transform

/-!
The stage that a failed run reports: that of the step that failed, unless this step could not read a
file that the run needs before it writes.
-/

namespace ApiStubs

variable {settings : Settings} {source : Source} {files : FileTree} {net : Net} {options : Options}
  {step step₁ step₂ : Stage} {e e₁ e₂ : Error} {failure : Failure} {path : String}

namespace Settings

-- The step of rendering a feed to a file that fails, after all steps before it went well.
inductive FailsAt (settings : Settings) (source : Source) (files : FileTree) : Stage → Error → Prop
  | fetch {e : Error} (fetch : source.fetch files = .error e) :
    FailsAt settings source files .fetch e
  | parse {xml : String} {e : Error} (fetch : source.fetch files = .ok xml)
    (parse : readDocument xml = .error e) : FailsAt settings source files .parse e
  | select {xml : String} {d : Xml.Document} {e : Error} (fetch : source.fetch files = .ok xml)
    (parse : readDocument xml = .ok d) (select : ApiStubs.select d entryQuery = .error e) :
    FailsAt settings source files .transform e
  | convert {xml : String} {d : Xml.Document} {elements : List Xml.Element} {e : Error}
    (fetch : source.fetch files = .ok xml) (parse : readDocument xml = .ok d)
    (select : ApiStubs.select d entryQuery = .ok elements)
    (convert : (settings.transformElements elements).result = .error e) :
    FailsAt settings source files .transform e
  | header {xml : String} {d : Xml.Document} {elements : List Xml.Element} {t : Transformed}
    {fault : FileFault} (fetch : source.fetch files = .ok xml) (parse : readDocument xml = .ok d)
    (select : ApiStubs.select d entryQuery = .ok elements)
    (convert : (settings.transformElements elements).result = .ok t)
    (header : files.readText settings.header = .error fault) :
    FailsAt settings source files .write (.file settings.header fault.message)
  | output {xml : String} {d : Xml.Document} {elements : List Xml.Element} {t : Transformed}
    {text : String} {fault : FileFault} (fetch : source.fetch files = .ok xml)
    (parse : readDocument xml = .ok d) (select : ApiStubs.select d entryQuery = .ok elements)
    (convert : (settings.transformElements elements).result = .ok t)
    (header : files.readText settings.header = .ok text)
    (output : files.placeToWrite settings.output = .error fault) :
    FailsAt settings source files .write (.file settings.output fault.message)

theorem FailsAt.unique (h₁ : settings.FailsAt source files step₁ e₁)
    (h₂ : settings.FailsAt source files step₂ e₂) : step₁ = step₂ ∧ e₁ = e₂ := by
  cases h₁ <;> cases h₂ <;> simp_all

theorem FirstError.exists_failsAt (h : settings.FirstError source files e) :
    ∃ step, settings.FailsAt source files step e := by
  cases h
  case fetch hf => exact ⟨_, .fetch hf⟩
  case transform xml hf ht =>
    obtain ⟨e', hd, hr⟩ | ⟨d, e', hd, hs, hr⟩ | ⟨d, elements, hd, hs, hr⟩ :=
      settings.transform_cases xml
    · cases hr.symm.trans ht
      exact ⟨_, .parse hf hd⟩
    · cases hr.symm.trans ht
      exact ⟨_, .select hf hd hs⟩
    · exact ⟨_, .convert hf hd hs (hr.symm.trans ht)⟩
  case header hf ht hh =>
    have ⟨d, elements, hd, hs, hc⟩ := exists_of_transform ht
    exact ⟨_, .header hf hd hs hc hh⟩
  case output hf ht hh ho =>
    have ⟨d, elements, hd, hs, hc⟩ := exists_of_transform ht
    exact ⟨_, .output hf hd hs hc hh ho⟩

theorem FailsAt.firstError (h : settings.FailsAt source files step e) :
    settings.FirstError source files e := by
  cases h
  case fetch hf => exact .fetch hf
  case parse hf hd =>
    exact .transform hf (by simp [transform, selectEntries, hd, bind, Except.bind])
  case select hf hd hs =>
    exact .transform hf (by simp [transform, selectEntries, hd, hs, bind, Except.bind])
  case convert hf hd hs hc => exact .transform hf ((settings.transform_result hd hs).trans hc)
  case header hf hd hs hc hh => exact .header hf ((settings.transform_result hd hs).trans hc) hh
  case output hf hd hs hc hh ho =>
    exact .output hf ((settings.transform_result hd hs).trans hc) hh ho

end Settings

theorem Answer.body_failsWith (answer : Answer) (url : String) :
    FailsWith (·.stage = .fetch) (answer.body url) := by
  cases answer
  case missing => exact .error rfl
  case unreadable status reason =>
    dsimp only [body]
    split <;> exact .error rfl
  case response status text =>
    dsimp only [body]
    split
    case isTrue  => exact .ok
    case isFalse => exact .error rfl

theorem readDocument_failsWith {xml : String} :
    FailsWith (·.stage = .parse) (readDocument xml) := by
  unfold readDocument
  cases Xml.Document.read xml
  case error => exact .error rfl
  case ok    => exact .ok

theorem select_failsWith {d : Xml.Document} {query : String} :
    FailsWith InTransform (select d query) := by
  unfold select
  split
  case h_1 => exact .error rfl
  case h_2 => exact .ok
  case h_3 => exact .error rfl

theorem Settings.transformElements_failsWith (settings : Settings) (elements : List Xml.Element) :
    FailsWith InTransform (settings.transformElements elements).result := by
  induction elements
  case nil => exact .ok
  case cons e rest hi =>
    cases he : Entry.ofElement e
    case error err =>
      simp only [transformElements, he]
      exact .error (Entry.ofElement_failsWith _ he)
    case ok entry =>
      obtain ⟨f, hf, _⟩ := settings.transformElements_cons he
      rw [hf]
      exact hi.map

namespace Source

-- The file that the feed should come from cannot be read.
def Unreadable (source : Source) (files : FileTree) : Prop :=
  ∃ path fault, source = .file path ∧ files.readText path = .error fault

theorem not_unreadable_of_fetch {xml : String} (h : source.fetch files = .ok xml) :
    ¬source.Unreadable files := by
  rintro ⟨path, fault, rfl, hr⟩
  cases h.symm.trans (fetch_eq_error hr)

-- An error about a file counts as one of writing, also when the feed is read from the file.
theorem stage_fetch (h : source.fetch files = .error e) :
    source.Unreadable files ∧ e.stage = .write ∨ ¬source.Unreadable files ∧ e.stage = .fetch := by
  cases source
  case file path =>
    cases hr : files.readText path
    case ok xml => cases h.symm.trans (fetch_eq_ok hr)
    case error fault =>
      cases h.symm.trans (fetch_eq_error hr)
      exact .inl ⟨⟨path, fault, rfl, hr⟩, rfl⟩
  case web url answer => exact .inr ⟨by simp [Unreadable], answer.body_failsWith url _ h⟩

end Source

theorem Settings.FailsAt.stage_cases (h : settings.FailsAt source files step e) :
    source.Unreadable files ∧ step = .fetch ∧ e.stage = .write ∨
      ¬source.Unreadable files ∧ e.stage = step := by
  cases h
  case fetch hf =>
    obtain ⟨hu, he⟩ | ⟨hu, he⟩ := Source.stage_fetch hf
    · exact .inl ⟨hu, rfl, he⟩
    · exact .inr ⟨hu, he⟩
  case parse hf hd =>
    exact .inr ⟨Source.not_unreadable_of_fetch hf, readDocument_failsWith _ hd⟩
  case select hf _ hs =>
    exact .inr ⟨Source.not_unreadable_of_fetch hf, select_failsWith _ hs⟩
  case convert elements hf _ _ hc =>
    have he := settings.transformElements_failsWith elements _ hc
    exact .inr ⟨Source.not_unreadable_of_fetch hf, he⟩
  case header hf _ _ _ _ => exact .inr ⟨Source.not_unreadable_of_fetch hf, rfl⟩
  case output hf _ _ _ _ _ => exact .inr ⟨Source.not_unreadable_of_fetch hf, rfl⟩

-- Before it fails, a run logs no errors.
section Log

theorem Settings.level_transformElements (settings : Settings) {elements : List Xml.Element} :
    ∀ event ∈ (settings.transformElements elements).log, event.level ≠ .error := by
  induction elements
  case nil => simp [transformElements]
  case cons e rest hi =>
    unfold transformElements
    split
    case h_1 => simp
    case h_2 =>
      split_ifs
      · exact hi
      · exact hi
      · exact List.forall_mem_cons.mpr ⟨by simp [Event.level], hi⟩

theorem Settings.level_transform (settings : Settings) (xml : String) :
    ∀ event ∈ (settings.transform xml).log, event.level ≠ .error := by
  unfold transform
  split
  case h_1 => simp
  case h_2 =>
    exact List.forall_mem_cons.mpr ⟨by simp [Event.level], settings.level_transformElements⟩

theorem Source.level_events (source : Source) (text : String) :
    ∀ event ∈ source.events text, event.level ≠ .error := by
  cases source <;> simp [events, Event.level]

theorem Settings.level_generate (settings : Settings) (source : Source) (files : FileTree) :
    ∀ event ∈ (settings.generate source files).log, event.level ≠ .error := by
  cases hf : source.fetch files
  case error => simp [generate, hf, Event.level]
  case ok xml =>
    have hs := List.forall_mem_append.mpr ⟨source.level_events xml, settings.level_transform xml⟩
    have hl : ∀ event ∈ .fetching source.describe ::
        (source.events xml ++ (settings.transform xml).log), event.level ≠ .error :=
      List.forall_mem_cons.mpr ⟨by simp [Event.level], hs⟩
    cases ht : (settings.transform xml).result
    case error => simpa [generate, hf, ht] using hl
    case ok t =>
      cases hw : writeOutput files settings.header t.blocks settings.output
      case error => simpa [generate, hf, ht, hw] using hl
      case ok =>
        have hw' : ∀ event ∈ [Event.wrote settings.output t.report.rendered],
            event.level ≠ .error :=
          List.forall_mem_singleton.mpr (by simp [Event.level])
        simpa [generate, hf, ht, hw] using List.forall_mem_append.mpr ⟨hl, hw'⟩

end Log

theorem loadLayer_eq_error (h : loadLayer files path = .error e) :
    (∃ fault, files.readText path = .error fault ∧ e.stage = .write) ∨
      ∃ text, files.readText path = .ok text ∧ e.stage = .config := by
  cases hr : files.readText path
  case error fault =>
    obtain rfl : .file path fault.message = e := by
      simpa [loadLayer, hr, Except.mapError, bind, Except.bind] using h
    exact .inl ⟨fault, rfl, rfl⟩
  case ok text =>
    refine .inr ⟨text, rfl, ?_⟩
    cases ht : Toml.readLayer text
    case error err =>
      obtain rfl : .settings err.message = e := by
        simpa [loadLayer, hr, ht, Except.mapError, bind, Except.bind] using h
      rfl
    case ok => simp [loadLayer, hr, ht, Except.mapError, bind, Except.bind] at h

theorem readText_of_load {layer : Layer} (h : loadLayer files path = .ok layer) :
    ∃ text, files.readText path = .ok text := by
  have ⟨text, hr, _⟩ := loadLayer_eq_ok.mp h
  exact ⟨text, hr⟩

namespace Options

-- The step of a run that fails, the loading of the configuration included.
inductive FailsAt (options : Options) (files : FileTree) (net : Net) : Stage → Error → Prop
  | config {path : String} {e : Error} (configPath : options.configPath? files = some path)
    (load : loadLayer files path = .error e) : FailsAt options files net .config e
  | generate {settings : Settings} {step : Stage} {e : Error}
    (resolved : options.settings files = .ok settings)
    (generate : settings.FailsAt (options.source settings net) files step e) :
    FailsAt options files net step e

-- A file that the run reads before it has a feed cannot be read.
inductive Unreadable (options : Options) (files : FileTree) (net : Net) : Prop
  | config {path : String} {fault : FileFault} (configPath : options.configPath? files = some path)
    (read : files.readText path = .error fault) : Unreadable options files net
  | source {settings : Settings} (resolved : options.settings files = .ok settings)
    (source : (options.source settings net).Unreadable files) : Unreadable options files net

-- The configuration is all that settings can fail on.
theorem settings_eq_error (h : options.settings files = .error failure) :
    ∃ path, options.configPath? files = some path ∧
      loadLayer files path = .error failure.cause := by
  obtain ⟨path, cause, hc, hl, hs⟩ | ⟨_, _, _, hs, _⟩ := options.settings_cases files
  · cases hs.symm.trans h
    exact ⟨path, hc, hl⟩
  · cases hs.symm.trans h

theorem load_of_settings {settings : Settings} (hs : options.settings files = .ok settings)
    (hc : options.configPath? files = some path) : ∃ layer, loadLayer files path = .ok layer := by
  cases hl : loadLayer files path
  case error cause => simp [Options.settings, hc, hl] at hs
  case ok layer    => exact ⟨layer, rfl⟩

theorem exists_failsAt (h : (options.run files net).result = .error failure) :
    ∃ step, options.FailsAt files net step failure.cause := by
  cases hs : options.settings files
  case error failure' =>
    obtain rfl : failure' = failure := by simpa [run, hs] using h
    have ⟨path, hc, hl⟩ := settings_eq_error hs
    exact ⟨_, .config hc hl⟩
  case ok settings =>
    cases hg : (settings.generate (options.source settings net) files).result
    case error e =>
      have ⟨step, hf⟩ := (Settings.generate_eq_error.mp hg).exists_failsAt
      simp only [run, hs, hg, Except.error.injEq] at h
      subst h
      exact ⟨step, .generate hs hf⟩
    case ok report => simp [run, hs, hg] at h

theorem FailsAt.exists_failure (h : options.FailsAt files net step e) :
    ∃ failure, (options.run files net).result = .error failure ∧ failure.cause = e := by
  cases h
  case config path hc hl =>
    exact ⟨⟨"failed to load " ++ path, e⟩, by simp [run, settings, hc, hl], rfl⟩
  case generate settings hs hg =>
    have hr := Settings.generate_eq_error.mpr hg.firstError
    exact ⟨⟨"failed to generate stubs from " ++ (options.source settings net).describe, e⟩,
      by simp [run, hs, hr], rfl⟩

theorem FailsAt.unique (h₁ : options.FailsAt files net step₁ e₁)
    (h₂ : options.FailsAt files net step₂ e₂) : step₁ = step₂ ∧ e₁ = e₂ := by
  cases h₁
  case config path₁ hc₁ hl₁ =>
    cases h₂
    case config path₂ hc₂ hl₂ =>
      cases hc₁.symm.trans hc₂
      cases hl₁.symm.trans hl₂
      exact ⟨rfl, rfl⟩
    case generate hs _ =>
      have ⟨layer, hl⟩ := load_of_settings hs hc₁
      cases hl₁.symm.trans hl
  case generate hs₁ hg₁ =>
    cases h₂
    case config path₂ hc₂ hl₂ =>
      have ⟨layer, hl⟩ := load_of_settings hs₁ hc₂
      cases hl₂.symm.trans hl
    case generate hs₂ hg₂ =>
      cases hs₁.symm.trans hs₂
      exact hg₁.unique hg₂

theorem FailsAt.stage_cases (h : options.FailsAt files net step e) :
    options.Unreadable files net ∧ (step = .config ∨ step = .fetch) ∧ e.stage = .write ∨
      ¬options.Unreadable files net ∧ e.stage = step := by
  cases h
  case config path hc hl =>
    obtain ⟨fault, hr, he⟩ | ⟨text, hr, he⟩ := loadLayer_eq_error hl
    · exact .inl ⟨.config hc hr, .inl rfl, he⟩
    · refine .inr ⟨?_, he⟩
      rintro (⟨hc', hr'⟩ | ⟨hs, _⟩)
      · cases hc.symm.trans hc'
        cases hr.symm.trans hr'
      · have ⟨layer, hl'⟩ := load_of_settings hs hc
        cases hl.symm.trans hl'
  case generate settings hs hg =>
    obtain ⟨hu, hstep, he⟩ | ⟨hu, he⟩ := hg.stage_cases
    · exact .inl ⟨.source hs hu, .inr hstep, he⟩
    · refine .inr ⟨?_, he⟩
      rintro (⟨hc, hr⟩ | ⟨hs', hu'⟩)
      · have ⟨layer, hl⟩ := load_of_settings hs hc
        have ⟨text, hr'⟩ := readText_of_load hl
        cases hr.symm.trans hr'
      · cases hs.symm.trans hs'
        exact hu hu'

theorem level_run (h : (options.run files net).result = .error failure) :
    ∀ event ∈ (options.run files net).log, event.level ≠ .error := by
  cases hs : options.settings files
  case error => simp [run, hs]
  case ok settings =>
    cases hg : (settings.generate (options.source settings net) files).result
    case error e =>
      have hl := settings.level_generate (options.source settings net) files
      simpa [run, hs, hg] using hl
    case ok report => simp [run, hs, hg] at h

theorem log_runProgram {arguments : List String} (ho : read arguments = .ok options)
    (hf : (options.run files net).result = .error failure) :
    (runProgram arguments files net).log =
      options.level.show (options.run files net).log ++
        [.failed failure.context failure.cause] := by
  simp [runProgram, ho, hf, Level.show, Event.level, Level.rank]

-- A failed run ends with one error event. Its stage is that of the step that failed, unless this
-- step could not read its file.
theorem stage_of_failed_run {arguments : List String} (ho : read arguments = .ok options)
    (hf : (options.run files net).result = .error failure) :
    (∃ before, (runProgram arguments files net).log =
        before ++ [.failed failure.context failure.cause] ∧
      ∀ event ∈ before, event.level ≠ .error) ∧
    ∃ step, options.FailsAt files net step failure.cause ∧
      (∀ step' e, options.FailsAt files net step' e → step' = step ∧ e = failure.cause) ∧
      (options.Unreadable files net ∧ (step = .config ∨ step = .fetch) ∧
          failure.cause.stage = .write ∨
        ¬options.Unreadable files net ∧ failure.cause.stage = step) := by
  refine ⟨?log, ?stage⟩
  case log =>
    exact ⟨_, log_runProgram ho hf, fun event hm => level_run hf event (List.mem_of_mem_filter hm)⟩
  case stage =>
    have ⟨step, hs⟩ := exists_failsAt hf
    exact ⟨step, hs, fun _ _ hs' => hs'.unique hs, hs.stage_cases⟩

theorem read_valued (option : ValueOption) {value : String} (hv : isOption value.toList = false)
    (hn : value ≠ "") : read [option.text, value] = .ok (option.set value {}) := by
  cases option <;>
    simp [read, readFrom, readWord, OptionName.ofLong?, ValueOption.text, give, ValueOption.get?,
      ValueOption.set, check, bind, Except.bind, hv, hn]

-- Without any configuration there are the built-in settings, and the options over them.
theorem settings_of_none (hc : options.config = none)
    (hd : files.get? (files.here ++ [defaultConfig]) = none) :
    options.settings files = .ok (options.applyTo {}) := by
  have hf : ¬files.isFile defaultConfig := FileTree.not_isFile_of_none (by decide) hd
  have hp : options.configPath? files = none := by simp [configPath?, hc, hf]
  simp [settings, hp]

-- A file that ends inside a feed.
def unclosedFiles : FileTree where
  nodes := [(["feed.xml"], .file "<entries>".toUTF8)]

theorem stage_of_unclosedFiles : ∃ options failure,
    read ["--input", "feed.xml"] = .ok options ∧
      (options.run unclosedFiles).result = .error failure ∧
      options.FailsAt unclosedFiles .none .parse failure.cause ∧ failure.cause.stage = .parse := by
  have ho : read ["--input", "feed.xml"] = .ok (ValueOption.input.set "feed.xml" {}) :=
    read_valued .input (by decide) (by decide)
  have hr : unclosedFiles.readText "feed.xml" = .ok "<entries>" :=
    FileTree.readText_of_file (by decide) rfl
  have hp : readDocument "<entries>" = .error (.malformed "an element is not closed") := by cbv
  have hf : (ValueOption.input.set "feed.xml" {}).FailsAt unclosedFiles .none .parse
      (.malformed "an element is not closed") :=
    .generate (settings_of_none rfl rfl) (.parse (Source.fetch_eq_ok hr) hp)
  obtain ⟨failure, he, hc⟩ := hf.exists_failure
  rw [← hc] at hf
  obtain ⟨_, step, _, hu, ⟨_, hs, _⟩ | ⟨_, hs⟩⟩ := stage_of_failed_run ho he
  · obtain ⟨rfl, _⟩ := hu _ _ hf
    simp at hs
  · obtain ⟨rfl, _⟩ := hu _ _ hf
    exact ⟨_, failure, ho, he, hf, hs⟩

-- A feed or a configuration that is not there is reported as if it could not be written.
theorem stage_of_missing_file :
    (∃ options failure, read ["--input", "missing.xml"] = .ok options ∧
      (options.run {}).result = .error failure ∧
      options.FailsAt {} .none .fetch failure.cause ∧ failure.cause.stage = .write) ∧
    ∃ options failure, read ["--config", "missing.toml"] = .ok options ∧
      (options.run {}).result = .error failure ∧
      options.FailsAt {} .none .config failure.cause ∧ failure.cause.stage = .write := by
  refine ⟨?input, ?config⟩
  case input =>
    have ho : read ["--input", "missing.xml"] = .ok (ValueOption.input.set "missing.xml" {}) :=
      read_valued .input (by decide) (by decide)
    have hr : ({} : FileTree).readText "missing.xml" = .error .notFound :=
      FileTree.readText_of_none (by decide) rfl
    have hf : (ValueOption.input.set "missing.xml" {}).FailsAt {} .none .fetch
        (.file "missing.xml" FileFault.notFound.message) :=
      .generate (settings_of_none rfl rfl) (.fetch (Source.fetch_eq_error hr))
    obtain ⟨failure, he, hc⟩ := hf.exists_failure
    exact ⟨_, failure, ho, he, hc ▸ hf, hc ▸ rfl⟩
  case config =>
    have ho : read ["--config", "missing.toml"] = .ok (ValueOption.config.set "missing.toml" {}) :=
      read_valued .config (by decide) (by decide)
    have hr : ({} : FileTree).readText "missing.toml" = .error .notFound :=
      FileTree.readText_of_none (by decide) rfl
    have hl : loadLayer {} "missing.toml" =
        .error (.file "missing.toml" FileFault.notFound.message) := by
      simp [loadLayer, hr, Except.mapError, bind, Except.bind]
    have hf : (ValueOption.config.set "missing.toml" {}).FailsAt {} .none .config
        (.file "missing.toml" FileFault.notFound.message) :=
      .config rfl hl
    obtain ⟨failure, he, hc⟩ := hf.exists_failure
    exact ⟨_, failure, ho, he, hc ▸ hf, hc ▸ rfl⟩

end Options
end ApiStubs
