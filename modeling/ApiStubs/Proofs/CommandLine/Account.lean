import ApiStubs.Proofs.CommandLine.Stage
import ApiStubs.Proofs.Regeneration

/-!
What the log says of the entries of a feed: how many there are, which ones are left out for their
version, and in the end how many were rendered. A run that stops at an element that is no entry has
logged what is left out before it, and nothing of an end.
-/

namespace ApiStubs

variable {settings : Settings} {source : Source} {files : FileTree} {net : Net} {options : Options}
  {elements before after : List Xml.Element} {e : Xml.Element} {entry : Entry}
  {entries : List Entry} {t : Transformed} {xml : String} {err : Error} {report : Report}

-- Whether an event tells that a run has come to its end.
def Event.isEnd : Event → Bool
  | wrote .. | done .. => true
  | _ => false

namespace Settings

-- Whether an entry is left out for its version. The constructor is left out for its name, however
-- new it is.
def isTooNew (settings : Settings) (entry : Entry) : Bool :=
  entry.name ≠ constructorName ∧ ¬settings.versions.admits entry.added

-- What is logged while entries are rendered.
def skips (settings : Settings) (entries : List Entry) : List Event :=
  (entries.filter settings.isTooNew).map fun entry => .tooNew entry.name entry.added

theorem skips_cons (settings : Settings) (entry : Entry) (entries : List Entry) :
    settings.skips (entry :: entries) = settings.skips [entry] ++ settings.skips entries := by
  simp only [skips, ← List.map_append, ← List.filter_append, List.singleton_append]

theorem length_skips (h : t.Renders settings entries) :
    (settings.skips entries).length = t.report.skippedVersion := by
  rw [skips, List.length_map, h.skippedVersion, List.countP_eq_length_filter]
  rfl

theorem not_isEnd_skips : ∀ event ∈ settings.skips entries, ¬event.isEnd := by
  intro event hm
  obtain ⟨entry, _, rfl⟩ := List.mem_map.mp hm
  simp [Event.isEnd]

-- What one entry adds to the log.
theorem log_transformElements_cons (he : Entry.ofElement e = .ok entry) :
    (settings.transformElements (e :: after)).log =
      settings.skips [entry] ++ (settings.transformElements after).log := by
  by_cases hn : entry.name = constructorName
  case pos => simp [transformElements, he, hn, Logged.map, skips, isTooNew]
  case neg =>
    by_cases ha : settings.versions.admits entry.added
    case pos => simp [transformElements, he, hn, ha, Logged.map, skips, isTooNew]
    case neg => simp [transformElements, he, hn, ha, Logged.map, Logged.cons, skips, isTooNew]

theorem log_transformElements_append (h : before.map Entry.ofElement = entries.map .ok) :
    (settings.transformElements (before ++ after)).log =
      settings.skips entries ++ (settings.transformElements after).log := by
  induction before generalizing entries
  case nil =>
    obtain rfl : entries = [] := by simpa using h.symm
    rfl
  case cons e before hi =>
    cases entries <;> simp at h
    case cons entry entries =>
      rw [List.cons_append, log_transformElements_cons h.left, hi h.right,
        skips_cons settings entry entries, List.append_assoc]

theorem log_transformElements (h : elements.map Entry.ofElement = entries.map .ok) :
    (settings.transformElements elements).log = settings.skips entries := by
  have hl : (settings.transformElements (elements ++ [])).log = settings.skips entries ++ [] :=
    log_transformElements_append h
  rwa [List.append_nil, List.append_nil] at hl

-- The first element that is no entry ends the log.
theorem log_transformElements_of_error (hb : before.map Entry.ofElement = entries.map .ok)
    (he : Entry.ofElement e = .error err) :
    (settings.transformElements (before ++ e :: after)).log = settings.skips entries := by
  have hl : (settings.transformElements (e :: after)).log = [] := by simp [transformElements, he]
  rw [log_transformElements_append hb, hl, List.append_nil]

theorem log_transform (hs : selectEntries xml = .ok elements) :
    (settings.transform xml).log =
      .selected elements.length :: (settings.transformElements elements).log := by
  simp only [transform, hs, Logged.cons]

end Settings

-- What is logged until there is a feed.
def Source.opening (source : Source) (xml : String) : List Event :=
  .fetching source.describe :: source.events xml

theorem Source.not_isEnd_opening : ∀ event ∈ source.opening xml, ¬event.isEnd := by
  cases source <;> simp [opening, events, Event.isEnd]

namespace Settings

theorem log_generate_of_ok (hf : source.fetch files = .ok xml)
    (h : (settings.generate source files).result = .ok report) :
    (settings.generate source files).log =
      source.opening xml ++ (settings.transform xml).log ++
        [.wrote settings.output report.rendered] := by
  obtain ⟨_, _, hr, _⟩ | ⟨xml', t, text, place, hs, hr, _⟩ := settings.generate_cases source files
  case inl => cases hr.symm.trans h
  case inr =>
    cases hf.symm.trans hs.fetch
    cases hr.symm.trans h
    simp [generate, hs.fetch, hs.transform, writeOutput_eq_ok hs.header hs.output, Source.opening]

theorem log_generate_of_transform (hf : source.fetch files = .ok xml)
    (ht : (settings.transform xml).result = .error err) :
    (settings.generate source files).log = source.opening xml ++ (settings.transform xml).log := by
  simp [generate, hf, ht, Source.opening]

end Settings

namespace Options

-- The settings of a run, its feed and the elements that are entries of it, in document order.
structure Selects (options : Options) (files : FileTree) (net : Net) (settings : Settings)
    (xml : String) (elements : List Xml.Element) : Prop where
  resolved : options.settings files = .ok settings
  fetch : (options.source settings net).fetch files = .ok xml
  elements : ∃ d, readDocument xml = .ok d ∧
    elements = (d.occurrences.filter (·.isRendered)).map (·.element)

theorem Selects.selectEntries (h : options.Selects files net settings xml elements) :
    Settings.selectEntries xml = .ok elements := by
  obtain ⟨d, hd, rfl⟩ := h.elements
  simp only [Settings.selectEntries, hd, bind, Except.bind]
  exact select_eq_rendered (distinct_of_readDocument hd)

theorem Selects.unique {settings' : Settings} {xml' : String} {elements' : List Xml.Element}
    (h : options.Selects files net settings xml elements)
    (h' : options.Selects files net settings' xml' elements') :
    settings = settings' ∧ xml = xml' ∧ elements = elements' := by
  cases h.resolved.symm.trans h'.resolved
  cases h.fetch.symm.trans h'.fetch
  cases h.selectEntries.symm.trans h'.selectEntries
  exact ⟨rfl, rfl, rfl⟩

theorem run_of_generate_ok (hs : options.settings files = .ok settings)
    (hg : (settings.generate (options.source settings net) files).result = .ok report) :
    (options.run files net).result = .ok () ∧
      (options.run files net).log =
        (settings.generate (options.source settings net) files).log ++
          [.done report settings.versions] := by
  simp [run, hs, hg]

theorem run_of_generate_error (hs : options.settings files = .ok settings)
    (hg : (settings.generate (options.source settings net) files).result = .error err) :
    (∃ failure, (options.run files net).result = .error failure ∧ failure.cause = err) ∧
      (options.run files net).log =
        (settings.generate (options.source settings net) files).log := by
  simp [run, hs, hg]

-- A run that succeeds has selected entries, and these are all that it has rendered.
theorem exists_steps_of_run (h : (options.run files net).result = .ok ()) :
    ∃ (settings : Settings) (xml : String) (elements : List Xml.Element) (entries : List Entry)
      (t : Transformed), options.Selects files net settings xml elements ∧
      elements.map Entry.ofElement = entries.map .ok ∧ t.Renders settings entries ∧
      (settings.generate (options.source settings net) files).result = .ok t.report := by
  cases hs : options.settings files
  case error failure => simp [run, hs] at h
  case ok settings =>
    obtain ⟨err, _, hr, _⟩ | ⟨xml, t, _, _, hp, hr, _⟩ :=
      settings.generate_cases (options.source settings net) files
    case inl =>
      obtain ⟨⟨failure, hf, _⟩, _⟩ := run_of_generate_error hs hr
      cases hf.symm.trans h
    case inr =>
      obtain ⟨d, elements, hd, hsel, ht⟩ := Settings.exists_of_transform hp.transform
      obtain ⟨entries, hm, hrt⟩ := Settings.renders_of_transformElements ht
      rw [select_eq_rendered (distinct_of_readDocument hd)] at hsel
      cases hsel
      exact ⟨settings, xml, _, entries, t, ⟨hs, hp.fetch, d, hd, rfl⟩, hm, hrt, hr⟩

theorem log_run_of_ok (h : (options.run files net).result = .ok ()) :
    ∃ (settings : Settings) (xml : String) (elements : List Xml.Element) (entries : List Entry)
      (t : Transformed), options.Selects files net settings xml elements ∧
      elements.map Entry.ofElement = entries.map .ok ∧ t.Renders settings entries ∧
      (options.run files net).log =
        (options.source settings net).opening xml ++
          .selected elements.length :: settings.skips entries ++
          [.wrote settings.output t.report.rendered, .done t.report settings.versions] := by
  obtain ⟨settings, xml, elements, entries, t, hs, hm, hr, hg⟩ := exists_steps_of_run h
  refine ⟨settings, xml, elements, entries, t, hs, hm, hr, ?_⟩
  obtain ⟨_, hl⟩ := run_of_generate_ok hs.resolved hg
  rw [hl, Settings.log_generate_of_ok hs.fetch hg, Settings.log_transform hs.selectEntries,
    Settings.log_transformElements hm]
  simp only [List.append_assoc, List.cons_append, List.nil_append]

-- An element that is no entry ends the run, and the log ends before it.
theorem log_run_of_error (hs : options.Selects files net settings xml (before ++ e :: after))
    (hb : ∀ b ∈ before, ∃ entry, Entry.ofElement b = .ok entry)
    (he : Entry.ofElement e = .error err) :
    (∃ failure, (options.run files net).result = .error failure ∧ failure.cause = err) ∧
      ∃ entries : List Entry, before.map Entry.ofElement = entries.map .ok ∧
        (options.run files net).log =
          (options.source settings net).opening xml ++
            .selected (before ++ e :: after).length :: settings.skips entries := by
  have ht : (settings.transform xml).result = .error err := by
    simp only [Settings.transform, hs.selectEntries, Logged.cons]
    exact Settings.transformElements_eq_error hb he
  have hg := Settings.generate_eq_error.mpr (.transform hs.fetch ht)
  obtain ⟨hf, hl⟩ := run_of_generate_error hs.resolved hg
  obtain ⟨entries, hm⟩ := exists_map_eq_ok hb
  refine ⟨hf, entries, hm, ?_⟩
  rw [hl, Settings.log_generate_of_transform hs.fetch ht, Settings.log_transform hs.selectEntries,
    Settings.log_transformElements_of_error hm he]

-- The log of a run that succeeds accounts for every entry: all are counted when they are selected
-- and in the end, and those that are too new are named in between. The log of a run that stops at
-- an element that is no entry names those before it, and says nothing of an end.
theorem run_accounts (options : Options) (files : FileTree) (net : Net) :
    ((options.run files net).result = .ok () →
      ∃ (settings : Settings) (xml : String) (elements : List Xml.Element) (entries : List Entry)
        (t : Transformed), options.Selects files net settings xml elements ∧
        elements.map Entry.ofElement = entries.map .ok ∧ t.Renders settings entries ∧
        (options.run files net).log =
          (options.source settings net).opening xml ++
            .selected elements.length :: settings.skips entries ++
            [.wrote settings.output t.report.rendered, .done t.report settings.versions] ∧
        elements.length =
          t.report.rendered + t.report.skippedConstructor + t.report.skippedVersion ∧
        (settings.skips entries).length = t.report.skippedVersion) ∧
    ∀ (settings : Settings) (xml : String) (elements : List Xml.Element),
      options.Selects files net settings xml elements →
      (∃ e ∈ elements, ∃ err, Entry.ofElement e = .error err) →
        ∃ (before : List Xml.Element) (e : Xml.Element) (after : List Xml.Element)
          (entries : List Entry) (failure : Failure), elements = before ++ e :: after ∧
          before.map Entry.ofElement = entries.map .ok ∧
          Entry.ofElement e = .error failure.cause ∧
          (options.run files net).result = .error failure ∧
          (options.run files net).log =
            (options.source settings net).opening xml ++
              .selected elements.length :: settings.skips entries ∧
          ∀ event ∈ (options.run files net).log, ¬event.isEnd := by
  refine ⟨fun h => ?ok, fun settings xml elements hs h => ?error⟩
  case ok =>
    obtain ⟨settings, xml, elements, entries, t, hs, hm, hr, hl⟩ := log_run_of_ok h
    have hc : elements.length = entries.length := by simpa using congrArg List.length hm
    exact ⟨settings, xml, elements, entries, t, hs, hm, hr, hl, hc.trans hr.total.symm,
      Settings.length_skips hr⟩
  case error =>
    obtain ⟨before, e, after, err, rfl, hb, he⟩ := exists_first_error h
    obtain ⟨⟨failure, hf, rfl⟩, entries, hm, hl⟩ := log_run_of_error hs hb he
    refine ⟨before, e, after, entries, failure, rfl, hm, he, hf, hl, ?_⟩
    rw [hl, List.forall_mem_append, List.forall_mem_cons]
    exact ⟨Source.not_isEnd_opening, by simp [Event.isEnd], Settings.not_isEnd_skips⟩

-- Options for which an entry that says nothing of its version is too new.
def oldOptions : Options where
  input := some "api.xml"
  versions := some "0.9"
  output := some "stubs.js"
  header := some "header.js"

-- A feed with an entry that has no name.
def namelessFeed : String :=
  "<entries><entry type=\"method\" name=\"hide\"/><entry type=\"method\"/></entries>"

def namelessFiles : FileTree where
  nodes := [(["api.xml"], .file namelessFeed.toUTF8)]

def namelessDocument : Xml.Document :=
  entriesDocument [Settings.hideElement.node, (namelessElement "method").node]

theorem selects_hideFiles :
    oldOptions.Selects Settings.hideFiles .none (oldOptions.applyTo {}) Settings.hideFeed
      [Settings.hideElement] where
  resolved := settings_of_none rfl rfl
  fetch := Source.fetch_eq_ok <| FileTree.readText_of_file (by decide) rfl
  elements := ⟨Settings.hideDocument, by cbv, rfl⟩

theorem selects_namelessFiles :
    oldOptions.Selects namelessFiles .none (oldOptions.applyTo {}) namelessFeed
      [Settings.hideElement, namelessElement "method"] where
  resolved := settings_of_none rfl rfl
  fetch := Source.fetch_eq_ok <| FileTree.readText_of_file (by decide) rfl
  elements := ⟨namelessDocument, by cbv, rfl⟩

theorem run_hideFiles : (oldOptions.run Settings.hideFiles).result = .ok () := by
  have hs := selects_hideFiles
  have ht : ((oldOptions.applyTo {}).transformElements [Settings.hideElement]).result =
      .ok { report := { skippedVersion := 1 } } :=
    rfl
  have hp : (oldOptions.applyTo {}).Steps (.file "api.xml") Settings.hideFiles Settings.hideFeed
      { report := { skippedVersion := 1 } } "var $;\n" ["stubs.js"] := by
    constructor
    case fetch     => exact hs.fetch
    case transform => simpa only [Settings.transform, hs.selectEntries, Logged.cons] using ht
    case header    => exact FileTree.readText_of_file (by decide) rfl
    case output    =>
      have hg : Settings.hideFiles.get? (Settings.hideFiles.here ++ ["stubs.js"]) =
          some (.file "stale".toUTF8) :=
        rfl
      have hw : Settings.hideFiles.placeToWrite "stubs.js" =
          .ok (Settings.hideFiles.here ++ ["stubs.js"]) :=
        FileTree.placeToWrite_of_plain (by decide) (by simp [hg])
      exact hw
  exact (run_of_generate_ok hs.resolved hp.generate.left).left

-- The entry of the feed, which is the only one, is too new.
theorem log_of_hideFiles
    (hs : oldOptions.Selects Settings.hideFiles .none settings xml elements)
    (hm : elements.map Entry.ofElement = entries.map .ok) (hr : t.Renders settings entries) :
    (oldOptions.source settings).opening xml ++
        .selected elements.length :: settings.skips entries ++
        [.wrote settings.output t.report.rendered, .done t.report settings.versions] =
      [.fetching "api.xml", .selected 1, .tooNew "hide" "1.0", .wrote "stubs.js" 0,
        .done { skippedVersion := 1 } (.upTo "0.9")] := by
  have hide : Entry.ofElement Settings.hideElement = .ok { name := "hide", kind := .method } := rfl
  obtain ⟨rfl, rfl, rfl⟩ := hs.unique selects_hideFiles
  obtain rfl : entries = [{ name := "hide", kind := .method }] := by
    simpa [hide, List.map_eq_cons_iff, eq_comm] using hm
  have hrendered : t.report.rendered = 0 := by
    rw [hr.rendered, hr.blocks]
    rfl
  have hconstructor : t.report.skippedConstructor = 0 := hr.skippedConstructor
  have hversion : t.report.skippedVersion = 1 := hr.skippedVersion
  have ht : t.report = { skippedVersion := 1 } := by
    cases h : t.report
    simp_all
  rw [ht]
  rfl

theorem log_run_hideFiles :
    (oldOptions.run Settings.hideFiles).log =
      [.fetching "api.xml", .selected 1, .tooNew "hide" "1.0", .wrote "stubs.js" 0,
        .done { skippedVersion := 1 } (.upTo "0.9")] := by
  obtain ⟨settings, xml, elements, entries, t, hs, hm, hr, hl⟩ := log_run_of_ok run_hideFiles
  exact hl.trans (log_of_hideFiles hs hm hr)

theorem run_accounts_hideFiles :
    (oldOptions.run Settings.hideFiles).result = .ok () ∧
      (oldOptions.run Settings.hideFiles).log =
        [.fetching "api.xml", .selected 1, .tooNew "hide" "1.0", .wrote "stubs.js" 0,
          .done { skippedVersion := 1 } (.upTo "0.9")] ∧
      ∃ failure, (oldOptions.run namelessFiles).result = .error failure ∧
        (oldOptions.run namelessFiles).log =
          [.fetching "api.xml", .selected 2, .tooNew "hide" "1.0"] := by
  have hide : Entry.ofElement Settings.hideElement = .ok { name := "hide", kind := .method } := rfl
  have hn : Entry.ofElement (namelessElement "method") =
      .error (.missingAttribute "entry" "name" "?") :=
    rfl
  obtain ⟨hok, _⟩ := run_accounts oldOptions Settings.hideFiles .none
  obtain ⟨_, herror⟩ := run_accounts oldOptions namelessFiles .none
  refine ⟨run_hideFiles, ?ok, ?error⟩
  case ok =>
    obtain ⟨settings, xml, elements, entries, t, hs, hm, hr, hl, _⟩ := hok run_hideFiles
    exact hl.trans (log_of_hideFiles hs hm hr)
  case error =>
    obtain ⟨before, e, after, entries, failure, hb, hm, he, hf, hl, _⟩ :=
      herror _ _ _ selects_namelessFiles ⟨namelessElement "method", by simp, _, hn⟩
    refine ⟨failure, hf, ?_⟩
    cases before
    case nil =>
      cases hb
      cases hide.symm.trans he
    case cons b rest =>
      -- The element without a name is the only one after the first.
      obtain ⟨rfl, hb⟩ := List.cons.inj hb
      obtain rfl : rest = [] := by
        cases rest
        case nil  => rfl
        case cons => simp at hb
      obtain rfl : entries = [{ name := "hide", kind := .method }] := by
        simpa [hide, List.map_eq_cons_iff, eq_comm] using hm
      exact hl

end Options
end ApiStubs
