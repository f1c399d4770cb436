import Mathlib.Data.List.Permutation
import ApiStubs.Proofs.Entry.Reading
import ApiStubs.Proofs.XPath.Selection

/-!
Rendering as filtering: which entries of a feed become blocks, which ones are only counted, and
which error ends the rendering.
-/

namespace ApiStubs

-- Whether an entry becomes a block.
def Settings.shows (settings : Settings) (entry : Entry) : Bool :=
  entry.name ≠ constructorName ∧ settings.versions.admits entry.added

-- What rendering some entries has to come to.
structure Transformed.Renders (settings : Settings) (entries : List Entry) (t : Transformed) :
    Prop where
  blocks : t.blocks = (entries.filter settings.shows).map (·.block settings)
  rendered : t.report.rendered = t.blocks.length
  skippedConstructor : t.report.skippedConstructor = entries.countP (·.name = constructorName)
  skippedVersion : t.report.skippedVersion =
    entries.countP fun e => e.name ≠ constructorName ∧ ¬settings.versions.admits e.added

namespace Transformed.Renders

variable {settings : Settings} {entries : List Entry} {entry : Entry} {t : Transformed}

theorem nil : Renders settings [] {} :=
  ⟨rfl, rfl, rfl, rfl⟩

theorem skipConstructor (h : t.Renders settings entries) (hn : entry.name = constructorName) :
    t.skipConstructor.Renders settings (entry :: entries) where
  blocks := by simp [Transformed.skipConstructor, h.blocks, Settings.shows, hn]
  rendered := h.rendered
  skippedConstructor := by simp [Transformed.skipConstructor, h.skippedConstructor, hn]
  skippedVersion := by simp [Transformed.skipConstructor, h.skippedVersion, hn]

theorem consBlock (h : t.Renders settings entries) (hn : entry.name ≠ constructorName)
    (ha : settings.versions.admits entry.added) :
    (t.consBlock (entry.block settings)).Renders settings (entry :: entries) where
  blocks := by simp [Transformed.consBlock, h.blocks, Settings.shows, hn, ha]
  rendered := by simp [Transformed.consBlock, h.rendered]
  skippedConstructor := by simp [Transformed.consBlock, h.skippedConstructor, hn]
  skippedVersion := by simp [Transformed.consBlock, h.skippedVersion, ha]

theorem skipVersion (h : t.Renders settings entries) (hn : entry.name ≠ constructorName)
    (ha : ¬settings.versions.admits entry.added) :
    t.skipVersion.Renders settings (entry :: entries) where
  blocks := by simp [Transformed.skipVersion, h.blocks, Settings.shows, ha]
  rendered := h.rendered
  skippedConstructor := by simp [Transformed.skipVersion, h.skippedConstructor, hn]
  skippedVersion := by simp [Transformed.skipVersion, h.skippedVersion, hn, ha]

-- Every entry is counted once.
theorem total (h : t.Renders settings entries) :
    t.report.rendered + t.report.skippedConstructor + t.report.skippedVersion = entries.length := by
  rw [h.rendered, h.blocks, h.skippedConstructor, h.skippedVersion, List.length_map,
    ← List.countP_eq_length_filter]
  clear h
  induction entries
  case nil => rfl
  case cons entry entries hi =>
    simp only [List.countP_cons, List.length_cons, ← hi]
    by_cases hn : entry.name = constructorName <;>
      by_cases ha : settings.versions.admits entry.added <;>
      simp [Settings.shows, hn, ha] <;> omega

end Transformed.Renders

namespace Settings

variable {settings : Settings} {elements before after : List Xml.Element} {e : Xml.Element}
  {entry : Entry} {entries : List Entry} {err : Error}

-- What one entry adds to the rendering of those after it.
theorem transformElements_cons (settings : Settings) (h : Entry.ofElement e = .ok entry) :
    ∃ f : Transformed → Transformed,
      (∀ rest, (settings.transformElements (e :: rest)).result =
        (settings.transformElements rest).result.map f) ∧
      ∀ t entries, t.Renders settings entries → (f t).Renders settings (entry :: entries) := by
  by_cases hn : entry.name = constructorName
  case pos =>
    refine ⟨.skipConstructor, fun rest => ?_, fun t entries ht => ht.skipConstructor hn⟩
    simp [transformElements, h, hn, Logged.map]
  case neg =>
    by_cases ha : settings.versions.admits entry.added
    case pos =>
      refine ⟨.consBlock (entry.block settings), fun rest => ?_, fun t entries ht => ?_⟩
      · simp [transformElements, h, hn, ha, Logged.map]
      · exact ht.consBlock hn ha
    case neg =>
      refine ⟨.skipVersion, fun rest => ?_, fun t entries ht => ht.skipVersion hn ha⟩
      simp [transformElements, h, hn, ha, Logged.map, Logged.cons]

theorem transformElements_eq_ok (settings : Settings)
    (h : elements.map Entry.ofElement = entries.map .ok) :
    ∃ t, (settings.transformElements elements).result = .ok t ∧ t.Renders settings entries := by
  induction elements generalizing entries
  case nil =>
    obtain rfl : entries = [] := by simpa using h.symm
    exact ⟨{}, rfl, .nil⟩
  case cons e rest hi =>
    cases entries <;> simp at h
    case cons entry entries =>
      have ⟨f, hf, hr⟩ := transformElements_cons settings h.left
      have ⟨t, ht, hrt⟩ := hi h.right
      exact ⟨f t, by rw [hf, ht]; rfl, hr t entries hrt⟩

-- Whether the elements before it would have been rendered does not matter.
theorem transformElements_eq_error (hb : ∀ b ∈ before, ∃ entry, Entry.ofElement b = .ok entry)
    (he : Entry.ofElement e = .error err) :
    (settings.transformElements (before ++ e :: after)).result = .error err := by
  induction before
  case nil => simp [transformElements, he]
  case cons b before hi =>
    have ⟨entry, h⟩ := hb b List.mem_cons_self
    have ⟨f, hf, _⟩ := transformElements_cons settings h
    rw [List.cons_append, hf, hi fun b' hm => hb b' (List.mem_cons_of_mem _ hm)]
    rfl

theorem transform_result (settings : Settings) {xml : String} {d : Xml.Document}
    (hd : readDocument xml = .ok d) (hs : select d entryQuery = .ok elements) :
    (settings.transform xml).result = (settings.transformElements elements).result := by
  have h : selectEntries xml = .ok elements := by
    simp only [selectEntries, hd, bind, Except.bind, hs]
  simp only [transform, h, Logged.cons]

-- Rendering a feed is rendering the selected elements, unless there is no document or no selection.
theorem transform_cases (settings : Settings) (xml : String) :
    (∃ e, readDocument xml = .error e ∧ (settings.transform xml).result = .error e) ∨
    (∃ d e, readDocument xml = .ok d ∧ select d entryQuery = .error e ∧
      (settings.transform xml).result = .error e) ∨
    ∃ d elements, readDocument xml = .ok d ∧ select d entryQuery = .ok elements ∧
      (settings.transform xml).result = (settings.transformElements elements).result := by
  cases hd : readDocument xml
  case error e =>
    exact .inl ⟨e, rfl, by simp [transform, selectEntries, hd, bind, Except.bind]⟩
  case ok d =>
    cases hs : select d entryQuery
    case error e =>
      refine .inr <| .inl ⟨d, e, rfl, hs, ?_⟩
      simp [transform, selectEntries, hd, hs, bind, Except.bind]
    case ok elements =>
      exact .inr <| .inr ⟨d, elements, rfl, hs, settings.transform_result hd hs⟩

theorem exists_of_transform {xml : String} {t : Transformed}
    (h : (settings.transform xml).result = .ok t) :
    ∃ d elements, readDocument xml = .ok d ∧ select d entryQuery = .ok elements ∧
      (settings.transformElements elements).result = .ok t := by
  obtain ⟨_, _, hr⟩ | ⟨_, _, _, _, hr⟩ | ⟨d, elements, hd, hs, hr⟩ := settings.transform_cases xml
  · cases hr.symm.trans h
  · cases hr.symm.trans h
  · exact ⟨d, elements, hd, hs, hr.symm.trans h⟩

-- Rendering elements succeeds only on entries, and then it renders all of them.
theorem renders_of_transformElements {t : Transformed}
    (h : (settings.transformElements elements).result = .ok t) :
    ∃ entries, elements.map Entry.ofElement = entries.map .ok ∧ t.Renders settings entries := by
  obtain ⟨entries, hm⟩ | ⟨before, e, after, err, rfl, hb, he⟩ :=
    map_eq_ok_or_first_error Entry.ofElement elements
  · have ⟨t', ht, hrt⟩ := settings.transformElements_eq_ok hm
    cases h.symm.trans ht
    exact ⟨entries, hm, hrt⟩
  · cases h.symm.trans (transformElements_eq_error hb he)

-- The entries of a feed, whether they become blocks or not.
def readEntries (xml : String) : Except Error (List Entry) := do
  (← selectEntries xml).mapM Entry.ofElement

-- The entries of a feed do not depend on the settings, and they are all that is rendered. If they
-- cannot be read, the error is the same for all settings.
theorem transform_of_readEntries (xml : String) :
    (∃ e, readEntries xml = .error e ∧
      ∀ settings : Settings, (settings.transform xml).result = .error e) ∨
    ∃ entries, readEntries xml = .ok entries ∧ ∀ settings : Settings, ∃ t,
      (settings.transform xml).result = .ok t ∧ t.Renders settings entries := by
  unfold readEntries
  cases hs : selectEntries xml
  case error e => exact .inl ⟨e, rfl, fun settings => by simp [transform, hs]⟩
  case ok elements =>
    have ht settings :
        (transform settings xml).result = (settings.transformElements elements).result := by
      simp [transform, hs, Logged.cons]
    obtain ⟨entries, hm⟩ | ⟨before, e, after, err, rfl, hb, he⟩ :=
      map_eq_ok_or_first_error Entry.ofElement elements
    case inl =>
      refine .inr ⟨entries, mapM_of_map_eq_ok hm, fun settings => ?_⟩
      rw [ht settings]
      exact settings.transformElements_eq_ok hm
    case inr =>
      refine .inl ⟨err, mapM_of_first_error hb he, fun settings => ?_⟩
      rw [ht settings]
      exact transformElements_eq_error hb he

-- Rendering a feed reads every selected element, and the first one that is no entry ends it.
theorem transform_of_readDocument (settings : Settings) {xml : String} {d : Xml.Document}
    (hd : readDocument xml = .ok d) :
    ∃ elements, select d entryQuery = .ok elements ∧
      ((∀ e ∈ elements, ∃ entry, Entry.ofElement e = .ok entry) →
        ∃ entries t, elements.map Entry.ofElement = entries.map .ok ∧
          (settings.transform xml).result = .ok t ∧ t.Renders settings entries ∧
          t.report.rendered + t.report.skippedConstructor + t.report.skippedVersion =
            elements.length) ∧
      ((∃ e ∈ elements, ∃ err, Entry.ofElement e = .error err) →
        ∃ before e after err, elements = before ++ e :: after ∧
          (∀ b ∈ before, ∃ entry, Entry.ofElement b = .ok entry) ∧
          Entry.ofElement e = .error err ∧ (settings.transform xml).result = .error err) := by
  have ⟨elements, hs⟩ : ∃ elements, select d entryQuery = .ok elements := ⟨_, select_entryQuery d⟩
  have hr := settings.transform_result hd hs
  refine ⟨elements, hs, fun h => ?ok, fun h => ?error⟩
  case ok =>
    have ⟨entries, he⟩ := exists_map_eq_ok h
    have ⟨t, ht, hrt⟩ := settings.transformElements_eq_ok he
    have hl : elements.length = entries.length := by simpa using congrArg List.length he
    exact ⟨entries, t, he, hr.trans ht, hrt, hrt.total.trans hl.symm⟩
  case error =>
    have ⟨before, e, after, err, hb, hok, he⟩ := exists_first_error h
    refine ⟨before, e, after, err, hb, hok, he, ?_⟩
    rw [hr, hb, transformElements_eq_error hok he]

-- The constructor and another entry, both of version 1.0, and one of an earlier version.
def mixedFeed : String :=
  "<entries><entry name=\"jQuery\" type=\"method\"/><entry name=\"hide\" type=\"method\"/>" ++
    "<entry name=\"stop\" type=\"method\"><signature><added>0.9</added></signature></entry>" ++
    "</entries>"

def mixedElements : List Xml.Element :=
  [bareElement "method" "jQuery", bareElement "method" "hide", versionElement "stop" "0.9"]

def mixedEntries : List Entry :=
  [{ name := "jQuery", kind := .method }, { name := "hide", kind := .method },
    versionEntry "stop" "0.9"]

def mixedDocument : Xml.Document :=
  entriesDocument (mixedElements.map (·.node))

-- Two elements that are no entries behind one that is left out.
def brokenFeed : String :=
  "<entries><entry name=\"jQuery\" type=\"method\"/><entry type=\"property\"/>" ++
    "<entry name=\"hide\" type=\"method\"><example/></entry></entries>"

def brokenElements : List Xml.Element :=
  [bareElement "method" "jQuery", namelessElement "property", codelessElement]

def brokenDocument : Xml.Document :=
  entriesDocument (brokenElements.map (·.node))

theorem transform_mixedFeed :
    let settings : Settings := { versions := .upTo "0.9" }
    (readDocument mixedFeed = .ok mixedDocument ∧
      ∃ t, (settings.transform mixedFeed).result = .ok t ∧
        t.blocks = ["/**\n * \n * @since 0.9\n * @returns \x7bundefined\x7d\n */\n" ++
          "jQuery.prototype.stop = function() \x7b\x7d;"] ∧
        t.report.rendered = 1 ∧ t.report.skippedConstructor = 1 ∧ t.report.skippedVersion = 1) ∧
    readDocument brokenFeed = .ok brokenDocument ∧
      (settings.transform brokenFeed).result = .error (.missingAttribute "entry" "name" "?") := by
  intro settings
  refine ⟨?mixed, ?broken⟩
  case mixed =>
    have hd : readDocument mixedFeed = .ok mixedDocument := by cbv
    have ho : (mixedDocument.occurrences.filter (·.isRendered)).map (·.element) = mixedElements :=
      rfl
    have hs : select mixedDocument entryQuery = .ok mixedElements :=
      ho ▸ select_of_readDocument hd
    have hb {name : String} : Entry.ofElement (bareElement "method" name) =
        .ok { name, kind := .method } :=
      ofElement_bareElement rfl
    have hv : Entry.ofElement (versionElement "stop" "0.9") = .ok (versionEntry "stop" "0.9") :=
      rfl
    have he : mixedElements.map Entry.ofElement = mixedEntries.map .ok := by
      simp [mixedElements, mixedEntries, hb, hv]
    obtain ⟨_, hs', hok, _⟩ := settings.transform_of_readDocument hd
    cases hs.symm.trans hs'
    obtain ⟨entries, t, hen, ht, hr, _⟩ := hok <| by simp [mixedElements, hb, hv]
    obtain rfl : mixedEntries = entries :=
      List.map_injective_iff.mpr (fun _ _ => Except.ok.inj) (he.symm.trans hen)
    have hblocks : t.blocks = ["/**\n * \n * @since 0.9\n * @returns \x7bundefined\x7d\n */\n" ++
        "jQuery.prototype.stop = function() \x7b\x7d;"] :=
      hr.blocks.trans (by decide +kernel)
    have hrendered : t.report.rendered = 1 := by rw [hr.rendered, hblocks]; rfl
    have hconstructor : t.report.skippedConstructor = 1 := hr.skippedConstructor
    have hversion : t.report.skippedVersion = 1 := hr.skippedVersion
    exact ⟨hd, t, ht, hblocks, hrendered, hconstructor, hversion⟩
  case broken =>
    have hd : readDocument brokenFeed = .ok brokenDocument := by cbv
    have ho : (brokenDocument.occurrences.filter (·.isRendered)).map (·.element) = brokenElements :=
      rfl
    have hs : select brokenDocument entryQuery = .ok brokenElements :=
      ho ▸ select_of_readDocument hd
    obtain ⟨_, hs', _, herr⟩ := settings.transform_of_readDocument hd
    cases hs.symm.trans hs'
    obtain ⟨before, e, after, err, hel, hok, he, ht⟩ :=
      herr ⟨namelessElement "property", by simp [brokenElements], _, rfl⟩
    cases before
    case nil =>
      cases hel
      cases (ofElement_bareElement rfl).symm.trans he
    case cons _ rest =>
      cases rest
      case nil =>
        cases hel
        cases he
        exact ⟨hd, ht⟩
      case cons =>
        -- The second element is no entry either, so it is not among those before.
        simp only [brokenElements, List.cons_append, List.cons.injEq] at hel
        obtain ⟨_, rfl, _⟩ := hel
        obtain ⟨_, hn⟩ := hok (namelessElement "property") (by simp)
        cases hn

end Settings
end ApiStubs
