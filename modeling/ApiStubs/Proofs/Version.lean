import ApiStubs.Proofs.Entry.Reading
import ApiStubs.Proofs.Transform
import ApiStubs.Proofs.XPath.Selection
import Mathlib.Data.String.Basic

/-!
Rendering one feed up to several versions. The versions decide neither what ends a rendering nor
what a block says, so a filter that admits more entries only adds blocks.
-/

namespace ApiStubs

variable {filter wide : VersionFilter} {v w xml : String} {settings : Settings}
  {entries : List Entry} {t t' : Transformed}

namespace VersionFilter

-- The other filter admits all that this one does.
def Within (filter wide : VersionFilter) : Prop :=
  ∀ added, filter.admits added → wide.admits added

theorem within_upTo (h : v ≤ w) : (upTo v).Within (upTo w) := by
  intro added ha
  simp only [admits, decide_eq_true_eq] at ha ⊢
  exact le_trans ha h

theorem within_latest (filter : VersionFilter) : filter.Within latest :=
  fun _ _ => rfl

end VersionFilter

-- All entries of a feed, whether they became blocks or not.
def Report.total (report : Report) : Nat :=
  report.rendered + report.skippedConstructor + report.skippedVersion

-- The other rendering is of the same entries with a filter that admits more of them.
structure Transformed.Within (t wide : Transformed) : Prop where
  blocks : t.blocks.Sublist wide.blocks
  skippedConstructor : t.report.skippedConstructor = wide.report.skippedConstructor
  skippedVersion : wide.report.skippedVersion ≤ t.report.skippedVersion
  total : t.report.total = wide.report.total

namespace Settings

-- The settings with another filter.
def under (settings : Settings) (filter : VersionFilter) : Settings :=
  { settings with versions := filter }

theorem shows_under (h : filter.Within wide) {entry : Entry}
    (hs : (settings.under filter).shows entry) : (settings.under wide).shows entry := by
  simp only [shows, decide_eq_true_eq] at hs ⊢
  exact ⟨hs.left, h _ hs.right⟩

-- A block does not depend on the filter.
theorem block_under (settings : Settings) (filter : VersionFilter) (entry : Entry) :
    entry.block (settings.under filter) = entry.block settings :=
  rfl

end Settings

namespace Transformed.Renders

theorem blocks_under (h : t.Renders (settings.under filter) entries) :
    t.blocks = (entries.filter (settings.under filter).shows).map (·.block settings) := by
  simp only [h.blocks, Settings.block_under]

theorem within (h : t.Renders (settings.under filter) entries)
    (h' : t'.Renders (settings.under wide) entries) (hw : filter.Within wide) : t.Within t' where
  blocks := by
    rw [h.blocks_under, h'.blocks_under]
    apply List.Sublist.map
    exact List.monotone_filter_right _ fun entry => Settings.shows_under hw
  skippedConstructor := h.skippedConstructor.trans h'.skippedConstructor.symm
  skippedVersion := by
    rw [h.skippedVersion, h'.skippedVersion]
    apply List.countP_mono_left
    intro entry _ hn
    simp only [decide_eq_true_eq] at hn ⊢
    exact ⟨hn.left, fun ha => hn.right (hw _ ha)⟩
  total := h.total.trans h'.total.symm

theorem skippedVersion_latest (h : t.Renders (settings.under .latest) entries) :
    t.report.skippedVersion = 0 := by
  rw [h.skippedVersion, List.countP_eq_zero]
  simp [Settings.under, VersionFilter.admits]

end Transformed.Renders

-- The error that ends the rendering of a feed, or the entries that are rendered, are the same for
-- all settings.
theorem transform_entries (xml : String) :
    (∃ e, ∀ settings : Settings, (settings.transform xml).result = .error e) ∨
    ∃ entries, ∀ settings : Settings, ∃ t,
      (settings.transform xml).result = .ok t ∧ t.Renders settings entries :=
  (Settings.transform_of_readEntries xml).imp (fun ⟨e, _, h⟩ => ⟨e, h⟩)
    fun ⟨entries, _, h⟩ => ⟨entries, h⟩

-- A higher version and the newest one only add blocks to those of a version, and whether the
-- rendering fails, and with which error, is the same for all of them.
theorem transform_grows (settings : Settings) (xml : String) (h : v ≤ w) :
    (∃ e, ∀ filter ∈ [.upTo v, .upTo w, .latest],
      ((settings.under filter).transform xml).result = .error e) ∨
    ∃ t₁ t₂ t₃ : Transformed,
      ((settings.under (.upTo v)).transform xml).result = .ok t₁ ∧
      ((settings.under (.upTo w)).transform xml).result = .ok t₂ ∧
      ((settings.under .latest).transform xml).result = .ok t₃ ∧
      t₁.Within t₂ ∧ t₂.Within t₃ ∧ t₃.report.skippedVersion = 0 := by
  obtain ⟨e, he⟩ | ⟨entries, hr⟩ := transform_entries xml
  case inl => exact .inl ⟨e, fun filter _ => he (settings.under filter)⟩
  case inr =>
    have ⟨t₁, h₁, hr₁⟩ := hr (settings.under (.upTo v))
    have ⟨t₂, h₂, hr₂⟩ := hr (settings.under (.upTo w))
    have ⟨t₃, h₃, hr₃⟩ := hr (settings.under .latest)
    refine .inr ⟨t₁, t₂, t₃, h₁, h₂, h₃, ?_, ?_, hr₃.skippedVersion_latest⟩
    · exact hr₁.within hr₂ (VersionFilter.within_upTo h)
    · exact hr₂.within hr₃ (VersionFilter.within_latest _)

-- An entry of the first version, and one of a version that is between `1.10` and `1.9`.
def finishFeed : String :=
  "<entries><entry name=\"hide\" type=\"method\"/><entry name=\"finish\" type=\"method\">" ++
    "<signature><added>1.8</added></signature></entry></entries>"

def finishElement : Xml.Element :=
  versionElement "finish" "1.8"

def finishDocument : Xml.Document :=
  entriesDocument [(bareElement "method" "hide").node, finishElement.node]

def finishEntry : Entry :=
  versionEntry "finish" "1.8"

theorem transform_finishFeed :
    "1.10" ≤ "1.9" ∧ ∃ t₁ t₂ t₃ : Transformed,
      ((({} : Settings).under (.upTo "1.10")).transform finishFeed).result = .ok t₁ ∧
      ((({} : Settings).under (.upTo "1.9")).transform finishFeed).result = .ok t₂ ∧
      ((({} : Settings).under .latest).transform finishFeed).result = .ok t₃ ∧
      t₁.report.skippedVersion = 1 ∧ t₂.report.skippedVersion = 0 ∧
      t₁.Within t₂ ∧ t₂.Within t₃ ∧ t₃.report.skippedVersion = 0 := by
  have hv : "1.10" ≤ "1.9" := by decide
  have hd : readDocument finishFeed = .ok finishDocument := by cbv
  have ho : (finishDocument.occurrences.filter (·.isRendered)).map (·.element) =
      [bareElement "method" "hide", finishElement] :=
    rfl
  have hs := ho ▸ select_eq_rendered (distinct_of_readDocument hd)
  have he : [bareElement "method" "hide", finishElement].map Entry.ofElement =
      [{ name := "hide", kind := .method }, finishEntry].map .ok :=
    rfl
  have hr {filter : VersionFilter} {t : Transformed}
      (ht : ((({} : Settings).under filter).transform finishFeed).result = .ok t) :
      t.Renders (({} : Settings).under filter)
        [{ name := "hide", kind := .method }, finishEntry] := by
    obtain ⟨t', ht', hr'⟩ := (({} : Settings).under filter).transformElements_eq_ok he
    cases ht.symm.trans ((Settings.transform_result _ hd hs).trans ht')
    exact hr'
  obtain ⟨e, hf⟩ | ⟨t₁, t₂, t₃, h₁, h₂, h₃, h⟩ := transform_grows {} finishFeed hv
  case inl =>
    obtain ⟨t, ht, _⟩ := (({} : Settings).under .latest).transformElements_eq_ok he
    have hl := hf .latest (by simp)
    cases hl.symm.trans ((Settings.transform_result _ hd hs).trans ht)
  case inr =>
    have hk₁ : t₁.report.skippedVersion = 1 := (hr h₁).skippedVersion.trans (by decide)
    have hk₂ : t₂.report.skippedVersion = 0 := (hr h₂).skippedVersion.trans (by decide)
    exact ⟨hv, t₁, t₂, t₃, h₁, h₂, h₃, hk₁, hk₂, h⟩

end ApiStubs
