import ApiStubs.Proofs.Toml.Reading
import ApiStubs.Proofs.Toml.Written

/-!
Texts of settings put over settings one after the other. For everything that can be set the last
text that sets it wins, so texts that cannot be read and texts that are repeated make no difference.
-/

namespace ApiStubs

open Toml (Assignment Holds Statement Value WrittenLines assignments? givenBy valueAt?)

variable {layer : Layer} {below settings : Settings} {text : String} {texts : List String}
  {assigned : List Assignment} {later : List (List Assignment)}

namespace Layer

theorem distinct_of_readLayer (h : Toml.readLayer text = .ok layer) : layer.Distinct :=
  Toml.readLayer_yields_distinct text layer h

theorem applyTo_applyTo (h : layer.Distinct) :
    layer.applyTo (layer.applyTo below) = layer.applyTo below := by
  have hd {α : Type} (o : Option α) (a : α) : o.getD (o.getD a) = o.getD a := by cases o <;> rfl
  simp only [applyTo, hd, Table.merge_merge h.owners, Table.merge_merge h.types]

end Layer

namespace Settings

-- Puts the layer that a text holds over the settings. A text that is no layer changes nothing.
def overlay (below : Settings) (text : String) : Settings :=
  match Toml.readLayer text with
  | .error _ => below
  | .ok layer => layer.applyTo below

def overlays (below : Settings) (texts : List String) : Settings :=
  texts.foldl overlay below

theorem overlay_of_error {e : Toml.Error} (h : Toml.readLayer text = .error e) (below : Settings) :
    below.overlay text = below := by
  simp only [overlay, h]

theorem overlay_of_ok (h : Toml.readLayer text = .ok layer) (below : Settings) :
    below.overlay text = layer.applyTo below := by
  simp only [overlay, h]

-- What the last of several texts gives that gives something, each by what it assigns.
def last? (texts : List (List Assignment)) (get? : List Assignment → Option α) : Option α :=
  texts.reverse.findSome? get?

theorem last?_cons (get? : List Assignment → Option α) :
    last? (assigned :: later) get? = (last? later get?).or (get? assigned) := by
  simp [last?, List.findSome?_append]

-- What settings come to with texts over them, by what these assign. Of a table that has a name
-- twice, the first entry counts.
structure Under (texts : List (List Assignment)) (below settings : Settings) : Prop where
  url : settings.url = (last? texts (valueAt? Value.text? ["url"])).getD below.url
  versions : settings.versions =
    (last? texts (valueAt? Value.text? ["target_version"])).elim below.versions fun version =>
      if version = "latest" then .latest else .upTo version
  singleType : settings.singleType =
    (last? texts (valueAt? Value.boolean? ["single_return_type"])).getD below.singleType
  output : settings.output = (last? texts (valueAt? Value.text? ["output"])).getD below.output
  header : settings.header = (last? texts (valueAt? Value.text? ["header"])).getD below.header
  owners (key : String) : settings.owners.find? key =
    (last? texts (valueAt? Value.text? ["owners", key])).or
      ((List.find? (·.1 = key) below.owners).map (·.2))
  types (key : String) : settings.types.find? key =
    (last? texts (valueAt? Value.text? ["types", key])).or
      ((List.find? (·.1 = key) below.types).map (·.2))

theorem Under.nil : Under [] below below where
  url := rfl
  versions := rfl
  singleType := rfl
  output := rfl
  header := rfl
  owners _ := Table.find?_eq_map_find? ..
  types _ := Table.find?_eq_map_find? ..

theorem Under.cons (hd : layer.Distinct) (hh : Holds assigned layer)
    (h : Under later (layer.applyTo below) settings) :
    Under (assigned :: later) below settings where
  url := by rw [h.url, last?_cons, Option.getD_or, ← hh.url]; rfl
  versions := by
    rw [h.versions, last?_cons, ← hh.versions]
    cases last? later (valueAt? Value.text? ["target_version"])
    case some => rfl
    case none => cases hv : layer.versions <;> simp [Layer.applyTo, hv, VersionFilter.read]
  singleType := by rw [h.singleType, last?_cons, Option.getD_or, ← hh.singleType]; rfl
  output := by rw [h.output, last?_cons, Option.getD_or, ← hh.output]; rfl
  header := by rw [h.header, last?_cons, Option.getD_or, ← hh.header]; rfl
  owners key := by
    rw [h.owners, last?_cons, Option.or_assoc, ← hh.owners, ← Table.find?_eq_map_find?,
      ← Table.find?_eq_map_find?, ← Table.find?_merge hd.owners]
    rfl
  types key := by
    rw [h.types, last?_cons, Option.or_assoc, ← hh.types, ← Table.find?_eq_map_find?,
      ← Table.find?_eq_map_find?, ← Table.find?_merge hd.types]
    rfl

theorem under_overlays (below : Settings) (texts : List String) :
    Under (texts.filterMap assignments?) below (below.overlays texts) := by
  induction texts generalizing below
  case nil => exact .nil
  case cons text texts hi =>
    obtain ⟨ha, e, he⟩ | ⟨assigned, layer, ha, hl, hh⟩ := Toml.readLayer_cases text
    case inl =>
      rw [List.filterMap_cons_none ha, overlays, List.foldl_cons, overlay_of_error he]
      exact hi below
    case inr =>
      rw [List.filterMap_cons_some ha, overlays, List.foldl_cons, overlay_of_ok hl]
      exact .cons (Layer.distinct_of_readLayer hl) hh (hi _)

theorem overlay_overlay : (below.overlay text).overlay text = below.overlay text := by
  cases hr : Toml.readLayer text
  case error e  => rw [overlay_of_error hr, overlay_of_error hr]
  case ok layer =>
    rw [overlay_of_ok hr, overlay_of_ok hr]
    exact Layer.applyTo_applyTo (Layer.distinct_of_readLayer hr)

theorem overlays_filter :
    below.overlays (texts.filter fun text => (Toml.readLayer text).isOk) =
      below.overlays texts := by
  rw [overlays, List.foldl_filter]
  congr
  funext settings text
  cases hr : Toml.readLayer text
  case error e  => simp [overlay_of_error hr, Except.isOk, Except.toBool]
  case ok layer => simp [Except.isOk, Except.toBool]

theorem isOk_readLayer (text : String) :
    (Toml.readLayer text).isOk = (assignments? text).isSome := by
  obtain ⟨ha, e, he⟩ | ⟨assigned, layer, ha, hl, _⟩ := Toml.readLayer_cases text
  case inl => rw [ha, he]; rfl
  case inr => rw [ha, hl]; rfl

-- For everything that can be set the last text that sets it wins. A text counts if all that it
-- gives is known and given once, which for statements on lines of their own is what they say. Other
-- texts, and texts that are given twice in a row, make no difference.
theorem overlays_last_wins (below : Settings) (texts : List String) :
    Under (texts.filterMap assignments?) below (below.overlays texts) ∧
      (∀ text, (Toml.readLayer text).isOk = (assignments? text).isSome) ∧
      (∀ (statements : List Statement) (lines : List Char), WrittenLines statements lines →
        assignments? (String.ofList lines) =
          if (givenBy [] statements).Proper then some (givenBy [] statements).assigned
          else none) ∧
      below.overlays (texts.filter fun text => (Toml.readLayer text).isOk) =
        below.overlays texts ∧
      ∀ before text after, below.overlays (before ++ text :: text :: after) =
        below.overlays (before ++ text :: after) := by
  refine ⟨under_overlays below texts, isOk_readLayer,
    fun _ _ => Toml.assignments?_of_writtenLines, overlays_filter, fun before text after => ?_⟩
  simp only [overlays, List.foldl_append, List.foldl_cons, overlay_overlay]

-- Two entries for one owner, of which the first one counts.
def doubledOwners : Settings where
  owners := [("Promise", "P"), ("event", "E"), ("event", "F")]

def earlyText : String :=
  "url = \"http://localhost/api.xml\"\ntarget_version = \"1.7\"\n\n" ++
    "[owners]\nfx = \"Fx\"\nevent = \"Early\"\n"

-- A text with a name that no setting has.
def unknownText : String :=
  "retries = \"3\"\nurl = \"http://elsewhere/api.xml\"\n"

def lateText : String :=
  "target_version = \"latest\"\nsingle_return_type = false\nowners.event = \"Late\"\n"

theorem overlays_last_wins_threeTexts :
    let settings := doubledOwners.overlays [earlyText, unknownText, lateText]
    settings.url = "http://localhost/api.xml" ∧ settings.versions = .latest ∧
      settings.singleType = false ∧ settings.output = "jquery-jsdoc.js" ∧
      settings.owners.find? "event" = some "Late" ∧ settings.owners.find? "fx" = some "Fx" ∧
      settings.owners.find? "Promise" = some "P" ∧ settings.owners.find? "retries" = none ∧
      settings.types.find? "boolean" = some "Boolean" ∧
      (Toml.readLayer unknownText).isOk = false ∧
      doubledOwners.overlays [earlyText, lateText] = settings ∧
      doubledOwners.overlays [earlyText, earlyText, unknownText, lateText] = settings := by
  have he : assignments? earlyText = some [
      (["url"], .text "http://localhost/api.xml"), (["target_version"], .text "1.7"),
      (["owners", "fx"], .text "Fx"), (["owners", "event"], .text "Early")] := by
    decide +kernel
  have hn : assignments? unknownText = none := by decide +kernel
  have hw : WrittenLines [.assign ["target_version"] (.text "latest"),
      .assign ["single_return_type"] (.boolean false),
      .assign ["owners", "event"] (.text "Late")] lateText.toList :=
    .cons (.assign (by decide) (by decide) (.text (by decide))) <|
      .cons (.assign (by decide) (by decide) .no) <|
        .cons (.assign (by decide) (by decide) (.text (by decide))) .nil
  intro settings
  obtain ⟨hu, ho, hlines, hf, hr⟩ :=
    overlays_last_wins doubledOwners [earlyText, unknownText, lateText]
  have hl : assignments? lateText = some [
      (["target_version"], .text "latest"), (["single_return_type"], .boolean false),
      (["owners", "event"], .text "Late")] := by
    rw [← lateText.ofList_toList, hlines _ _ hw]
    decide +kernel
  rw [List.filterMap_cons_some he, List.filterMap_cons_none hn, List.filterMap_cons_some hl] at hu
  simp only [List.filter_cons, List.filter_nil, ho, he, hn, hl] at hf
  exact ⟨hu.url, hu.versions, hu.singleType, hu.output, hu.owners "event", hu.owners "fx",
    hu.owners "Promise", hu.owners "retries", hu.types "boolean", (ho unknownText).trans (hn ▸ rfl),
    hf, hr [] earlyText [unknownText, lateText]⟩

end Settings
end ApiStubs
