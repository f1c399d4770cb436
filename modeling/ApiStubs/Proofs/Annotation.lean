import ApiStubs.Proofs.Block.Statement
import ApiStubs.Proofs.Transform

/-!
Rendering one feed twice: with the first type of each list, and with all types. The choice shows in
the annotations of doc comments and nowhere else, so neither in the statements nor in what is
skipped or fails.
-/

namespace ApiStubs

variable {settings : Settings} {single single' : Bool} {entry : Entry} {entries : List Entry}
  {t t' : Transformed}

-- The settings with one of the two ways to show a list of types.
def Settings.showing (settings : Settings) (single : Bool) : Settings :=
  { settings with singleType := single }

-- A list of at most one type is shown in the same way by all settings.
theorem TypeList.text_of_length_le_one {types : TypeList} (h : types.alternatives.length ≤ 1)
    (settings : Settings) : types.text settings = types.primary := by
  have ⟨alternatives⟩ := types
  cases alternatives
  case nil => simp [text, primary]
  case cons type rest =>
    have hr : rest = [] := by simpa using h
    simp [text, primary, hr]

theorem TypeList.text_read_showing {raw : String} (h : (parts raw).length ≤ 1) :
    (read (settings.showing single) raw).text (settings.showing single) =
      (read settings raw).primary := by
  apply text_of_length_le_one
  simpa [read] using h

namespace Entry

-- The doc comment of an entry with the parameters that its block shows.
def shownDoc (settings : Settings) (entry : Entry) : String :=
  entry.doc settings (entry.shownParameters settings)

theorem block_eq_doc_statement (settings : Settings) (entry : Entry) :
    entry.block settings = entry.shownDoc settings ++ "\n" ++ entry.shownStatement settings :=
  rfl

-- Every list of types that the block of an entry annotates has at most one type that is not blank.
structure Unambiguous (entry : Entry) : Prop where
  returns : (TypeList.parts entry.returns).length ≤ 1
  parameters : entry.kind = .method →
    ∀ raw ∈ entry.parameters, (TypeList.parts raw.types).length ≤ 1

-- Of its parameters a statement takes the names alone, and the first type of its result is found
-- without asking for the mode.
theorem shownStatement_showing (settings : Settings) (single : Bool) (entry : Entry) :
    entry.shownStatement (settings.showing single) = entry.shownStatement settings := by
  cases hk : entry.kind
  case property => simp only [shownStatement, statement, hk]; rfl
  case method =>
    have hn : (entry.shownParameters (settings.showing single)).map (·.name) =
        (entry.shownParameters settings).map (·.name) := by
      simp [shownParameters, hk, Parameter.ofRaw]
    simp only [shownStatement, statement, hk, hn]
    rfl

theorem Unambiguous.ofRaw_showing (h : entry.Unambiguous) (hk : entry.kind = .method)
    {raw : RawParameter} (hr : raw ∈ entry.parameters) :
    Parameter.ofRaw (settings.showing single) raw =
      Parameter.ofRaw (settings.showing single') raw := by
  have ht := h.parameters hk raw hr
  simp only [Parameter.ofRaw, TypeList.text_read_showing ht]

theorem Unambiguous.shownParameters_showing (h : entry.Unambiguous) :
    entry.shownParameters (settings.showing single) =
      entry.shownParameters (settings.showing single') := by
  unfold shownParameters
  cases hk : entry.kind
  case property => rfl
  case method   => exact List.map_congr_left fun raw hr => h.ofRaw_showing hk hr

theorem Unambiguous.shownType_showing (h : entry.Unambiguous) :
    entry.shownType (settings.showing single) = entry.shownType (settings.showing single') := by
  simp only [shownType, TypeList.text_read_showing h.returns]

theorem Unambiguous.shownDoc_showing (h : entry.Unambiguous) :
    entry.shownDoc (settings.showing single) = entry.shownDoc (settings.showing single') := by
  have hp : entry.shownParameters (settings.showing single) =
    entry.shownParameters (settings.showing single') := h.shownParameters_showing
  have ht : entry.shownType (settings.showing single) =
    entry.shownType (settings.showing single') := h.shownType_showing
  simp only [shownDoc, doc, docText, typeSection, hp, ht]

-- Two blocks of an entry that have their statement in common, and all if no list is ambiguous.
structure Variants (settings : Settings) (entry : Entry) (block block' : String) : Prop where
  statement : ∃ doc doc', block = doc ++ "\n" ++ entry.shownStatement settings ∧
    block' = doc' ++ "\n" ++ entry.shownStatement settings
  unambiguous : entry.Unambiguous → block = block'

theorem variants_showing (settings : Settings) (single single' : Bool) (entry : Entry) :
    entry.Variants settings (entry.block (settings.showing single))
      (entry.block (settings.showing single')) where
  statement := by
    refine ⟨entry.shownDoc (settings.showing single), entry.shownDoc (settings.showing single'), ?_⟩
    simp only [block_eq_doc_statement, shownStatement_showing, and_self]
  unambiguous h := by
    have hd : entry.shownDoc (settings.showing single) =
      entry.shownDoc (settings.showing single') := h.shownDoc_showing
    simp only [block_eq_doc_statement, shownStatement_showing, hd]

end Entry

-- Two renderings of the entries that are shown, with the same counts and blocks that are variants
-- of each other.
structure Transformed.Variants (settings : Settings) (shown : List Entry) (t t' : Transformed) :
    Prop where
  report : t.report = t'.report
  length : t.blocks.length = shown.length
  length' : t'.blocks.length = shown.length
  block (k : Nat) (entry : Entry) : shown[k]? = some entry →
    ∃ block block', t.blocks[k]? = some block ∧ t'.blocks[k]? = some block' ∧
      entry.Variants settings block block'

theorem Transformed.Renders.variants (h : t.Renders (settings.showing single) entries)
    (h' : t'.Renders (settings.showing single') entries) :
    t.Variants settings (entries.filter settings.shows) t' := by
  have hb : t.blocks = (entries.filter settings.shows).map (·.block (settings.showing single)) :=
    h.blocks
  have hb' : t'.blocks = (entries.filter settings.shows).map (·.block (settings.showing single')) :=
    h'.blocks
  constructor
  case report =>
    have hr : t.report.rendered = t'.report.rendered := by
      rw [h.rendered, h'.rendered, hb, hb', List.length_map, List.length_map]
    have hc := h.skippedConstructor.trans h'.skippedConstructor.symm
    have hv : t.report.skippedVersion = t'.report.skippedVersion :=
      h.skippedVersion.trans h'.skippedVersion.symm
    calc
      _ = Report.mk t.report.rendered t.report.skippedConstructor t.report.skippedVersion := rfl
      _ = t'.report := by rw [hr, hc, hv]
  case length  => rw [hb, List.length_map]
  case length' => rw [hb', List.length_map]
  case block =>
    intro k entry hk
    refine ⟨entry.block (settings.showing single), entry.block (settings.showing single'), ?_, ?_,
      entry.variants_showing settings single single'⟩
    · simp [hb, hk]
    · simp [hb', hk]

-- Whether one type or all types are shown, a feed fails with the same error, or the same entries
-- become blocks and these have the same statements. A block is altogether the same if none of its
-- lists has more than one type.
theorem transform_showing (settings : Settings) (xml : String) (single single' : Bool) :
    (∃ e, ((settings.showing single).transform xml).result = .error e ∧
      ((settings.showing single').transform xml).result = .error e) ∨
    ∃ entries t t', Settings.readEntries xml = .ok entries ∧
      ((settings.showing single).transform xml).result = .ok t ∧
      ((settings.showing single').transform xml).result = .ok t' ∧
      t.Variants settings (entries.filter settings.shows) t' := by
  obtain ⟨e, _, he⟩ | ⟨entries, hr, ht⟩ := Settings.transform_of_readEntries xml
  case inl => exact .inl ⟨e, he _, he _⟩
  case inr =>
    have ⟨t, ht₁, h₁⟩ := ht (settings.showing single)
    have ⟨t', ht₂, h₂⟩ := ht (settings.showing single')
    exact .inr ⟨entries, t, t', hr, ht₁, ht₂, h₁.variants h₂⟩

end ApiStubs
