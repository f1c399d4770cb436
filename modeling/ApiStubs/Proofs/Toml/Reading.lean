import ApiStubs.Proofs.Toml.Given
import ApiStubs.Proofs.Toml.Layer

/-!
Reading a TOML file. The reader accepts exactly what may be given together, and the layer that it
comes to holds what is assigned and nothing else.
-/

namespace ApiStubs

namespace Toml

-- What the layer holds is what is assigned to the keys of settings.
structure Holds (assigned : List Assignment) (layer : Layer) : Prop where
  url : layer.url = valueAt? Value.text? ["url"] assigned
  versions : layer.versions = valueAt? Value.text? ["target_version"] assigned
  singleType : layer.singleType = valueAt? Value.boolean? ["single_return_type"] assigned
  output : layer.output = valueAt? Value.text? ["output"] assigned
  header : layer.header = valueAt? Value.text? ["header"] assigned
  owners (key : String) : layer.owners.find? key = valueAt? Value.text? ["owners", key] assigned
  types (key : String) : layer.types.find? key = valueAt? Value.text? ["types", key] assigned

open Given (single whole opening)

variable {g g' : Given} {under under' : List String} {d : Draft} {t : TableName}
  {key name entry text : String} {value : Value} {layer : Layer} {assigned : List Assignment}

theorem holds_nil : Holds [] {} := by
  constructor <;> intros <;> rfl

-- A draft that holds what is given, under a header, and has noted all that may not be given again.
structure Draft.Reflects (d : Draft) (under : List String) (g : Given) : Prop where
  proper : g.Proper
  under : (d.current.map TableName.text).toList = under
  current : ∀ t ∈ d.current, [t.text] ∈ g.tables
  holds : Holds g.assigned d.layer
  settled (name : String) : name ∈ d.settled ↔ [name] ∈ g.tables ∨ [name] ∈ g.keys
  started (t : TableName) : t ∈ d.started ↔ [t.text] ∈ g.opened

-- A result is a draft that reflects what is given, or an error if that is not proper.
def Gives (under : List String) (g : Given) (x : Except Error Draft) : Prop :=
  (∃ d, x = .ok d ∧ d.Reflects under g) ∨ ¬g.Proper ∧ ∃ e, x = .error e

namespace Gives

theorem ok (h : d.Reflects under g) : Gives under g (.ok d) :=
  .inl ⟨d, rfl, h⟩

theorem error {e : Error} (h : ¬g.Proper) : Gives under g (.error e) :=
  .inr ⟨h, e, rfl⟩

-- What is not proper stays so, whatever else is given.
theorem bind {x : Except Error Draft} {f : Draft → Except Error Draft} (hx : Gives under g x)
    (hf : ∀ d, d.Reflects under g → Gives under' (g ++ g') (f d)) :
    Gives under' (g ++ g') (x >>= f) := by
  obtain ⟨d, rfl, hd⟩ | ⟨hn, e, rfl⟩ := hx
  · exact hf d hd
  · exact .error fun h => hn h.of_append

end Gives

theorem isKnown_entry (t : TableName) (key value : String) :
    isKnown ([t.text, key], .text value) := by
  cases t <;> rfl

-- The entries of a table have texts for their values.
theorem isSome_valueAt?_entry (h : g.Proper) :
    (valueAt? Value.text? [t.text, key] g.assigned).isSome ↔ [t.text, key] ∈ g.keys := by
  rw [valueAt?, List.findSome?_isSome_iff, Given.keys, List.mem_map]
  constructor
  case mp =>
    rintro ⟨a, hm, ha⟩
    by_cases hk : a.1 = [t.text, key]
    case pos => exact ⟨a, hm, hk⟩
    case neg => simp [hk] at ha
  case mpr =>
    rintro ⟨⟨_, value⟩, hm, rfl⟩
    have hk := h.known _ hm
    have hv : value.text?.isSome := by cases t <;> simpa [isKnown, TableName.text] using hk
    exact ⟨_, hm, by simpa using hv⟩

theorem Holds.find?_table (h : Holds assigned d.layer) (t : TableName) (key : String) :
    (d.table t).find? key = valueAt? Value.text? [t.text, key] assigned := by
  cases t
  case owners => exact h.owners key
  case types  => exact h.types key

theorem Holds.addEntry (h : Holds assigned d.layer) (t : TableName) (key value : String) :
    Holds (assigned ++ [([t.text, key], .text value)])
      (d.setTable t (d.table t ++ [(key, value)])).layer := by
  cases t <;> constructor <;>
    simp [Draft.setTable, Draft.table, TableName.text, valueAt?_concat, Table.find?_concat, h.url,
      h.versions, h.singleType, h.output, h.header, h.owners, h.types, Value.text?]

@[simp] theorem Draft.settled_setTable (d : Draft) (t : TableName) (table : Table) :
    (d.setTable t table).settled = d.settled := by
  cases t <;> rfl

@[simp] theorem Draft.started_setTable (d : Draft) (t : TableName) (table : Table) :
    (d.setTable t table).started = d.started := by
  cases t <;> rfl

namespace Draft.Reflects

-- A table has no name that a value is assigned to.
theorem settled_table (h : d.Reflects under g) (t : TableName) :
    t.text ∈ d.settled ↔ [t.text] ∈ g.tables := by
  have hk : [t.text] ∉ g.keys := h.proper.not_mem_keys (by cases t <;> simp [TableName.text])
  rw [h.settled, or_iff_left hk]

theorem any_table (h : d.Reflects under g) (t : TableName) (key : String) :
    (d.table t).any (·.1 = key) ↔ [t.text, key] ∈ g.keys := by
  have hn : (d.table t).find? key = none ↔ key ∉ (d.table t).keys := Table.find?_eq_none
  rw [← isSome_valueAt?_entry h.proper, ← h.holds.find?_table, ← Option.ne_none_iff_isSome, ne_eq,
    hn, Decidable.not_not]
  simp [Table.keys]

theorem addEntry (h : d.Reflects under g) (t : TableName) (key value : String) :
    Gives under (g ++ single [t.text, key] (.text value)) (d.addEntry t key value) := by
  unfold Draft.addEntry
  split
  case isTrue hm =>
    refine .error fun hp => ?_
    obtain ⟨_, _, hn⟩ := Given.proper_single.mp hp
    exact hn (h.any_table t key |>.mp hm)
  case isFalse hm =>
    have hn := mt (h.any_table t key).mpr hm
    refine .ok ?_
    constructor
    case proper => exact Given.proper_single.mpr ⟨h.proper, isKnown_entry t key value, hn⟩
    case under => cases t <;> exact h.under
    case current =>
      cases t <;> exact fun t ht => List.mem_append_left _ (h.current t ht)
    case holds => exact h.holds.addEntry t key value
    case settled => simpa [single, Given.keys] using h.settled
    case started => simpa [single] using h.started

theorem beginTable (h : d.Reflects under g) (t : TableName) :
    Gives under (g ++ whole [t.text]) (d.beginTable t) := by
  unfold Draft.beginTable Draft.settle
  split
  case isTrue hm =>
    refine .error fun hp => ?_
    obtain ⟨_, _, _, hn⟩ := Given.proper_whole.mp hp
    exact hn (h.started t |>.mp hm)
  case isFalse hm =>
    split
    case isTrue hs =>
      refine .error fun hp => ?_
      obtain ⟨_, _, hn, _⟩ := Given.proper_whole.mp hp
      exact hn (h.settled_table t |>.mp hs)
    case isFalse hs =>
      have hn := mt (h.settled_table t).mpr hs
      refine .ok ?_
      constructor
      case proper =>
        refine Given.proper_whole.mpr ⟨h.proper, ?_, hn, mt (h.started t).mpr hm⟩
        cases t <;> simp [TableName.text]
      case under => exact h.under
      case current => exact fun t ht => List.mem_append_left _ (h.current t ht)
      case holds => simpa [whole] using h.holds
      case settled =>
        intro name
        have hs := h.settled name
        grind [whole, Given.keys, Given.tables_append, Given.keys_append]
      case started => simpa [whole] using h.started

theorem start (h : d.Reflects under g) (t : TableName) :
    Gives under (g ++ opening [t.text])
      (if t.text ∈ d.settled then .error (.repeatedName t.text)
        else .ok { d with started := t :: d.started }) := by
  split
  case isTrue hs =>
    refine .error fun hp => ?_
    obtain ⟨_, hn⟩ := Given.proper_opening.mp hp
    exact hn (h.settled_table t |>.mp hs)
  case isFalse hs =>
    have hn := mt (h.settled_table t).mpr hs
    refine .ok ?_
    constructor
    case proper => exact Given.proper_opening.mpr ⟨h.proper, hn⟩
    case under => exact h.under
    case current => simpa [opening] using h.current
    case holds => simpa [opening] using h.holds
    case settled => simpa [opening, Given.keys] using h.settled
    case started =>
      intro t'
      have ht : [t'.text] = [t.text] ↔ t' = t := by cases t <;> cases t' <;> decide
      have hs := h.started t'
      grind [opening, Given.opened_append]

theorem settle (h : d.Reflects under g) (hk : isKnown ([name], value)) (hn : [name] ∉ g.keys)
    (hl : Holds (g.assigned ++ [([name], value)]) layer) :
    Reflects { d with layer, settled := name :: d.settled } under (g ++ single [name] value) where
  proper := Given.proper_single.mpr ⟨h.proper, hk, hn⟩
  under := h.under
  current := by simpa [single] using h.current
  holds := hl
  settled name' := by
    have hs := h.settled name'
    grind [single, Given.keys, Given.tables_append, Given.keys_append]
  started := by simpa [single] using h.started

theorem setScalar (h : d.Reflects under g) (hn : TableName.ofText? name = none) (value : Value) :
    Gives under (g ++ single [name] value) (d.setScalar name value) := by
  have ht : [name] ∉ g.tables := by
    intro hm
    have hk := h.proper.tables _ hm
    simp only [List.cons.injEq, and_true] at hk
    obtain rfl | rfl := hk <;> cases hn
  unfold Draft.setScalar Draft.settle
  split
  case isTrue hs =>
    refine .error fun hp => ?_
    obtain ⟨_, _, hk⟩ := Given.proper_single.mp hp
    exact (h.settled name |>.mp hs).elim ht hk
  case isFalse hs =>
    have ⟨_, hk⟩ := not_or.mp <| mt (h.settled name).mpr hs
    have hv {α : Type} (read? : Value → Option α) : valueAt? read? [name] g.assigned = none :=
      valueAt?_eq_none hk
    change Gives _ _ (Except.bind _ _)
    dsimp only [bind, Except.bind]
    split
    case h_1 | h_2 | h_3 | h_4 | h_5 =>
      refine .ok <| h.settle rfl hk ?_
      constructor <;>
        simp [valueAt?_concat, Value.text?, Value.boolean?, hv, h.holds.url, h.holds.versions,
          h.holds.singleType, h.holds.output, h.holds.header, h.holds.owners, h.holds.types]
    all_goals
      refine .error fun hp => ?_
      obtain ⟨_, hi, _⟩ := Given.proper_single.mp hp
      cases value <;> simp_all [isKnown, Value.text?, Value.boolean?]

theorem addEntries (h : d.Reflects under g) (t : TableName) (entries : Table) :
    Gives under (g ++ { assigned := entries.map fun (key, value) => ([t.text, key], .text value) })
      (entries.foldlM (fun d (key, value) => d.addEntry t key value) d) := by
  induction entries generalizing d g
  case nil => exact .ok <| (Given.append_empty g).symm ▸ h
  case cons e entries hi =>
    have hc := (h.addEntry t e.1 e.2).bind fun d hd => hi hd
    rwa [Given.append_assoc] at hc

theorem setEntries (h : d.Reflects under g) (t : TableName) (entries : Table) :
    Gives under
      (g ++ { assigned := entries.map fun (key, value) => ([t.text, key], .text value)
              tables := [[t.text]] })
      (d.setEntries t entries) := by
  have hc := (h.beginTable t).bind fun d hd => hd.addEntries t entries
  rwa [Given.append_assoc] at hc

end Draft.Reflects

theorem ofText?_eq_some : TableName.ofText? name = some t ↔ name = t.text := by
  cases t <;> grind [TableName.ofText?, TableName.text]

theorem ofText?_text (t : TableName) : TableName.ofText? t.text = some t :=
  ofText?_eq_some.mpr rfl

theorem ofText?_eq_none (h : ∀ t : TableName, name ≠ t.text) : TableName.ofText? name = none :=
  Option.eq_none_iff_forall_ne_some.mpr fun t ht => h t (ofText?_eq_some.mp ht)

theorem exists_tableName {key : List String} (h : key = ["owners"] ∨ key = ["types"]) :
    ∃ t : TableName, key = [t.text] := by
  obtain rfl | rfl := h
  · exact ⟨.owners, rfl⟩
  · exact ⟨.types, rfl⟩

theorem exists_of_isKnown_pair (h : isKnown ([name, entry], value)) :
    (∃ t : TableName, name = t.text) ∧ ∃ s, value = .text s := by
  simp only [isKnown, List.mem_cons, List.not_mem_nil, or_false, Bool.and_eq_true,
    decide_eq_true_eq] at h
  obtain ⟨rfl | rfl, hv⟩ := h <;> cases value <;> simp [Value.text?] at hv
  · exact ⟨⟨.owners, rfl⟩, _, rfl⟩
  · exact ⟨⟨.types, rfl⟩, _, rfl⟩

-- What is assigned is known, or it is one of the tables.
theorem known_of_assign {key : List String}
    (h : (g ++ (Statement.assign key value).given under).Proper) :
    ¬value.isTable ∧ isKnown (under ++ key, value) ∨
      value.isTable ∧ (∃ t : TableName, under ++ key = [t.text]) ∧ under ++ key ∉ g.tables := by
  have hk := h.known
  have ht := h.tables
  have ho := h.once
  cases value
  case text | boolean =>
    exact .inl ⟨by simp [Value.isTable], hk _ (by simp [Statement.given, Value.leaves])⟩
  all_goals
    refine .inr ⟨rfl, exists_tableName <| ht _ (by simp [Statement.given, Value.isTable]), ?_⟩
    intro hm
    grind [Statement.given, Value.isTable, Given.tables_append]

namespace Draft.Reflects

theorem apply_header (h : d.Reflects under g) (key : List String) :
    Gives key (g ++ whole key) (d.apply (.header key)) := by
  by_cases ht : ∃ t : TableName, key = [t.text]
  case pos =>
    obtain ⟨t, rfl⟩ := ht
    obtain ⟨d', hd, hr⟩ | ⟨hn, e, he⟩ := h.beginTable t
    case inl =>
      simp only [Draft.apply, ofText?_text, hd]
      refine .ok { hr with under := rfl, current := ?_ }
      rintro _ ⟨⟩
      simp [whole]
    case inr =>
      simp only [Draft.apply, ofText?_text, he]
      exact .error hn
  case neg =>
    have hp : ¬(g ++ whole key).Proper := fun hp =>
      ht <| exists_tableName (Given.proper_whole.mp hp).right.left
    cases key
    case nil => exact .error hp
    case cons name rest =>
      cases rest
      case cons => exact .error hp
      case nil  =>
        have hn : TableName.ofText? name = none := ofText?_eq_none fun t hn => ht ⟨t, by rw [hn]⟩
        simp only [Draft.apply, hn]
        exact .error hp

-- Behind a header only texts are assigned, to single names.
theorem apply_entry (h : d.Reflects under g) (hc : d.current = some t) (key : List String)
    (value : Value) :
    Gives under (g ++ (Statement.assign key value).given under) (d.apply (.assign key value)) := by
  obtain rfl : under = [t.text] := by simp [← h.under, hc]
  match key with
  | [] =>
    simp only [Draft.apply, hc]
    refine .error fun hp => ?_
    obtain ⟨_, hk⟩ | ⟨_, _, hn⟩ := known_of_assign hp
    case inl => cases t <;> simp [isKnown, TableName.text] at hk
    case inr => exact hn (h.current t hc)
  | [name] =>
    cases value
    case text s =>
      simp only [Draft.apply, hc]
      exact h.addEntry t name s
    all_goals
      simp only [Draft.apply, hc]
      refine .error fun hp => ?_
      obtain ⟨hv, hk⟩ | ⟨_, ⟨_, hk⟩, _⟩ := known_of_assign hp
      case inl => obtain ⟨_, _, hs⟩ := exists_of_isKnown_pair hk; cases hs
      case inr => simp at hk
  | _ :: _ :: _ =>
    simp only [Draft.apply, hc]
    refine .error fun hp => ?_
    obtain ⟨_, hk⟩ | ⟨_, ⟨_, hk⟩, _⟩ := known_of_assign hp
    case inl => simp [isKnown] at hk
    case inr => simp at hk

-- A setting that is no table, or a name that is none of a setting.
theorem apply_setting (h : d.Reflects [] g) (hc : d.current = none)
    (hn : ∀ t : TableName, name ≠ t.text) (value : Value) :
    Gives [] (g ++ (Statement.assign [name] value).given []) (d.apply (.assign [name] value)) := by
  have ht := ofText?_eq_none hn
  have hs := h.setScalar ht value
  cases value <;> simp only [Draft.apply, hc, ht]
  case text | boolean => exact hs
  all_goals
    obtain ⟨_, _, hd⟩ | ⟨_, e, he⟩ := hs
    case inl =>
      obtain ⟨_, hk, _⟩ := Given.proper_single.mp hd.proper
      grind [isKnown, Value.text?, Value.boolean?]
    case inr =>
      rw [he]
      refine .error fun hp => ?_
      obtain ⟨hv, _⟩ | ⟨_, ⟨t, ht⟩, _⟩ := known_of_assign hp
      case inl => exact hv rfl
      case inr => exact hn t (List.cons.inj ht).left

theorem apply_table (h : d.Reflects [] g) (hc : d.current = none) (t : TableName)
    (value : Value) :
    Gives [] (g ++ (Statement.assign [t.text] value).given [])
      (d.apply (.assign [t.text] value)) := by
  cases value <;> simp only [Draft.apply, hc, ofText?_text, entriesOf?]
  case table entries => exact h.setEntries t entries
  case dateTime      => exact h.setEntries t _
  all_goals
    refine .error fun hp => ?_
    obtain ⟨_, hk⟩ | ⟨hv, _⟩ := known_of_assign hp
    case inl => cases t <;> simp [isKnown, TableName.text] at hk
    case inr => cases hv

-- An entry whose table has no header.
theorem apply_pair (h : d.Reflects [] g) (hc : d.current = none) (name entry : String)
    (value : Value) :
    Gives [] (g ++ (Statement.assign [name, entry] value).given [])
      (d.apply (.assign [name, entry] value)) := by
  by_cases hk : (∃ t : TableName, name = t.text) ∧ ∃ s, value = .text s
  case pos =>
    obtain ⟨⟨t, rfl⟩, s, rfl⟩ := hk
    have hg := (h.start t).bind fun d hd => hd.addEntry t entry s
    rw [Given.append_assoc] at hg
    simp only [hc] at hg
    simp only [Draft.apply, hc, ofText?_text]
    split at hg
    case isTrue hs  => rwa [if_pos hs]
    case isFalse hs => rwa [if_neg hs]
  case neg =>
    have hp : ¬(g ++ (Statement.assign [name, entry] value).given []).Proper := by
      intro hp
      obtain ⟨_, hv⟩ | ⟨_, ⟨_, hv⟩, _⟩ := known_of_assign hp
      case inl => exact hk (exists_of_isKnown_pair hv)
      case inr => simp at hv
    cases value <;> simp only [Draft.apply, hc]
    case text s =>
      have hn : TableName.ofText? name = none := ofText?_eq_none fun t ht => hk ⟨⟨t, ht⟩, s, rfl⟩
      simp only [hn]
      exact .error hp
    all_goals exact .error hp

-- In front of all headers tables are assigned as a whole or by single entries.
theorem apply_top (h : d.Reflects under g) (hc : d.current = none) (key : List String)
    (value : Value) :
    Gives under (g ++ (Statement.assign key value).given under) (d.apply (.assign key value)) := by
  obtain rfl : under = [] := by simp [← h.under, hc]
  match key with
  | [name] =>
    by_cases hn : ∃ t : TableName, name = t.text
    case pos =>
      obtain ⟨t, rfl⟩ := hn
      exact h.apply_table hc t value
    case neg => exact h.apply_setting hc (fun t ht => hn ⟨t, ht⟩) value
  | [name, entry] => exact h.apply_pair hc name entry value
  | [] | _ :: _ :: _ :: _ =>
    simp only [Draft.apply, hc]
    refine .error fun hp => ?_
    obtain ⟨_, hk⟩ | ⟨_, ⟨_, hk⟩, _⟩ := known_of_assign hp
    case inl => simp [isKnown] at hk
    case inr => simp at hk

theorem apply (h : d.Reflects under g) (statement : Statement) :
    Gives (statement.under under) (g ++ statement.given under) (d.apply statement) := by
  cases statement
  case header key => exact h.apply_header key
  case assign key value =>
    cases hc : d.current
    case none   => exact h.apply_top hc key value
    case some t => exact h.apply_entry hc key value

end Draft.Reflects

theorem gives_foldlM (h : d.Reflects under g) (statements : List Statement) :
    ∃ under', Gives under' (g ++ givenBy under statements) (statements.foldlM Draft.apply d) := by
  induction statements generalizing d under g
  case nil => exact ⟨under, .ok <| (Given.append_empty g).symm ▸ h⟩
  case cons statement rest hi =>
    obtain ⟨d', hd, hr⟩ | ⟨hn, e, he⟩ := h.apply statement
    case inl =>
      have ⟨under', hg⟩ := hi hr
      rw [Given.append_assoc] at hg
      exact ⟨under', by rwa [List.foldlM_cons, hd]⟩
    case inr =>
      refine ⟨under, ?_⟩
      rw [List.foldlM_cons, he, givenBy, ← Given.append_assoc]
      exact .error fun hp => hn hp.of_append

theorem reflects_empty : Draft.Reflects {} [] {} where
  proper := by constructor <;> simp [Given.keys]
  under := rfl
  current := by simp
  holds := holds_nil
  settled := by simp [Given.keys]
  started := by simp

-- Sorting does not change what is found where all names differ.
theorem find?_sorted {table : Table} (h : (sorted table).keys.Nodup) (key : String) :
    (sorted table).find? key = table.find? key :=
  (Table.find?_perm (List.mergeSort_perm table _).symm h key).symm

theorem Holds.sort (h : Holds assigned layer)
    (hd : Layer.Distinct
      { layer with owners := sorted layer.owners, types := sorted layer.types }) :
    Holds assigned { layer with owners := sorted layer.owners, types := sorted layer.types } :=
  { h with
    owners := fun key => (find?_sorted hd.owners key).trans (h.owners key)
    types := fun key => (find?_sorted hd.types key).trans (h.types key) }

-- A text is read exactly if its statements may be given together. The layer that it comes to then
-- holds what they assign.
theorem readLayer_cases (text : String) :
    (assignments? text = none ∧ ∃ e, readLayer text = .error e) ∨
    ∃ assigned layer, assignments? text = some assigned ∧ readLayer text = .ok layer ∧
      Holds assigned layer := by
  cases hs : statements? text
  case none =>
    exact .inl ⟨by simp [assignments?, hs], .notToml, by simp only [readLayer, hs]⟩
  case some statements =>
    have hg : ∃ under, Gives under (givenBy [] statements) (statements.foldlM Draft.apply {}) :=
      gives_foldlM reflects_empty statements
    obtain ⟨_, ⟨d, hf, hr⟩ | ⟨hn, e, hf⟩⟩ := hg
    case inl =>
      let layer : Layer :=
        { d.layer with owners := sorted d.layer.owners, types := sorted d.layer.types }
      have hl : readLayer text = .ok layer := by
        simp only [readLayer, hs, hf]
        rfl
      refine .inr ⟨(givenBy [] statements).assigned, layer, ?_, hl, ?_⟩
      · simp [assignments?, hs, hr.proper]
      · exact hr.holds.sort (readLayer_yields_distinct text layer hl)
    case inr =>
      refine .inl ⟨by simp [assignments?, hs, hn], e, ?_⟩
      simp only [readLayer, hs, hf]
      rfl

end Toml
end ApiStubs
