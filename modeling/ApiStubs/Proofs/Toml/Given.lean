import ApiStubs.Proofs.Table
import ApiStubs.Toml.Layer

/-!
What the statements of a TOML file give, by whole keys. All of it may be given together if every key
is known and has a value of its type, and if nothing is given twice.
-/

namespace ApiStubs.Toml

-- A value that is no table, and the whole key that it is assigned to.
abbrev Assignment := List String × Value

namespace Value

def text? : Value → Option String
  | text s => some s
  | _ => none

def boolean? : Value → Option Bool
  | boolean b => some b
  | _ => none

def isTable : Value → Bool
  | table _ | dateTime _ => true
  | text _ | boolean _ => false

-- What is assigned along with a value: the entries of a table, behind the key of the table.
def leaves (key : List String) : Value → List Assignment
  | table entries => entries.map fun (name, value) => (key ++ [name], text value)
  | dateTime d => [(key ++ ["$__toml_private_datetime"], text d.text)]
  | value => [(key, value)]

end Value

-- What is first assigned to a key, as a value of one type.
def valueAt? (read? : Value → Option α) (key : List String) (assigned : List Assignment) :
    Option α :=
  assigned.findSome? fun (k, value) => if k = key then read? value else none

-- All that statements give.
@[ext]
structure Given where
  assigned : List Assignment := []
  -- The keys of tables that are given as a whole.
  tables : List (List String) := []
  -- The keys of tables that are given by single entries, outside of their headers.
  opened : List (List String) := []

namespace Given

instance : Append Given where
  append g g' := ⟨g.assigned ++ g'.assigned, g.tables ++ g'.tables, g.opened ++ g'.opened⟩

def keys (g : Given) : List (List String) :=
  g.assigned.map (·.1)

-- One value, a table as a whole, and a table that is given by single entries.

def single (key : List String) (value : Value) : Given :=
  { assigned := [(key, value)] }

def whole (key : List String) : Given :=
  { tables := [key] }

def opening (key : List String) : Given :=
  { opened := [key] }

end Given

-- Whether a key is that of a setting or of an entry in a table, with a value of its type.
def isKnown : Assignment → Bool
  | (["single_return_type"], value) => value.boolean?.isSome
  | ([name], value) => name ∈ ["url", "target_version", "output", "header"] && value.text?.isSome
  | ([table, _], value) => table ∈ ["owners", "types"] && value.text?.isSome
  | _ => false

-- What may be given together.
structure Given.Proper (g : Given) : Prop where
  known : ∀ a ∈ g.assigned, isKnown a
  tables : ∀ key ∈ g.tables, key = ["owners"] ∨ key = ["types"]
  once : (g.tables ++ g.keys).Nodup
  apart : ∀ key ∈ g.opened, key ∉ g.tables

instance (g : Given) : Decidable g.Proper :=
  decidable_of_iff
    ((∀ a ∈ g.assigned, isKnown a) ∧ (∀ key ∈ g.tables, key = ["owners"] ∨ key = ["types"]) ∧
      (g.tables ++ g.keys).Nodup ∧ ∀ key ∈ g.opened, key ∉ g.tables)
    ⟨fun ⟨hk, ht, ho, ha⟩ => ⟨hk, ht, ho, ha⟩, fun ⟨hk, ht, ho, ha⟩ => ⟨hk, ht, ho, ha⟩⟩

namespace Statement

-- The header that what follows belongs to.
def under (under : List String) : Statement → List String
  | header key => key
  | assign _ _ => under

def given (under : List String) : Statement → Given
  | header key => .whole key
  | assign key value =>
    { assigned := value.leaves (under ++ key)
      tables := if value.isTable then [under ++ key] else []
      opened := if key.length < 2 then [] else [under ++ key.dropLast] }

end Statement

-- What statements give behind a header.
def givenBy (under : List String) : List Statement → Given
  | [] => {}
  | statement :: rest => statement.given under ++ givenBy (statement.under under) rest

-- What a text assigns, if it is one that may be read.
def assignments? (text : String) : Option (List Assignment) :=
  (((statements? text).map (givenBy [])).filter (·.Proper)).map (·.assigned)

variable {g g' : Given} {key under : List String} {value : Value} {read? : Value → Option α}
  {assigned assigned' : List Assignment}

theorem valueAt?_append : valueAt? read? key (assigned ++ assigned') =
    (valueAt? read? key assigned).or (valueAt? read? key assigned') :=
  List.findSome?_append

theorem valueAt?_concat {key' : List String} : valueAt? read? key' (assigned ++ [(key, value)]) =
    (valueAt? read? key' assigned).or (if key = key' then read? value else none) := by
  rw [valueAt?_append]
  by_cases h : key = key' <;> simp [valueAt?, h]

theorem valueAt?_eq_none (h : key ∉ g.keys) : valueAt? read? key g.assigned = none := by
  rw [valueAt?, List.findSome?_eq_none_iff]
  rintro ⟨k, value⟩ hm
  have hk : k ≠ key := by
    rintro rfl
    exact h (List.mem_map_of_mem hm)
  simp [hk]

namespace Given

@[simp] theorem assigned_append : (g ++ g').assigned = g.assigned ++ g'.assigned := rfl

@[simp] theorem tables_append : (g ++ g').tables = g.tables ++ g'.tables := rfl

@[simp] theorem opened_append : (g ++ g').opened = g.opened ++ g'.opened := rfl

@[simp] theorem keys_append : (g ++ g').keys = g.keys ++ g'.keys := List.map_append

theorem append_empty (g : Given) : g ++ ({} : Given) = g := by
  ext1 <;> simp

theorem append_assoc (g₁ g₂ g₃ : Given) : g₁ ++ g₂ ++ g₃ = g₁ ++ (g₂ ++ g₃) := by
  ext1 <;> simp

namespace Proper

theorem of_append (h : (g ++ g').Proper) : g.Proper where
  known a hm := h.known a (List.mem_append_left _ hm)
  tables key hm := h.tables key (List.mem_append_left _ hm)
  once := by
    refine h.once.sublist ?_
    rw [tables_append, keys_append]
    exact (List.sublist_append_left _ _).append (List.sublist_append_left _ _)
  apart key ho ht := h.apart key (List.mem_append_left _ ho) (List.mem_append_left _ ht)

-- No setting and no entry has the key of a table.
theorem not_mem_tables (h : g.Proper) (hk : isKnown (key, value)) : key ∉ g.tables := by
  intro hm
  obtain rfl | rfl := h.tables _ hm <;> simp [isKnown] at hk

theorem not_mem_keys (h : g.Proper) (hk : key = ["owners"] ∨ key = ["types"]) : key ∉ g.keys := by
  intro hm
  obtain ⟨⟨_, value⟩, ha, rfl⟩ := List.mem_map.mp hm
  have hv := h.known _ ha
  obtain rfl | rfl := hk <;> simp [isKnown] at hv

end Proper

theorem proper_single :
    (g ++ single key value).Proper ↔ g.Proper ∧ isKnown (key, value) ∧ key ∉ g.keys := by
  constructor
  case mp =>
    intro h
    refine ⟨h.of_append, h.known _ (by simp [single]), fun hm => ?_⟩
    have ho := h.once
    grind [keys, single, keys_append, tables_append]
  case mpr =>
    rintro ⟨h, hk, hn⟩
    have ht := h.not_mem_tables hk
    have ho := h.once
    constructor
    case known => simpa [single, or_imp, forall_and] using ⟨fun k v => h.known (k, v), hk⟩
    case tables => simpa [single] using h.tables
    case once => grind [keys, single, keys_append, tables_append]
    case apart => simpa [single] using h.apart

theorem proper_whole : (g ++ whole key).Proper ↔
    g.Proper ∧ (key = ["owners"] ∨ key = ["types"]) ∧ key ∉ g.tables ∧ key ∉ g.opened := by
  constructor
  case mp =>
    intro h
    have ho := h.once
    have ha := h.apart
    refine ⟨h.of_append, h.tables _ (by simp [whole]), ?_, ?_⟩
    · grind [whole, tables_append]
    · grind [whole, tables_append, opened_append]
  case mpr =>
    rintro ⟨h, hk, ht, hn⟩
    have hm := h.not_mem_keys hk
    have ho := h.once
    have ha := h.apart
    constructor
    case known => simpa [whole] using h.known
    case tables => grind [whole, tables_append, h.tables]
    case once => grind [keys, whole, keys_append, tables_append]
    case apart => grind [whole, tables_append, opened_append]

theorem proper_opening : (g ++ opening key).Proper ↔ g.Proper ∧ key ∉ g.tables := by
  constructor
  case mp =>
    intro h
    exact ⟨h.of_append, by simpa [opening] using h.apart key⟩
  case mpr =>
    rintro ⟨h, hn⟩
    constructor
    case known => simpa [opening] using h.known
    case tables => simpa [opening] using h.tables
    case once => simpa [opening, keys] using h.once
    case apart => simpa [opening, or_imp, forall_and] using ⟨h.apart, hn⟩

end Given
end ApiStubs.Toml
