import ApiStubs.Table
import Mathlib.Data.List.Nodup

/-!
Tables put over other tables. Where the overriding names differ, each of them is found with its new
value and all other names as before, and putting the same table over the result changes nothing.
-/

namespace ApiStubs.Table

variable {table overrides : Table} {key value : String}

-- The names of a table, in its order.
def keys (table : Table) : List String :=
  table.map (·.1)

-- The first entry for a name is the one that counts.
theorem find?_eq_map_find? (table : Table) (key : String) :
    table.find? key = (List.find? (·.1 = key) table).map (·.2) := by
  induction table
  case nil => rfl
  case cons e table hi => by_cases he : e.1 = key <;> simp [find?, he, hi]

theorem find?_eq_none : table.find? key = none ↔ key ∉ table.keys := by
  induction table
  case nil => simp [find?, keys]
  case cons e table hi =>
    by_cases he : e.1 = key
    case pos => simp [find?, keys, he]
    case neg => simpa [find?, keys, he, Ne.symm he] using hi

theorem find?_concat (table : Table) (e : String × String) :
    find? (table ++ [e]) key = (table.find? key).or (if e.1 = key then some e.2 else none) := by
  induction table
  case nil => rfl
  case cons e' table hi => by_cases he : e'.1 = key <;> simp [find?, he, hi]

theorem find?_of_mem (h : table.keys.Nodup) (hm : (key, value) ∈ table) :
    table.find? key = some value := by
  induction table
  case nil => simp at hm
  case cons e table hi =>
    have ⟨hn, hd⟩ := List.nodup_cons.mp h
    cases hm
    case head    => simp [find?]
    case tail hm =>
      have hne : e.1 ≠ key := by
        rintro rfl
        exact hn (List.mem_map.mpr ⟨_, hm, rfl⟩)
      simpa [find?, hne] using hi hd hm

theorem mem_of_find? (h : table.find? key = some value) : (key, value) ∈ table := by
  rw [find?_eq_map_find?, Option.map_eq_some_iff] at h
  obtain ⟨⟨k, v⟩, hf, rfl⟩ := h
  have hk : k = key := by simpa using List.find?_some hf
  exact hk ▸ List.mem_of_find?_eq_some hf

-- Where all names differ the order does not matter.
theorem find?_perm {table' : Table} (hp : table.Perm table') (h : table'.keys.Nodup)
    (key : String) : table.find? key = table'.find? key := by
  have h' : table.keys.Nodup := (hp.map _).nodup_iff.mpr h
  ext value
  constructor
  case mp  => exact fun hf => find?_of_mem h (hp.mem_iff.mp (mem_of_find? hf))
  case mpr => exact fun hf => find?_of_mem h' (hp.mem_iff.mpr (mem_of_find? hf))

theorem nodup_keys_concat (h : table.keys.Nodup) (hk : key ∉ table.keys) :
    (keys (table ++ [(key, value)])).Nodup := by
  have hc := h.concat hk
  rw [List.concat_eq_append] at hc
  simpa [keys] using hc

theorem put_of_find? (h : table.find? key = some value) : table.put key value = table := by
  induction table
  case nil => simp [find?] at h
  case cons e table hi =>
    obtain ⟨k, v⟩ := e
    by_cases he : k = key
    case pos =>
      obtain rfl : v = value := by simpa [find?, he] using h
      simp [put, he]
    case neg =>
      have ht : find? table key = some value := by simpa [find?, he] using h
      simp [put, he, hi ht]

theorem merge_cons :
    table.merge ((key, value) :: overrides) = (table.put key value).merge overrides :=
  rfl

-- Of two values for a name the later one would stay, so the names of the overrides have to differ.
theorem find?_merge (h : overrides.keys.Nodup) (table : Table) (key : String) :
    (table.merge overrides).find? key = (overrides.find? key).or (table.find? key) := by
  induction overrides generalizing table
  case nil => rfl
  case cons e overrides hi =>
    obtain ⟨k, v⟩ := e
    have ⟨hn, hd⟩ := List.nodup_cons.mp h
    rw [merge_cons, hi hd, find?_put]
    by_cases hk : k = key
    case pos =>
      have ho : find? overrides key = none := find?_eq_none.mpr (hk ▸ hn)
      simp [find?, hk, ho]
    case neg => simp [find?, hk]

theorem merge_of_find? (h : ∀ e ∈ overrides, table.find? e.1 = some e.2) :
    table.merge overrides = table := by
  induction overrides
  case nil => rfl
  case cons e overrides hi =>
    rw [merge_cons, put_of_find? (h e List.mem_cons_self)]
    exact hi fun e' hm => h e' (List.mem_cons_of_mem _ hm)

theorem merge_merge (h : overrides.keys.Nodup) :
    (table.merge overrides).merge overrides = table.merge overrides := by
  apply merge_of_find?
  intro e hm
  rw [find?_merge h, find?_of_mem h hm]
  rfl

end ApiStubs.Table
