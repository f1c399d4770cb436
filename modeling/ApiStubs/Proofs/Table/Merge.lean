import ApiStubs.Proofs.Table

/-!
What a table has after another one has been put over it, entry by entry. The recursion of `merge` is
on the overriding entries. Here it is turned round and goes through the table, where an entry takes
the new value of its name away from all that follow.
-/

namespace ApiStubs.Table

variable {table overrides : Table} {key value : String}

theorem keys_append (table more : Table) : keys (table ++ more) = table.keys ++ more.keys :=
  List.map_append

-- The entries for all other names.
def without (table : Table) (key : String) : Table :=
  table.filter (·.1 ≠ key)

theorem find?_without (table : Table) (key k : String) :
    (table.without key).find? k = if k = key then none else table.find? k := by
  simp only [find?_eq_map_find?, without, List.find?_filter]
  split
  case isTrue h  => simp [h]
  case isFalse h =>
    congr
    funext e
    by_cases he : e.1 = k <;> simp [he, h]

theorem without_of_not_mem (h : key ∉ table.keys) : table.without key = table :=
  List.filter_eq_self.mpr fun e he => by
    have hk : e.1 ≠ key := fun hk => h (List.mem_map.mpr ⟨e, he, hk⟩)
    simpa using hk

theorem nodup_keys_without (h : table.keys.Nodup) : (table.without key).keys.Nodup :=
  h.sublist (List.filter_sublist.map _)

theorem cons_merge (h : overrides.keys.Nodup) (key value : String) (table : Table) :
    merge ((key, value) :: table) overrides =
      (key, (overrides.find? key).getD value) :: merge table (overrides.without key) := by
  induction overrides generalizing table value
  case nil => rfl
  case cons e overrides hi =>
    obtain ⟨k, v⟩ := e
    obtain ⟨hn, hd⟩ := List.nodup_cons.mp h
    rw [merge_cons]
    by_cases hk : k = key
    case pos =>
      subst hk
      have ho : find? overrides k = none := find?_eq_none.mpr hn
      simp [put, hi hd, find?, ho, without]
    case neg => simp [put, Ne.symm hk, hi hd, find?, hk, without, merge_cons]

theorem nil_merge (h : overrides.keys.Nodup) : merge [] overrides = overrides := by
  induction overrides
  case nil => rfl
  case cons e overrides hi =>
    obtain ⟨hn, hd⟩ := List.nodup_cons.mp h
    have ho : find? overrides e.1 = none := find?_eq_none.mpr hn
    rw [merge_cons, put, cons_merge hd, ho, without_of_not_mem hn, hi hd]
    rfl

-- The entries of a table, the first one for each overridden name with its new value.
def renewed (table overrides : Table) : Table :=
  table.mapIdx fun i e =>
    if e.1 ∈ keys (table.take i) then e else (e.1, (overrides.find? e.1).getD e.2)

theorem renewed_cons (key value : String) (table overrides : Table) :
    renewed ((key, value) :: table) overrides =
      (key, (overrides.find? key).getD value) :: renewed table (overrides.without key) := by
  unfold renewed
  rw [List.mapIdx_cons]
  congr 1
  congr 1
  funext i ⟨k, v⟩
  by_cases hk : k = key <;> simp [keys, hk, find?_without]

-- The overriding entries for names that the table lacks.
def added (table overrides : Table) : Table :=
  overrides.filter (·.1 ∉ table.keys)

theorem merge_eq_renewed_append (h : overrides.keys.Nodup) (table : Table) :
    table.merge overrides = table.renewed overrides ++ table.added overrides := by
  induction table generalizing overrides
  case nil => simp [nil_merge h, renewed, added, keys]
  case cons e table hi =>
    have ha : added table (overrides.without e.1) = added (e :: table) overrides := by
      rw [added, added, without, List.filter_filter]
      refine List.filter_congr fun o _ => ?_
      have hk : o.1 ∈ keys (e :: table) ↔ o.1 = e.1 ∨ o.1 ∈ keys table := List.mem_cons
      simp [hk, Bool.and_comm]
    rw [cons_merge h, hi (nodup_keys_without h), ha, renewed_cons, List.cons_append]

theorem length_renewed (table overrides : Table) :
    (table.renewed overrides).length = table.length :=
  List.length_mapIdx

theorem keys_renewed (table overrides : Table) : (table.renewed overrides).keys = table.keys := by
  induction table generalizing overrides
  case nil => rfl
  case cons e table hi =>
    rw [renewed_cons]
    exact congrArg (e.1 :: ·) (hi (overrides.without e.1))

theorem getElem?_renewed {i : Nat} {e : String × String} (h : table[i]? = some e)
    (overrides : Table) : (table.renewed overrides)[i]? =
      some (if e.1 ∈ keys (table.take i) then e else (e.1, (overrides.find? e.1).getD e.2)) := by
  simp [renewed, h]

-- The names of a table ascend, so no name is there twice.
def Ascending (table : Table) : Prop :=
  table.keys.Pairwise (· < ·)

instance (table : Table) : Decidable table.Ascending :=
  inferInstanceAs (Decidable (table.keys.Pairwise (· < ·)))

theorem Ascending.nodup (h : table.Ascending) : table.keys.Nodup :=
  List.Pairwise.imp String.ne_of_lt h

-- What a table has become under overriding entries.
structure Overridden (table overrides result : Table) : Prop where
  -- All names stay where they are.
  names : keys (result.take table.length) = table.keys
  -- Of each name the first entry has the new value if there is one, and the others stay.
  first : ∀ i e, table[i]? = some e → e.1 ∉ keys (table.take i) →
    result[i]? = some (e.1, (overrides.find? e.1).getD e.2)
  others : ∀ i e, table[i]? = some e → e.1 ∈ keys (table.take i) → result[i]? = some e
  -- The entries for all other names follow, and nothing else.
  behind : result.drop table.length = overrides.filter (·.1 ∉ table.keys)
  ascending : Ascending (result.drop table.length)
  nodup : table.keys.Nodup → result.keys.Nodup

theorem overridden_merge (h : overrides.Ascending) (table : Table) :
    Overridden table overrides (table.merge overrides) := by
  have ht : (table.merge overrides).take table.length = table.renewed overrides := by
    rw [merge_eq_renewed_append h.nodup, List.take_left' (length_renewed _ _)]
  have hd : (table.merge overrides).drop table.length = table.added overrides := by
    rw [merge_eq_renewed_append h.nodup, List.drop_left' (length_renewed _ _)]
  have hg {i : Nat} {e : String × String} (he : table[i]? = some e) :
      (table.merge overrides)[i]? = (table.renewed overrides)[i]? := by
    have hi : i < table.length := (List.getElem?_eq_some_iff.mp he).1
    rw [← ht, List.getElem?_take_of_lt hi]
  constructor
  case names => rw [ht, keys_renewed]
  case first =>
    intro i e he hn
    rw [hg he, getElem?_renewed he, if_neg hn]
  case others =>
    intro i e he hm
    rw [hg he, getElem?_renewed he, if_pos hm]
  case behind => exact hd
  case ascending =>
    rw [hd]
    exact List.Pairwise.sublist (List.filter_sublist.map _) h
  case nodup =>
    intro hn
    rw [merge_eq_renewed_append h.nodup, keys_append, keys_renewed]
    refine List.nodup_append.mpr ⟨hn, h.nodup.sublist (List.filter_sublist.map _), ?_⟩
    rintro k hk k' hk' rfl
    obtain ⟨e, he, rfl⟩ := List.mem_map.mp hk'
    have ha : e.1 ∉ table.keys := by simpa using (List.mem_filter.mp he).right
    exact ha hk

end ApiStubs.Table
