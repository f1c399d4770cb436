import ApiStubs.Proofs.Results
import ApiStubs.Proofs.Table
import ApiStubs.Toml.Layer

/-!
No table of a layer that was read has a name twice: a name that is there already ends the reading.
-/

namespace ApiStubs

-- The names of each table differ.
structure Layer.Distinct (layer : Layer) : Prop where
  owners : layer.owners.keys.Nodup
  types : layer.types.keys.Nodup

namespace Toml

variable {d : Draft} {name : TableName} {key value : String} {table : Table}

namespace Draft

theorem distinct_table (h : d.layer.Distinct) (name : TableName) : (d.table name).keys.Nodup := by
  cases name
  case owners => exact h.owners
  case types  => exact h.types

theorem distinct_setTable (h : d.layer.Distinct) (ht : table.keys.Nodup) :
    (d.setTable name table).layer.Distinct := by
  cases name
  case owners => exact ⟨ht, h.types⟩
  case types  => exact ⟨h.owners, ht⟩

theorem settle_yields (d : Draft) (name : String) : Yields (·.layer = d.layer) (d.settle name) := by
  unfold settle
  split
  case isTrue  => exact .error
  case isFalse => exact .ok rfl

theorem beginTable_yields (d : Draft) (name : TableName) :
    Yields (·.layer = d.layer) (d.beginTable name) := by
  unfold beginTable
  split
  case isTrue  => exact .error
  case isFalse => exact d.settle_yields _

theorem addEntry_yields (h : d.layer.Distinct) :
    Yields (·.layer.Distinct) (d.addEntry name key value) := by
  unfold addEntry
  split
  case isTrue => exact .error
  case isFalse hn =>
    have hk : key ∉ (d.table name).keys := by simpa [Table.keys] using hn
    exact .ok <| distinct_setTable h <| Table.nodup_keys_concat (distinct_table h name) hk

-- A setting that is no table leaves the tables alone.
theorem setScalar_yields (h : d.layer.Distinct) (name : String) (value : Value) :
    Yields (·.layer.Distinct) (d.setScalar name value) := by
  unfold setScalar
  apply Yields.bind
  intro d' hd
  have h' : d'.layer.Distinct := d.settle_yields _ _ hd ▸ h
  dsimp only
  split
  case h_1 | h_2 | h_3 | h_4 | h_5 => exact .ok ⟨h'.owners, h'.types⟩
  all_goals exact .error

theorem setEntries_yields (h : d.layer.Distinct) (entries : Table) :
    Yields (·.layer.Distinct) (d.setEntries name entries) := by
  unfold setEntries
  apply Yields.bind
  intro d' hd
  exact .foldlM (d.beginTable_yields _ _ hd ▸ h) fun _ _ h => addEntry_yields h

theorem apply_yields (h : d.layer.Distinct) (statement : Statement) :
    Yields (·.layer.Distinct) (d.apply statement) := by
  unfold apply
  split
  case h_1 =>
    split
    case h_1 => exact .error
    case h_2 =>
      apply Yields.bind
      intro d' hd
      have h' : d'.layer.Distinct := d.beginTable_yields _ _ hd ▸ h
      exact .ok h'
  case h_2 => exact .error
  case h_3 =>
    split
    case h_1 => exact addEntry_yields h
    case h_2 => exact .error
    case h_3 =>
      split
      case h_1 => exact setScalar_yields h _ _
      case h_2 => exact setEntries_yields h _
      case h_3 => exact .error
    case h_4 =>
      split
      case h_1 => exact .error
      case h_2 =>
        split
        case isTrue  => exact .error
        case isFalse => exact addEntry_yields h
    case h_5 => exact .error

end Draft

theorem nodup_keys_sorted (h : table.keys.Nodup) : (sorted table).keys.Nodup :=
  ((List.mergeSort_perm table _).map _).nodup_iff.mpr h

theorem readLayer_yields_distinct (text : String) : Yields Layer.Distinct (readLayer text) := by
  unfold readLayer
  split
  case h_1 => exact .error
  case h_2 statements _ =>
    have hd : Yields (·.layer.Distinct) (statements.foldlM Draft.apply {}) :=
      .foldlM ⟨List.nodup_nil, List.nodup_nil⟩ fun _ _ h => Draft.apply_yields h _
    refine .bind fun d h => .ok ?_
    exact ⟨nodup_keys_sorted (hd d h).owners, nodup_keys_sorted (hd d h).types⟩

end Toml
end ApiStubs
