import ApiStubs.Proofs.Settings.Layers
import ApiStubs.Proofs.Table.Merge

/-!
The tables of settings under a layer. A layer has its entries in ascending order of their names, as
every layer that was read. So a table keeps its entries, but for the values of those that count, and
the new entries follow in that order.
-/

namespace ApiStubs

variable {layer : Layer} {table : Table}

structure Layer.Ordered (layer : Layer) : Prop where
  owners : layer.owners.Ascending
  types : layer.types.Ascending

namespace Toml

theorem ascending_sorted (h : (sorted table).keys.Nodup) : (sorted table).Ascending := by
  have hs : (sorted table).Pairwise fun a b => decide (a.1 ≤ b.1) := by
    refine List.pairwise_mergeSort ?_ ?_ table
    · simpa using fun _ _ _ => String.le_trans
    · simpa using String.le_total
  have hk : (sorted table).keys.Pairwise (· ≤ ·) :=
    List.pairwise_map.mpr (hs.imp fun hab => of_decide_eq_true hab)
  exact List.Pairwise.imp₂ (fun a b hle hne => Std.lt_of_le_of_ne hle hne) hk h

-- Ascending entries are what any order of them is sorted to.
theorem sorted_of_perm {ordered : Table} (hp : table.Perm ordered) (ho : ordered.Ascending) :
    sorted table = ordered := by
  have hs : (sorted table).Perm ordered := (List.mergeSort_perm table _).trans hp
  have ha : (sorted table).Ascending := ascending_sorted <| (hs.map _).nodup_iff.mpr ho.nodup
  apply hs.eq_of_pairwise ?unique (List.pairwise_map.mp ha) (List.pairwise_map.mp ho)
  case unique => exact fun _ _ _ _ hab hba => absurd hba (String.lt_asymm hab)

theorem readLayer_yields_ordered (text : String) : Yields Layer.Ordered (readLayer text) := by
  intro layer h
  have hd := readLayer_yields_distinct text layer h
  unfold readLayer at h
  split at h
  case h_1 => cases h
  case h_2 =>
    obtain ⟨d, -, h⟩ := bind_eq_ok.mp h
    cases h
    exact ⟨ascending_sorted hd.owners, ascending_sorted hd.types⟩

end Toml

namespace Layer

open Settings (doubledOwners)

theorem Ordered.distinct (h : layer.Ordered) : layer.Distinct :=
  ⟨h.owners.nodup, h.types.nodup⟩

-- Both tables are overridden entry by entry, and a second time nothing changes.
theorem applyTo_overrides (h : layer.Ordered) (below : Settings) :
    Table.Overridden below.owners layer.owners (layer.applyTo below).owners ∧
    Table.Overridden below.types layer.types (layer.applyTo below).types ∧
    layer.applyTo (layer.applyTo below) = layer.applyTo below :=
  ⟨Table.overridden_merge h.owners _, Table.overridden_merge h.types _,
    applyTo_applyTo h.distinct⟩

-- Owners in a file, one of which has two entries in `doubledOwners`.
def ownersText : String :=
  "[owners]\nfx = \"Fx\"\nevent = \"Event\"\n"

def ownersLayer : Layer where
  owners := [("event", "Event"), ("fx", "Fx")]

theorem applyTo_overrides_doubledOwners :
    Toml.readLayer ownersText = .ok ownersLayer ∧ ownersLayer.Ordered ∧
      (ownersLayer.applyTo doubledOwners).owners =
        [("Promise", "P"), ("event", "Event"), ("event", "F"), ("fx", "Fx")] ∧
      Table.Overridden doubledOwners.owners ownersLayer.owners
        (ownersLayer.applyTo doubledOwners).owners ∧
      ownersLayer.applyTo (ownersLayer.applyTo doubledOwners) =
        ownersLayer.applyTo doubledOwners := by
  have hs : Toml.statements? ownersText = some [
      .header ["owners"], .assign ["fx"] (.text "Fx"), .assign ["event"] (.text "Event")] := by
    decide +kernel
  have ht : Toml.sorted [("fx", "Fx"), ("event", "Event")] = ownersLayer.owners :=
    Toml.sorted_of_perm (by decide) (by decide)
  have hr : Toml.readLayer ownersText = .ok ownersLayer := by
    have hl : Toml.readLayer ownersText = .ok
        { owners := Toml.sorted [("fx", "Fx"), ("event", "Event")], types := Toml.sorted [] } := by
      rw [Toml.readLayer, hs]
      rfl
    rw [hl, ht]
    simp [Toml.sorted, ownersLayer]
  have ho : ownersLayer.Ordered := Toml.readLayer_yields_ordered _ _ hr
  obtain ⟨hm, -, ha⟩ := applyTo_overrides ho doubledOwners
  exact ⟨hr, ho, by decide, hm, ha⟩

end Layer
end ApiStubs
