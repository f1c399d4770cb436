import ApiStubs.Proofs.Table
import ApiStubs.Proofs.Text.Blank
import ApiStubs.Proofs.Text.Pieces
import ApiStubs.TypeList

/-!
Lists of types that were put together from other ones. With a comma between two lists the
alternatives of the first one come before those of the second one, and nothing else changes.
-/

namespace ApiStubs.TypeList

open Text

variable {sep : String}

-- The texts between commas that are left when blanks around them are dropped.
theorem parts_eq (raw : String) :
    parts raw = (((raw.toList.splitOn ',').map trimChars).filter (· ≠ [])).map String.ofList := by
  have hp (part : List Char) : String.ofList part ≠ "" ↔ part ≠ [] := by
    simp [← String.toList_inj]
  rw [parts, splitChars_eq_splitOn, List.filter_map, List.filter_map, List.map_map]
  simp only [Function.comp_def, hp]

theorem parts_append_comma (a b : String) : parts (a ++ "," ++ b) = parts a ++ parts b := by
  have hs : (a ++ "," ++ b).toList.splitOn ',' = a.toList.splitOn ',' ++ b.toList.splitOn ',' := by
    simp [List.splitOn_append_cons_self]
  simp only [parts_eq, hs, List.map_append, List.filter_append]

-- A blank in front of a list is one in front of its first part.
theorem parts_blank_append (raw : String) : parts (" " ++ raw) = parts raw := by
  obtain ⟨part, parts, hp⟩ := List.exists_cons_of_ne_nil (List.splitOn_ne_nil ',' raw.toList)
  have hs : (" " ++ raw).toList.splitOn ',' = (' ' :: part) :: parts := by
    simp [List.splitOn_cons_eq_if_modifyHead, hp]
  have hb : AllBlank [' '] := List.forall_mem_singleton.mpr (by decide)
  have ht : trimChars (' ' :: part) = trimChars part := by
    simpa using trimChars_append (s := part) hb .nil
  simp only [parts_eq, hs, hp, List.map_cons, ht]

theorem parts_append_comma_blank (a b : String) : parts (a ++ ", " ++ b) = parts a ++ parts b := by
  have hs : a ++ ", " ++ b = a ++ "," ++ (" " ++ b) := by simp [← String.toList_inj]
  rw [hs, parts_append_comma, parts_blank_append]

-- Reading a joined list is reading its members one after the other.
theorem parts_intercalate (h : ∀ a b, parts (a ++ sep ++ b) = parts a ++ parts b)
    (names : List String) : parts (sep.intercalate names) = names.flatMap parts := by
  induction names
  case nil => rfl
  case cons name rest hi =>
    cases rest
    case nil            => simp
    case cons next rest => rw [String.intercalate_cons_cons, h, hi]; rfl

theorem alternatives_read_intercalate (h : ∀ a b, parts (a ++ sep ++ b) = parts a ++ parts b)
    (settings : Settings) (names : List String) :
    (read settings (sep.intercalate names)).alternatives =
      names.flatMap fun name => (read settings name).alternatives := by
  simp only [read, parts_intercalate h, List.map_flatMap]

-- The alternatives of a list: of the texts between its commas, trimmed and without the blank ones,
-- what the first entry of the table for each holds, or the text itself.
def lookedUp (settings : Settings) (raw : String) : List String :=
  (((raw.toList.splitOn ',').map trimChars).filter (· ≠ [])).map fun part =>
    ((List.find? (·.1 = String.ofList part) settings.types).map (·.2)).getD (String.ofList part)

theorem alternatives_read (settings : Settings) (raw : String) :
    (read settings raw).alternatives = lookedUp settings raw := by
  simp only [read, lookedUp, parts_eq, List.map_map, Function.comp_def, Table.findD,
    Table.find?_eq_map_find?]

theorem text_read (settings : Settings) (raw : String) :
    (read settings raw).text settings =
      if settings.singleType then (lookedUp settings raw).headD ""
      else "|".intercalate (lookedUp settings raw) := by
  rw [text, primary, alternatives_read]

end ApiStubs.TypeList
