/-!
Lines of a text. A line feed ends a line, a carriage return directly before it belongs to the line
end, and nothing else separates lines.
-/

namespace ApiStubs.Text

def consLine (c : Char) : List (List Char) → List (List Char)
  | [] => [[c]]
  | line :: rest => (c :: line) :: rest

-- The lines of a text. A line feed at the very end starts no further line.
def lineChars : List Char → List (List Char)
  | [] => []
  | '\n' :: s => [] :: lineChars s
  | '\r' :: '\n' :: s => [] :: lineChars s
  | c :: s => consLine c (lineChars s)

def lines (s : String) : List String :=
  (lineChars s.toList).map String.ofList

theorem mem_consLine {c : Char} {ls : List (List Char)} {l : List Char} (h : l ∈ consLine c ls) :
    l ∈ ls ∨ ∃ t, l = c :: t ∧ (t = [] ∨ t ∈ ls) := by
  cases ls with
  | nil => simp_all [consLine]
  | cons line rest => simp_all [consLine]; rcases h with rfl | h <;> simp_all

-- A line never holds the character that ends it.
theorem newline_not_mem_of_mem_lineChars {s l : List Char} (h : l ∈ lineChars s) : '\n' ∉ l := by
  fun_induction lineChars s generalizing l with
  | case1 => simp at h
  | case2 s ih => rcases List.mem_cons.1 h with rfl | h <;> simp_all
  | case3 s ih => rcases List.mem_cons.1 h with rfl | h <;> simp_all
  | case4 c s hc _ ih =>
    rcases mem_consLine h with h | ⟨t, rfl, rfl | h⟩
    · exact ih h
    · simpa using Ne.symm hc
    · simpa using ⟨Ne.symm hc, ih h⟩

end ApiStubs.Text
