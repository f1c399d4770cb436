import ApiStubs.Proofs.Block.Comment
import ApiStubs.Proofs.Block.Statement
import ApiStubs.Proofs.Text.Pieces

/-!
The lines of a block: those of the doc text behind the margin of a comment, and below the comment
the statement.
-/

namespace ApiStubs.Entry

open Text

variable {settings : Settings} {entry : Entry}

-- The doc comment holds every line of the doc text once and in order. Cutting the text into lines
-- comes after escaping, which may be done for the text as a whole.
theorem doc_eq_pieceLines (settings : Settings) (parameters : List Parameter) (entry : Entry) :
    entry.doc settings parameters =
      "/**\n" ++
        String.join
          ((pieceLines
              ((Escape.comment (entry.plainText settings parameters)).toList.splitOn '\n')).map
            fun line => " * " ++ String.ofList line ++ "\n") ++
        " */" := by
  rw [doc, commentBlock, comment_plainText, Text.lines, lineChars_eq_pieceLines, List.map_map]
  rfl

-- A method with texts that hold markers, line ends and HTML, and with two types to show.
def hoverEntry : Entry where
  name := "hover"
  kind := .method
  returns := "Promise,, jQuery "
  added := "1.4"
  short := "Bind **/ two"
  long := "handlers.\r\n/\n"
  examples := [⟨"A <b>", "$(f);\n"⟩]

-- A property without a type, whose long description is not shown.
def lengthEntry : Entry where
  name := "length"
  kind := .property
  returns := " ,"
  long := "long"

theorem doc_eq_pieceLines_hoverEntry :
    hoverEntry.doc { singleType := false } [⟨"out", "Function", "Left*/."⟩] =
        "/**\n * Bind ** / two\n * handlers.\n * /\n * \n * Example: A &lt;b&gt;\n * <pre>\n" ++
          " * $(f);\n * \n * </pre>\n * @param \x7bFunction\x7d out Left* /.\n * @since 1.4\n" ++
          " * @returns \x7b__jQueryPromise|jQuery\x7d\n */" ∧
      lengthEntry.doc {} [] = "/**\n * \n * @since 1.0\n * @type undefined\n */" := by
  rw [doc_eq_pieceLines, doc_eq_pieceLines]
  decide +kernel

-- The lines of a text behind the margin of a comment.
def inMargin (text : String) : String :=
  String.join ((pieceLines (text.toList.splitOn '\n')).map fun line =>
    " * " ++ String.ofList line ++ "\n")

theorem toList_inMargin (text : String) :
    (inMargin text).toList = (lineChars text.toList).flatMap commentLine := by
  rw [lineChars_eq_pieceLines, inMargin, String.toList_join]
  simp [List.flatMap_map]
  rfl

-- In front of the lines of a text that ends a comment there is the end of a line.
theorem exists_commentBlock_eq (text last : String) :
    ∃ before, commentBlock (text ++ "\n" ++ last) = before ++ "\n" ++ inMargin last ++ " */" := by
  have hl : lineChars (text ++ "\n" ++ last).toList =
      (text.toList.splitOn '\n').map dropReturn ++ lineChars last.toList := by
    rw [← lineChars_append_newline]
    simp
  obtain ⟨before, hb⟩ : ∃ before : List Char, ['/', '*', '*', '\n'] ++
      ((text.toList.splitOn '\n').map dropReturn).flatMap commentLine = before ++ ['\n'] := by
    obtain hn | ⟨lines, line, hn⟩ :=
      List.eq_nil_or_concat ((text.toList.splitOn '\n').map dropReturn)
    case inl => exact ⟨['/', '*', '*'], by rw [hn]; rfl⟩
    case inr =>
      refine ⟨['/', '*', '*', '\n'] ++ lines.flatMap commentLine ++ ([' ', '*', ' '] ++ line), ?_⟩
      rw [hn]
      simp [commentLine]
  refine ⟨String.ofList before, String.toList_inj.mp ?_⟩
  rw [toList_commentBlock, hl, List.flatMap_append, ← List.append_assoc, hb]
  simp [toList_inMargin]

theorem inMargin_of_line {text : String} (h : '\n' ∉ text.toList) (hn : text ≠ "") :
    inMargin text = " * " ++ text ++ "\n" := by
  have ht : text.toList ≠ [] := by simpa using hn
  rw [inMargin, List.splitOn_eq_singleton h]
  simp [pieceLines, ht]

-- The lines of a doc comment.
def docLines (settings : Settings) (entry : Entry) : List (List Char) :=
  let lines := lineChars (entry.docText settings (entry.shownParameters settings)).toList
  "/**".toList :: lines.map (" * ".toList ++ ·) ++ [" */".toList]

theorem toList_block :
    (entry.block settings).toList =
      ['\n'].intercalate (entry.docLines settings ++ [(entry.shownStatement settings).toList]) := by
  have hc : (entry.doc settings (entry.shownParameters settings)).toList ++ ['\n'] =
      (entry.docLines settings).flatMap (· ++ ['\n']) := by
    rw [doc, toList_commentBlock]
    simp [docLines, List.flatMap_map]
    rfl
  rw [intercalate_concat, ← hc]
  simp [block, shownStatement]

-- No line of a comment is empty, not even that of an empty line of its text.
theorem ne_nil_of_mem_docLines {line : List Char} (h : line ∈ entry.docLines settings) :
    line ≠ [] ∧ '\n' ∉ line := by
  simp only [docLines, List.cons_append, List.mem_cons, List.mem_append, List.mem_map,
    List.not_mem_nil, or_false] at h
  obtain rfl | ⟨text, ht, rfl⟩ | rfl := h
  · decide
  · simp [newline_not_mem_of_mem_lineChars ht]
  · decide

theorem shownStatement_ne_nil : (entry.shownStatement settings).toList ≠ [] := by
  cases hk : entry.kind <;> simp [shownStatement, statement, hk]

theorem splitOn_block (h : '\n' ∉ (entry.shownStatement settings).toList) :
    (entry.block settings).toList.splitOn '\n' =
      entry.docLines settings ++ [(entry.shownStatement settings).toList] := by
  rw [toList_block]
  refine List.splitOn_intercalate _ (fun line hl => ?_) (by simp)
  obtain hl | hl := List.mem_append.mp hl
  · exact (ne_nil_of_mem_docLines hl).right
  · rwa [List.mem_singleton.mp hl]

-- A block has no empty line, and what follows it can begin on a line of its own.
theorem apart_block (h : '\n' ∉ (entry.shownStatement settings).toList) :
    Apart '\n' '\n' ((entry.block settings).toList ++ ['\n']) := by
  have hl : ∀ line ∈ entry.docLines settings ++ [(entry.shownStatement settings).toList],
      line ≠ [] ∧ '\n' ∉ line := by
    intro line hm
    obtain hm | hm := List.mem_append.mp hm
    · exact ne_nil_of_mem_docLines hm
    · rw [List.mem_singleton.mp hm]
      exact ⟨shownStatement_ne_nil, h⟩
  have hb := apart_flatMap_concat hl
  rw [List.flatMap_append, List.flatMap_singleton] at hb
  rwa [toList_block, intercalate_concat, List.append_assoc]

-- The text of a doc comment is never without lines, since it names a version.
theorem lineChars_docText_ne_nil {parameters : List Parameter} :
    lineChars (entry.docText settings parameters).toList ≠ [] := by
  apply lineChars_ne_nil
  simp [docText]

end ApiStubs.Entry
