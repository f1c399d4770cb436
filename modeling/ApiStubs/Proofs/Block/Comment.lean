import ApiStubs.Block
import ApiStubs.Proofs.Escape.Comment
import ApiStubs.Proofs.Text.Lines
import ApiStubs.Proofs.TypeList

/-!
The doc comment of an entry. Escaping the sections one by one is the same as escaping their text as
a whole, so whatever an entry holds, its comment ends where it is meant to end.
-/

namespace ApiStubs.Entry

open Text Escape

-- The sections of the doc comment before they are made safe.

def plainLong (entry : Entry) : String :=
  match entry.kind with
  | .method => if entry.long = "" then "" else "\n" ++ entry.long
  | .property => ""

def plainExample (ex : Example) : String :=
  "\nExample: " ++ Escape.html ex.description ++ "\n<pre>\n" ++ Escape.html ex.code ++ "\n</pre>"

def plainParameter (p : Parameter) : String :=
  "\n@param \x7b" ++ p.type ++ "\x7d " ++ p.name ++
    if p.description = "" then "" else " " ++ p.description

-- The first type of an entry or all of them, or `undefined` if there is nothing to show.
def plainReturns (settings : Settings) (entry : Entry) : String :=
  let types := TypeList.lookedUp settings entry.returns
  let shown := if settings.singleType then types.headD "" else "|".intercalate types
  if shown = "" then "undefined" else shown

def plainType (settings : Settings) (entry : Entry) : String :=
  match entry.kind with
  | .method => "\n@returns \x7b" ++ entry.plainReturns settings ++ "\x7d"
  | .property => "\n@type " ++ entry.plainReturns settings

-- The text inside the doc comment before it is made safe.
def plainText (settings : Settings) (parameters : List Parameter) (entry : Entry) : String :=
  entry.short ++ entry.plainLong ++ String.join (entry.examples.map plainExample) ++
    String.join (parameters.map plainParameter) ++
    "\n@since " ++ entry.added ++ entry.plainType settings

variable {settings : Settings} {parameters : List Parameter} {entry : Entry}

theorem shownType_eq_plainReturns : entry.shownType settings = entry.plainReturns settings := by
  simp only [shownType, plainReturns, TypeList.text_read]

theorem startsNeutral_plainLong : StartsNeutral entry.plainLong := by
  have h : Joint "\n" := by decide
  unfold plainLong
  split <;> try split
  case h_1.isFalse => exact h.startsNeutral
  all_goals decide

theorem startsNeutral_plainExample (ex : Example) : StartsNeutral (plainExample ex) := by
  have h : Joint "\nExample: " := by decide
  simp only [plainExample, String.append_assoc]
  exact h.startsNeutral

theorem startsNeutral_plainParameter (p : Parameter) : StartsNeutral (plainParameter p) := by
  have h : Joint "\n@param \x7b" := by decide
  simp only [plainParameter, String.append_assoc]
  exact h.startsNeutral

theorem startsNeutral_plainType : StartsNeutral (entry.plainType settings) := by
  have h₁ : Joint "\n@returns \x7b" := by decide
  have h₂ : Joint "\n@type " := by decide
  unfold plainType
  split
  case h_1 => rw [String.append_assoc]; exact h₁.startsNeutral
  case h_2 => exact h₂.startsNeutral

theorem comment_plainLong : comment entry.plainLong = entry.longSection := by
  have h : Joint "\n" := by decide
  cases hk : entry.kind <;> simp only [plainLong, longSection, hk]
  case property => rfl
  case method =>
    split
    case isTrue  => rfl
    case isFalse => exact comment_joint_append h

theorem comment_plainExample (ex : Example) : comment (plainExample ex) = exampleSection ex := by
  have h₁ : Joint "\nExample: " := by decide
  have h₂ : Joint "\n<pre>\n" := by decide
  have h₃ : Joint "\n</pre>" := by decide
  simp only [plainExample, exampleSection, comment_append_joint h₃, comment_append_joint_append h₂,
    comment_joint_append h₁]

theorem comment_plainParameter (p : Parameter) :
    comment (plainParameter p) = parameterSection p := by
  have h₁ : Joint "\n@param \x7b" := by decide
  have h₂ : Joint "\x7d " := by decide
  have h₃ : Joint " " := by decide
  unfold plainParameter parameterSection
  split
  case isTrue =>
    simp only [String.append_empty, comment_append_joint_append h₂, comment_joint_append h₁]
  case isFalse =>
    simp only [← String.append_assoc, comment_append_joint_append h₃,
      comment_append_joint_append h₂, comment_joint_append h₁]

theorem comment_plainType : comment (entry.plainType settings) = entry.typeSection settings := by
  have h₁ : Joint "\n@returns \x7b" := by decide
  have h₂ : Joint "\x7d" := by decide
  have h₃ : Joint "\n@type " := by decide
  cases hk : entry.kind <;>
    simp only [plainType, typeSection, shownType_eq_plainReturns, hk]
  case method   => rw [comment_append_joint h₂, comment_joint_append h₁]
  case property => exact comment_joint_append h₃

theorem comment_plainText :
    comment (entry.plainText settings parameters) = entry.docText settings parameters := by
  have h : Joint "\n@since " := by decide
  have hx : ∀ s ∈ entry.examples.map plainExample, StartsNeutral s := by
    simpa using fun ex _ => startsNeutral_plainExample ex
  have hp : ∀ s ∈ parameters.map plainParameter, StartsNeutral s := by
    simpa using fun p _ => startsNeutral_plainParameter p
  rw [plainText, docText, comment_append (.inr startsNeutral_plainType),
    comment_append_joint_append h, comment_append (.inr (startsNeutral_join hp)),
    comment_append (.inr (startsNeutral_join hx)), comment_append (.inr startsNeutral_plainLong),
    comment_join hp, comment_join hx, comment_plainLong, comment_plainType, List.map_map,
    List.map_map]
  simp only [Function.comp_def, comment_plainExample, comment_plainParameter]

-- A line of a text as it stands inside a comment.
def commentLine (line : List Char) : List Char :=
  [' ', '*', ' '] ++ line ++ ['\n']

theorem toList_commentBlock (text : String) :
    (commentBlock text).toList =
      ['/', '*', '*', '\n'] ++ (lineChars text.toList).flatMap commentLine ++ [' ', '*', '/'] := by
  simp [commentBlock, Text.lines, List.flatMap_map, String.toList_join]
  rfl

theorem unmarked_commentLine {line : List Char} (h : Unmarked line) :
    Unmarked (commentLine line) := by
  have hs : Unmarked [' ', '*', ' '] := ⟨by decide, by decide⟩
  have he : Unmarked ['\n'] := ⟨by decide, by decide⟩
  exact hs.append h (.inl (by simp [Neutral])) |>.append he <| .inr (by simp [Neutral])

-- A line ends in a line feed, so it meets no other one in a marker.
theorem unmarked_flatMap_commentLine {lines : List (List Char)} (h : ∀ l ∈ lines, Unmarked l) :
    Unmarked (lines.flatMap commentLine) := by
  induction lines
  case nil => exact ⟨List.isChain_nil, List.isChain_nil⟩
  case cons line rest hi =>
    have hr := hi fun l hl => h l (List.mem_cons_of_mem _ hl)
    have hn : (commentLine line).getLast? = some '\n' := List.getLast?_concat
    rw [List.flatMap_cons]
    refine (unmarked_commentLine (h line List.mem_cons_self)).append hr <| .inl ?_
    simpa [hn] using (by decide : Neutral '\n')

-- The marker that opens the comment is the only one that opens any, and the same holds for closing.
theorem occursAt_commentBlock {text : String} (h : Unmarked text.toList) (i : Nat) :
    (OccursAt "/*".toList (commentBlock text).toList i ↔ i = 0) ∧
      (OccursAt "*/".toList (commentBlock text).toList i ↔ i + 2 = (commentBlock text).length) := by
  have hb : Unmarked ((lineChars text.toList).flatMap commentLine) :=
    unmarked_flatMap_commentLine fun l hl => h.of_isInfix (isInfix_of_mem_lineChars hl)
  rw [← String.length_toList, toList_commentBlock]
  generalize (lineChars text.toList).flatMap commentLine = body at hb
  constructor
  case left =>
    have ho : Apart '/' '*' (['*', '*', '\n'] ++ body ++ [' ', '*', '/']) := by
      refine .append (.append (by decide) hb.opening ?_) (by decide) ?_ <;> simp
    exact ho.occursAt_cons_cons
  case right =>
    have hc : Apart '*' '/' (['/', '*', '*', '\n'] ++ body ++ [' '] ++ ['*']) := by
      refine .append (.append (.append (by decide) hb.closing ?_) (by decide) ?_) (by decide) ?_ <;>
        simp
    simpa using hc.occursAt_append

-- Embedded texts neither end the comment nor open another one, however they meet.
theorem occursAt_doc (settings : Settings) (parameters : List Parameter) (entry : Entry) (i : Nat) :
    (OccursAt "/*".toList (entry.doc settings parameters).toList i ↔ i = 0) ∧
      (OccursAt "*/".toList (entry.doc settings parameters).toList i ↔
        i + 2 = (entry.doc settings parameters).length) := by
  apply occursAt_commentBlock
  rw [← comment_plainText, toList_comment]
  exact unmarked_commentChars _

end ApiStubs.Entry
