import ApiStubs.Proofs.Escape.Reference
import ApiStubs.Proofs.Xml.Content
import ApiStubs.Proofs.Xml.Name

/-!
A decoder of markup. It goes through a text from left to right, one character at a time, and knows
start tags, end tags, empty tags, attributes between double quotes, and four references.
-/

namespace ApiStubs.Xml

open Escape (Reading)

namespace Decoder

-- What has been read of a start tag.
structure StartTag where
  name : String
  attributes : List (String × String) := []

def StartTag.add (tag : StartTag) (name value : List Char) : StartTag :=
  { tag with attributes := tag.attributes ++ [(String.ofList name, String.ofList value)] }

def StartTag.element (tag : StartTag) (children : List Content) : Content :=
  .element tag.name tag.attributes children

-- An element whose end is still to come, and what stands before it.
structure Frame where
  tag : StartTag
  before : List Content

-- What is being read.
inductive Mode
  | content (text : Reading)
  -- A tag of which only the `<` has been read.
  | tag
  | startName (name : List Char)
  -- A start tag between its attributes.
  | startTag (tag : StartTag)
  | attributeName (tag : StartTag) (name : List Char)
  -- An attribute of which the `=` has been read.
  | attribute (tag : StartTag) (name : List Char)
  | value (tag : StartTag) (name : List Char) (value : Reading)
  -- A tag without content of which the `/` has been read.
  | emptyTag (tag : StartTag)
  | endName (name : List Char)

structure State where
  -- The open elements, innermost one first.
  frames : List Frame := []
  -- The content of the innermost one up to the last tag.
  before : List Content := []
  mode : Mode := .content {}

-- A text as content.
def ofText (text : List Char) : List Content :=
  Content.consText (String.ofList text) []

-- Reads what follows the name or an attribute of a start tag.
def State.stepTag (s : State) (tag : StartTag) (c : Char) : Option State :=
  if c = ' ' then some { s with mode := .attributeName tag [] }
  else if c = '/' then some { s with mode := .emptyTag tag }
  else if c = '>' then some { frames := ⟨tag, s.before⟩ :: s.frames }
  else none

-- Ends the innermost element.
def State.close (s : State) (name : List Char) : Option State :=
  match s.frames with
  | [] => none
  | f :: frames =>
    if f.tag.name = String.ofList name then
      some { frames, before := f.before ++ [f.tag.element s.before] }
    else none

def State.step (s : State) (c : Char) : Option State :=
  match s.mode with
  | .content text =>
    if c = '<' then
      if text.reference.isNone then
        some { s with before := s.before ++ ofText text.read, mode := .tag }
      else none
    else (text.step c).map fun text => { s with mode := .content text }
  | .tag =>
    if c = '/' then some { s with mode := .endName [] } else some { s with mode := .startName [c] }
  | .startName name =>
    if c = ' ' ∨ c = '/' ∨ c = '>' then
      if IsName name then s.stepTag { name := String.ofList name } c else none
    else some { s with mode := .startName (name ++ [c]) }
  | .startTag tag => s.stepTag tag c
  | .attributeName tag name =>
    if c = '=' then if IsName name then some { s with mode := .attribute tag name } else none
    else some { s with mode := .attributeName tag (name ++ [c]) }
  | .attribute tag name =>
    if c = '"' then some { s with mode := .value tag name {} } else none
  | .value tag name value =>
    if c = '"' then
      if value.reference.isNone then some { s with mode := .startTag (tag.add name value.read) }
      else none
    else (value.step c).map fun value => { s with mode := .value tag name value }
  | .emptyTag tag =>
    if c = '>' then some { s with before := s.before ++ [tag.element []], mode := .content {} }
    else none
  | .endName name =>
    if c = '>' then s.close name else some { s with mode := .endName (name ++ [c]) }

def run (s : State) (text : List Char) : Option State :=
  text.foldlM State.step s

-- What has been read if the text ends here: not in a tag, in a reference or in an element.
def State.result? (s : State) : Option (List Content) :=
  match s.frames, s.mode with
  | [], .content ⟨text, none⟩ => some (s.before ++ ofText text)
  | _, _ => none

end Decoder

-- The content that a whole text is the markup of.
def decode (text : String) : Option (List Content) :=
  (Decoder.run {} text.toList).bind (·.result?)

namespace Decoder

variable {s s' : State} {frames : List Frame} {before : List Content} {tag : StartTag}

@[simp] theorem run_nil : run s [] = some s :=
  rfl

theorem run_cons {c : Char} (h : s.step c = some s') (text : List Char) :
    run s (c :: text) = run s' text := by
  simp [run, h]

theorem run_append {text : List Char} (h : run s text = some s') (rest : List Char) :
    run s (text ++ rest) = run s' rest := by
  simp only [run] at h ⊢
  simp [List.foldlM_append, h]

-- A mode that collects characters until one comes up that it is looking for.
theorem run_collect (mode : List Char → Mode) {text : List Char}
    (h : ∀ c ∈ text, ∀ read,
      State.step ⟨frames, before, mode read⟩ c = some ⟨frames, before, mode (read ++ [c])⟩)
    (read : List Char) :
    run ⟨frames, before, mode read⟩ text = some ⟨frames, before, mode (read ++ text)⟩ := by
  induction text generalizing read
  case nil => simp
  case cons c text hi =>
    rw [run_cons <| h c List.mem_cons_self read, hi fun d hd => h d <| List.mem_cons_of_mem c hd]
    simp

-- A mode that hands characters on to a `Reading`, up to the one that ends it.
theorem run_reading (mode : Reading → Mode) {text : List Char} {r r' : Reading}
    (h : ∀ c ∈ text, ∀ r, State.step ⟨frames, before, mode r⟩ c =
      (r.step c).map fun r => ⟨frames, before, mode r⟩)
    (hr : text.foldlM Reading.step r = some r') :
    run ⟨frames, before, mode r⟩ text = some ⟨frames, before, mode r'⟩ := by
  induction text generalizing r
  case nil => simp_all
  case cons c text hi =>
    rw [List.foldlM_cons] at hr
    have ⟨next, hn, hr⟩ := Option.bind_eq_some_iff.mp hr
    have hs : State.step ⟨frames, before, mode r⟩ c = some ⟨frames, before, mode next⟩ := by
      simp [h c List.mem_cons_self, hn]
    rw [run_cons hs]
    exact hi (fun d hd => h d <| List.mem_cons_of_mem c hd) hr

theorem run_contentChars (text s : List Char) :
    run ⟨frames, before, .content ⟨text, none⟩⟩ (Escape.contentChars s) =
      some ⟨frames, before, .content ⟨text ++ s, none⟩⟩ := by
  refine run_reading .content (fun c hc r => ?_) (Reading.steps_contentChars text s)
  have hl : c ≠ '<' := fun hl => Escape.lt_not_mem_contentChars s (hl ▸ hc)
  simp [State.step, hl]

theorem run_htmlChars (name s : List Char) :
    run ⟨frames, before, .value tag name {}⟩ (Escape.htmlChars s) =
      some ⟨frames, before, .value tag name ⟨s, none⟩⟩ := by
  refine run_reading (.value tag name) (fun c hc r => ?_) (Reading.steps_htmlChars [] s)
  have hq : c ≠ '"' := fun hq => Escape.not_mem_htmlChars (by decide) s (hq ▸ hc)
  simp [State.step, hq]

end Decoder
end ApiStubs.Xml
