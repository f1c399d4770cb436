import ApiStubs.Proofs.Entry.Acceptance
import ApiStubs.Proofs.Transform
import ApiStubs.Proofs.Xml.Occurrence

/-!
Entries with several signatures. Only the first signature has a say in the rendering of an entry,
and of a property not even that one has, its version excepted.
-/

namespace ApiStubs

open Xml (Element Node)

variable {e e' : Element} {entry entry' : Entry} {settings : Settings} {name : String}

-- A list without the members of a kind that follow the first one.
def withoutLater (p : α → Bool) : List α → List α
  | [] => []
  | x :: xs => if p x then x :: xs.filter (!p ·) else x :: withoutLater p xs

theorem filter_withoutLater (p : α → Bool) (xs : List α) :
    (withoutLater p xs).filter (!p ·) = xs.filter (!p ·) := by
  induction xs
  case nil => rfl
  case cons x xs hi =>
    unfold withoutLater
    split
    case isTrue h  => simp [h]
    case isFalse h => simp [h, hi]

theorem find?_withoutLater (p : α → Bool) (xs : List α) :
    (withoutLater p xs).find? p = xs.find? p := by
  induction xs
  case nil => rfl
  case cons x xs hi =>
    unfold withoutLater
    split
    case isTrue h  => simp [h]
    case isFalse h => simp [h, hi]

-- The elements are the same but for their signatures after the first one. Texts and comments right
-- inside them do not count.
structure Xml.Element.SameButOverloads (e e' : Element) : Prop where
  tag : e.tag = e'.tag
  elements : withoutLater (·.name = "signature") e.elements =
    withoutLater (·.name = "signature") e'.elements

namespace Xml.Element

-- The children of a name depend on no more than the elements that are kept with them.
theorem childrenNamed_congr {keep : Element → Bool} (hk : ∀ c : Element, c.name = name → keep c)
    (h : e.elements.filter keep = e'.elements.filter keep) :
    e.childrenNamed name = e'.childrenNamed name := by
  have hf (e : Element) : (e.elements.filter keep).filter (·.name = name) =
      e.childrenNamed name := by
    rw [List.filter_filter, childrenNamed_eq_filter]
    apply List.filter_congr
    intro c _
    by_cases hn : c.name = name <;> simp [hn, hk]
  rw [← hf e, ← hf e', h]

namespace SameButOverloads

theorem child?_signature (h : e.SameButOverloads e') :
    e.child? "signature" = e'.child? "signature" := by
  simp only [child?, childrenNamed_eq_filter, List.head?_filter]
  rw [← find?_withoutLater, h.elements, find?_withoutLater]

theorem childrenNamed (h : e.SameButOverloads e') (hn : name ≠ "signature") :
    e.childrenNamed name = e'.childrenNamed name := by
  have hw := filter_withoutLater fun c : Element => decide (c.name = "signature")
  have hk : ∀ c : Element, c.name = name → !decide (c.name = "signature") := by
    rintro c rfl
    simpa using hn
  apply childrenNamed_congr hk
  rw [← hw, h.elements, hw]

end SameButOverloads
end Xml.Element

-- The version that a signature gives.
def Signature.added? (e : Element) : Option String :=
  ((e.child? "added").map fun a => Text.trim a.text).filter (· ≠ "")

theorem Signature.added_of_ofElement {signature : Signature}
    (h : Signature.ofElement name e = .ok signature) : signature.added = added? e := by
  have ⟨_, _, h⟩ := bind_eq_ok.mp h
  cases h
  rfl

-- The elements are the same but for their signatures and their long descriptions. Yet their first
-- signatures, if there are any, give the same version.
structure Xml.Element.SameButCalls (e e' : Element) : Prop where
  tag : e.tag = e'.tag
  elements : e.elements.filter (fun c => c.name ≠ "signature" ∧ c.name ≠ "longdesc") =
    e'.elements.filter fun c => c.name ≠ "signature" ∧ c.name ≠ "longdesc"
  added : (e.child? "signature").bind Signature.added? =
    (e'.child? "signature").bind Signature.added?

theorem Xml.Element.SameButCalls.childrenNamed (h : e.SameButCalls e') (hs : name ≠ "signature")
    (hl : name ≠ "longdesc") : e.childrenNamed name = e'.childrenNamed name := by
  apply childrenNamed_congr _ h.elements
  rintro c rfl
  simp [hs, hl]

namespace Entry

-- What an entry says that was read from an element.
structure ReadFrom (e : Element) (entry : Entry) : Prop where
  name : required e "name" "?" = .ok entry.name
  kind : readKind entry.name e = .ok entry.kind
  signatures :
    (e.childrenNamed "signature").mapM (Signature.ofElement entry.name) = .ok entry.signatures
  examples : (e.childrenNamed "example").mapM (Example.ofElement entry.name) = .ok entry.examples
  returns : entry.returns = (e.attribute? "return").getD ""
  added : entry.added = (entry.signatures.head?.bind (·.added)).getD firstVersion
  short : entry.short = markupOf e "desc"
  long : entry.long = markupOf e "longdesc"

theorem readFrom_of_ofElement (h : Entry.ofElement e = .ok entry) : entry.ReadFrom e := by
  rw [ofElement_eq] at h
  have ⟨_, hn, h⟩ := bind_eq_ok.mp h
  have ⟨_, hk, h⟩ := bind_eq_ok.mp h
  have ⟨_, hs, h⟩ := bind_eq_ok.mp h
  have ⟨_, hx, h⟩ := bind_eq_ok.mp h
  cases h
  exact ⟨hn, hk, hs, hx, rfl, rfl, rfl, rfl⟩

-- The part of an entry that its block is made of.
def shownPart (entry : Entry) : Entry :=
  match entry.kind with
  | .method => { entry with signatures := [{ parameters := entry.parameters }] }
  | .property => { entry with signatures := [], long := "" }

theorem block_shownPart (settings : Settings) (entry : Entry) :
    entry.shownPart.block settings = entry.block settings := by
  have ⟨_, kind, _, _, _, _, _, _⟩ := entry
  cases kind <;> rfl

-- The entries are rendered in the same way, whatever is around them.
structure Alike (settings : Settings) (entry entry' : Entry) : Prop where
  name : entry.name = entry'.name
  added : entry.added = entry'.added
  block : entry.block settings = entry'.block settings

namespace ReadFrom

theorem added_eq (h : entry.ReadFrom e) :
    entry.added = ((e.child? "signature").bind Signature.added?).getD firstVersion := by
  have hs := head?_of_mapM h.signatures
  rw [h.added]
  unfold Element.child?
  cases he : (e.childrenNamed "signature").head? <;>
    cases hy : entry.signatures.head? <;> simp [he, hy] at hs ⊢
  case some.some s signature => rw [Signature.added_of_ofElement hs]

variable (h : entry.ReadFrom e) (h' : entry'.ReadFrom e')

include h h'

theorem name_congr (ht : e.tag = e'.tag) : entry.name = entry'.name := by
  have hn : required e "name" "?" = required e' "name" "?" := by
    simp only [required, Element.attribute?, Element.name, ht]
  rw [h.name, h'.name] at hn
  exact Except.ok.inj hn

theorem kind_congr (ht : e.tag = e'.tag) : entry.kind = entry'.kind := by
  have hk : readKind entry.name e = readKind entry'.name e' := by
    simp only [readKind, required, Element.attribute?, Element.name, ht, h.name_congr h' ht]
  rw [h.kind, h'.kind] at hk
  exact Except.ok.inj hk

theorem examples_congr (ht : e.tag = e'.tag)
    (hc : e.childrenNamed "example" = e'.childrenNamed "example") :
    entry.examples = entry'.examples := by
  have hx := h'.examples
  rw [← h.name_congr h' ht, ← hc, h.examples] at hx
  exact Except.ok.inj hx

theorem returns_congr (ht : e.tag = e'.tag) : entry.returns = entry'.returns := by
  rw [h.returns, h'.returns, Element.attribute?, ht]
  rfl

theorem head?_signatures_congr (ht : e.tag = e'.tag)
    (hc : (e.childrenNamed "signature").head? = (e'.childrenNamed "signature").head?) :
    entry.signatures.head? = entry'.signatures.head? := by
  have hs := head?_of_mapM h.signatures
  have hs' := head?_of_mapM h'.signatures
  rw [← h.name_congr h' ht, ← hc] at hs'
  exact Option.map_injective (fun _ _ => Except.ok.inj) (hs.symm.trans hs')

-- What both kinds show is the same, and so is what methods alone show.
theorem alike (ht : e.tag = e'.tag)
    (hx : e.childrenNamed "example" = e'.childrenNamed "example")
    (hd : e.childrenNamed "desc" = e'.childrenNamed "desc") (ha : entry.added = entry'.added)
    (hm : entry.kind = .method → entry.parameters = entry'.parameters ∧ entry.long = entry'.long) :
    entry.Alike settings entry' := by
  have hn := h.name_congr h' ht
  have hk := h.kind_congr h' ht
  have hr := h.returns_congr h' ht
  have hs : entry.short = entry'.short := by
    rw [h.short, h'.short, markupOf, markupOf, Element.child?, Element.child?, hd]
  have hp : entry.shownPart = entry'.shownPart := by
    have hxs := h.examples_congr h' ht hx
    unfold shownPart
    rw [← hk]
    cases hke : entry.kind
    case method =>
      obtain ⟨hps, hl⟩ := hm hke
      simp only [hps, hn, hr, ha, hs, hl, hxs]
    case property => simp only [hn, hr, ha, hs, hxs]
  exact ⟨hn, ha, by rw [← block_shownPart, hp, block_shownPart]⟩

theorem alike_of_sameButOverloads (hs : e.SameButOverloads e') : entry.Alike settings entry' := by
  have hh := h.head?_signatures_congr h' hs.tag hs.child?_signature
  have ha : entry.added = entry'.added := by rw [h.added, h'.added, hh]
  have hl : entry.long = entry'.long := by
    rw [h.long, h'.long, markupOf, markupOf, Element.child?, Element.child?,
      hs.childrenNamed (by decide)]
  have hp : entry.parameters = entry'.parameters := by
    unfold Entry.parameters
    cases hes : entry.signatures <;> cases hes' : entry'.signatures <;> simp_all
  exact h.alike h' hs.tag (hs.childrenNamed (by decide)) (hs.childrenNamed (by decide)) ha
    fun _ => ⟨hp, hl⟩

theorem alike_of_sameButCalls (hk : entry.kind = .property) (hs : e.SameButCalls e') :
    entry.Alike settings entry' := by
  have ha : entry.added = entry'.added := by rw [h.added_eq, h'.added_eq, hs.added]
  refine h.alike h' hs.tag (hs.childrenNamed (by decide) (by decide))
    (hs.childrenNamed (by decide) (by decide)) ha fun hm => ?_
  cases hk.symm.trans hm

end ReadFrom

-- Elements that are read as entries alike may take each other's place.
theorem Alike.transformElements_eq (h : entry.Alike settings entry')
    (he : Entry.ofElement e = .ok entry) (he' : Entry.ofElement e' = .ok entry')
    (before after : List Element) :
    settings.transformElements (before ++ e :: after) =
      settings.transformElements (before ++ e' :: after) := by
  induction before
  case nil =>
    simp only [List.nil_append, Settings.transformElements, he, he', h.name, h.added, h.block]
  case cons b before hi => simp only [List.cons_append, Settings.transformElements, hi]

-- Two elements that differ in signatures after the first one are rendered in the same way: whether
-- they are the constructor or too new is the same, and so are their blocks. For properties the
-- first signatures may differ too, except in their versions, and the long descriptions.
theorem rendered_by_firstSignature (settings : Settings)
    (h : Entry.ofElement e = .ok entry) (h' : Entry.ofElement e' = .ok entry')
    (hs : e.SameButOverloads e' ∨
      entry.kind = .property ∧ entry'.kind = .property ∧ e.SameButCalls e') :
    (entry.name = constructorName ↔ entry'.name = constructorName) ∧
    settings.versions.admits entry.added = settings.versions.admits entry'.added ∧
    entry.block settings = entry'.block settings ∧
    ∀ before after, settings.transformElements (before ++ e :: after) =
      settings.transformElements (before ++ e' :: after) := by
  have hr := readFrom_of_ofElement h
  have hr' := readFrom_of_ofElement h'
  have ha : entry.Alike settings entry' := by
    cases hs
    case inl hs => exact hr.alike_of_sameButOverloads hr' hs
    case inr hs => exact hr.alike_of_sameButCalls hr' hs.left hs.right.right
  refine ⟨by rw [ha.name], by rw [ha.added], ha.block, ha.transformElements_eq h h'⟩

-- A signature with its version and its parameters, all of them texts.
def signatureNode (added : String) (parameters : List String) : Node :=
  .element { name := { localName := "signature" } } <|
    .element { name := { localName := "added" } } [.text added] ::
      parameters.map fun name => .element
        { name := { localName := "argument" }
          attributes := [⟨{ localName := "name" }, name⟩, ⟨{ localName := "type" }, "String"⟩] } []

-- An element of an entry with nothing but text in it.
def textNode (name text : String) : Node :=
  .element { name := { localName := name } } [.text text]

-- A method with one signature, and the same one with overloads around its description.
def onElement : Element :=
  { bareElement "method" "on" with
    children := [signatureNode "1.7" ["events", "selector"], textNode "desc" "Attach."] }

def overloadedElement : Element :=
  { bareElement "method" "on" with
    children := [signatureNode "1.7" ["events", "selector"], signatureNode "1.4" [],
      textNode "desc" "Attach.", signatureNode "9.9" ["map"]] }

-- A property, and the same one with a parameter and a long description.
def lengthElement : Element :=
  { bareElement "property" "length" with children := [signatureNode "1.0" []] }

def callableElement : Element :=
  { bareElement "property" "length" with
    children := [textNode "longdesc" "How many.", signatureNode "1.0" ["of"],
      signatureNode "3.0" []] }

theorem rendered_overloads :
    ∃ on overloaded length callable,
      (Entry.ofElement onElement = .ok on ∧ Entry.ofElement overloadedElement = .ok overloaded ∧
        onElement.SameButOverloads overloadedElement ∧ on ≠ overloaded ∧
        on.block {} = overloaded.block {}) ∧
      (Entry.ofElement lengthElement = .ok length ∧ Entry.ofElement callableElement = .ok callable ∧
        length.kind = .property ∧ callable.kind = .property ∧
        lengthElement.SameButCalls callableElement ∧ length ≠ callable ∧
        length.block {} = callable.block {}) := by
  let events : RawParameter := ⟨"events", "String", ""⟩
  let selector : RawParameter := ⟨"selector", "String", ""⟩
  let on : Entry :=
    { name := "on", kind := .method, added := "1.7", short := "Attach."
      signatures := [⟨"1.7", [events, selector]⟩] }
  let overloaded : Entry :=
    { on with signatures := on.signatures ++ [⟨"1.4", []⟩, ⟨"9.9", [⟨"map", "String", ""⟩]⟩] }
  let length : Entry := { name := "length", kind := .property, signatures := [⟨"1.0", []⟩] }
  let callable : Entry :=
    { length with
      long := "How many."
      signatures := [⟨"1.0", [⟨"of", "String", ""⟩]⟩, ⟨"3.0", []⟩] }
  have h₁ : Entry.ofElement onElement = .ok on := by rfl
  have h₂ : Entry.ofElement overloadedElement = .ok overloaded := by rfl
  have h₃ : Entry.ofElement lengthElement = .ok length := by rfl
  have h₄ : Entry.ofElement callableElement = .ok callable := by rfl
  have hs : onElement.SameButOverloads overloadedElement := ⟨rfl, rfl⟩
  have hc : lengthElement.SameButCalls callableElement := ⟨rfl, rfl, rfl⟩
  have ⟨_, _, hb, _⟩ := rendered_by_firstSignature {} h₁ h₂ (.inl hs)
  have ⟨_, _, hb', _⟩ := rendered_by_firstSignature {} h₃ h₄ (.inr ⟨rfl, rfl, hc⟩)
  exact ⟨on, overloaded, length, callable, ⟨h₁, h₂, hs, by decide, hb⟩,
    h₃, h₄, rfl, rfl, hc, by decide, hb'⟩

end Entry
end ApiStubs
