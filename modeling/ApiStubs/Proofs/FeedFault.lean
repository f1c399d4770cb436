import ApiStubs.Proofs.Entry.Acceptance
import ApiStubs.Proofs.Transform
import ApiStubs.Proofs.XPath.Selection

/-!
What the rendering of a feed fails with. The query, the reader of attributes and the reader of kinds
take one and the same attribute for the kind of an entry, so an entry that was selected has a kind.
-/

namespace ApiStubs

open Xml (Element)

variable {settings : Settings} {elements : List Element} {e : Element} {err : Error} {xml : String}

-- An element of a feed that is read as an entry.
structure Selected (xml : String) (e : Element) : Prop where
  selects : ∃ d elements, readDocument xml = .ok d ∧ select d entryQuery = .ok elements ∧
    e ∈ elements

namespace Selected

theorem exists_occurrence (h : Selected xml e) :
    ∃ o : Xml.Occurrence, o.element = e ∧ o.isRendered := by
  have ⟨d, elements, hd, hs, hm⟩ := h.selects
  rw [select_eq_rendered (distinct_of_readDocument hd)] at hs
  cases hs
  have ⟨o, ho, hoe⟩ := List.mem_map.mp hm
  exact ⟨o, hoe, (List.mem_filter.mp ho).right⟩

theorem name_eq (h : Selected xml e) : e.name = "entry" := by
  have ⟨o, hoe, ho⟩ := h.exists_occurrence
  simp only [Xml.Occurrence.isRendered, Bool.and_eq_true, Xml.Name.isPlain, decide_eq_true_eq,
    hoe] at ho
  exact ho.left.right.right

theorem kind (h : Selected xml e) :
    e.attribute? "type" = some "method" ∨ e.attribute? "type" = some "property" := by
  have ⟨o, hoe, ho⟩ := h.exists_occurrence
  simp only [Xml.Occurrence.isRendered, Bool.and_eq_true, decide_eq_true_eq, hoe] at ho
  exact ho.right

end Selected

-- The errors that the rendering of a feed may come to.
inductive FeedFault (xml : String) : Error → Prop
  | malformed {reason : String} (read : readDocument xml = .error (.malformed reason)) :
    FeedFault xml (.malformed reason)
  | unnamed {e : Element} (selected : Selected xml e) (unnamed : e.attribute? "name" = none) :
    FeedFault xml (.missingAttribute "entry" "name" "?")
  | parameterName {e s p : Element} {name : String} (selected : Selected xml e)
    (named : e.attribute? "name" = some name) (signature : s ∈ e.childrenNamed "signature")
    (parameter : p ∈ s.childrenNamed "argument") (unnamed : ¬RawParameter.isNamed p) :
    FeedFault xml (.missingAttribute "argument" "name" name)
  | parameterType {e s p : Element} {name : String} (selected : Selected xml e)
    (named : e.attribute? "name" = some name) (signature : s ∈ e.childrenNamed "signature")
    (parameter : p ∈ s.childrenNamed "argument") (untyped : ¬RawParameter.isTyped p) :
    FeedFault xml (.missingAttribute "argument" "type" name)
  | exampleCode {e x : Element} {name : String} (selected : Selected xml e)
    (named : e.attribute? "name" = some name) (ex : x ∈ e.childrenNamed "example")
    (codeless : x.child? "code" = none) :
    FeedFault xml (.missingElement "example" "code" name)

-- Whether no rendering of a feed comes to an error: to those of other steps, and to those that the
-- query guards against.
def Error.isUnreachable : Error → Bool
  | .transport .. | .status .. | .query .. | .unsupported .. | .file .. | .settings .. => true
  | .missingAttribute element name _ => element = "entry" ∧ name = "type"
  | .malformed _ | .missingElement .. => false

theorem FeedFault.not_isUnreachable (h : FeedFault xml err) : ¬err.isUnreachable := by
  cases h <;> simp [Error.isUnreachable]

theorem feedFault_of_readDocument (h : readDocument xml = .error err) : FeedFault xml err := by
  have ⟨reason, hr⟩ : ∃ reason, err = .malformed reason := by
    unfold readDocument at h
    cases hd : Xml.Document.read xml <;> rw [hd] at h <;> cases h
    exact ⟨_, rfl⟩
  exact hr ▸ .malformed (hr ▸ h)

-- What an entry that was selected may lack.
theorem Selected.feedFault (hs : Selected xml e) (h : Entry.ofElement e = .error err) :
    FeedFault xml err := by
  have hf := (Entry.ofElement_reports e err).mp h
  cases hn : e.attribute? "name"
  case none =>
    simp only [Entry.flaws, hn, errorUnless, hs.name_eq, Option.isSome_none, Bool.false_eq_true,
      if_false, List.cons_append, List.nil_append, List.head?_cons, Option.some.injEq] at hf
    exact hf ▸ .unnamed hs hn
  case some name =>
    have hk : Entry.kindFlaws name e = [] := Entry.kindFlaws_eq_nil.mpr hs.kind
    have hm := List.mem_of_head? hf
    simp only [Entry.flaws, Entry.reportedName, hn, hk, errorUnless, Option.isSome_some,
      if_true, Option.getD_some, List.nil_append, List.mem_append] at hm
    cases hm
    case inl hm =>
      obtain ⟨s, hsig, hm⟩ := List.mem_flatMap.mp hm
      obtain ⟨p, hp, hm⟩ := List.mem_flatMap.mp hm
      cases List.mem_append.mp hm
      case inl hm =>
        obtain ⟨hu, rfl⟩ := mem_errorUnless.mp hm
        exact .parameterName hs hn hsig hp (by simp [hu])
      case inr hm =>
        obtain ⟨hu, rfl⟩ := mem_errorUnless.mp hm
        exact .parameterType hs hn hsig hp (by simp [hu])
    case inr hm =>
      obtain ⟨x, hx, hm⟩ := List.mem_flatMap.mp hm
      obtain ⟨hu, rfl⟩ := mem_errorUnless.mp hm
      exact .exampleCode hs hn hx (by simpa using hu)

theorem exists_of_transformElements
    (h : (settings.transformElements elements).result = .error err) :
    ∃ e ∈ elements, Entry.ofElement e = .error err := by
  induction elements
  case nil => cases h
  case cons e rest hi =>
    cases he : Entry.ofElement e
    case error err' =>
      rw [Settings.transformElements, he] at h
      cases h
      exact ⟨e, List.mem_cons_self, he⟩
    case ok entry =>
      obtain ⟨f, hf, _⟩ := Settings.transformElements_cons settings he
      rw [hf] at h
      cases hr : (settings.transformElements rest).result <;> rw [hr] at h <;> cases h
      obtain ⟨x, hx, hxe⟩ := hi hr
      exact ⟨x, List.mem_cons_of_mem _ hx, hxe⟩

-- Every error is that of a feed that is no document, or of a selected entry that lacks a name, that
-- has a parameter without a name or without types, or that has an example without code. In all
-- cases but the first two the error calls the entry by its name.
theorem feedFault_of_transform (h : (settings.transform xml).result = .error err) :
    FeedFault xml err ∧ ¬err.isUnreachable := by
  have hf : FeedFault xml err := by
    obtain ⟨_, hd, hr⟩ | ⟨d, _, _, hs, _⟩ | ⟨d, elements, hd, hs, hr⟩ :=
      settings.transform_cases xml
    · cases h.symm.trans hr
      exact feedFault_of_readDocument hd
    · cases hs.symm.trans (select_entryQuery d)
    · have ⟨e, hm, he⟩ := exists_of_transformElements (hr.symm.trans h)
      exact Selected.feedFault ⟨d, elements, hd, hs, hm⟩ he
  exact ⟨hf, hf.not_isUnreachable⟩

-- An entry with an example without code, in front of one without a name.
def codelessFeed : String :=
  "<entries><entry type=\"method\" name=\"hide\"><example/></entry>" ++
    "<entry type=\"property\"/></entries>"

def codelessDocument : Xml.Document :=
  entriesDocument [codelessElement.node, (namelessElement "property").node]

theorem feedFault_of_codelessFeed :
    (({} : Settings).transform codelessFeed).result =
        .error (.missingElement "example" "code" "hide") ∧
      FeedFault codelessFeed (.missingElement "example" "code" "hide") ∧
      ¬(Error.missingElement "example" "code" "hide").isUnreachable := by
  have hd : readDocument codelessFeed = .ok codelessDocument := by cbv
  have ho : (codelessDocument.occurrences.filter (·.isRendered)).map (·.element) =
      [codelessElement, namelessElement "property"] :=
    rfl
  have hs := ho ▸ select_eq_rendered (distinct_of_readDocument hd)
  have he : Entry.ofElement codelessElement = .error (.missingElement "example" "code" "hide") :=
    rfl
  have ht : (({} : Settings).transform codelessFeed).result =
      .error (.missingElement "example" "code" "hide") := by
    rw [Settings.transform_result _ hd hs]
    exact Settings.transformElements_eq_error (List.forall_mem_nil _) he
  exact ⟨ht, feedFault_of_transform ht⟩

end ApiStubs
