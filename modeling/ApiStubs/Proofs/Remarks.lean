import ApiStubs.Proofs.Entry.Signature
import ApiStubs.Proofs.Xml.Bare
import ApiStubs.Proofs.XPath.Selection

/-!
Comments and instructions in a feed. Selecting and reading entries passes over them, so without
them a feed fails in the same way or has the same entries. Only in a description an element may hold
nothing else, and then the description is written in another way.
-/

namespace ApiStubs

open Xml (Document Element Occurrence Node)

variable {e c : Element} {name entry : String} {d : Document}

namespace Xml

-- Whether the markup of an element is read.
def Element.isDescription (e : Element) : Bool :=
  e.name = "desc" ∨ e.name = "longdesc"

-- No description below an element holds a hollow element.
def Element.Clear (e : Element) : Prop :=
  ∀ o ∈ Node.occurrencesOfList (some e) e.children, o.element.isDescription → o.element.Solid

def Document.Clear (d : Document) : Prop :=
  ∀ o ∈ d.occurrences, o.element.isDescription → o.element.Solid

instance (d : Document) : Decidable d.Clear :=
  inferInstanceAs (Decidable (∀ o ∈ d.occurrences, _ → _))

theorem Document.Clear.element {o : Occurrence} (h : d.Clear) (ho : o ∈ d.occurrences) :
    o.element.Clear :=
  fun _ hi => h _ <| Node.mem_occurrencesOfList_of_inner hi d.children ho

namespace Element.Clear

theorem solid (h : e.Clear) (hc : c ∈ e.elements) (hd : c.isDescription) : c.Solid :=
  h _ (Node.mem_occurrencesOfList_of_elements hc) hd

theorem child (h : e.Clear) (hc : c ∈ e.elements) : c.Clear :=
  fun _ hi => h _ <|
    Node.mem_occurrencesOfList_of_inner hi e.children (Node.mem_occurrencesOfList_of_elements hc)

end Element.Clear

end Xml

theorem required_bare (e : Element) (name entry : String) :
    required e.bare name entry = required e name entry :=
  rfl

theorem typesOf?_bare (e : Element) : typesOf? e.bare = typesOf? e := by
  unfold typesOf?
  rw [e.childrenNamed_bare, List.filterMap_map]
  rfl

theorem markupOf_bare (h : e.Clear) (hn : name = "desc" ∨ name = "longdesc") :
    markupOf e.bare name = markupOf e name := by
  unfold markupOf
  rw [e.child?_bare]
  cases hc : e.child? name
  case none => rfl
  case some c =>
    have ⟨hm, hcn⟩ := Element.mem_childrenNamed.mp (List.mem_of_head? hc)
    have hd : c.isDescription := by simpa [Element.isDescription, hcn] using hn
    have hs : c.bare.innerMarkup = c.innerMarkup := c.innerMarkup_bare.mpr (h.solid hm hd)
    simp [hs]

-- Children that are read alike without comments and instructions.
theorem mapM_childrenNamed_bare (name : String) {f : Element → Except Error α}
    (h : ∀ c ∈ e.childrenNamed name, f c.bare = f c) :
    (e.bare.childrenNamed name).mapM f = (e.childrenNamed name).mapM f := by
  rw [e.childrenNamed_bare, List.mapM_map]
  exact mapM_congr h

theorem RawParameter.ofElement_bare (h : e.Clear) :
    RawParameter.ofElement entry e.bare = RawParameter.ofElement entry e := by
  unfold RawParameter.ofElement
  rw [required_bare, typesOf?_bare, markupOf_bare h (.inl rfl)]

theorem Signature.ofElement_bare (h : e.Clear) :
    Signature.ofElement entry e.bare = Signature.ofElement entry e := by
  unfold Signature.ofElement
  have hp := mapM_childrenNamed_bare "argument" (f := RawParameter.ofElement entry)
    fun c hc => RawParameter.ofElement_bare <|
      h.child (Element.mem_childrenNamed.mp hc).left
  have ht (c : Element) : Text.trim c.bare.text = Text.trim c.text := by rw [c.text_bare]
  rw [hp, e.child?_bare, Option.map_map]
  simp only [Function.comp_def, ht]

theorem Example.ofElement_bare (h : e.Clear) :
    Example.ofElement entry e.bare = Example.ofElement entry e := by
  unfold Example.ofElement
  rw [e.child?_bare, markupOf_bare h (.inl rfl)]
  cases e.child? "code"
  case none => rfl
  case some code => simp [code.text_bare]

theorem Entry.ofElement_bare (h : e.Clear) : Entry.ofElement e.bare = Entry.ofElement e := by
  have hs (entry : String) :=
    mapM_childrenNamed_bare "signature" (f := Signature.ofElement entry)
      fun c hc => Signature.ofElement_bare <|
        h.child (Element.mem_childrenNamed.mp hc).left
  have hx (entry : String) :=
    mapM_childrenNamed_bare "example" (f := Example.ofElement entry)
      fun c hc => Example.ofElement_bare <|
        h.child (Element.mem_childrenNamed.mp hc).left
  unfold Entry.ofElement
  simp only [required_bare, hs, hx, markupOf_bare h (.inl rfl), markupOf_bare h (.inr rfl),
    e.attribute?_bare]

-- What an element lacks as an entry does not depend on comments and instructions.
theorem RawParameter.flaws_bare (entry : String) (e : Element) :
    RawParameter.flaws entry e.bare = RawParameter.flaws entry e := by
  simp only [RawParameter.flaws, RawParameter.isNamed, RawParameter.isTyped,
    Element.attribute?_bare, Element.childrenNamed_bare, List.any_map, Function.comp_def]

theorem Example.flaws_bare (entry : String) (e : Element) :
    Example.flaws entry e.bare = Example.flaws entry e := by
  simp only [Example.flaws, e.child?_bare, Option.isSome_map]

theorem Entry.flaws_bare (e : Element) : Entry.flaws e.bare = Entry.flaws e := by
  have hp : Entry.parameterFlaws (Entry.reportedName e) e.bare =
      Entry.parameterFlaws (Entry.reportedName e) e := by
    simp only [Entry.parameterFlaws, Element.childrenNamed_bare, List.flatMap_map,
      RawParameter.flaws_bare]
  have hx : Entry.exampleFlaws (Entry.reportedName e) e.bare =
      Entry.exampleFlaws (Entry.reportedName e) e := by
    simp only [Entry.exampleFlaws, Element.childrenNamed_bare, List.flatMap_map,
      Example.flaws_bare]
  simp only [Entry.flaws, ← hp, ← hx]
  rfl

theorem Signature.added?_bare (e : Element) : Signature.added? e.bare = Signature.added? e := by
  simp only [Signature.added?, e.child?_bare, Option.map_map, Function.comp_def, Element.text_bare]

-- Without comments and instructions an element is read with the same error, or as an entry of the
-- same name and version, whatever becomes of the descriptions.
theorem Entry.ofElement_bare_cases (e : Element) :
    (∃ err, Entry.ofElement e.bare = .error err ∧ Entry.ofElement e = .error err) ∨
    ∃ bare entry, Entry.ofElement e.bare = .ok bare ∧ Entry.ofElement e = .ok entry ∧
      bare.name = entry.name ∧ bare.added = entry.added := by
  have hb := Entry.ofElement_reports e.bare
  have hr := Entry.ofElement_reports e
  rw [Entry.flaws_bare] at hb
  cases he : Entry.ofElement e
  case error err => exact .inl ⟨err, (hb err).mpr ((hr err).mp he), rfl⟩
  case ok entry =>
    have ⟨bare, hbe⟩ := hb.eq_nil.mpr (hr.eq_nil.mp ⟨entry, he⟩)
    have hf := Entry.readFrom_of_ofElement hbe
    have hf' := Entry.readFrom_of_ofElement he
    refine .inr ⟨bare, entry, hbe, rfl, hf.name_congr hf' rfl, ?_⟩
    rw [hf.added_eq, hf'.added_eq, e.child?_bare]
    cases e.child? "signature"
    case none   => rfl
    case some s => simp [Signature.added?_bare]

namespace Xml

theorem Document.children_bare (d : Document) : d.bare.children = Node.bareOfList d.children := by
  simp only [children, Document.bare, Node.bareOfList_eq_flatMap, List.flatMap_append,
    List.flatMap_cons]
  rfl

theorem Document.occurrences_bare (d : Document) :
    d.bare.occurrences = d.occurrences.map (·.bare) := by
  rw [occurrences, d.children_bare]
  exact occurrencesOfList_bareOfList none d.children

theorem Occurrence.isRendered_bare (o : Occurrence) : o.bare.isRendered = o.isRendered := by
  have ⟨outer, _⟩ := o
  cases outer <;> rfl

end Xml

theorem select_bare (h : ∀ o ∈ d.occurrences, o.element.tag.Distinct) :
    select d.bare entryQuery =
      .ok ((d.occurrences.filter (·.isRendered)).map (·.element.bare)) := by
  have hb : ∀ o ∈ d.bare.occurrences, o.element.tag.Distinct := by
    rw [d.occurrences_bare]
    exact List.forall_mem_map.mpr h
  rw [select_eq_rendered hb, d.occurrences_bare, List.filter_map, List.map_map]
  simp only [Function.comp_def, Occurrence.isRendered_bare]
  rfl

namespace Settings

-- Rendering a document that was read.
def transformDocument (settings : Settings) (d : Document) : Except Error Transformed := do
  (settings.transformElements (← select d entryQuery)).result

theorem transformElements_bare (settings : Settings) {elements : List Element}
    (h : ∀ e ∈ elements, e.Clear) :
    settings.transformElements (elements.map (·.bare)) = settings.transformElements elements := by
  induction elements
  case nil => rfl
  case cons e rest hi =>
    have he := Entry.ofElement_bare (h e List.mem_cons_self)
    have hr := hi fun c hc => h c (List.mem_cons_of_mem _ hc)
    simp only [List.map_cons, transformElements, he, hr]

theorem transformDocument_bare (settings : Settings)
    (hd : ∀ o ∈ d.occurrences, o.element.tag.Distinct) (h : d.Clear) :
    settings.transformDocument d.bare = settings.transformDocument d := by
  have hc : ∀ e ∈ (d.occurrences.filter (·.isRendered)).map (·.element), e.Clear :=
    List.forall_mem_map.mpr fun o ho => h.element (List.mem_filter.mp ho).left
  have ht := settings.transformElements_bare hc
  rw [List.map_map] at ht
  simp only [transformDocument, select_bare hd, select_eq_rendered hd, bind, Except.bind, ← ht]
  rfl

-- The error or the counts of a rendering.
def reportOf (settings : Settings) (elements : List Element) : Except Error Report :=
  (settings.transformElements elements).result.map (·.report)

theorem reportOf_cons {entry : Entry} (settings : Settings) (h : Entry.ofElement e = .ok entry)
    (rest : List Element) :
    settings.reportOf (e :: rest) = (settings.reportOf rest).map fun r =>
      if entry.name = constructorName then { r with skippedConstructor := r.skippedConstructor + 1 }
      else if settings.versions.admits entry.added then { r with rendered := r.rendered + 1 }
      else { r with skippedVersion := r.skippedVersion + 1 } := by
  unfold reportOf
  simp only [transformElements, h]
  split_ifs <;> cases hr : (settings.transformElements rest).result <;>
    simp [Logged.map, Logged.cons, hr, Except.map, Transformed.consBlock,
      Transformed.skipConstructor, Transformed.skipVersion]

theorem reportOf_bare (settings : Settings) (elements : List Element) :
    settings.reportOf (elements.map (·.bare)) = settings.reportOf elements := by
  induction elements
  case nil => rfl
  case cons e rest hi =>
    rw [List.map_cons]
    obtain ⟨err, hb, he⟩ | ⟨bare, entry, hb, he, hn, ha⟩ := Entry.ofElement_bare_cases e
    case inl => simp only [reportOf, transformElements, hb, he]
    case inr => rw [settings.reportOf_cons hb, settings.reportOf_cons he, hi, hn, ha]

theorem transformDocument_eq (settings : Settings) {elements : List Element}
    (h : select d entryQuery = .ok elements) :
    settings.transformDocument d = (settings.transformElements elements).result := by
  simp only [transformDocument, h, bind, Except.bind]

theorem transform_eq_transformDocument (settings : Settings) {xml : String}
    (h : readDocument xml = .ok d) :
    (settings.transform xml).result = settings.transformDocument d := by
  have hs := select_of_readDocument h
  rw [settings.transform_result h hs, settings.transformDocument_eq hs]

-- Without its comments and instructions a feed fails with the same error or has the same counts.
-- The blocks are the same if no description holds a hollow element, and hollow elements are all
-- that makes a difference to markup.
theorem transform_bare (settings : Settings) {xml : String} (h : readDocument xml = .ok d) :
    (settings.transformDocument d.bare).map (·.report) =
      (settings.transform xml).result.map (·.report) ∧
    (d.Clear → settings.transformDocument d.bare = (settings.transform xml).result) ∧
    ∀ o ∈ d.occurrences,
      o.element.bare.innerMarkup = o.element.innerMarkup ↔ o.element.Solid := by
  have hd := distinct_of_readDocument h
  rw [settings.transform_eq_transformDocument h]
  refine ⟨?report, settings.transformDocument_bare hd, fun o _ => o.element.innerMarkup_bare⟩
  case report =>
    rw [settings.transformDocument_eq (select_bare hd),
      settings.transformDocument_eq (select_eq_rendered hd)]
    have hr := settings.reportOf_bare ((d.occurrences.filter (·.isRendered)).map (·.element))
    rwa [List.map_map] at hr

-- A feed with one method that has a description.
def describedFeed (before description : String) : String :=
  "<entries>" ++ before ++ "<entry name=\"hide\" type=\"method\"><desc>" ++ description ++
    "</desc></entry></entries>"

def describedElement (description : List Node) : Element :=
  { bareElement "method" "hide" with
    children := [.element
      ⟨{ localName := "desc" }, [], [[], [], [Xml.builtInLabel]]⟩ description] }

def describedDocument (before description : List Node) : Document :=
  entriesDocument (before ++ [(describedElement description).node])

def boldNode (children : List Node) : Node :=
  .element ⟨{ localName := "b" }, [], [[], [], [], [Xml.builtInLabel]]⟩ children

-- Remarks between entries, between texts and behind one.
def remarkFeed : String :=
  describedFeed "<!-- all -->" "Hide<!-- or --> <b>it<?now?></b>"

def remarkDocument : Document :=
  describedDocument [.comment " all "]
    [.text "Hide", .comment " or ", .text " ", boldNode [.text "it", .instruction "now" ""]]

def remarkTokens : List Xml.Token := [
  .startTag ⟨none, "entries"⟩ [], .comment " all ",
  .startTag ⟨none, "entry"⟩ [(⟨none, "name"⟩, "hide"), (⟨none, "type"⟩, "method")],
  .startTag ⟨none, "desc"⟩ [], .text "Hide", .comment " or ", .text " ",
  .startTag ⟨none, "b"⟩ [], .text "it", .instruction "now" "", .endTag ⟨none, "b"⟩,
  .endTag ⟨none, "desc"⟩, .endTag ⟨none, "entry"⟩, .endTag ⟨none, "entries"⟩]

theorem transform_remarkFeed :
    readDocument remarkFeed = .ok remarkDocument ∧ remarkDocument.Clear ∧
      ({} : Settings).transformDocument remarkDocument.bare =
        (({} : Settings).transform remarkFeed).result := by
  have hs : Xml.Token.scan remarkFeed.toList = .ok remarkTokens := by decide +kernel
  have ht : ['<', 'e'] <+: remarkFeed.toList := by decide +kernel
  have hd : readDocument remarkFeed = .ok remarkDocument := by
    rw [readDocument, Document.read_of_tag ht (by decide), hs]
    cbv
  have hc : remarkDocument.Clear := by decide
  exact ⟨hd, hc, (transform_bare {} hd).right.left hc⟩

-- An element with a comment and nothing else is written with both tags, and as an empty one without
-- the comment.
def hollowFeed : String :=
  describedFeed "" "<b><!-- --></b>"

def hollowDocument : Document :=
  describedDocument [] [boldNode [.comment " "]]

def hideBlocks (description : String) : Transformed where
  blocks := ["/**\n * " ++ description ++
    "\n * @since 1.0\n * @returns {undefined}\n */\njQuery.prototype.hide = function() {};"]
  report := { rendered := 1 }

theorem transform_hollowFeed :
    readDocument hollowFeed = .ok hollowDocument ∧
      ({} : Settings).transformDocument hollowDocument.bare ≠
        (({} : Settings).transform hollowFeed).result := by
  have hd : readDocument hollowFeed = .ok hollowDocument := by cbv
  have hh : (({} : Settings).transform hollowFeed).result =
      .ok (hideBlocks "<b></b>") := by
    rw [transform_eq_transformDocument {} hd, transformDocument_eq {} (select_of_readDocument hd)]
    decide +kernel
  have hb : ({} : Settings).transformDocument hollowDocument.bare = .ok (hideBlocks "<b/>") := by
    rw [transformDocument_eq {} (select_bare (distinct_of_readDocument hd))]
    decide +kernel
  exact ⟨hd, by rw [hh, hb]; decide⟩

end Settings
end ApiStubs
