import Mathlib.Data.List.Nodup
import ApiStubs.Proofs.Results
import ApiStubs.Proofs.Xml.Name
import ApiStubs.Xml.Document

/-!
What holds of every tag in a document that was read. The reader makes tags in one place only, so
what holds of a tag there holds throughout the document. Among this is that no two attributes of a
tag mean the same name, and that names are written as names.
-/

namespace ApiStubs.Xml

variable {P : Tag → Prop} {Q : WrittenName → List (WrittenName × String) → Prop}

-- A name without its label.
def Name.expanded (name : Name) : Option String × String :=
  (name.space, name.localName)

-- Whether a name is a text in no namespace.
def Name.isPlain (name : Name) (text : String) : Bool :=
  name.space = none ∧ name.localName = text

theorem Name.expanded_of_isPlain {name : Name} {text : String} (h : name.isPlain text) :
    name.expanded = (none, text) := by
  simpa [isPlain, expanded] using h

-- The attributes of a tag have names of their own.
def Tag.Distinct (tag : Tag) : Prop :=
  (tag.attributes.map (·.name.expanded)).Nodup

instance (tag : Tag) : Decidable tag.Distinct :=
  inferInstanceAs (Decidable (tag.attributes.map (·.name.expanded)).Nodup)

-- With names of their own, an attribute of a name is the one that is found.
theorem Tag.Distinct.attribute?_eq_some {e : Element} (h : e.tag.Distinct) {name value : String} :
    e.attribute? name = some value ↔
      ∃ a ∈ e.tag.attributes, a.name.isPlain name ∧ a.value = value := by
  change (e.tag.attributes.find? (·.name.isPlain name)).map (·.value) = some value ↔ _
  rw [Option.map_eq_some_iff]
  constructor
  case mp =>
    rintro ⟨a, hf, hv⟩
    have hn : a.name.isPlain name := by simpa using List.find?_some hf
    exact ⟨a, List.mem_of_find?_eq_some hf, hn, hv⟩
  case mpr =>
    rintro ⟨a, ha, hn, hv⟩
    have hf : (e.tag.attributes.find? (·.name.isPlain name)).isSome :=
      List.find?_isSome.mpr ⟨a, ha, hn⟩
    have ⟨b, hb⟩ := Option.isSome_iff_exists.mp hf
    have hbn : b.name.isPlain name := by simpa using List.find?_some hb
    have he := (Name.expanded_of_isPlain hbn).trans (Name.expanded_of_isPlain hn).symm
    have hba := List.inj_on_of_nodup_map h (List.mem_of_find?_eq_some hb) ha he
    exact ⟨b, hb, hba ▸ hv⟩

namespace Scope

variable {scope inner : Scope} {name : WrittenName} {attributes : List (WrittenName × String)}
  {tag : Tag}

theorem nodup_putAttribute {new : Attribute} {kept : List Attribute}
    (h : (kept.map (·.name.expanded)).Nodup) :
    ((putAttribute new kept).map (·.name.expanded)).Nodup := by
  unfold putAttribute
  rw [List.map_append, List.nodup_append]
  refine ⟨h.sublist <| List.filter_sublist.map _, List.nodup_singleton _, ?_⟩
  intro x hx y hy he
  have ⟨a, ha, hax⟩ := List.mem_map.mp hx
  have hne := (List.mem_filter.mp ha).right
  obtain rfl := List.mem_singleton.mp hy
  rw [← hax] at he
  have ⟨hs, hl⟩ := Prod.mk.inj he
  simp [hs, hl] at hne

theorem nodup_foldl_putAttribute {meant kept : List Attribute}
    (h : (kept.map (·.name.expanded)).Nodup) :
    ((meant.foldl (fun kept a => putAttribute a kept) kept).map (·.name.expanded)).Nodup := by
  induction meant generalizing kept
  case nil             => exact h
  case cons a meant hi => exact hi <| nodup_putAttribute h

-- The attributes that are meant, in the order in which they are kept.
def meantOf (near : List Labels) (attributes : List (WrittenName × String)) :
    Except Error (List Attribute) :=
  (plainOf attributes).mergeSort sortsBefore |>.mapM fun (written, value) => do
    return Attribute.mk (← resolve near none written) value

-- What is written in a start tag that is accepted, and what is made of it.
theorem enter_eq_ok {r : Tag × Scope} (h : scope.enter name attributes = .ok r) :
    (attributes.map (·.1)).Nodup ∧ ∃ near near' unlabelled meant,
      meantOf near attributes = .ok meant ∧ resolve near' unlabelled name = .ok r.1.name ∧
      r.1.attributes = meant.foldl (fun kept a => putAttribute a kept) [] := by
  unfold enter at h
  dsimp only at h
  split at h
  case isTrue     => cases h
  case isFalse hn =>
    split at h
    case isTrue  => cases h
    case isFalse =>
      split at h
      case h_3 => cases h
      all_goals
        obtain ⟨given, _, h⟩ := bind_eq_ok.mp h
        obtain ⟨meant, hm, h⟩ := bind_eq_ok.mp h
        obtain ⟨meantName, hr, h⟩ := bind_eq_ok.mp h
        cases h
        exact ⟨not_not.mp hn, _, _, _, meant, hm, hr, rfl⟩

theorem enter_yields_distinct : Yields (·.1.Distinct) (scope.enter name attributes) := by
  intro r h
  have ⟨_, _, _, _, meant, _, _, ha⟩ := enter_eq_ok h
  unfold Tag.Distinct
  rw [ha]
  exact nodup_foldl_putAttribute .nil

theorem mem_of_mem_foldl_putAttribute {meant kept : List Attribute} {a : Attribute}
    (h : a ∈ meant.foldl (fun kept a => putAttribute a kept) kept) : a ∈ kept ∨ a ∈ meant := by
  induction meant generalizing kept
  case nil => exact .inl h
  case cons new meant hi =>
    cases hi h
    case inr h => exact .inr (List.mem_cons_of_mem _ h)
    case inl h =>
      cases List.mem_append.mp h
      case inl h => exact .inl (List.mem_filter.mp h).left
      case inr h => exact .inr (List.mem_singleton.mp h ▸ List.mem_cons_self)

theorem resolve_yields_localName {labels : List Labels} {unlabelled : Option String} :
    Yields (·.localName = name.localName) (resolve labels unlabelled name) := by
  unfold resolve
  split
  case h_1 => exact .ok rfl
  case h_2 =>
    split
    case h_1 => exact .ok rfl
    case h_2 => exact .error

end Scope

-- The names of a start tag are names, whatever their labels.
structure PlainlyWritten (name : WrittenName) (attributes : List (WrittenName × String)) :
    Prop where
  name : IsPlainName name.localName.toList
  attributes : ∀ a ∈ attributes, IsPlainName a.1.localName.toList

-- The names of a tag are names, and no attribute has the name that declares a namespace.
structure Tag.Plain (tag : Tag) : Prop where
  name : IsPlainName tag.name.localName.toList
  attributes : ∀ a ∈ tag.attributes, IsPlainName a.name.localName.toList
  undeclaring : ∀ a ∈ tag.attributes, a.name.localName ≠ "xmlns"

-- One property holds of every tag that a scope makes of a written one with the other.
def Scope.Makes (Q : WrittenName → List (WrittenName × String) → Prop) (P : Tag → Prop) : Prop :=
  ∀ (scope : Scope) name attributes, Q name attributes →
    Yields (P ·.1) (scope.enter name attributes)

-- Names keep their local part, and attributes that declare something are left out.
theorem Scope.makes_plain : Scope.Makes PlainlyWritten Tag.Plain := by
  intro scope name attributes hw r h
  have ⟨_, near, _, _, meant, hm, hn, hk⟩ := enter_eq_ok h
  have hn : r.1.name.localName = name.localName := resolve_yields_localName r.1.name hn
  have hp : ∀ a ∈ meant, IsPlainName a.name.localName.toList ∧ a.name.localName ≠ "xmlns" := by
    refine Yields.mapM (fun a ha => .bind fun resolved hr => .ok ?_) meant hm
    have hr : resolved.localName = a.1.localName := resolve_yields_localName resolved hr
    have ⟨ha, hd⟩ := List.mem_filter.mp (List.mem_mergeSort.mp ha)
    exact ⟨hr ▸ hw.attributes a ha, hr ▸ (of_decide_eq_true hd).right⟩
  have hp : ∀ a ∈ r.1.attributes, IsPlainName a.name.localName.toList ∧
      a.name.localName ≠ "xmlns" := by
    intro a ha
    rw [hk] at ha
    exact hp a (by simpa using mem_of_mem_foldl_putAttribute ha)
  exact ⟨hn ▸ hw.name, fun a ha => (hp a ha).left, fun a ha => (hp a ha).right⟩

-- The property holds of the start tags among some tokens as they are written.
def Token.AllWritten (Q : WrittenName → List (WrittenName × String) → Prop)
    (tokens : List Token) : Prop :=
  ∀ name attributes, .startTag name attributes ∈ tokens → Q name attributes

namespace Token.AllWritten

variable {tokens more : List Token}

theorem tail {token : Token} (h : AllWritten Q (token :: tokens)) : AllWritten Q tokens :=
  fun name attributes ht => h name attributes (List.mem_cons_of_mem _ ht)

theorem append (h : AllWritten Q tokens) (h' : AllWritten Q more) :
    AllWritten Q (tokens ++ more) := by
  intro name attributes ht
  cases List.mem_append.mp ht
  case inl ht => exact h name attributes ht
  case inr ht => exact h' name attributes ht

end Token.AllWritten

namespace Token

theorem attributes_yields_plain (fuel : Nat) (s : List Char) :
    Yields (fun r => ∀ a ∈ r.1, IsPlainName a.1.localName.toList) (attributes fuel s) := by
  induction fuel generalizing s
  case zero => exact .ok (by simp)
  case succ fuel hi =>
    unfold attributes
    split
    case h_1 => exact .ok (by simp)
    case h_2 => exact .error
    case h_3 a rest ha =>
      refine .bind fun r hr => .ok <| List.forall_mem_cons.mpr ⟨?_, hi rest r hr⟩
      unfold attribute? at ha
      split at ha
      case h_1 => cases ha
      case h_2 name _ hn =>
        have ⟨_, _, hn⟩ := Option.bind_eq_some_iff.mp hn
        have hp := IsPlainName.of_takeWrittenName hn
        repeat' split at ha
        all_goals cases ha
        exact hp

theorem startTag?_yields_plain (s : List Char) :
    Yields (fun r => AllWritten PlainlyWritten r.1) (startTag? s) := by
  unfold startTag?
  split
  case h_1 => exact .error
  case h_2 name rest hn =>
    refine .bind fun r hr => ?_
    have hw : PlainlyWritten name r.1 :=
      ⟨IsPlainName.of_takeWrittenName hn, attributes_yields_plain _ _ r hr⟩
    dsimp only
    split
    case h_3 => exact .error
    all_goals exact .ok (by simpa [AllWritten] using hw)

-- Only what a start tag is read from yields one.
theorem next?_yields_plain (s : List Char) :
    Yields (fun r => AllWritten PlainlyWritten r.1) (next? s) := by
  have ho {token : Token} {rest : List Char}
      (h : ∀ name attributes, token ≠ .startTag name attributes) :
      Yields (fun r => AllWritten PlainlyWritten r.1)
        (.ok ([token], rest) : Except Error (List Token × List Char)) :=
    .ok fun name attributes ht => absurd (List.mem_singleton.mp ht).symm (h name attributes)
  have hi (s : List Char) : Yields (fun r => AllWritten PlainlyWritten r.1) (instruction? s) := by
    unfold instruction?
    split
    case h_1 => exact .error
    case h_2 =>
      split
      case isTrue  => exact .error
      case isFalse =>
        extract_lets value
        clear_value value
        cases value
        case none => exact .error
        case some => exact ho (by simp)
  unfold next? markup? endTag? comment? dataSection? documentType? reference? text?
  repeat' split
  all_goals first
    | exact .error
    | exact startTag?_yields_plain _
    | exact hi _
    | exact ho (by simp)

theorem scan_yields_plain (s : List Char) : Yields (AllWritten PlainlyWritten) (scan s) := by
  suffices h : ∀ fuel s, Yields (AllWritten PlainlyWritten) (scanUpTo fuel s) from h _ s
  intro fuel
  induction fuel
  case zero =>
    intro s
    cases s
    case nil  => exact .ok (by simp [AllWritten])
    case cons => exact .error
  case succ fuel hi =>
    intro s
    cases s
    case nil  => exact .ok (by simp [AllWritten])
    case cons c s =>
      refine .bind fun r hr => .bind fun rest hrest => .ok ?_
      exact (next?_yields_plain _ r hr).append (hi _ rest hrest)

end Token

theorem Node.tagsOfList_eq_flatMap (ns : List Node) :
    Node.tagsOfList ns = ns.flatMap Node.tags := by
  induction ns
  case nil          => simp [tagsOfList]
  case cons n ns hi => simp [tagsOfList, hi]

-- All tags of an open element, and of its children so far, have a property.
structure OpenElement.All (P : Tag → Prop) (e : OpenElement) : Prop where
  tag : P e.tag
  children : ∀ n ∈ e.children, ∀ tag ∈ n.tags, P tag

namespace OpenElement.All

variable {e : OpenElement} {n : Node}

theorem add (h : e.All P) (hn : ∀ tag ∈ n.tags, P tag) : (e.add n).All P where
  tag := h.tag
  children := List.forall_mem_cons.mpr ⟨hn, h.children⟩

theorem close (h : e.All P) : ∀ tag ∈ e.close.node.tags, P tag := by
  intro tag ht
  simp only [Element.node, OpenElement.close, Node.tags, Node.tagsOfList_eq_flatMap, List.mem_cons,
    List.mem_flatMap, List.mem_reverse] at ht
  cases ht
  case inl ht => exact ht ▸ h.tag
  case inr ht =>
    obtain ⟨n, hn, ht⟩ := ht
    exact h.children n hn tag ht

end OpenElement.All

namespace Document

theorem openElement_yields_all (hP : Scope.Makes Q P) {scope : Scope} {name : WrittenName}
    {attributes : List (WrittenName × String)} (h : Q name attributes) :
    Yields (OpenElement.All P) (openElement scope name attributes) := by
  refine .bind fun r hr => .ok ⟨hP _ _ _ h r hr, ?_⟩
  simp

theorem readContent_yields_all (hP : Scope.Makes Q P) {e : OpenElement}
    {outer : List OpenElement} {tokens : List Token} (ht : Token.AllWritten Q tokens)
    (he : e.All P) (ho : ∀ o ∈ outer, o.All P) :
    Yields (fun r => ∀ tag ∈ r.1.node.tags, P tag) (readContent e outer tokens) := by
  induction tokens generalizing e outer
  case nil => exact .error
  case cons token tokens hi =>
    cases token <;> simp only [readContent]
    case startTag name attributes =>
      have hQ := ht name attributes List.mem_cons_self
      refine .bind fun inner hinner => hi ht.tail (openElement_yields_all hP hQ inner hinner) ?_
      exact List.forall_mem_cons.mpr ⟨he, ho⟩
    case emptyEnd =>
      cases outer
      case nil => exact .ok he.close
      case cons o outer =>
        have ⟨hf, hr⟩ := List.forall_mem_cons.mp ho
        exact hi ht.tail (hf.add he.close) hr
    case endTag name =>
      split
      case isFalse => exact .error
      case isTrue =>
        cases outer
        case nil => exact .ok he.close
        case cons o outer =>
          have ⟨hf, hr⟩ := List.forall_mem_cons.mp ho
          exact hi ht.tail (hf.add he.close) hr
    case documentType => exact .error
    all_goals exact hi ht.tail (he.add (by simp [Node.tags])) ho

theorem readEpilog_yields_tagless {tokens : List Token} :
    Yields (fun ns => Node.tagsOfList ns = []) (readEpilog tokens) := by
  induction tokens
  case nil => exact .ok (by simp [Node.tagsOfList])
  case cons token tokens hi =>
    cases token <;> simp only [readEpilog]
    case text =>
      split
      case isTrue  => exact hi
      case isFalse => exact .error
    case comment | instruction =>
      refine .map fun ns hns => ?_
      simpa [Node.tagsOfList, Node.tags] using hi ns hns
    all_goals exact .error

theorem readTokens_yields_all (hP : Scope.Makes Q P) {tokens : List Token}
    (ht : Token.AllWritten Q tokens) :
    Yields (fun d => ∀ tag ∈ Node.tagsOfList d.children, P tag) (readTokens tokens) := by
  induction tokens
  case nil => exact .error
  case cons token tokens hi =>
    have hi := hi ht.tail
    cases token <;> simp only [readTokens]
    case text =>
      split
      case isTrue  => exact hi
      case isFalse => exact .error
    case documentType => exact hi
    case comment | instruction =>
      refine .bind fun d hd => .ok ?_
      simpa [Document.children, Node.tagsOfList, Node.tags] using hi d hd
    case startTag name attributes =>
      refine .bind fun e he => .bind fun r hr => .bind fun epilog hp => .ok ?_
      have he := openElement_yields_all hP (ht name attributes List.mem_cons_self) e he
      have hr := readContent_yields_all hP ht.tail he (by simp) r hr
      have hp := readEpilog_yields_tagless epilog hp
      simpa [Document.children, Node.tagsOfList, hp] using hr
    all_goals exact .error

-- A text that begins with a tag has no declaration, so all of it is scanned.
theorem read_of_tag {text : String} {c : Char} (h : ['<', c] <+: text.toList)
    (hc : c ≠ '!' ∧ c ≠ '?') : read text = Token.scan text.toList >>= readTokens := by
  obtain ⟨rest, ht⟩ := h
  simp [read, readChars, ← ht, Text.dropWord?, hc.left.symm, hc.right.symm]

theorem read_yields_all (hP : Scope.Makes Q P)
    (hQ : ∀ s, Yields (Token.AllWritten Q) (Token.scan s)) (text : String) :
    Yields (fun d => ∀ tag ∈ Node.tagsOfList d.children, P tag) (read text) := by
  unfold read readChars
  split
  case h_1 => exact .error
  case h_2 => exact .bind fun tokens ht => readTokens_yields_all hP (hQ _ tokens ht)

theorem read_yields_distinct (text : String) :
    Yields (fun d => ∀ tag ∈ Node.tagsOfList d.children, tag.Distinct) (read text) := by
  let Q (_ : WrittenName) (_ : List (WrittenName × String)) := True
  have hP : Scope.Makes Q Tag.Distinct := fun _ _ _ _ => Scope.enter_yields_distinct
  exact read_yields_all hP (fun _ _ _ _ _ _ => trivial) text

theorem read_yields_plain (text : String) :
    Yields (fun d => ∀ tag ∈ Node.tagsOfList d.children, tag.Plain) (read text) :=
  read_yields_all Scope.makes_plain Token.scan_yields_plain text

end Document
end ApiStubs.Xml
