import ApiStubs.Proofs.Entry.Acceptance
import ApiStubs.Proofs.TypeList

/-!
The two ways in which the feed gives the types of a parameter: an attribute with commas, and a child
element for each of them. A parameter is shown in the same way whichever is used.
-/

namespace ApiStubs

open Xml (Element)

variable {e e' : Element} {names : List String} {settings : Settings} {entry types types' : String}

-- The elements are the same but for their types. Those are the names of children of the first one,
-- some of which may have no name, and an attribute of the second one.
structure Xml.Element.SameButTypes (names : List String) (e e' : Element) : Prop where
  name : e.name = e'.name
  attribute? {n : String} : n ≠ "type" → e.attribute? n = e'.attribute? n
  childrenNamed {n : String} : n ≠ "type" → e.childrenNamed n = e'.childrenNamed n
  no_attribute : e.attribute? "type" = none
  children : (e.childrenNamed "type").filterMap (·.attribute? "name") = names
  joined : e'.attribute? "type" = some (",".intercalate names)

theorem typesOf?_of_attribute? (h : e.attribute? "type" = some types) :
    typesOf? e = some types := by
  rw [typesOf?, h]

theorem typesOf?_of_children (h : e.attribute? "type" = none)
    (hc : (e.childrenNamed "type").filterMap (·.attribute? "name") = names) (hn : names ≠ []) :
    typesOf? e = some (", ".intercalate names) := by
  subst hc
  rw [typesOf?, h]
  dsimp only
  split
  case h_1 hc => exact absurd hc hn
  case h_2    => rfl

-- Reading a parameter whose types are there.
theorem RawParameter.ofElement_eq (h : typesOf? e = some types) :
    ofElement entry e = (required e "name" entry).bind fun name =>
      if stripQualifiers name = "" then .error (.missingAttribute "argument" "name" entry)
      else .ok ⟨name, types, markupOf e "desc"⟩ := by
  rw [ofElement, h]
  apply bind_congr
  intro name
  by_cases hs : stripQualifiers name = ""
  case pos =>
    simp only [if_pos hs]
    rfl
  case neg =>
    simp only [if_neg hs, pure, Except.pure]

theorem Parameter.map_ofElement_congr (hn : e.name = e'.name)
    (ha : e.attribute? "name" = e'.attribute? "name")
    (hd : e.childrenNamed "desc" = e'.childrenNamed "desc")
    (ht : typesOf? e = some types) (ht' : typesOf? e' = some types')
    (h : TypeList.read settings types = TypeList.read settings types') :
    (RawParameter.ofElement entry e).map (ofRaw settings) =
      (RawParameter.ofElement entry e').map (ofRaw settings) := by
  have hr : required e "name" entry = required e' "name" entry := by
    simp only [required, hn, ha]
  have hm : markupOf e "desc" = markupOf e' "desc" := by
    simp only [markupOf, Element.child?, hd]
  rw [RawParameter.ofElement_eq ht, RawParameter.ofElement_eq ht', hr, hm]
  cases required e' "name" entry
  case error   => simp only [Except.bind]
  case ok name =>
    simp only [Except.bind]
    split
    case isTrue  => rfl
    case isFalse => simp only [Except.map, ofRaw, h]

theorem Xml.Element.SameButTypes.map_ofElement (h : e.SameButTypes names e') (hn : names ≠ []) :
    (RawParameter.ofElement entry e).map (Parameter.ofRaw settings) =
      (RawParameter.ofElement entry e').map (Parameter.ofRaw settings) := by
  have ht : typesOf? e = some (", ".intercalate names) :=
    typesOf?_of_children h.no_attribute h.children hn
  have ht' : typesOf? e' = some (",".intercalate names) := typesOf?_of_attribute? h.joined
  have hr : TypeList.read settings (", ".intercalate names) =
      TypeList.read settings (",".intercalate names) := by
    simp only [TypeList.read, TypeList.parts_intercalate TypeList.parts_append_comma_blank,
      TypeList.parts_intercalate TypeList.parts_append_comma]
  have ha := h.attribute? (n := "name") (by decide)
  have hd := h.childrenNamed (n := "desc") (by decide)
  exact Parameter.map_ofElement_congr h.name ha hd ht ht' hr

-- A parameter is shown in the same way, or the same error is reported, whether its types are
-- children or an attribute. For a list that was joined with commas is read like its members one
-- after the other, and from each of these come its trimmed parts that are not blank, in their order
-- and each looked up once.
theorem Parameter.ofElement_layouts (settings : Settings) :
    (∀ entry names e e', names ≠ [] → Element.SameButTypes names e e' →
      (RawParameter.ofElement entry e).map (ofRaw settings) =
        (RawParameter.ofElement entry e').map (ofRaw settings)) ∧
    (∀ names, (TypeList.read settings (",".intercalate names)).alternatives =
      names.flatMap fun name => (TypeList.read settings name).alternatives) ∧
    ∀ raw, (TypeList.read settings raw).alternatives =
      (((raw.toList.splitOn ',').map Text.trimChars).filter (· ≠ [])).map fun part =>
        ((List.find? (·.1 = String.ofList part) settings.types).map (·.2)).getD
          (String.ofList part) := by
  refine ⟨?layouts, ?joined, ?read⟩
  case layouts => exact fun entry names e e' hn h => h.map_ofElement hn
  case joined => exact TypeList.alternatives_read_intercalate TypeList.parts_append_comma settings
  case read => exact TypeList.alternatives_read settings

-- A parameter whose types are children: one with a blank name, one with two types in its name and
-- one without a name among them.
def typedByChildren : Element where
  tag.name := { localName := "argument" }
  tag.attributes := [⟨{ localName := "name" }, "value"⟩]
  children := [some "String", none, some " Integer,boolean", some " "].map fun name? =>
    .element
      { name := { localName := "type" }
        attributes := (name?.map (⟨{ localName := "name" }, ·⟩)).toList } []

-- The same parameter with one attribute for its types.
def typedByAttribute : Element where
  tag.name := { localName := "argument" }
  tag.attributes := [⟨{ localName := "name" }, "value"⟩,
    ⟨{ localName := "type" }, "String, Integer,boolean, "⟩]
  children := []

theorem sameButTypes_typedByChildren :
    typedByChildren.SameButTypes ["String", " Integer,boolean", " "] typedByAttribute where
  name := rfl
  attribute? {n} hn := by
    by_cases h : "name" = n <;>
      simp [Element.attribute?, typedByChildren, typedByAttribute, h, hn.symm]
  childrenNamed hn := by simp [Element.childrenNamed, typedByChildren, typedByAttribute, hn.symm]
  no_attribute := rfl
  children := rfl
  joined := rfl

-- Both are shown with the types that have a name which is not blank.
theorem ofElement_typedByChildren :
    let settings : Settings := { singleType := false }
    let shown : Parameter := ⟨"value", "String|Number|Boolean", ""⟩
    (RawParameter.ofElement "val" typedByChildren).map (.ofRaw settings) = .ok shown ∧
      (RawParameter.ofElement "val" typedByAttribute).map (.ofRaw settings) = .ok shown := by
  intro settings shown
  have hn : stripQualifiers "value" = "value" := by decide +kernel
  have ht : (TypeList.read settings "String, Integer,boolean, ").text settings =
      "String|Number|Boolean" := by decide +kernel
  have hr : RawParameter.ofElement "val" typedByAttribute =
      .ok ⟨"value", "String, Integer,boolean, ", ""⟩ :=
    RawParameter.ofElement_eq_ok.mpr ⟨_, _, rfl, by rw [hn]; decide, rfl, rfl⟩
  have hc : ParameterName.classify "value" = .plain "value" := by decide +kernel
  have ha : (RawParameter.ofElement "val" typedByAttribute).map (.ofRaw settings) = .ok shown := by
    rw [hr]
    simp only [Except.map, Parameter.ofRaw, hn, ht, hc]
    rfl
  have hl := (Parameter.ofElement_layouts settings).left "val" _ _ _ (List.cons_ne_nil _ _)
    sameButTypes_typedByChildren
  exact ⟨hl.trans ha, ha⟩

end ApiStubs
