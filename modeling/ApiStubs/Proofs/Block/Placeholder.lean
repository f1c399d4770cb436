import ApiStubs.Proofs.Block.Lines

/-!
The placeholder in a statement and the type that the comment above it annotates. Where one type is
shown, both come from the same one.
-/

namespace ApiStubs

variable {settings : Settings} {entry : Entry} {type : String} {kind : EntryKind}

-- The first type of a list that is not blank, looked up once, or nothing.
def TypeList.first (settings : Settings) (raw : String) : String :=
  (lookedUp settings raw).headD ""

theorem TypeList.primary_read (settings : Settings) (raw : String) :
    (read settings raw).primary = first settings raw := by
  rw [primary, alternatives_read, first]

-- The type that an entry is annotated with if one type is shown.
def Entry.annotatedType (settings : Settings) (entry : Entry) : String :=
  let type := TypeList.first settings entry.returns
  if type = "" then "undefined" else type

theorem Entry.shownType_of_singleType (h : settings.singleType) (entry : Entry) :
    entry.shownType settings = entry.annotatedType settings := by
  simp only [shownType, annotatedType, TypeList.text, h, if_true, TypeList.primary_read]

namespace Placeholder

variable {value : Placeholder}

-- An absent type is one that is written out as `undefined`.
theorem ofType_empty (kind : EntryKind) : ofType kind "" = ofType kind "undefined" := by
  cases kind <;> rfl

theorem ofType_eq_emptyString : ofType kind type = .emptyString ↔ type = "String" := by
  cases kind <;> grind [ofType]

theorem ofType_eq_zero : ofType kind type = .zero ↔ type = "Number" := by
  cases kind <;> grind [ofType]

theorem ofType_eq_nothing :
    ofType kind type = .nothing ↔ kind = .method ∧ (type = "" ∨ type = "undefined") := by
  cases kind <;> grind [ofType]

theorem ofType_eq_emptyObject :
    ofType kind type = .emptyObject ↔ kind = .property ∧ (type = "" ∨ type = "undefined") := by
  cases kind <;> grind [ofType]

theorem ofType_eq_construct (he : type ≠ "") (hu : type ≠ "undefined") (hs : type ≠ "String")
    (hn : type ≠ "Number") : ofType kind type = .construct type := by
  simp [ofType, he, hu, hs, hn]

-- Different values are written in different ways.
theorem text_inj {value' : Placeholder} : value.text = value'.text ↔ value = value' := by
  constructor
  case mp  => cases value <;> cases value' <;> simp [text, ← String.toList_inj]
  case mpr => exact congrArg text

theorem text_ofType_eq_quotes : (ofType kind type).text = "\"\"" ↔ type = "String" := by
  rw [← ofType_eq_emptyString, ← text_inj]
  rfl

theorem text_ofType_eq_zero : (ofType kind type).text = "0" ↔ type = "Number" := by
  rw [← ofType_eq_zero, ← text_inj]
  rfl

theorem text_ofType_eq_braces : (ofType kind type).text = "\x7b\x7d" ↔
    kind = .property ∧ (type = "" ∨ type = "undefined") := by
  rw [← ofType_eq_emptyObject, ← text_inj]
  rfl

end Placeholder

-- A text for each type: braces for `undefined`, a value for each of two other types, and a new
-- object for the rest. The values stand inside another text.
structure StandsFor (inside : String → String) (type text : String) : Prop where
  undefined : text = "\x7b\x7d" ↔ type = "undefined"
  string : text = inside "\"\"" ↔ type = "String"
  number : text = inside "0" ↔ type = "Number"
  other : type ≠ "undefined" → type ≠ "String" → type ≠ "Number" →
    text = inside ("new " ++ type ++ "()")

theorem standsFor_value (ht : type ≠ "") :
    StandsFor id type (Placeholder.ofType .property type).text where
  undefined := by simp [Placeholder.text_ofType_eq_braces, ht]
  string := Placeholder.text_ofType_eq_quotes
  number := Placeholder.text_ofType_eq_zero
  other hu hs hn := by rw [Placeholder.ofType_eq_construct ht hu hs hn]; rfl

-- The body of a function that returns a value.
def returning (value : String) : String :=
  "\x7b return " ++ value ++ "; \x7d"

theorem returning_inj {value value' : String} :
    returning value = returning value' ↔ value = value' := by
  simp [returning, ← String.toList_inj]

theorem returning_ne_braces (value : String) : returning value ≠ "\x7b\x7d" := by
  simp [returning, ← String.toList_inj]

theorem standsFor_body (ht : type ≠ "") :
    StandsFor returning type
      (if Placeholder.ofType .method type = .nothing then "\x7b\x7d"
        else returning (Placeholder.ofType .method type).text) := by
  by_cases hu : type = "undefined"
  case pos =>
    subst hu
    constructor
    case undefined => decide
    case string => decide
    case number => decide
    case other => exact fun h => absurd rfl h
  case neg =>
    have hn : Placeholder.ofType .method type ≠ .nothing := by
      simp [Placeholder.ofType_eq_nothing, ht, hu]
    rw [if_neg hn]
    constructor
    case undefined => exact iff_of_false (returning_ne_braces _) hu
    case string => rw [returning_inj, Placeholder.text_ofType_eq_quotes]
    case number => rw [returning_inj, Placeholder.text_ofType_eq_zero]
    case other =>
      intro hu hs hn
      rw [Placeholder.ofType_eq_construct ht hu hs hn]
      rfl

namespace Entry

open Text

theorem annotatedType_ne_empty : entry.annotatedType settings ≠ "" := by
  simp only [annotatedType]
  split
  case isTrue    => decide
  case isFalse h => exact h

theorem placeholder_eq (settings : Settings) (entry : Entry) :
    entry.placeholder settings = .ofType entry.kind (entry.annotatedType settings) := by
  rw [placeholder, TypeList.primary_read, annotatedType]
  split
  case isTrue h  => rw [h, Placeholder.ofType_empty]
  case isFalse h => rfl

-- What a comment says of the type of an entry.
def typeTag (entry : Entry) (type : String) : String :=
  match entry.kind with
  | .method => "@returns \x7b" ++ type ++ "\x7d"
  | .property => "@type " ++ type

theorem typeSection_eq_typeTag (settings : Settings) (entry : Entry) :
    entry.typeSection settings =
      "\n" ++ entry.typeTag (Escape.comment (entry.shownType settings)) := by
  cases hk : entry.kind <;> simp only [typeSection, typeTag, hk, ← String.append_assoc] <;> rfl

theorem exists_doc_eq (h : settings.singleType) (parameters : List Parameter) (entry : Entry) :
    ∃ before, entry.doc settings parameters = before ++ "\n" ++
      inMargin (entry.typeTag (Escape.comment (entry.annotatedType settings))) ++ " */" := by
  rw [doc, docText, typeSection_eq_typeTag, shownType_of_singleType h, ← String.append_assoc]
  exact exists_commentBlock_eq ..

theorem typeTag_ne_empty : entry.typeTag type ≠ "" := by
  cases hk : entry.kind <;> simp [typeTag, hk, ← String.toList_inj]

theorem newline_not_mem_typeTag (h : '\n' ∉ type.toList) :
    '\n' ∉ (entry.typeTag (Escape.comment type)).toList := by
  have hc : '\n' ∉ (Escape.comment type).toList := by
    rw [Escape.toList_comment]
    exact fun hm => h (Escape.mem_of_mem_commentChars hm (by decide))
  cases hk : entry.kind <;> simpa [typeTag, hk] using hc

-- Where one type is shown, the type that ends the comment also says what the statement holds:
-- braces if it is `undefined`, a value for each of two types, and otherwise a new object. Methods
-- return the value, while the statement of a property is the value and no function, whatever
-- parameters there are. No other type looks like `undefined` in the comment.
theorem placeholder_of_annotatedType (h : settings.singleType) (parameters : List Parameter)
    (entry : Entry) :
    (∃ before, entry.doc settings parameters = before ++ "\n" ++
      inMargin (entry.typeTag (Escape.comment (entry.annotatedType settings))) ++ " */") ∧
    ('\n' ∉ (entry.annotatedType settings).toList →
      ∃ before, entry.doc settings parameters = before ++ "\n * " ++
        entry.typeTag (Escape.comment (entry.annotatedType settings)) ++ "\n */") ∧
    (entry.kind = .method → ∃ body, entry.statement settings parameters =
        (Target.ofName settings entry.name).text ++ " = function(" ++
          ", ".intercalate (parameters.map (·.name)) ++ ") " ++ body ++ ";" ∧
      StandsFor returning (entry.annotatedType settings) body) ∧
    (entry.kind = .property → ∃ value, entry.statement settings parameters =
        (Target.ofName settings entry.name).text ++ " = " ++ value ++ ";" ∧
      StandsFor id (entry.annotatedType settings) value) ∧
    ∀ type, Escape.comment type = "undefined" ↔ type = "undefined" := by
  obtain ⟨before, hd⟩ := exists_doc_eq h parameters entry
  have ht : entry.annotatedType settings ≠ "" := annotatedType_ne_empty
  refine ⟨⟨before, hd⟩, fun hn => ⟨before, ?line⟩, fun hk => ⟨_, ?method, standsFor_body ht⟩,
    fun hk => ⟨_, ?property, standsFor_value ht⟩, fun type => ?shown⟩
  case line =>
    rw [hd, inMargin_of_line (newline_not_mem_typeTag hn) typeTag_ne_empty]
    simp only [String.append_assoc]
    rfl
  case method =>
    simp only [statement, hk, placeholder_eq]
    rfl
  case property => simp only [statement, hk, placeholder_eq]
  case shown => exact Escape.comment_eq_iff (by decide) (by decide)

-- A method that returns several types. The first one is blank, and the next one is looked up.
def promiseEntry : Entry :=
  { name := "deferred.promise", kind := .method, returns := " , Promise, jQuery" }

theorem placeholder_promiseEntry :
    ({} : Settings).singleType ∧ promiseEntry.annotatedType {} = "__jQueryPromise" ∧
      promiseEntry.doc {} [] =
        "/**\n * \n * @since 1.0\n * @returns \x7b__jQueryPromise\x7d\n */" ∧
      (∃ before, promiseEntry.doc {} [] =
        before ++ "\n * " ++ "@returns \x7b__jQueryPromise\x7d" ++ "\n */") ∧
      promiseEntry.statement {} [] = "__jQueryDeferred.prototype.promise = function() " ++
        "\x7b return new __jQueryPromise(); \x7d;" := by
  have ht : promiseEntry.annotatedType {} = "__jQueryPromise" := rfl
  have hs : ({} : Settings).singleType := rfl
  obtain ⟨_, hd, hm, _⟩ := placeholder_of_annotatedType hs [] promiseEntry
  rw [ht] at hd
  obtain ⟨body, hb, hf⟩ := hm rfl
  rw [ht] at hf
  refine ⟨hs, ht, rfl, hd (by decide), ?_⟩
  rw [hb, hf.other (by decide) (by decide) (by decide)]
  rfl

end Entry
end ApiStubs
