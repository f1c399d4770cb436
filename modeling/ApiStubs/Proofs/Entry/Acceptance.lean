import ApiStubs.Proofs.Entry.Reading

/-!
Which elements are entries. What an entry needs is listed, each need with the error for not meeting
it, in the order in which reading an entry looks for them. The first need that is not met gives the
error of the reading.
-/

namespace ApiStubs

open Xml (Element Node)

variable {e c : Element} {name entry : String}

-- The error for a need, unless it is met.
def errorUnless (met : Bool) (err : Error) : List Error :=
  if met then [] else [err]

theorem mem_errorUnless {met : Bool} {err err' : Error} :
    err' ∈ errorUnless met err ↔ met = false ∧ err' = err := by
  cases met <;> simp [errorUnless]

theorem errorUnless_eq_nil {met : Bool} {err : Error} : errorUnless met err = [] ↔ met := by
  simp [errorUnless]

theorem name_of_mem_childrenNamed (h : c ∈ e.childrenNamed name) : c.name = name := by
  have ⟨n, _, hc⟩ := List.mem_filterMap.mp h
  cases n
  case element tag children =>
    simp only [Option.ite_none_right_eq_some, Option.some.injEq] at hc
    exact hc.right ▸ hc.left
  all_goals cases hc

theorem required_eq_ok {value : String} :
    required e name entry = .ok value ↔ e.attribute? name = some value := by
  unfold required
  cases e.attribute? name <;> simp

theorem required_reports :
    Reports (errorUnless (e.attribute? name).isSome (.missingAttribute e.name name entry))
      (required e name entry) := by
  unfold required
  cases e.attribute? name
  case none => exact .error
  case some => exact .ok

namespace RawParameter

-- A parameter needs a name that is more than a qualifier.
def isNamed (e : Element) : Bool :=
  (e.attribute? "name").any (stripQualifiers · ≠ "")

-- A parameter needs types, which may be an empty text, or a child with the name of one.
def isTyped (e : Element) : Bool :=
  (e.attribute? "type").isSome || (e.childrenNamed "type").any fun c => (c.attribute? "name").isSome

theorem isSome_typesOf? (e : Element) : (typesOf? e).isSome = isTyped e := by
  unfold typesOf? isTyped
  cases e.attribute? "type"
  case some => rfl
  case none =>
    cases hn : (e.childrenNamed "type").filterMap (·.attribute? "name")
    case nil =>
      have hc := List.filterMap_eq_nil_iff.mp hn
      simpa using hc
    case cons name names =>
      have hm : name ∈ (e.childrenNamed "type").filterMap (·.attribute? "name") := by simp [hn]
      have ⟨c, hc, hname⟩ := List.mem_filterMap.mp hm
      have ha : (e.childrenNamed "type").any fun c => (c.attribute? "name").isSome :=
        List.any_eq_true.mpr ⟨c, hc, by simp [hname]⟩
      simp [ha]

theorem ofElement_eq_ok {raw : RawParameter} :
    ofElement entry e = .ok raw ↔
      ∃ name types, e.attribute? "name" = some name ∧ stripQualifiers name ≠ "" ∧
        typesOf? e = some types ∧ raw = ⟨name, types, markupOf e "desc"⟩ := by
  simp only [ofElement, bind_eq_ok, required_eq_ok]
  constructor
  case mp =>
    rintro ⟨name, hn, h⟩
    by_cases hs : stripQualifiers name = ""
    case pos =>
      rw [if_pos hs] at h
      cases h
    case neg =>
      rw [if_neg hs] at h
      cases ht : typesOf? e <;> rw [ht] at h <;> cases h
      exact ⟨name, _, hn, hs, rfl, rfl⟩
  case mpr =>
    rintro ⟨name, types, hn, hs, ht, rfl⟩
    refine ⟨name, hn, ?_⟩
    rw [if_neg hs, ht]
    rfl

def flaws (entry : String) (e : Element) : List Error :=
  errorUnless (isNamed e) (.missingAttribute "argument" "name" entry) ++
    errorUnless (isTyped e) (.missingAttribute "argument" "type" entry)

theorem ofElement_reports (h : e.name = "argument") :
    Reports (flaws entry e) (ofElement entry e) := by
  unfold flaws ofElement
  cases ha : e.attribute? "name"
  case none =>
    have hn : isNamed e = false := by simp [isNamed, ha]
    have hr : required e "name" entry = .error (.missingAttribute "argument" "name" entry) := by
      simp [required, ha, h]
    rw [hn, hr]
    exact .error
  case some name =>
    have hn : isNamed e = decide (stripQualifiers name ≠ "") := by simp [isNamed, ha]
    rw [hn, required_eq_ok.mpr ha, ← isSome_typesOf?]
    by_cases hs : stripQualifiers name = ""
    case pos =>
      simp only [hs, errorUnless, bind, Except.bind, ne_eq, not_true_eq_false, decide_false,
        Bool.false_eq_true, if_false, if_true]
      exact .error
    case neg =>
      simp only [hs, errorUnless, bind, Except.bind, ne_eq, not_false_eq_true, decide_true,
        if_false, if_true, List.nil_append]
      cases typesOf? e
      case none => exact .error
      case some => exact .ok

end RawParameter

theorem Signature.ofElement_reports :
    Reports ((e.childrenNamed "argument").flatMap (RawParameter.flaws entry))
      (Signature.ofElement entry e) := by
  unfold Signature.ofElement
  refine .map _ (.mapM fun a ha => ?_)
  exact RawParameter.ofElement_reports (name_of_mem_childrenNamed ha)

-- An example needs code.
def Example.flaws (entry : String) (e : Element) : List Error :=
  errorUnless (e.child? "code").isSome (.missingElement "example" "code" entry)

theorem Example.ofElement_reports :
    Reports (Example.flaws entry e) (Example.ofElement entry e) := by
  unfold Example.flaws Example.ofElement
  cases e.child? "code"
  case none => exact .error
  case some => exact .ok

namespace Entry

-- An entry needs a kind, and that is one of two.
def kindFlaws (entry : String) (e : Element) : List Error :=
  match e.attribute? "type" with
  | none => [.missingAttribute e.name "type" entry]
  | some kind => errorUnless (kind = "method" ∨ kind = "property") (.unsupported entry kind)

def readKind (entry : String) (e : Element) : Except Error EntryKind := do
  let kindName ← required e "type" entry
  match EntryKind.ofName? kindName with
  | some kind => return kind
  | none => throw (.unsupported entry kindName)

theorem readKind_reports : Reports (kindFlaws entry e) (readKind entry e) := by
  unfold kindFlaws readKind required
  cases e.attribute? "type"
  case none => exact .error
  case some kindName =>
    by_cases hm : kindName = "method"
    case pos =>
      simp only [hm]
      exact .ok
    case neg =>
      by_cases hp : kindName = "property"
      case pos =>
        simp only [hp]
        exact .ok
      case neg =>
        have hk : EntryKind.ofName? kindName = none := by simp [EntryKind.ofName?, hm, hp]
        simp only [errorUnless, hm, hp, bind, Except.bind, hk]
        exact .error

theorem ofElement_eq (e : Element) :
    Entry.ofElement e = do
      let name ← required e "name" "?"
      let kind ← readKind name e
      let signatures ← (e.childrenNamed "signature").mapM (Signature.ofElement name)
      let examples ← (e.childrenNamed "example").mapM (Example.ofElement name)
      return {
        name, kind, signatures, examples
        returns := (e.attribute? "return").getD ""
        added := (signatures.head?.bind (·.added)).getD firstVersion
        short := markupOf e "desc"
        long := markupOf e "longdesc" } := by
  apply bind_congr
  intro name
  unfold readKind
  cases required e "type" name
  case error => rfl
  case ok kindName =>
    simp only [bind, Except.bind]
    cases EntryKind.ofName? kindName <;> rfl

-- The name by which errors call an entry. The error for its absence says `?`.
def reportedName (e : Element) : String :=
  (e.attribute? "name").getD "?"

-- All that is needed of the parameters, signature by signature.
def parameterFlaws (entry : String) (e : Element) : List Error :=
  (e.childrenNamed "signature").flatMap fun s =>
    (s.childrenNamed "argument").flatMap (RawParameter.flaws entry)

def exampleFlaws (entry : String) (e : Element) : List Error :=
  (e.childrenNamed "example").flatMap (Example.flaws entry)

-- The errors for all that an element lacks as an entry.
def flaws (e : Element) : List Error :=
  errorUnless (e.attribute? "name").isSome (.missingAttribute e.name "name" "?") ++
    kindFlaws (reportedName e) e ++ parameterFlaws (reportedName e) e ++
      exampleFlaws (reportedName e) e

theorem ofElement_reports (e : Element) : Reports (flaws e) (Entry.ofElement e) := by
  rw [ofElement_eq, flaws, List.append_assoc, List.append_assoc]
  apply required_reports.bind
  intro name hn
  have hn : reportedName e = name := by simp [reportedName, required_eq_ok.mp hn]
  rw [hn]
  apply readKind_reports.bind
  intro kind _
  have hs : Reports (parameterFlaws name e)
      ((e.childrenNamed "signature").mapM (Signature.ofElement name)) :=
    .mapM fun _ _ => Signature.ofElement_reports
  apply hs.bind
  intro signatures _
  exact .map _ (.mapM fun x _ => Example.ofElement_reports)

theorem kindFlaws_eq_nil :
    kindFlaws entry e = [] ↔
      e.attribute? "type" = some "method" ∨ e.attribute? "type" = some "property" := by
  unfold kindFlaws
  cases e.attribute? "type" <;> simp [errorUnless_eq_nil]

-- Whether a node is a child that reading an entry may fail over.
def isPart : Node → Bool
  | .element tag _ => tag.name.localName = "signature" ∨ tag.name.localName = "example"
  | _ => false

end Entry
end ApiStubs
