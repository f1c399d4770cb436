import ApiStubs.Files.Access
import ApiStubs.Proofs.Results

/-!
What is read after something was written: the new content at the path that was written to, and at
every other place what was there before. Writing again replaces what was written.
-/

namespace ApiStubs

theorem fromUTF8?_eq_some {bytes : ByteArray} {s : String} :
    String.fromUTF8? bytes = some s ↔ bytes = s.toUTF8 := by
  constructor
  case mp =>
    intro h
    unfold String.fromUTF8? at h
    split at h <;> cases h
    rfl
  case mpr =>
    rintro rfl
    exact dif_pos s.isValidUTF8

-- A name that is a path by itself.
structure Path.Plain (name : String) : Prop where
  noSlash : '/' ∉ name.toList
  noNul : '\x00' ∉ name.toList
  size : name.utf8ByteSize ≤ maxName
  named : name ∉ ["", ".", ".."]

instance : DecidablePred Path.Plain := fun name =>
  decidable_of_iff ('/' ∉ name.toList ∧ '\x00' ∉ name.toList ∧
      name.utf8ByteSize ≤ Path.maxName ∧ name ∉ ["", ".", ".."])
    ⟨fun ⟨h₁, h₂, h₃, h₄⟩ => ⟨h₁, h₂, h₃, h₄⟩, fun ⟨h₁, h₂, h₃, h₄⟩ => ⟨h₁, h₂, h₃, h₄⟩⟩

theorem Path.Plain.read_eq {name : String} (h : Path.Plain name) :
    Path.read name = .ok ⟨false, [], some name, false⟩ := by
  have he : name.toList ≠ [] := by
    have hn : name ≠ "" := List.ne_of_not_mem_cons h.named
    simpa using hn
  have hs : name.utf8ByteSize ≤ maxPath := Nat.le_trans h.size (by decide)
  have hh : name.toList.head? ≠ some '/' := fun hh => h.noSlash (List.mem_of_head? hh)
  have hl : name.toList.getLast? ≠ some '/' := fun hl => h.noSlash (List.mem_of_getLast? hl)
  simp [Path.read, h.noNul, he, Nat.not_lt.mpr hs, Text.splitChars_of_not_mem h.noSlash, hh, hl]

namespace FileTree

variable {t : FileTree} {text name : String} {here above place p : Place} {names : List String}
  {content : ByteArray} {m n : FileNode} {nodes : List (Place × FileNode)}

theorem setNode_setNode : setNode p n (setNode p m nodes) = setNode p n nodes := by
  induction nodes
  case nil => simp [setNode]
  case cons e nodes hi => by_cases h : e.1 = p <;> simp [setNode, h, hi]

-- Of two nodes that are put at one place only the later one stays.
theorem set_set : (t.set p m).set p n = t.set p n := by
  simp only [set, setNode_setNode]

-- A path leads to a place by a last name, which stands for no directory.
inductive LeadsTo (t : FileTree) (text name : String) (place : Place) : Prop
  | intro {path : Path} {above : Place} (read : Path.read text = .ok path)
    (parent : t.parentOf path = .ok above) (last : path.last = some name)
    (slashed : path.slashed = false) (enter : enter above name = .ok place)

-- Two paths lead to one place, at which there need not be a file yet.
def SameFile (t : FileTree) (text other : String) : Prop :=
  ∃ name last place, t.LeadsTo text name place ∧ t.LeadsTo other last place

theorem read_eq_ok :
    t.read text = .ok content ↔
      ∃ name place, t.LeadsTo text name place ∧ t.get? place = some (.file content) := by
  constructor
  case mp =>
    intro h
    obtain ⟨path, hp, h⟩ := bind_eq_ok.mp h
    obtain ⟨above, hd, h⟩ := bind_eq_ok.mp h
    split at h
    case h_1 => simp at h
    case h_2 name hn =>
      obtain ⟨place, he, h⟩ := bind_eq_ok.mp h
      split at h <;> try split at h
      case h_3.isFalse hg hs =>
        cases h
        exact ⟨name, place, .intro hp hd hn (by simpa using hs) he, hg⟩
      all_goals simp at h
  case mpr =>
    rintro ⟨name, place, ⟨hp, hd, hn, hs, he⟩, hg⟩
    simp [read, hp, hd, hn, hs, he, hg, bind, Except.bind]

theorem readText_eq_ok {s : String} : t.readText text = .ok s ↔ t.read text = .ok s.toUTF8 := by
  constructor
  case mp =>
    intro h
    obtain ⟨bytes, hb, h⟩ := bind_eq_ok.mp h
    split at h <;> cases h
    case h_1 hs => rw [hb, fromUTF8?_eq_some.mp hs]
  case mpr =>
    intro h
    have hs : String.fromUTF8? s.toUTF8 = some s := fromUTF8?_eq_some.mpr rfl
    simp only [readText, h, bind, Except.bind, hs]

theorem enter_of_plain (h : Path.Plain name) : enter here name = .ok (here ++ [name]) := by
  have hn : name ≠ "." ∧ name ≠ ".." := by simpa using List.not_mem_of_not_mem_cons h.named
  simp [enter, hn, Nat.not_lt.mpr h.size]

theorem LeadsTo.eq_of_plain (h : Path.Plain text) (hl : t.LeadsTo text name place) :
    place = t.here ++ [text] := by
  obtain ⟨hp, hd, hn, _, he⟩ := hl
  cases h.read_eq.symm.trans hp
  cases hn
  cases hd
  cases (enter_of_plain h).symm.trans he
  rfl

theorem not_sameFile_of_plain {other : String} (h : Path.Plain text) (ho : Path.Plain other)
    (hne : text ≠ other) : ¬t.SameFile text other := by
  rintro ⟨name, last, place, hl, hl'⟩
  have hp := (hl.eq_of_plain h).symm.trans (hl'.eq_of_plain ho)
  simp [hne] at hp

theorem readText_of_file {s : String} (h : Path.Plain name)
    (hg : t.get? (t.here ++ [name]) = some (.file s.toUTF8)) : t.readText name = .ok s :=
  readText_eq_ok.mpr <| read_eq_ok.mpr
    ⟨name, _, .intro h.read_eq rfl rfl rfl (enter_of_plain h), hg⟩

theorem isFile_of_plain (h : Path.Plain name) :
    t.isFile name ↔ ∃ content, t.get? (t.here ++ [name]) = some (.file content) := by
  constructor
  case mp =>
    intro hf
    cases hr : t.read name
    case error fault => simp [isFile, hr, Except.toOption] at hf
    case ok content =>
      have ⟨_, place, hl, hg⟩ := read_eq_ok.mp hr
      exact ⟨content, hl.eq_of_plain h ▸ hg⟩
  case mpr =>
    rintro ⟨content, hg⟩
    have hr : t.read name = .ok content :=
      read_eq_ok.mpr ⟨name, _, .intro h.read_eq rfl rfl rfl (enter_of_plain h), hg⟩
    simp [isFile, hr, Except.toOption]

theorem read_of_none (h : Path.Plain name) (hg : t.get? (t.here ++ [name]) = none) :
    t.read name = .error .notFound := by
  simp [read, h.read_eq, parentOf, descend, enter_of_plain h, hg, bind, Except.bind]

theorem readText_of_none (h : Path.Plain name) (hg : t.get? (t.here ++ [name]) = none) :
    t.readText name = .error .notFound := by
  simp [readText, read_of_none h hg, bind, Except.bind]

theorem not_isFile_of_none (h : Path.Plain name) (hg : t.get? (t.here ++ [name]) = none) :
    ¬t.isFile name := by
  simp [isFile, read_of_none h hg, Except.toOption]

theorem placeToWrite_eq_ok :
    t.placeToWrite text = .ok place ↔
      ∃ name, t.LeadsTo text name place ∧ name ≠ "." ∧ name ≠ ".." ∧
        t.get? place ≠ some .directory := by
  constructor
  case mp =>
    intro h
    obtain ⟨path, hp, h⟩ := bind_eq_ok.mp h
    obtain ⟨above, hd, h⟩ := bind_eq_ok.mp h
    split at h
    case h_1 => simp at h
    case h_2 name hn =>
      split at h
      case isTrue => simp at h
      case isFalse hs =>
        obtain ⟨place, he, h⟩ := bind_eq_ok.mp h
        split at h <;> cases h
        simp only [not_or, Bool.not_eq_true] at hs
        exact ⟨name, .intro hp hd hn hs.2.2 he, hs.1, hs.2.1, ‹_›⟩
  case mpr =>
    rintro ⟨name, ⟨hp, hd, hn, hs, he⟩, h₁, h₂, hg⟩
    simp only [placeToWrite, hp, hd, hn, hs, he, h₁, h₂, bind, Except.bind]
    simp

theorem placeToWrite_of_plain (h : Path.Plain text)
    (hg : t.get? (t.here ++ [text]) ≠ some .directory) :
    t.placeToWrite text = .ok (t.here ++ [text]) := by
  have hn : text ≠ "." ∧ text ≠ ".." := by simpa using List.not_mem_of_not_mem_cons h.named
  exact placeToWrite_eq_ok.mpr
    ⟨text, .intro h.read_eq rfl rfl rfl (enter_of_plain h), hn.left, hn.right, hg⟩

-- Only directories are passed on the way, and writing a file leaves them in place.
theorem descend_set (hg : t.get? p ≠ some .directory) (h : t.descend here names = .ok above) :
    (t.set p (.file content)).descend here names = .ok above := by
  induction names generalizing here
  case nil => exact h
  case cons name names hi =>
    rw [descend] at h ⊢
    obtain ⟨next, he, h⟩ := bind_eq_ok.mp h
    split at h
    case h_1 => simp at h
    case h_2 => simp at h
    case h_3 hn =>
      have hne : next ≠ p := fun hp => hg (hp ▸ hn)
      rw [he]
      simp [bind, Except.bind, get?_set_of_ne hne, hn, hi h]

theorem LeadsTo.set (hg : t.get? p ≠ some .directory) (h : t.LeadsTo text name place) :
    (t.set p (.file content)).LeadsTo text name place := by
  obtain ⟨hp, hd, hn, hs, he⟩ := h
  exact .intro hp (descend_set hg hd) hn hs he

theorem ne_nil_of_placeToWrite (h : t.placeToWrite text = .ok place) : place ≠ [] := by
  have ⟨_, _, _, _, hg⟩ := placeToWrite_eq_ok.mp h
  rintro rfl
  exact hg rfl

theorem read_set (h : t.placeToWrite text = .ok place) :
    (t.set place (.file content)).read text = .ok content := by
  have ⟨name, hl, _, _, hg⟩ := placeToWrite_eq_ok.mp h
  exact read_eq_ok.mpr ⟨name, place, hl.set hg, get?_set_self (ne_nil_of_placeToWrite h)⟩

theorem placeToWrite_set (h : t.placeToWrite text = .ok place) :
    (t.set place (.file content)).placeToWrite text = .ok place := by
  have ⟨name, hl, h₁, h₂, hg⟩ := placeToWrite_eq_ok.mp h
  refine placeToWrite_eq_ok.mpr ⟨name, hl.set hg, h₁, h₂, ?_⟩
  simp [get?_set_self (ne_nil_of_placeToWrite h)]

-- Writing a file does not change what any other file reads as.
theorem readText_set {other s : String} (hp : t.placeToWrite text = .ok place)
    (hn : ¬t.SameFile text other) (h : t.readText other = .ok s) :
    (t.set place (.file content)).readText other = .ok s := by
  have ⟨name, hl, _, _, hg⟩ := placeToWrite_eq_ok.mp hp
  have ⟨last, q, hq, hf⟩ := read_eq_ok.mp (readText_eq_ok.mp h)
  have hne : q ≠ place := by
    rintro rfl
    exact hn ⟨name, last, q, hl, hq⟩
  refine readText_eq_ok.mpr <| read_eq_ok.mpr ⟨last, q, hq.set hg, ?_⟩
  rw [get?_set_of_ne hne, hf]

end FileTree
end ApiStubs
