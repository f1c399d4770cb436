import ApiStubs.Proofs.Toml.Given

/-!
Statements that are written one on a line, with names that need no quotes and texts that need no
escapes. Reading such lines gives back the statements.
-/

namespace ApiStubs.Toml

variable {s line rest text : List Char} {key : List String} {name : String} {value : Value}
  {statement : Statement} {statements : List Statement}

-- A name that needs no quotes.
structure IsBare (name : String) : Prop where
  ne_nil : name.toList ≠ []
  keyChars : name.toList.all isKeyChar

instance (name : String) : Decidable (IsBare name) :=
  decidable_of_iff (name.toList ≠ [] ∧ name.toList.all isKeyChar)
    ⟨fun ⟨hn, hk⟩ => ⟨hn, hk⟩, fun ⟨hn, hk⟩ => ⟨hn, hk⟩⟩

-- The characters that stand for themselves between double quotes.
def isUnescaped (c : Char) : Bool :=
  isPlain c && c != '"' && c != '\\'

-- The names of a key behind its first one.
def moreNames (key : List String) : List Char :=
  key.flatMap fun name => '.' :: name.toList

def keyText : List String → List Char
  | [] => []
  | name :: key => name.toList ++ moreNames key

inductive Value.Written : Value → List Char → Prop
  | text {s : String} (h : s.toList.all isUnescaped) :
    Written (.text s) ('"' :: (s.toList ++ ['"']))
  | yes : Written (.boolean true) "true".toList
  | no : Written (.boolean false) "false".toList

inductive Statement.Written : Statement → List Char → Prop
  | header {key : List String} (hn : key ≠ []) (h : ∀ name ∈ key, IsBare name) :
    Written (.header key) ('[' :: (keyText key ++ [']']))
  | assign {key : List String} {value : Value} {text : List Char} (hn : key ≠ [])
    (h : ∀ name ∈ key, IsBare name) (hv : value.Written text) :
    Written (.assign key value) (keyText key ++ ' ' :: '=' :: ' ' :: text)

-- Statements, each on a line of its own.
inductive WrittenLines : List Statement → List Char → Prop
  | nil : WrittenLines [] []
  | cons {statement : Statement} {statements : List Statement} {line text : List Char}
    (h : statement.Written line) (ht : WrittenLines statements text) :
    WrittenLines (statement :: statements) (line ++ '\n' :: text)

-- What ends a key: neither a character of a name nor, behind gaps, a dot.
structure EndsKey (rest : List Char) : Prop where
  name : rest.takeWhile isKeyChar = []
  dot : ∀ s, skipGaps rest ≠ '.' :: s

theorem keyPart?_append (h : IsBare name) (hr : rest.takeWhile isKeyChar = []) :
    keyPart? (name.toList ++ rest) = some (name, rest) := by
  have ht : (name.toList ++ rest).takeWhile isKeyChar = name.toList := by
    rw [List.takeWhile_append_of_pos (List.all_eq_true.mp h.keyChars), hr, List.append_nil]
  have hd : (name.toList ++ rest).dropWhile isKeyChar = rest := by
    have ha := List.takeWhile_append_dropWhile (p := isKeyChar) (l := name.toList ++ rest)
    rw [ht] at ha
    exact List.append_cancel_left ha
  unfold keyPart?
  split
  case h_1 hn => exact absurd (ht.symm.trans hn) h.ne_nil
  case h_2 => rw [ht, hd, String.ofList_toList]

theorem IsBare.exists_cons (h : IsBare name) :
    ∃ c more, name.toList = c :: more ∧ isKeyChar c := by
  obtain ⟨c, more, hc⟩ := List.exists_cons_of_ne_nil h.ne_nil
  exact ⟨c, more, hc, List.all_eq_true.mp h.keyChars c (by simp [hc])⟩

theorem not_isGap_of_isKeyChar {c : Char} (h : isKeyChar c) : ¬isGap c := by
  intro hg
  simp only [isGap, Bool.or_eq_true, beq_iff_eq] at hg
  obtain rfl | rfl := hg <;> cases h

theorem IsBare.skipGaps_append (h : IsBare name) (rest : List Char) :
    skipGaps (name.toList ++ rest) = name.toList ++ rest := by
  obtain ⟨c, more, hc, hk⟩ := h.exists_cons
  rw [hc]
  exact List.dropWhile_cons_of_neg (not_isGap_of_isKeyChar hk)

theorem EndsKey.moreNames (hr : EndsKey rest) (key : List String) :
    (moreNames key ++ rest).takeWhile isKeyChar = [] := by
  cases key
  case nil  => exact hr.name
  case cons => rfl

theorem moreKeyParts?_append (h : ∀ name ∈ key, IsBare name) (hr : EndsKey rest) {fuel : Nat}
    (hf : key.length ≤ fuel) :
    moreKeyParts? fuel (moreNames key ++ rest) = some (key, rest) := by
  induction key generalizing fuel
  case nil =>
    cases fuel
    case zero => rfl
    case succ =>
      simp only [moreNames, List.flatMap_nil, List.nil_append, moreKeyParts?]
      split
      case h_1 hs => exact absurd hs (hr.dot _)
      case h_2    => rfl
  case cons name key hi =>
    obtain ⟨hb, hk⟩ := List.forall_mem_cons.mp h
    cases fuel
    case zero => cases hf
    case succ fuel =>
      have hs : skipGaps (moreNames (name :: key) ++ rest) =
          '.' :: (name.toList ++ (moreNames key ++ rest)) := by
        simp [moreNames, skipGaps, isGap]
      have hp := keyPart?_append hb (hr.moreNames key)
      have hm := hi hk (Nat.le_of_succ_le_succ hf)
      simp only [moreKeyParts?, hs, hb.skipGaps_append, hp, Option.bind_eq_bind, Option.bind_some,
        hm]
      rfl

theorem length_le_moreNames (key : List String) : key.length ≤ (moreNames key).length := by
  induction key
  case nil => exact Nat.zero_le _
  case cons name key hi =>
    simp only [moreNames, List.flatMap_cons, List.length_append, List.length_cons] at hi ⊢
    omega

theorem key?_keyText (hn : key ≠ []) (h : ∀ name ∈ key, IsBare name) (hr : EndsKey rest) :
    key? (keyText key ++ rest) = some (key, rest) := by
  obtain ⟨name, more, rfl⟩ := List.exists_cons_of_ne_nil hn
  obtain ⟨hb, hm⟩ := List.forall_mem_cons.mp h
  have hl : more.length ≤ (moreNames more ++ rest).length := by
    rw [List.length_append]
    exact Nat.le_add_right_of_le (length_le_moreNames more)
  have hp := keyPart?_append hb (hr.moreNames more)
  have hk := moreKeyParts?_append hm hr hl
  simp only [key?, keyText, List.append_assoc, hp, Option.bind_eq_bind, Option.bind_some, hk]
  rfl

-- Between double quotes every character is a piece.
theorem pieces?_append (h : ∀ c ∈ s, isUnescaped c) {fuel : Nat} (hf : s.length < fuel) :
    pieces? ⟨'"', false⟩ fuel (s ++ '"' :: rest) = some (s, rest) := by
  induction s generalizing fuel
  case nil =>
    cases fuel
    case zero => cases hf
    case succ => rfl
  case cons c s hi =>
    obtain ⟨hc, hs⟩ := List.forall_mem_cons.mp h
    cases fuel
    case zero => cases hf
    case succ fuel =>
      have hp : piece? ⟨'"', false⟩ (c :: (s ++ '"' :: rest)) =
          some ([c], false, s ++ '"' :: rest) := by
        simp only [isUnescaped, Bool.and_eq_true, bne_iff_ne] at hc
        simp [piece?, hc]
      have hr := hi hs (Nat.lt_of_succ_lt_succ hf)
      simp only [List.cons_append, pieces?, hp, Option.bind_eq_bind, Option.bind_some,
        Bool.false_eq_true, if_false, hr]
      rfl

theorem string?_append (h : ∀ c ∈ s, isUnescaped c) (hr : rest.head? ≠ some '"') :
    string? ('"' :: (s ++ '"' :: rest)) = some (String.ofList s, rest) := by
  have hl : lineString? ('"' :: (s ++ '"' :: rest)) = some (String.ofList s, rest) := by
    simp [lineString?, pieces?_append h]
  unfold string?
  split
  case h_2 => exact hl
  case h_1 q q2 q3 after he =>
    -- A second quote ends an empty text, and behind it there is no third one.
    have hq : ¬((q = '"' ∨ q = '\'') ∧ q2 = q ∧ q3 = q) := by
      rintro ⟨-, h2, h3⟩
      obtain ⟨hq, ht⟩ := List.cons.inj he
      cases s
      case nil =>
        obtain ⟨_, rfl⟩ := List.cons.inj ht
        exact hr (by rw [List.head?_cons, h3, hq])
      case cons d s =>
        have hd : isUnescaped d := h d List.mem_cons_self
        rw [(List.cons.inj ht).left, h2, ← hq] at hd
        cases hd
    rw [if_neg hq, hl]

theorem value?_append (h : value.Written text) (hr : rest.head? ≠ some '"') :
    value? (text ++ rest) = some (value, rest) := by
  cases h
  case text s h =>
    have hs := string?_append (List.all_eq_true.mp h) hr
    simp [value?, Text.dropWord?, hs]
  case yes => rfl
  case no  => rfl

theorem exists_cons_keyText (hn : key ≠ []) (h : ∀ name ∈ key, IsBare name) (rest : List Char) :
    ∃ c more, keyText key ++ rest = c :: more ∧ isKeyChar c := by
  obtain ⟨name, more, rfl⟩ := List.exists_cons_of_ne_nil hn
  obtain ⟨c, part, hc, hk⟩ := (h name List.mem_cons_self).exists_cons
  exact ⟨c, part ++ (moreNames more ++ rest), by simp [keyText, hc], hk⟩

theorem skipGaps_keyText (hn : key ≠ []) (h : ∀ name ∈ key, IsBare name) (rest : List Char) :
    skipGaps (keyText key ++ rest) = keyText key ++ rest := by
  obtain ⟨name, more, rfl⟩ := List.exists_cons_of_ne_nil hn
  rw [keyText, List.append_assoc, (h name List.mem_cons_self).skipGaps_append]

-- What begins with a character of a name is no header, no comment and not the end of a line.
theorem statement?_of_isKeyChar {c : Char} (h : isKeyChar c) (more : List Char) :
    statement? (c :: more) =
      (assigned? (c :: more)).bind fun key =>
        (value? key.2).bind fun value => some ([.assign key.1 value.1], value.2) := by
  unfold statement?
  split
  case h_1 hs => cases hs
  case h_2 hs =>
    cases hs
    cases h
  case h_3 hs =>
    cases hs
    have hn : ¬(c = '#' ∨ (lineEnd? (c :: more)).isSome) := by
      rintro (rfl | hl)
      · cases h
      · unfold lineEnd? at hl
        split at hl
        case h_1 hs => cases hs; cases h
        case h_2 hs => cases hs; cases h
        case h_3    => cases hl
    rw [if_neg hn]
    rfl

theorem statement?_append (h : statement.Written line) (rest : List Char) :
    statement? (skipGaps (line ++ '\n' :: rest)) = some ([statement], '\n' :: rest) := by
  cases h
  case header key hn h =>
    have hr : EndsKey (']' :: '\n' :: rest) := ⟨rfl, fun _ hs => by cases hs⟩
    have hs : skipGaps ('[' :: (keyText key ++ ']' :: '\n' :: rest)) =
        '[' :: (keyText key ++ ']' :: '\n' :: rest) := rfl
    have hk : header? (keyText key ++ ']' :: '\n' :: rest) =
        some (.header key, '\n' :: rest) := by
      simp only [header?, skipGaps_keyText hn h, key?_keyText hn h hr, Option.bind_eq_bind,
        Option.bind_some]
      rfl
    simp [hs, statement?, hk]
  case assign key value text hn h hv =>
    have hr : EndsKey (' ' :: '=' :: ' ' :: (text ++ '\n' :: rest)) :=
      ⟨rfl, fun _ hs => by cases hs⟩
    have ha : assigned? (keyText key ++ ' ' :: '=' :: ' ' :: (text ++ '\n' :: rest)) =
        some (key, text ++ '\n' :: rest) := by
      have hs : skipGaps (' ' :: '=' :: ' ' :: (text ++ '\n' :: rest)) =
          '=' :: ' ' :: (text ++ '\n' :: rest) := rfl
      have ht : skipGaps (' ' :: (text ++ '\n' :: rest)) = text ++ '\n' :: rest := by
        cases hv <;> rfl
      simp only [assigned?, key?_keyText hn h hr, hs, ht, Option.bind_eq_bind, Option.bind_some]
      rfl
    have hv' : value? (text ++ '\n' :: rest) = some (value, '\n' :: rest) :=
      value?_append hv (by simp)
    obtain ⟨c, more, hc, hk⟩ :=
      exists_cons_keyText hn h (' ' :: '=' :: ' ' :: (text ++ '\n' :: rest))
    rw [List.append_assoc]
    simp only [List.cons_append]
    rw [skipGaps_keyText hn h, hc, statement?_of_isKeyChar hk, ← hc, ha]
    simp [hv']

theorem statementsUpTo?_of_writtenLines (h : WrittenLines statements text) {fuel : Nat}
    (hf : text.length ≤ fuel) : statementsUpTo? fuel text = some statements := by
  induction h generalizing fuel
  case nil => cases fuel <;> rfl
  case cons statement statements line text hs _ hi =>
    have hl : (line ++ '\n' :: text).length = line.length + text.length + 1 := by simp; omega
    cases fuel
    case zero => simp at hf
    case succ fuel =>
      have hn : nextLine? ('\n' :: text) = some text := rfl
      have hr : statementsUpTo? fuel text = some statements := hi (by omega)
      have hu : statementsUpTo? (fuel + 1) (line ++ '\n' :: text) =
          (statement? (skipGaps (line ++ '\n' :: text))).bind fun first =>
            (nextLine? first.2).bind fun after =>
              (statementsUpTo? fuel after).bind fun rest => some (first.1 ++ rest) := by
        cases line <;> rfl
      rw [hu, statement?_append hs]
      simp [hn, hr]

-- Lines that are written in this way are read as their statements.
theorem statements?_of_writtenLines (h : WrittenLines statements text) :
    statements? (String.ofList text) = some statements := by
  -- No line begins with a byte order mark.
  have hb : Text.dropWord? ['\uFEFF'] text = none := by
    cases h
    case nil => rfl
    case cons hs _ =>
      cases hs
      case header => rfl
      case assign hn h hv =>
        obtain ⟨c, more, hc, hk⟩ := exists_cons_keyText hn h _
        have hm : '\uFEFF' ≠ c := by
          rintro rfl
          cases hk
        rw [List.append_assoc, hc]
        simp [Text.dropWord?, hm]
  simp only [statements?, String.toList_ofList, hb, Option.getD_none]
  exact statementsUpTo?_of_writtenLines h (Nat.le_refl _)

theorem assignments?_of_writtenLines (h : WrittenLines statements text) :
    assignments? (String.ofList text) =
      if (givenBy [] statements).Proper then some (givenBy [] statements).assigned else none := by
  simp only [assignments?, statements?_of_writtenLines h, Option.map_some, Option.filter_some]
  split <;> simp_all

end ApiStubs.Toml
