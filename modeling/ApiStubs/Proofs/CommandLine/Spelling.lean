import ApiStubs.CommandLine.Options

/-!
The ways to write an option on the command line. Whatever way is taken, reading it comes to the same
as giving the option its value or raising the flag.
-/

namespace ApiStubs

-- A value that can stand directly behind the letter of its option and also apart from it.
structure FreeValue where
  text : String
  ne_empty : text ≠ ""
  head : ∀ c ∈ text.toList.head?, c ≠ '-' ∧ c ≠ '='

namespace FreeValue

variable (value : FreeValue)

theorem exists_cons : ∃ c rest, value.text.toList = c :: rest ∧ c ≠ '-' ∧ c ≠ '=' := by
  cases hv : value.text.toList
  case nil         => exact absurd (String.toList_inj.mp hv) value.ne_empty
  case cons c rest => exact ⟨c, rest, rfl, value.head c (by simp [hv])⟩

theorem not_isOption : Options.isOption value.text.toList = false := by
  have ⟨c, rest, hv, hc, _⟩ := value.exists_cons
  rw [hv]
  unfold Options.isOption
  split
  case h_1 h => exact absurd (List.cons.inj h).left hc
  case h_2   => rfl

end FreeValue

-- The letter behind one hyphen, if the option has one.
def ValueOption.letter? : ValueOption → Option Char
  | config => some 'c'
  | input => some 'i'
  | versions => some 't'
  | output => some 'o'
  | url | header => none

def Flag.letter? : Flag → Option Char
  | unionTypes => none
  | verbose => some 'v'
  | quiet => some 'q'
  | help => some 'h'
  | version => some 'V'

-- An option as it is given once. Flags that ask for a text about the program are left out.
inductive GivenOption
  | valued (option : ValueOption) (value : FreeValue)
  | flag (flag : Flag) (runs : flag ≠ .help ∧ flag ≠ .version)

-- The arguments that an option can be written as.
inductive GivenOption.Spelling : GivenOption → List String → Prop
  | apart {option : ValueOption} {value : FreeValue} :
    Spelling (.valued option value) [option.text, value.text]
  | joined {option : ValueOption} {value : FreeValue} :
    Spelling (.valued option value) [option.text ++ "=" ++ value.text]
  | letterApart {option : ValueOption} {value : FreeValue} {c : Char}
    (letter : option.letter? = some c) :
    Spelling (.valued option value) ["-" ++ String.singleton c, value.text]
  | letterAttached {option : ValueOption} {value : FreeValue} {c : Char}
    (letter : option.letter? = some c) :
    Spelling (.valued option value) ["-" ++ String.singleton c ++ value.text]
  | letterJoined {option : ValueOption} {value : FreeValue} {c : Char}
    (letter : option.letter? = some c) :
    Spelling (.valued option value) ["-" ++ String.singleton c ++ "=" ++ value.text]
  | word {flag : Flag} {runs : flag ≠ .help ∧ flag ≠ .version} :
    Spelling (.flag flag runs) [flag.text]
  | letter {flag : Flag} {runs : flag ≠ .help ∧ flag ≠ .version} {c : Char}
    (letter : flag.letter? = some c) : Spelling (.flag flag runs) ["-" ++ String.singleton c]

-- Arguments that are options one after the other.
inductive Spells : List GivenOption → List String → Prop
  | nil : Spells [] []
  | cons {o : GivenOption} {os : List GivenOption} {arguments rest : List String}
    (head : o.Spelling arguments) (tail : Spells os rest) : Spells (o :: os) (arguments ++ rest)

namespace Options

variable {options : Options} {option : ValueOption} {flag : Flag} {value : FreeValue} {c : Char}
  {o : GivenOption} {os : List GivenOption} {arguments rest : List String}

def add (options : Options) : GivenOption → Except Stop Options
  | .valued option value => options.give option value.text
  | .flag flag _ => options.raise flag

theorem readFrom_waiting :
    readFrom options (some option) (value.text :: rest) =
      options.give option value.text >>= fun next => readFrom next none rest := by
  simp [readFrom, value.not_isOption]

theorem readFrom_apart :
    readFrom options none (option.text :: value.text :: rest) =
      options.give option value.text >>= fun next => readFrom next none rest := by
  rw [← readFrom_waiting]
  cases option <;>
    simp [readFrom, readWord, OptionName.ofLong?, ValueOption.text, bind, Except.bind]

theorem readFrom_joined :
    readFrom options none ((option.text ++ "=" ++ value.text) :: rest) =
      options.give option value.text >>= fun next => readFrom next none rest := by
  cases option <;> simp [readFrom, readWord, OptionName.ofLong?, ValueOption.text]

theorem readFrom_letterApart (h : option.letter? = some c) :
    readFrom options none (("-" ++ String.singleton c) :: value.text :: rest) =
      options.give option value.text >>= fun next => readFrom next none rest := by
  rw [← readFrom_waiting]
  cases option <;> cases h <;>
    simp [readFrom, readLetters, OptionName.ofShort?, bind, Except.bind]

theorem readFrom_letterAttached (h : option.letter? = some c) :
    readFrom options none (("-" ++ String.singleton c ++ value.text) :: rest) =
      options.give option value.text >>= fun next => readFrom next none rest := by
  have ⟨first, text, hv, _, he⟩ := value.exists_cons
  have ht : String.ofList (first :: text) = value.text := by rw [← hv, String.ofList_toList]
  cases option <;> cases h <;> simp [readFrom, readLetters, OptionName.ofShort?, hv, he, ht]

theorem readFrom_letterJoined (h : option.letter? = some c) :
    readFrom options none (("-" ++ String.singleton c ++ "=" ++ value.text) :: rest) =
      options.give option value.text >>= fun next => readFrom next none rest := by
  cases option <;> cases h <;> simp [readFrom, readLetters, OptionName.ofShort?]

theorem readFrom_word :
    readFrom options none (flag.text :: rest) =
      options.raise flag >>= fun next => readFrom next none rest := by
  cases flag <;> simp [readFrom, readWord, OptionName.ofLong?, Flag.text]

theorem readFrom_letter (h : flag.letter? = some c) :
    readFrom options none (("-" ++ String.singleton c) :: rest) =
      options.raise flag >>= fun next => readFrom next none rest := by
  cases flag <;> cases h <;> simp [readFrom, readLetters, OptionName.ofShort?] <;> rfl

-- All spellings of an option come to the same.
theorem readFrom_spelling (h : o.Spelling arguments) :
    readFrom options none (arguments ++ rest) =
      options.add o >>= fun next => readFrom next none rest := by
  cases h
  case apart             => exact readFrom_apart
  case joined            => exact readFrom_joined
  case letterApart hc    => exact readFrom_letterApart hc
  case letterAttached hc => exact readFrom_letterAttached hc
  case letterJoined hc   => exact readFrom_letterJoined hc
  case word              => exact readFrom_word
  case letter hc         => exact readFrom_letter hc

theorem readFrom_spells (h : Spells os arguments) :
    readFrom options none (arguments ++ rest) =
      os.foldlM add options >>= fun next => readFrom next none rest := by
  induction h generalizing options
  case nil => rfl
  case cons ho _ hi =>
    rw [List.append_assoc, readFrom_spelling ho, List.foldlM_cons, bind_assoc]
    simp only [hi]

-- What goes together is looked at in the end.
theorem read_spells (h : Spells os arguments) : read arguments = os.foldlM add {} >>= check := by
  have hr : readFrom {} none (arguments ++ []) =
      os.foldlM add {} >>= fun next => readFrom next none [] :=
    readFrom_spells h
  simp only [List.append_nil, readFrom] at hr
  exact hr

end Options
end ApiStubs
