import ApiStubs.Text.CharNumber
import ApiStubs.Text.Split

/-!
Dates and times of TOML: how they are read, and the one way in which each is written again.
-/

namespace ApiStubs.Toml

open Text (dropWord?)

structure Date where
  year : Nat
  month : Nat
  day : Nat
  deriving DecidableEq, Repr, Inhabited

-- The fraction of a second is kept by its digits, of which the last one is not zero.
structure Time where
  hour : Nat
  minute : Nat
  second : Nat
  fraction : List Char := []
  deriving DecidableEq, Repr, Inhabited

-- How far a clock is ahead of universal time.
inductive Offset
  | universal
  | minutes (ahead : Int)
  deriving DecidableEq, Repr, Inhabited

inductive DateTime
  | date (d : Date)
  | time (t : Time)
  | both (d : Date) (t : Time) (offset : Option Offset)
  deriving DecidableEq, Repr, Inhabited

def isLeapYear (year : Nat) : Bool :=
  year % 4 == 0 && (year % 100 != 0 || year % 400 == 0)

def daysOfMonth (year month : Nat) : Nat :=
  match month with
  | 2 => if isLeapYear year then 29 else 28
  | 4 | 6 | 9 | 11 => 30
  | _ => 31

-- A number of so many digits, and what follows.
def digits? (count : Nat) (s : List Char) : Option (Nat × List Char) :=
  if s.length < count then none
  else (Text.number? 10 (s.take count)).map (·, s.drop count)

-- A number of two digits between bounds, and what follows.
def between? (first last : Nat) (s : List Char) : Option (Nat × List Char) :=
  (digits? 2 s).filter fun (n, _) => first ≤ n ∧ n ≤ last

def date? (s : List Char) : Option (Date × List Char) := do
  let (year, s) ← digits? 4 s
  let (month, s) ← between? 1 12 (← dropWord? ['-'] s)
  let (day, s) ← between? 1 (daysOfMonth year month) (← dropWord? ['-'] s)
  return (⟨year, month, day⟩, s)

-- The digits of a fraction that count, if one follows. There are at most nine of them.
def fraction? (s : List Char) : Option (List Char × List Char) :=
  match s with
  | '.' :: s =>
    let digits := s.takeWhile Char.isDigit
    if digits.isEmpty then none
    else some ((digits.take 9).reverse.dropWhile (· = '0') |>.reverse, s.dropWhile Char.isDigit)
  | _ => none

def time? (s : List Char) : Option (Time × List Char) := do
  let (hour, s) ← between? 0 23 s
  let (minute, s) ← between? 0 59 (← dropWord? [':'] s)
  let (second, s) ← between? 0 60 (← dropWord? [':'] s)
  let (fraction, s) := (fraction? s).getD ([], s)
  return (⟨hour, minute, second, fraction⟩, s)

def offset? : List Char → Option (Offset × List Char)
  | [] => none
  | c :: s =>
    if c = 'Z' ∨ c = 'z' then some (.universal, s)
    else if c = '+' ∨ c = '-' then do
      let (hours, s) ← between? 0 23 s
      let (minutes, s) ← between? 0 59 (← dropWord? [':'] s)
      let ahead : Int := hours * 60 + minutes
      return (.minutes (if c = '+' then ahead else -ahead), s)
    else none

-- The time that follows a date, a letter or a blank between them.
def timeOfDay? : List Char → Option (Time × List Char)
  | [] => none
  | c :: s => if c = 'T' ∨ c = 't' ∨ c = ' ' then time? s else none

-- A date, a time or both, and what follows.
def dateTime? (s : List Char) : Option (DateTime × List Char) :=
  match date? s with
  | none => (time? s).map fun (t, s) => (.time t, s)
  | some (d, s) =>
    match timeOfDay? s with
    | none => some (.date d, s)
    | some (t, s) =>
      match offset? s with
      | none => some (.both d t none, s)
      | some (offset, s) => some (.both d t (some offset), s)

-- A number with zeros before it, so that it has at least `count` digits.
def padded (count n : Nat) : String :=
  String.ofList ((Nat.toDigits 10 n).leftpad count '0')

def Date.text (d : Date) : String :=
  s!"{padded 4 d.year}-{padded 2 d.month}-{padded 2 d.day}"

def Time.text (t : Time) : String :=
  let fraction := if t.fraction.isEmpty then "" else "." ++ String.ofList t.fraction
  s!"{padded 2 t.hour}:{padded 2 t.minute}:{padded 2 t.second}" ++ fraction

def Offset.text : Offset → String
  | universal => "Z"
  | minutes ahead =>
    let sign := if ahead < 0 then "-" else "+"
    s!"{sign}{padded 2 (ahead.natAbs / 60)}:{padded 2 (ahead.natAbs % 60)}"

def DateTime.text : DateTime → String
  | date d => d.text
  | time t => t.text
  | both d t offset => d.text ++ "T" ++ t.text ++ (offset.map Offset.text |>.getD "")

end ApiStubs.Toml
