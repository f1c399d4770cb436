/-!
Numbers read from decimal notation.
-/

namespace ApiStubs.Number

def ofDigits (digits : List Char) : Nat :=
  digits.foldl (fun n c => 10 * n + (c.toNat - '0'.toNat)) 0

-- The float nearest to `m * 10 ^ e`. Far outside the range of floats nothing is computed.
def toFloat (m : Nat) (e : Int) : Float :=
  let top := e + (Nat.toDigits 10 m).length
  if m = 0 then 0.0
  else if top > 400 then 1.0 / 0.0
  else if top < -400 then 0.0
  else match e with
    | .ofNat e => Float.ofScientific m false e
    | .negSucc e => Float.ofScientific m true (e + 1)

-- The float nearest to the number with these digits before and after the point.
def ofParts (whole fraction : List Char) (exponent : Int) : Float :=
  toFloat (ofDigits (whole ++ fraction)) (exponent - fraction.length)

-- The exponent that ends a number: nothing, or the letter `e`, a sign and digits.
def exponent? (s : List Char) : Option Int :=
  match s with
  | [] => some 0
  | 'e' :: s | 'E' :: s =>
    let (negative, digits) :=
      match s with
      | '-' :: s => (true, s)
      | '+' :: s => (false, s)
      | s => (false, s)
    if digits.isEmpty ∨ ¬digits.all Char.isDigit then none
    else some (if negative then -(ofDigits digits : Int) else ofDigits digits)
  | _ => none

def unsigned? (s : List Char) : Option Float :=
  let word := s.map Char.toLower
  if word = "inf".toList ∨ word = "infinity".toList then some (1.0 / 0.0)
  else if word = "nan".toList then some (0.0 / 0.0)
  else
    let whole := s.takeWhile Char.isDigit
    let (fraction, rest) :=
      match s.dropWhile Char.isDigit with
      | '.' :: s => (s.takeWhile Char.isDigit, s.dropWhile Char.isDigit)
      | s => ([], s)
    if whole.isEmpty ∧ fraction.isEmpty then none
    else (exponent? rest).map (ofParts whole fraction)

-- A number: a sign, digits with a point among them, and an exponent, of which only some digits have
-- to be there; or a word for infinity or for what is no number.
def read? (s : List Char) : Option Float :=
  match s with
  | '-' :: s => (unsigned? s).map (- ·)
  | '+' :: s => unsigned? s
  | _ => unsigned? s

end ApiStubs.Number
