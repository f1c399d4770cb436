import ApiStubs.Number.Shortest

/-!
Floats as text. A `Style` holds what is a matter of taste: how wide numbers may get before an
exponent is written, whether whole numbers keep a fraction, and the word for infinity.
-/

namespace ApiStubs.Number

structure Style where
  -- Numbers below `10 ^ e` for the first `e` and not below `10 ^ e` for the second are written
  -- without an exponent. Without bounds no number has one.
  positional : Option (Int × Int)
  -- Whether a whole number ends in `.0`.
  wholeFraction : Bool
  infinity : String

-- The decimal notation of digits with the point in its place.
def positionalText (style : Style) (d : Digits) : String :=
  let text := (Nat.repr d.digits).toList
  match d.exponent with
  | .ofNat zeros =>
    String.ofList (text ++ List.replicate zeros '0') ++ if style.wholeFraction then ".0" else ""
  | .negSucc e =>
    let places := e + 1
    let padded := List.replicate (places + 1 - text.length) '0' ++ text
    let whole := padded.length - places
    String.ofList (padded.take whole ++ '.' :: padded.drop whole)

-- One digit before the point, and the exponent that belongs to it.
def scientificText (d : Digits) : String :=
  let text := (Nat.repr d.digits).toList
  let exponent := d.exponent + text.length - 1
  let mantissa := if text.length = 1 then text else text.take 1 ++ '.' :: text.drop 1
  String.ofList mantissa ++ "e" ++ toString exponent

def digitsText (style : Style) (d : Digits) : String :=
  let top := d.exponent + (Nat.repr d.digits).length
  match style.positional with
  | some (high, low) =>
    if d.digits = 0 ∨ (low < top ∧ top ≤ high) then positionalText style d else scientificText d
  | none => positionalText style d

-- A float with the fewest digits that read back as the same float.
def write (style : Style) (x : Float) : String :=
  let sign (negative : Bool) := if negative then "-" else ""
  match Binary.ofFloat x with
  | .nan => "NaN"
  | .infinite negative => sign negative ++ style.infinity
  | .finite negative m e => sign negative ++ digitsText style (ofSignificand m e)

-- Numbers in texts are always written out.
def plainStyle : Style := ⟨none, false, "Infinity"⟩

-- Numbers in messages show that they are floats, and have an exponent from `10 ^ 16` on and below
-- `10 ^ -4`.
def messageStyle : Style := ⟨some (16, -4), true, "inf"⟩

end ApiStubs.Number
