/-!
White space in the sense of the Unicode property `White_Space`, and texts without it at their ends.
-/

namespace ApiStubs.Text

-- The characters of the Unicode property `White_Space`.
def isBlank (c : Char) : Bool :=
  let n := c.toNat
  (0x9 ≤ n && n ≤ 0xD) || n == 0x20 || n == 0x85 || n == 0xA0 || n == 0x1680 ||
    (0x2000 ≤ n && n ≤ 0x200A) || n == 0x2028 || n == 0x2029 || n == 0x202F || n == 0x205F ||
    n == 0x3000

def dropEndBlanks (s : List Char) : List Char :=
  (s.reverse.dropWhile isBlank).reverse

def trimChars (s : List Char) : List Char :=
  dropEndBlanks (s.dropWhile isBlank)

def trim (s : String) : String :=
  String.ofList (trimChars s.toList)

end ApiStubs.Text
