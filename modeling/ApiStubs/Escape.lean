/-!
Texts made safe for the place where they are pasted: inside a block comment, inside HTML, inside
markup, and on a terminal.
-/

namespace ApiStubs.Escape

-- Puts a blank between every `a` and a `b` that directly follows it.
def separate (a b : Char) : List Char → List Char
  | x :: y :: s =>
    if x = a ∧ y = b then x :: ' ' :: y :: separate a b s else x :: separate a b (y :: s)
  | s => s

-- Takes both comment markers apart, closing ones first.
def commentChars (s : List Char) : List Char :=
  separate '/' '*' (separate '*' '/' s)

-- A text that neither closes nor opens a block comment.
def comment (s : String) : String :=
  String.ofList (commentChars s.toList)

-- Puts `text` in the place of every `c`.
def replaceChar (c : Char) (text s : List Char) : List Char :=
  s.flatMap fun x => if x = c then text else [x]

-- The characters that are special in element content, as references.
def contentChars (s : List Char) : List Char :=
  replaceChar '>' "&gt;".toList (replaceChar '<' "&lt;".toList (replaceChar '&' "&amp;".toList s))

-- The characters that are special in HTML or in a double-quoted attribute, as references.
def htmlChars (s : List Char) : List Char :=
  replaceChar '"' "&quot;".toList (contentChars s)

-- A control that terminals obey, by its number.
def terminalChar (c : Char) : List Char :=
  if c ∈ ['\x07', '\x08', '\x0c', '\x1b', '\x7f'] then
    "\\x".toList ++ (Nat.toDigits 16 c.toNat).leftpad 2 '0'
  else if 0x80 ≤ c.toNat ∧ c.toNat ≤ 0x9F then
    "\\u\x7b".toList ++ Nat.toDigits 16 c.toNat ++ ['\x7d']
  else [c]

-- A text that does not drive a terminal.
def terminal (s : String) : String :=
  String.ofList (s.toList.flatMap terminalChar)

-- A text for display inside HTML, also between double quotes.
def html (s : String) : String :=
  String.ofList (htmlChars s.toList)

@[simp] theorem toList_comment (s : String) : (comment s).toList = commentChars s.toList := by
  simp [comment]

@[simp] theorem toList_html (s : String) : (html s).toList = htmlChars s.toList := by
  simp [html]

end ApiStubs.Escape
