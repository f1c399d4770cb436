import ApiStubs.Text.Hidden

/-!
Texts between double quotes, in which every character can be seen.
-/

namespace ApiStubs.Text

-- The way a character is written between quotes.
def quoteChar (c : Char) : List Char :=
  match c with
  | '"' => ['\\', '"']
  | '\\' => ['\\', '\\']
  | '\n' => ['\\', 'n']
  | '\r' => ['\\', 'r']
  | '\t' => ['\\', 't']
  | '\x00' => ['\\', '0']
  | c => if isHidden c then "\\u\x7b".toList ++ Nat.toDigits 16 c.toNat ++ ['\x7d'] else [c]

-- A text between quotes. Characters that cannot be seen are written by their numbers.
def quote (s : String) : String :=
  String.ofList ('"' :: s.toList.flatMap quoteChar ++ ['"'])

end ApiStubs.Text
