import ApiStubs.Text.CharNumber

/-!
Strings and keys of TOML.
-/

namespace ApiStubs.Toml

-- The white space within a line.
def isGap (c : Char) : Bool :=
  c == ' ' || c == '\t'

def skipGaps (s : List Char) : List Char :=
  s.dropWhile isGap

-- The characters that may stand in strings and comments as they are.
def isPlain (c : Char) : Bool :=
  c == '\t' || (' ' ≤ c && c != '\x7f')

def lineEnd? : List Char → Option (List Char)
  | '\n' :: s => some s
  | '\r' :: '\n' :: s => some s
  | _ => none

-- The character with a number of so many hexadecimal digits, and what follows.
def numbered? (digits : Nat) (s : List Char) : Option (Char × List Char) := do
  if s.length < digits then none
  else
    let n ← Text.number? 16 (s.take digits)
    let c ← Text.charOfNumber? n
    return (c, s.drop digits)

-- The character that is meant behind a backslash, and what follows.
def escaped? : List Char → Option (Char × List Char)
  | 'b' :: s => some ('\x08', s)
  | 't' :: s => some ('\t', s)
  | 'n' :: s => some ('\n', s)
  | 'f' :: s => some ('\x0c', s)
  | 'r' :: s => some ('\r', s)
  | '"' :: s => some ('"', s)
  | '\\' :: s => some ('\\', s)
  | 'u' :: s => numbered? 4 s
  | 'U' :: s => numbered? 8 s
  | _ => none

-- What follows a backslash at a line end: the next character that is no white space.
def continued? (s : List Char) : Option (List Char) :=
  (lineEnd? (skipGaps s)).map skipLines
where
  skipLines : List Char → List Char
    | ' ' :: s => skipLines s
    | '\t' :: s => skipLines s
    | '\n' :: s => skipLines s
    | '\r' :: '\n' :: s => skipLines s
    | s => s

structure StringKind where
  quote : Char
  -- Whether the quote is written three times and line ends are admitted.
  multiline : Bool

def StringKind.escapes (k : StringKind) : Bool :=
  k.quote == '"'

-- One piece of a string, and what follows: characters, or `none` at the end of the string, before
-- which quotes may stand.
def piece? (k : StringKind) (s : List Char) : Option (List Char × Bool × List Char) :=
  match s with
  | [] => none
  | c :: rest =>
    if c = k.quote then
      let quotes := s.takeWhile (· = k.quote)
      let after := s.dropWhile (· = k.quote)
      if ¬k.multiline then some ([], true, rest)
      else if quotes.length < 3 then some (quotes, false, after)
      else if quotes.length ≤ 5 then some (quotes.drop 3, true, after)
      else none
    else if c = '\\' ∧ k.escapes then
      match if k.multiline then continued? rest else none with
      | some after => some ([], false, after)
      | none => (escaped? rest).map fun (c, after) => ([c], false, after)
    else
      match if k.multiline then lineEnd? s else none with
      | some after => some (['\n'], false, after)
      | none => if isPlain c then some ([c], false, rest) else none

-- The pieces up to the end of a string, which are at most as many as the second argument says.
def pieces? (k : StringKind) : Nat → List Char → Option (List Char × List Char)
  | 0, _ => none
  | fuel + 1, s => do
    let (piece, ends, after) ← piece? k s
    if ends then return (piece, after)
    let (rest, after) ← pieces? k fuel after
    return (piece ++ rest, after)

-- A string on one line, and what follows.
def lineString? : List Char → Option (String × List Char)
  | q :: s =>
    if q = '"' ∨ q = '\'' then
      (pieces? ⟨q, false⟩ s.length s).map fun (text, after) => (String.ofList text, after)
    else none
  | [] => none

-- A string of any kind, and what follows. A line end directly behind three quotes does not count.
def string? (s : List Char) : Option (String × List Char) :=
  match s with
  | q :: q2 :: q3 :: rest =>
    if (q = '"' ∨ q = '\'') ∧ q2 = q ∧ q3 = q then
      let body := (lineEnd? rest).getD rest
      (pieces? ⟨q, true⟩ body.length body).map fun (text, after) => (String.ofList text, after)
    else lineString? s
  | _ => lineString? s

def isKeyChar (c : Char) : Bool :=
  c.isAlphanum || c == '_' || c == '-'

-- One part of a key, and what follows.
def keyPart? (s : List Char) : Option (String × List Char) :=
  match s.takeWhile isKeyChar with
  | [] => lineString? s
  | name => some (String.ofList name, s.dropWhile isKeyChar)

-- The parts of a key behind its first part, and what follows.
def moreKeyParts? : Nat → List Char → Option (List String × List Char)
  | 0, s => some ([], s)
  | fuel + 1, s =>
    match skipGaps s with
    | '.' :: rest => do
      let (part, after) ← keyPart? (skipGaps rest)
      let (parts, after) ← moreKeyParts? fuel after
      return (part :: parts, after)
    | _ => some ([], s)

-- A key with its parts between dots, and what follows.
def key? (s : List Char) : Option (List String × List Char) := do
  let (part, after) ← keyPart? s
  let (parts, after) ← moreKeyParts? after.length after
  return (part :: parts, after)

end ApiStubs.Toml
