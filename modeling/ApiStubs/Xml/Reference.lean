import ApiStubs.Text.CharNumber
import ApiStubs.Text.Split

/-!
References in text and in attribute values: five names, and characters by their numbers.
-/

namespace ApiStubs.Xml

open Text (number? charOfNumber?)

-- The character that stands between `&` and `;`.
def referenced? (inside : List Char) : Option Char :=
  match inside with
  | '#' :: 'x' :: digits => number? 16 digits >>= charOfNumber?
  | '#' :: digits => number? 10 digits >>= charOfNumber?
  | _ =>
    if inside = "amp".toList then some '&'
    else if inside = "lt".toList then some '<'
    else if inside = "gt".toList then some '>'
    else if inside = "apos".toList then some '\''
    else if inside = "quot".toList then some '"'
    else none

-- What follows an `&`, with the reference at its start resolved.
def expandOne? (s : List Char) : Option (Char × List Char) := do
  let (inside, rest) ← Text.cutChars? ';' s
  return (← referenced? inside, rest)

-- A text with all its references resolved.
def expand? (s : List Char) : Option (List Char) :=
  match Text.splitChars '&' s with
  | [] => some []
  | first :: rest => do
    let parts ← rest.mapM fun part => do
      let (c, after) ← expandOne? part
      return c :: after
    return first ++ parts.flatten

end ApiStubs.Xml
