import ApiStubs.Parameter

/-!
Entries: the members that the feed documents.
-/

namespace ApiStubs

inductive EntryKind
  | method
  | property
  deriving DecidableEq, Repr, Inhabited

def EntryKind.ofName? (name : String) : Option EntryKind :=
  if name = "method" then some .method
  else if name = "property" then some .property
  else none

-- One way to call a member.
structure Signature where
  added : Option String := none
  parameters : List RawParameter := []
  deriving DecidableEq, Repr, Inhabited

structure Example where
  -- Markup.
  description : String
  -- Plain text.
  code : String
  deriving DecidableEq, Repr, Inhabited

-- The version assumed for entries that do not say when they were added.
def firstVersion : String := "1.0"

-- A documented member. Descriptions are markup.
structure Entry where
  name : String
  kind : EntryKind
  signatures : List Signature := []
  -- Alternatives between commas.
  returns : String := ""
  added : String := firstVersion
  short : String := ""
  long : String := ""
  examples : List Example := []
  deriving DecidableEq, Repr, Inhabited

-- The parameters of the first signature, the only one that is rendered.
def Entry.parameters (entry : Entry) : List RawParameter :=
  match entry.signatures with
  | [] => []
  | signature :: _ => signature.parameters

end ApiStubs
