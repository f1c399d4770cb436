import ApiStubs.Entry

/-!
The values that stand in for results and for properties.
-/

namespace ApiStubs

inductive Placeholder
  -- No value at all: the body of the stub stays empty.
  | nothing
  | emptyString
  | zero
  | emptyObject
  -- A new object of the type.
  | construct (type : String)
  deriving DecidableEq, Repr, Inhabited

namespace Placeholder

-- The value for a member of the given kind and type.
def ofType (kind : EntryKind) (type : String) : Placeholder :=
  if type = "String" then .emptyString
  else if type = "Number" then .zero
  else if type = "" ∨ type = "undefined" then
    match kind with
    | .method => .nothing
    | .property => .emptyObject
  else .construct type

def text : Placeholder → String
  | nothing => ""
  | emptyString => "\"\""
  | zero => "0"
  | emptyObject => "\x7b\x7d"
  | construct type => "new " ++ type ++ "()"

end Placeholder
end ApiStubs
