import ApiStubs.Text.Blank

/-!
Names of parameters. The feed writes them for readers, with a qualifier in parentheses behind them
and with words that a program may not use as names.
-/

namespace ApiStubs

-- A text that is nothing but a parenthesis pair without `)` inside it, blanks aside.
def isQualifier (s : List Char) : Bool :=
  match s.dropWhile Text.isBlank with
  | '(' :: rest =>
    match rest.dropWhile (· ≠ ')') with
    | ')' :: last => last.all Text.isBlank
    | _ => false
  | _ => false

-- Cuts a text where the longest qualifier that ends it begins.
def dropQualifier : List Char → List Char
  | [] => []
  | c :: s => if isQualifier (c :: s) then [] else c :: dropQualifier s

-- A name without the qualifier at its end, such as `handler` for `handler(eventObject)`.
def stripQualifiers (name : String) : String :=
  String.ofList (Text.trimChars (dropQualifier name.toList))

@[simp] theorem toList_stripQualifiers (name : String) :
    (stripQualifiers name).toList = Text.trimChars (dropQualifier name.toList) := by
  simp [stripQualifiers]

-- The keywords that the feed uses as parameter names.
inductive ReservedWord
  | function
  | true
  | false
  | switch
  deriving DecidableEq, Repr, Inhabited

-- What a parameter is called, qualifiers aside.
inductive ParameterName
  -- The words `jQuery object`.
  | jqueryObject
  | reserved (word : ReservedWord)
  -- A name that begins with `-`, without it.
  | negated (rest : String)
  | plain (name : String)
  deriving DecidableEq, Repr, Inhabited

namespace ReservedWord

def ofName? (name : String) : Option ReservedWord :=
  if name = "function" then some .function
  else if name = "true" then some .true
  else if name = "false" then some .false
  else if name = "switch" then some .switch
  else none

def identifier : ReservedWord → String
  | function => "fn"
  | .true => "_true"
  | .false => "_false"
  | switch => "_switch"

end ReservedWord

namespace ParameterName

-- Sorts out a name that has no qualifier any more.
def classify (name : String) : ParameterName :=
  if name = "jQuery object" then .jqueryObject
  else match ReservedWord.ofName? name with
    | some word => .reserved word
    | none =>
      match name.toList with
      | '-' :: rest => .negated (String.ofList rest)
      | _ => .plain name

-- The name that a stub uses.
def identifier : ParameterName → String
  | jqueryObject => "jq"
  | reserved word => word.identifier
  | negated rest => "neg_" ++ rest
  | plain name => name

end ParameterName
end ApiStubs
