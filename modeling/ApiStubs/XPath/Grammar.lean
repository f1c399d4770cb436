import ApiStubs.XPath.Token

/-!
Reading a query. `Expr.read` scans a text and nests its tokens.
-/

namespace ApiStubs.XPath

-- How operands are joined, from the loosest to the tightest.
inductive Level
  -- Operators that join from the left.
  | joined (operators : List Operator)
  -- Minus signs before an operand.
  | signed

def levels : List Level :=
  [.joined [.or], .joined [.and], .joined [.equal, .unequal],
    .joined [.less, .lessEqual, .greater, .greaterEqual], .joined [.plus, .minus],
    .joined [.times, .divide, .modulo], .signed, .joined [.union]]

namespace Expr

-- An expression, if there is one, and the tokens that follow. Tokens may be used up in vain.
abbrev Reading := Except Error (Option Expr × List Token)

-- The next step has a test, an axis being optional.
def axisAndTest (tokens : List Token) : Axis × Option NodeTest × List Token :=
  let (axis, tokens) :=
    match tokens with
    | .axis axis :: tokens => (axis, tokens)
    | tokens => (.child, tokens)
  match tokens with
  | .test test :: tokens => (axis, some test, tokens)
  | tokens => (axis, none, tokens)

mutual

def readLevel : Nat → List Level → List Token → Reading
  | 0, _, _ => .error .tooDeep
  | fuel + 1, [], tokens => readPath fuel tokens
  | fuel + 1, .joined operators :: tighter, tokens => do
    match ← readLevel fuel tighter tokens with
    | (none, tokens) => return (none, tokens)
    | (some left, tokens) => readJoined fuel operators tighter left tokens
  | fuel + 1, .signed :: tighter, tokens => do
    match ← readLevel fuel tighter tokens with
    | (none, .operator .minus :: tokens) =>
      match ← readLevel fuel (.signed :: tighter) tokens with
      | (none, _) => throw .missingOperand
      | (some e, tokens) => return (some (.negate e), tokens)
    | result => return result

-- The operators of one level behind a left operand.
def readJoined : Nat → List Operator → List Level → Expr → List Token → Reading
  | 0, _, _, _, _ => .error .tooDeep
  | fuel + 1, operators, tighter, left, .operator op :: tokens =>
    if op ∈ operators then do
      match ← readLevel fuel tighter tokens with
      | (none, _) => throw .missingOperand
      | (some right, tokens) =>
        readJoined fuel operators tighter (.binary op left right) tokens
    else return (some left, .operator op :: tokens)
  | _ + 1, _, _, left, tokens => return (some left, tokens)

-- A path, or another operand that steps may follow.
def readPath : Nat → List Token → Reading
  | 0, _ => .error .tooDeep
  | fuel + 1, tokens => do
    match ← readSteps fuel .context tokens with
    | (some e, tokens) => return (some e, tokens)
    | (none, .slash :: tokens) =>
      match ← readSteps fuel .root tokens with
      | (some e, tokens) => return (some e, tokens)
      | (none, tokens) => return (some .root, tokens)
    | (none, tokens) =>
      match ← readOperand fuel tokens with
      | (none, tokens) => return (none, tokens)
      | (some e, tokens) =>
        match ← readFilters fuel e tokens with
        | (e, .slash :: tokens) =>
          match ← readSteps fuel e tokens with
          | (none, _) => throw .missingStep
          | result => return result
        | (e, tokens) => return (some e, tokens)

-- One or more steps from an origin, with slashes between them.
def readSteps : Nat → Expr → List Token → Reading
  | 0, _, _ => .error .tooDeep
  | fuel + 1, origin, tokens => do
    match axisAndTest tokens with
    | (_, none, tokens) => return (none, tokens)
    | (axis, some test, tokens) =>
      let (predicates, tokens) ← readPredicates fuel tokens
      let e : Expr := .step origin axis test predicates
      match tokens with
      | .slash :: tokens =>
        match ← readSteps fuel e tokens with
        | (none, _) => throw .missingStep
        | result => return result
      | tokens => return (some e, tokens)

def readPredicates : Nat → List Token → Except Error (List Expr × List Token)
  | 0, _ => .error .tooDeep
  | fuel + 1, .openBracket :: tokens => do
    match ← readLevel fuel levels tokens with
    | (none, _) => throw .emptyPredicate
    | (some e, .closeBracket :: tokens) =>
      let (rest, tokens) ← readPredicates fuel tokens
      return (e :: rest, tokens)
    | _ => throw .unexpected
  | _ + 1, tokens => return ([], tokens)

-- The predicates behind an operand that is no step.
def readFilters : Nat → Expr → List Token → Except Error (Expr × List Token)
  | 0, _, _ => .error .tooDeep
  | fuel + 1, e, tokens => do
    let (predicates, tokens) ← readPredicates fuel tokens
    return (predicates.foldl .filter e, tokens)

-- A variable, a text in parentheses, a literal, a number or a call. Empty parentheses are skipped
-- before the last three.
def readOperand : Nat → List Token → Reading
  | 0, _ => .error .tooDeep
  | _ + 1, .reference name :: tokens => return (some (.reference name), tokens)
  | fuel + 1, .openParen :: tokens => do
    match ← readLevel fuel levels tokens with
    | (some e, .closeParen :: tokens) => return (some e, tokens)
    | (none, .closeParen :: tokens) => readValue fuel tokens
    | _ => throw .unexpected
  | fuel + 1, tokens => readValue fuel tokens

def readValue : Nat → List Token → Reading
  | 0, _ => .error .tooDeep
  | _ + 1, .literal text :: tokens => return (some (.literal text), tokens)
  | _ + 1, .number value :: tokens => return (some (.number value), tokens)
  | fuel + 1, .function name :: .openParen :: tokens => do
    let (arguments, tokens) ← readArguments fuel tokens
    match tokens with
    | .closeParen :: tokens => return (some (.call name arguments), tokens)
    | _ => throw .unexpected
  | _ + 1, tokens => return (none, tokens)

-- The arguments of a call, commas between them.
def readArguments : Nat → List Token → Except Error (List Expr × List Token)
  | 0, _ => .error .tooDeep
  | fuel + 1, tokens => do
    match ← readLevel fuel levels tokens with
    | (none, tokens) => return ([], tokens)
    | (some e, tokens) =>
      let (rest, tokens) ← readMoreArguments fuel tokens
      return (e :: rest, tokens)

def readMoreArguments : Nat → List Token → Except Error (List Expr × List Token)
  | 0, _ => .error .tooDeep
  | fuel + 1, .comma :: tokens => do
    match ← readLevel fuel levels tokens with
    | (none, _) => throw .missingArgument
    | (some e, tokens) =>
      let (rest, tokens) ← readMoreArguments fuel tokens
      return (e :: rest, tokens)
  | _ + 1, tokens => return ([], tokens)

end

-- More than enough for tokens that all nest: between two tokens lie fewer calls than this.
def fuelPerToken : Nat := 16

def readTokens (tokens : List Token) : Except Error Expr := do
  match ← readLevel (fuelPerToken * (tokens.length + 1)) levels tokens with
  | (none, _) => throw .empty
  | (some e, []) => return e
  | (some _, _ :: _) => throw .trailing

def read (text : String) : Except Error Expr :=
  Token.scan text.toList >>= readTokens

end Expr
end ApiStubs.XPath
