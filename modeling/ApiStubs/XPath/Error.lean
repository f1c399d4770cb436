/-!
Why a query has no answer.
-/

namespace ApiStubs.XPath

inductive Error
  | token
  | empty
  | missingOperand
  | missingArgument
  | missingStep
  | emptyPredicate
  | unexpected
  | trailing
  | tooDeep
  | unknownFunction (name : String)
  | unknownVariable (name : String)
  | unknownLabel (label : String)
  | argumentCount (name : String)
  | notNodes
  deriving DecidableEq, Repr, Inhabited

def Error.message : Error → String
  | token => "no token begins here"
  | empty => "the expression is empty"
  | missingOperand => "an operator has no right operand"
  | missingArgument => "a comma has no argument behind it"
  | missingStep => "a slash has no step behind it"
  | emptyPredicate => "a predicate is empty"
  | unexpected => "a token stands in a wrong place"
  | trailing => "there are tokens behind the expression"
  | tooDeep => "the expression is nested too deeply"
  | unknownFunction name => s!"there is no function '{name}'"
  | unknownVariable name => s!"there is no variable '{name}'"
  | unknownLabel label => s!"there is no namespace for '{label}'"
  | argumentCount name => s!"the function '{name}' takes another number of arguments"
  | notNodes => "a node-set is needed"

end ApiStubs.XPath
