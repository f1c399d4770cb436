/-!
What can go wrong in a run, with one text and one stage for each cause.
-/

namespace ApiStubs

-- The steps of a run that an error is reported under.
inductive Stage
  | config
  | fetch
  | parse
  | transform
  | write
  deriving DecidableEq, Repr, Inhabited

def Stage.text : Stage → String
  | config => "config"
  | fetch => "fetch"
  | parse => "parse"
  | transform => "transform"
  | write => "write"

-- The causes that end a run. A reason is the text of whatever caused the error.
inductive Error
  | transport (url reason : String)
  | status (url : String) (code : Nat)
  | malformed (reason : String)
  | query (expression reason : String)
  | missingAttribute (element name entry : String)
  | missingElement (element child entry : String)
  | unsupported (entry kind : String)
  | file (path reason : String)
  | settings (reason : String)
  deriving DecidableEq, Repr, Inhabited

namespace Error

def message : Error → String
  | transport url reason => s!"failed to fetch '{url}': {reason}"
  | status url code => s!"fetching '{url}' returned HTTP {code}"
  | malformed reason => s!"malformed API document: {reason}"
  | query expression reason => s!"XPath query '{expression}' failed: {reason}"
  | missingAttribute element name entry =>
    s!"<{element}> in entry '{entry}' is missing the '{name}' attribute"
  | missingElement element child entry => s!"<{element}> in entry '{entry}' has no <{child}> child"
  | unsupported entry kind => s!"entry '{entry}' has unsupported type '{kind}'"
  | file path reason => s!"I/O error on '{path}': {reason}"
  | settings reason => s!"invalid configuration: {reason}"

-- The step that an error is reported under. It depends on the kind of cause alone, so every error
-- about a file counts as one of writing.
def stage : Error → Stage
  | transport .. | status .. => .fetch
  | malformed .. => .parse
  | query .. | missingAttribute .. | missingElement .. | unsupported .. => .transform
  | file .. => .write
  | settings .. => .config

-- The text of an error and of the cause inside it, which only errors about files keep.
def trace (e : Error) : String :=
  match e with
  | file _ reason => s!"{e.message}: {reason}"
  | _ => e.message

end Error
end ApiStubs
