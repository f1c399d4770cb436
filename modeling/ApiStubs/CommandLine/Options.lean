import ApiStubs.Log

/-!
The options of the command line, and reading them from arguments.
-/

namespace ApiStubs

-- What the arguments of the program ask for.
structure Options where
  config : Option String := none
  url : Option String := none
  input : Option String := none
  versions : Option String := none
  unionTypes : Bool := false
  output : Option String := none
  header : Option String := none
  verbosity : Nat := 0
  quiet : Bool := false
  deriving DecidableEq, Repr, Inhabited

-- Options that have a value.
inductive ValueOption
  | config
  | url
  | input
  | versions
  | output
  | header
  deriving DecidableEq, Repr, Inhabited

-- Options without a value.
inductive Flag
  | unionTypes
  | verbose
  | quiet
  | help
  | version
  deriving DecidableEq, Repr, Inhabited

inductive OptionName
  | valued (option : ValueOption)
  | flag (flag : Flag)
  deriving DecidableEq, Repr, Inhabited

-- Why the arguments do not lead to a run.
inductive Stop
  | help
  | version
  | unknown (argument : String)
  | missingValue (option : ValueOption)
  | unwantedValue (flag : Flag)
  | emptyValue (option : ValueOption)
  | repeated (name : OptionName)
  | conflict (a b : OptionName)
  deriving DecidableEq, Repr, Inhabited

namespace ValueOption

def get? (option : ValueOption) (options : Options) : Option String :=
  match option with
  | config => options.config
  | url => options.url
  | input => options.input
  | versions => options.versions
  | output => options.output
  | header => options.header

def set (option : ValueOption) (value : String) (options : Options) : Options :=
  match option with
  | config => { options with config := some value }
  | url => { options with url := some value }
  | input => { options with input := some value }
  | versions => { options with versions := some value }
  | output => { options with output := some value }
  | header => { options with header := some value }

-- Whether the value is a path, which may not be empty.
def isPath : ValueOption → Bool
  | config | input | output | header => true
  | url | versions => false

end ValueOption

namespace OptionName

-- Names behind two hyphens.
def ofLong? (name : String) : Option OptionName :=
  match name with
  | "config" => some (.valued .config)
  | "url" => some (.valued .url)
  | "input" => some (.valued .input)
  | "target-version" => some (.valued .versions)
  | "union-types" => some (.flag .unionTypes)
  | "output" => some (.valued .output)
  | "header" => some (.valued .header)
  | "verbose" => some (.flag .verbose)
  | "quiet" => some (.flag .quiet)
  | "help" => some (.flag .help)
  | "version" => some (.flag .version)
  | _ => none

-- Letters behind one hyphen.
def ofShort? : Char → Option OptionName
  | 'c' => some (.valued .config)
  | 'i' => some (.valued .input)
  | 't' => some (.valued .versions)
  | 'o' => some (.valued .output)
  | 'v' => some (.flag .verbose)
  | 'q' => some (.flag .quiet)
  | 'h' => some (.flag .help)
  | 'V' => some (.flag .version)
  | _ => none

end OptionName

namespace ValueOption

def text : ValueOption → String
  | config => "--config"
  | url => "--url"
  | input => "--input"
  | versions => "--target-version"
  | output => "--output"
  | header => "--header"

end ValueOption

namespace Flag

def text : Flag → String
  | unionTypes => "--union-types"
  | verbose => "--verbose"
  | quiet => "--quiet"
  | help => "--help"
  | version => "--version"

end Flag

def OptionName.text : OptionName → String
  | valued v => v.text
  | flag f => f.text

def Stop.message : Stop → String
  | help | version => ""
  | unknown argument => s!"unexpected argument '{argument}'"
  | missingValue option => s!"'{option.text}' needs a value"
  | unwantedValue flag => s!"'{flag.text}' takes no value"
  | emptyValue option => s!"the value of '{option.text}' is empty"
  | repeated name => s!"'{name.text}' is given twice"
  | conflict a b => s!"'{a.text}' and '{b.text}' do not go together"

namespace Options

def give (options : Options) (option : ValueOption) (value : String) : Except Stop Options :=
  if (option.get? options).isSome then .error (.repeated (.valued option))
  else if option.isPath ∧ value = "" then .error (.emptyValue option)
  else .ok (option.set value options)

-- How often one can ask for more of the log. It is counted in a byte, which stays at its maximum.
def maxVerbosity : Nat := 255

-- Raises a flag. Help and version act at once.
def raise (options : Options) (flag : Flag) : Except Stop Options :=
  match flag with
  | .unionTypes =>
    if options.unionTypes then .error (.repeated (.flag flag))
    else .ok { options with unionTypes := true }
  | .verbose => .ok { options with verbosity := min (options.verbosity + 1) maxVerbosity }
  | .quiet =>
    if options.quiet then .error (.repeated (.flag flag)) else .ok { options with quiet := true }
  | .help => .error .help
  | .version => .error .version

-- What the letters behind one hyphen come to: options, of which the last one may be waiting for a
-- value. A value may follow its letter directly or behind an equals sign.
def readLetters (options : Options) : List Char → Except Stop (Options × Option ValueOption)
  | [] => .ok (options, none)
  | c :: rest =>
    match OptionName.ofShort? c with
    | none => .error (.unknown (String.singleton c))
    | some (.flag flag) => do (← options.raise flag).readLetters rest
    | some (.valued option) =>
      match rest with
      | [] => .ok (options, some option)
      | '=' :: value => do return (← options.give option (String.ofList value), none)
      | value => do return (← options.give option (String.ofList value), none)

-- What an argument behind two hyphens comes to.
def readWord (options : Options) (word : List Char) : Except Stop (Options × Option ValueOption) :=
  let name := String.ofList (word.takeWhile (· ≠ '='))
  match OptionName.ofLong? name, word.dropWhile (· ≠ '=') with
  | none, _ => .error (.unknown name)
  | some (.flag flag), [] => do return (← options.raise flag, none)
  | some (.flag flag), _ :: _ => .error (.unwantedValue flag)
  | some (.valued option), [] => .ok (options, some option)
  | some (.valued option), _ :: value => do
    return (← options.give option (String.ofList value), none)

-- Whether an argument cannot be the value of the option before it. A single hyphen can.
def isOption (argument : List Char) : Bool :=
  match argument with
  | '-' :: _ :: _ => true
  | _ => false

-- Options that are both given but do not go together.
def check (options : Options) : Except Stop Options :=
  if options.url.isSome ∧ options.input.isSome then
    .error (.conflict (.valued .url) (.valued .input))
  else if options.quiet ∧ options.verbosity ≠ 0 then
    .error (.conflict (.flag .quiet) (.flag .verbose))
  else .ok options

-- Reads the arguments from the left. The second argument is the option that waits for its value.
def readFrom (options : Options) (waiting : Option ValueOption) :
    List String → Except Stop Options
  | [] =>
    match waiting with
    | some option => .error (.missingValue option)
    | none => options.check
  | argument :: rest =>
    let chars := argument.toList
    match waiting with
    | some option =>
      if isOption chars then .error (.missingValue option)
      else do readFrom (← options.give option argument) none rest
    | none =>
      match chars with
      | ['-', '-'] =>
        match rest with
        | [] => options.check
        | extra :: _ => .error (.unknown extra)
      | '-' :: '-' :: word => do
        let (options, waiting) ← options.readWord word
        readFrom options waiting rest
      | '-' :: c :: letters => do
        let (options, waiting) ← options.readLetters (c :: letters)
        readFrom options waiting rest
      | _ => .error (.unknown argument)

def read (arguments : List String) : Except Stop Options :=
  readFrom {} none arguments

-- How much is shown. The environment asks for no other level.
def level (options : Options) : Level :=
  if options.quiet then .error
  else
    match options.verbosity with
    | 0 => .info
    | 1 => .debug
    | _ => .trace

end Options
end ApiStubs
