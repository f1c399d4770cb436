import ApiStubs.Error
import ApiStubs.Files.Access
import ApiStubs.Log

/-!
Where a feed comes from.
-/

namespace ApiStubs

-- What comes of a request for a URL. A reason is the text of whatever went wrong.
inductive Answer
  -- No response at all.
  | missing (reason : String)
  -- A response whose body cannot be read.
  | unreadable (status : Nat) (reason : String)
  | response (status : Nat) (body : String)
  deriving DecidableEq, Repr, Inhabited

namespace Answer

-- Of a request that cannot be sent.
def unsent : Answer :=
  .missing "builder error"

-- The only status that a body is taken with.
def okStatus : Nat := 200

-- The body of a response. The status is looked at before the body is read.
def body (answer : Answer) (url : String) : Except Error String :=
  match answer with
  | missing reason => .error (.transport url reason)
  | unreadable status reason =>
    if status = okStatus then .error (.transport url reason) else .error (.status url status)
  | response status body => if status = okStatus then .ok body else .error (.status url status)

end Answer

-- What comes of a request for each URL.
abbrev Net := String → Answer

-- Without a net no request can be sent.
def Net.none : Net :=
  fun _ => .unsent

inductive Source
  | file (path : String)
  | web (url : String) (answer : Answer := .unsent)
  deriving DecidableEq, Repr, Inhabited

namespace Source

def describe : Source → String
  | file path => path
  | web url _ => url

-- The text of the feed.
def fetch (files : FileTree) : Source → Except Error String
  | file path => (files.readText path).mapError fun fault => .file path fault.message
  | web url answer => answer.body url

-- What is logged once the text has come. What the client logs by itself is left out.
def events (text : String) : Source → List Event
  | file _ => []
  | web url _ => [.fetched url text.utf8ByteSize]

end Source
end ApiStubs
