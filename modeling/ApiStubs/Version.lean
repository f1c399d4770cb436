/-!
Which entries are new enough to be left out.
-/

namespace ApiStubs

-- The newest version whose entries are rendered.
inductive VersionFilter
  | latest
  | upTo (version : String)
  deriving DecidableEq, Repr, Inhabited

namespace VersionFilter

-- The word `latest` admits everything.
def read (text : String) : VersionFilter :=
  if text = "latest" then .latest else .upTo text

def text : VersionFilter → String
  | latest => "latest"
  | upTo version => version

-- Versions are compared character by character, so `1.10` is before `1.9`.
def admits (filter : VersionFilter) (added : String) : Bool :=
  match filter with
  | latest => true
  | upTo version => decide (added ≤ version)

end VersionFilter
end ApiStubs
