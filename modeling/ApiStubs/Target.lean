import ApiStubs.Settings
import ApiStubs.Text.Split

/-!
Where a stub is assigned.
-/

namespace ApiStubs

def defaultOwner : String := "jQuery.prototype"

-- An object and the name of its member.
structure Target where
  owner : String
  member : String
  deriving DecidableEq, Repr, Inhabited

namespace Target

-- Cuts a name at its first dot and looks the owner up.
def ofName (settings : Settings) (name : String) : Target :=
  match Text.cutChars? '.' name.toList with
  | some (owner, member) => ⟨settings.owners.findD (String.ofList owner), String.ofList member⟩
  | none => ⟨defaultOwner, name⟩

def text (target : Target) : String :=
  target.owner ++ "." ++ target.member

end Target
end ApiStubs
