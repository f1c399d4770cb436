import ApiStubs.Settings
import ApiStubs.Text.Blank
import ApiStubs.Text.Split

/-!
Types as the feed writes them: alternatives between commas.
-/

namespace ApiStubs

-- The alternatives of a type, as they are written into the stubs.
structure TypeList where
  alternatives : List String := []
  deriving DecidableEq, Repr, Inhabited

namespace TypeList

-- The trimmed texts between the commas, blank ones left out.
def parts (raw : String) : List String :=
  ((Text.splitChars ',' raw.toList).map fun part => String.ofList (Text.trimChars part)).filter
    (· ≠ "")

-- Reads a list, with every alternative looked up once in the table of types.
def read (settings : Settings) (raw : String) : TypeList where
  alternatives := (parts raw).map settings.types.findD

def primary (types : TypeList) : String :=
  types.alternatives.headD ""

-- The first alternative, or all of them with bars between them.
def text (settings : Settings) (types : TypeList) : String :=
  if settings.singleType then types.primary else "|".intercalate types.alternatives

end TypeList
end ApiStubs
