import ApiStubs.Parameter.Name
import ApiStubs.TypeList

/-!
Parameters, as the feed declares them and as a stub shows them.
-/

namespace ApiStubs

-- A parameter as the feed declares it.
structure RawParameter where
  name : String
  -- Alternatives between commas.
  types : String
  -- Markup.
  description : String
  deriving DecidableEq, Repr, Inhabited

-- A parameter as a stub shows it.
structure Parameter where
  name : String
  type : String
  -- Markup.
  description : String
  deriving DecidableEq, Repr, Inhabited

-- Renames a parameter where that is needed. The type of a `jQuery object` is known.
def Parameter.ofRaw (settings : Settings) (raw : RawParameter) : Parameter :=
  let name := ParameterName.classify (stripQualifiers raw.name)
  { name := name.identifier
    type :=
      if name = .jqueryObject then "jQuery" else (TypeList.read settings raw.types).text settings
    description := raw.description }

end ApiStubs
