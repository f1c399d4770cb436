import ApiStubs.Table
import ApiStubs.Version

/-!
What a run depends on, and layers of settings over other settings.
-/

namespace ApiStubs

-- All that a run depends on besides the feed and the files.
structure Settings where
  url : String := "https://api.jquery.com/resources/api.xml"
  versions : VersionFilter := .latest
  -- Of a list of types only the first one is shown.
  singleType : Bool := true
  output : String := "jquery-jsdoc.js"
  -- The file that the generated one starts with.
  header : String := "assets/jquery-header.js"
  -- The object that holds the members of a dotted name's first part.
  owners : Table :=
    [("deferred", "__jQueryDeferred.prototype"), ("Promise", "__jQueryPromise.prototype"),
      ("event", "__jQueryEvent.prototype")]
  -- What is written for a type of the feed.
  types : Table :=
    [("Promise", "__jQueryPromise"), ("Integer", "Number"), ("XMLDocument", "Document"),
      ("boolean", "Boolean")]
  deriving DecidableEq, Repr, Inhabited

-- Settings of which each may be absent. Tables are in ascending order of their names.
structure Layer where
  url : Option String := none
  versions : Option String := none
  singleType : Option Bool := none
  output : Option String := none
  header : Option String := none
  owners : Table := []
  types : Table := []
  deriving DecidableEq, Repr, Inhabited

-- What the layer holds wins over the settings below it.
def Layer.applyTo (layer : Layer) (below : Settings) : Settings where
  url := layer.url.getD below.url
  versions := (layer.versions.map VersionFilter.read).getD below.versions
  singleType := layer.singleType.getD below.singleType
  output := layer.output.getD below.output
  header := layer.header.getD below.header
  owners := below.owners.merge layer.owners
  types := below.types.merge layer.types

end ApiStubs
