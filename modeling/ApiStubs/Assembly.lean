/-!
The generated text.
-/

namespace ApiStubs

-- Stands between two blocks.
def blockSeparator : String := "\n\n"

-- The header and directly behind it the blocks, with a blank line between them.
def assemble (header : String) (blocks : List String) : String :=
  header ++ blockSeparator.intercalate blocks

end ApiStubs
