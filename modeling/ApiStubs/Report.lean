/-!
What a run counts.
-/

namespace ApiStubs

structure Report where
  rendered : Nat := 0
  -- Entries that the header declares by hand.
  skippedConstructor : Nat := 0
  -- Entries that are too new.
  skippedVersion : Nat := 0
  deriving DecidableEq, Repr, Inhabited

end ApiStubs
