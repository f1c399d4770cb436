/-!
Lookup tables from names to names. They keep their order, and a name that occurs twice is looked up
at its first place.
-/

namespace ApiStubs

abbrev Table := List (String × String)

namespace Table

-- What the first entry for `key` holds.
def find? (table : Table) (key : String) : Option String :=
  match table with
  | [] => none
  | (k, v) :: rest => if k = key then some v else find? rest key

-- What stands for `key`, or `key` itself.
def findD (table : Table) (key : String) : String :=
  (table.find? key).getD key

-- Replaces what the first entry for `key` holds, or appends an entry.
def put (table : Table) (key value : String) : Table :=
  match table with
  | [] => [(key, value)]
  | (k, v) :: rest => if k = key then (k, value) :: rest else (k, v) :: put rest key value

-- Puts all `overrides` in their order.
def merge (table overrides : Table) : Table :=
  overrides.foldl (fun t (k, v) => t.put k v) table

theorem find?_put (table : Table) (key value k : String) :
    (table.put key value).find? k = if key = k then some value else table.find? k := by
  induction table with
  | nil => simp [put, find?]
  | cons e table ih => grind [put, find?]

end Table
end ApiStubs
