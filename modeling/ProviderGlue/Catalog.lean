import ProviderGlue.Enumeration
import ProviderGlue.Go.Declaration

/-!
# Catalogs of declarations

What a tree of source files declares.  Structs and enumerations are found by name; methods keep the
order in which they were found.
-/

namespace ProviderGlue

/-- Structs by name. -/
abbrev Structs := Table Go.Struct

/-- The declarations of a source tree. -/
structure Catalog where
  /-- The structs by name. -/
  types : Structs := ∅
  /-- The enumerations by name. -/
  enums : Table Enumeration := ∅
  /-- The methods in the order of the source files. -/
  methods : List Go.Method := []

namespace Catalog

/-- The catalog with a struct in place of an earlier one of its name. -/
def insert (c : Catalog) (s : Go.Struct) : Catalog :=
  { c with types := c.types.insert s.name s }

/-- The catalog with another one over its own, whose structs are taken in the given order. -/
def mergeIn (c other : Catalog) (order : List Go.Struct) : Catalog :=
  { c with
    types := (order.foldl insert c).types
    enums := c.enums.union other.enums }

/-- The catalog with the structs and enumerations of another one over its own. -/
def merge (c other : Catalog) : Catalog := c.mergeIn other other.types.values

/-- The catalog with only those of its structs whose names are kept. -/
def retain (c : Catalog) (keep : List String) : Catalog :=
  { c with types := c.types.filterKeys fun name => keep.contains name }

end Catalog

end ProviderGlue
