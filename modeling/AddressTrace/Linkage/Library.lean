import AddressTrace.Data.SortedMap

/-!
# Linked libraries

A library as far as the source of the contract that links it is concerned: where it is deployed
and which of its functions return an address.
-/

namespace AddressTrace

/-- **A linked library** and the names of its functions that return an address. -/
structure LinkedLibrary where
  address : String
  functions : List String
deriving Repr, DecidableEq

/-- The libraries that a source can call, by name. -/
abbrev LinkedLibraries := SortedMap String LinkedLibrary

end AddressTrace
