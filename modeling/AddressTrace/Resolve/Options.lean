/-!
# Limits

How long an analysis waits and how far it follows links.
-/

namespace AddressTrace

/-- **The limits of an analysis.** -/
structure Options where
  /-- The milliseconds that each pending call may take. -/
  callTimeout : Nat
  /-- How many levels of linked libraries are visited. -/
  maxLibraryDepth : Nat
deriving Repr, DecidableEq

/-- The limits that hold unless others are configured. -/
def Options.standard : Options := ⟨5000, 8⟩

end AddressTrace
