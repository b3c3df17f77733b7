/-!
# Faults of a JSON text

A text that is no JSON fails in one of two ways, and the two are told apart by
whoever reads it: some character is wrong, or the text ends too early. Parts of
a document that nobody asked for are skipped, and skipping is laxer than
reading, so one place in a text can have different faults for the two.
-/

namespace GraphSchema.Json

inductive Fault where
  /-- A character stands where it must not. -/
  | malformed
  /-- The text ends too early. -/
  | truncated
  deriving DecidableEq, Repr

/-- What is wrong at a place, for a reader that wants what stands there and for
one that skips it. -/
structure Flaw where
  whenRead : Fault
  whenSkipped : Fault
  deriving DecidableEq, Repr

/-- A flaw that is the same for everybody. -/
def Flaw.both (fault : Fault) : Flaw :=
  ⟨fault, fault⟩

end GraphSchema.Json
