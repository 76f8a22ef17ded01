/-!
# Runs of characters

Tables of characters list runs of them: characters at an equal distance from each other.
-/

set_option autoImplicit false

namespace SearchGateway.Text

/-- Characters from a first one to a last one, at a distance from each other. -/
structure Run where
  first : Nat
  last : Nat
  step : Nat := 1

/-- Whether a character is in a run. -/
def Run.contains (run : Run) (c : Char) : Bool :=
  run.first ≤ c.toNat && c.toNat ≤ run.last && (c.toNat - run.first) % run.step == 0

/-- Whether a character is in one of several runs. -/
def inRuns (runs : List Run) (c : Char) : Bool := runs.any (·.contains c)

end SearchGateway.Text
