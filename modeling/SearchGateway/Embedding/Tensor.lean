import SearchGateway.Double.Single
import SearchGateway.Document

/-!
# Output of local models

A model gives out an array of numbers of some shape.  What counts is the numbers in order, in the
model's own single precision.
-/

set_option autoImplicit false

namespace SearchGateway

/-- An array of numbers with any number of axes. -/
inductive Tensor where
  | scalar (value : Double)
  | axis (items : List Tensor)

namespace Tensor

mutual

/-- The numbers in order. -/
def values : Tensor → List Double
  | scalar value => [value]
  | axis items => valuesOf items

/-- The numbers of several arrays in order. -/
def valuesOf : List Tensor → List Double
  | [] => []
  | item :: rest => item.values ++ valuesOf rest

end

/-- The numbers in single precision. -/
def embedding (output : Tensor) : Embedding := output.values.map Double.toSingle

end Tensor

end SearchGateway
