import SearchGateway.Double.Basic

/-!
# Document metadata

What a document may carry besides its content: where it comes from, what it is about, and how it
was classified.
-/

set_option autoImplicit false

namespace SearchGateway

/-- A named place. -/
structure Location where
  name : String
  latitude : Double
  longitude : Double
deriving DecidableEq

/-- A class that a document was put into, with the probability of that. -/
structure Classification where
  name : String
  probability : Double
deriving DecidableEq

/-- Metadata of a document and of each of its parts. -/
structure Metadata where
  photo : Option String
  pipelineId : Option Int
  source : Option String
  semanticSource : Option String
  summary : Option String
  locations : List Location
  subjects : List String
  classes : List Classification
  icons : List String
  groups : List String
  pipelines : List String
  references : List String
deriving DecidableEq

end SearchGateway
