import SearchGateway.Double.Basic

/-!
# Index specifications

What is asked for when an index is created, and what the engine tells about the indexes it has.
-/

set_option autoImplicit false

namespace SearchGateway

/-- The double nearest to one fifth, the usual overlap of neighbouring parts. -/
def Double.oneFifth : Double := Double.ofRatio false 1 5

/-- How an index embeds and searches vectors. -/
structure VectorSpec where
  dimension : Int := 384
  /-- The most tokens in a chunk that is embedded. -/
  tokenLimit : Int := 700
  /-- The fraction of a chunk that the next one repeats. -/
  overlapRate : Double := Double.oneFifth
  /-- The number of candidates that a vector search examines. -/
  breadth : Int := 100
deriving DecidableEq

/-- A new index, with numbers of any type `N`. -/
structure IndexSpecOf (N : Type) where
  id : String
  shards : N
  replicas : N
  vectors : Option VectorSpec := some {}
deriving DecidableEq

/-- A new index with integers for its numbers. -/
abbrev IndexSpec := IndexSpecOf Int

end SearchGateway
