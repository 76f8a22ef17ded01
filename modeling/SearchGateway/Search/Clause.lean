import SearchGateway.Json.Basic
import SearchGateway.Search.Request

/-!
# Clauses of engine queries

The part of the engine's query language that the gateway speaks.  A `Clause` selects stored parts;
`Clause.toJson` is its form in a request.
-/

set_option autoImplicit false

namespace SearchGateway

/-- A condition on stored parts in the engine's query language. -/
inductive Clause where
  /-- Every part. -/
  | matchAll
  /-- The words of the text occur in the fields. -/
  | multiMatch (text : String) (fields : List Json) (operator : MatchOperator)
  /-- The field holds the value, or holds an array with the value. -/
  | term (field : String) (value : Json)
  /-- The field holds a value within the bounds, both inclusive. -/
  | range (field : String) (lower upper : Option Json)
  /-- The field holds a point within the distance of the centre. -/
  | geoDistance (field distance : String) (centre : List Double)
  /-- The field holds one of the vectors nearest to the given one. -/
  | nearest (field : String) (vector : Embedding) (amount : Int) (breadth : Option Int)
  /-- A single element of the array at the path satisfies the clause.  The mode says how the scores
  of several such elements are combined. -/
  | nested (path : String) (scoreMode : Option String) (clause : Clause)
  /-- All of `must` and `filter` hold, and one of `should` unless it is empty. -/
  | bool (must should filter : List Clause)

namespace Clause

mutual

/-- The clause as it stands in a request. -/
def toJson : Clause → Json
  | matchAll => .obj [("match_all", .obj [])]
  | multiMatch text fields operator =>
    .obj [("multi_match",
      .obj [("query", text), ("fields", .arr fields), ("operator", operator.name)])]
  | term field value => .obj [("term", .obj [(field, value)])]
  | range field lower upper =>
    .obj [("range", .obj [(field,
      .obj (lower.toList.map (("gte", ·)) ++ upper.toList.map (("lte", ·))))])]
  | geoDistance field distance centre =>
    .obj [("geo_distance", .obj [("distance", distance), (field, .numbers centre)])]
  | nearest field vector amount breadth =>
    .obj [("knn", .obj [(field, .obj (
      [("vector", Json.numbers vector), ("k", Json.int amount)]
      ++ breadth.toList.map fun b => ("method_parameters", Json.obj [("ef_search", .int b)])))])]
  | nested path scoreMode clause =>
    .obj [("nested", .obj ([("path", Json.str path)]
      ++ scoreMode.toList.map (fun mode => ("score_mode", Json.str mode))
      ++ [("query", clause.toJson)]))]
  | bool must should filter =>
    .obj [("bool", .obj (
      (if must.isEmpty then [] else [("must", Json.arr (listJson must))])
      ++ (if should.isEmpty then []
        else [("should", Json.arr (listJson should)), ("minimum_should_match", Json.int 1)])
      ++ [("filter", Json.arr (listJson filter))]))]

/-- Clauses as they stand in a request. -/
def listJson : List Clause → List Json
  | [] => []
  | clause :: rest => clause.toJson :: listJson rest

end

end Clause

end SearchGateway
