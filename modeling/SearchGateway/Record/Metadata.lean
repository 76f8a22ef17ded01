import SearchGateway.Metadata
import SearchGateway.Record.Lenient

/-!
# Metadata as it is stored

Stored metadata differs from `Metadata` in layout: a location has a pair of coordinates, longitude
first, and the names of subjects, icons and groups are objects of their own.
-/

set_option autoImplicit false

namespace SearchGateway

/-- A location as it is stored; coordinates beyond the first two are kept but mean nothing. -/
structure StoredLocation where
  name : String
  coordinates : List Double
deriving DecidableEq

namespace StoredLocation

/-- A location with its coordinates in order. -/
def ofLocation (l : Location) : StoredLocation := ⟨l.name, [l.longitude, l.latitude]⟩

/-- The location of a stored one with both coordinates. -/
def toLocation? (l : StoredLocation) : Option Location :=
  match l.coordinates with
  | longitude :: latitude :: _ => some ⟨l.name, latitude, longitude⟩
  | _ => none

/-- Reads a stored location. -/
def read? (value : Json) : Option StoredLocation := do
  let fields ← value.fields?
  (mk <$> Checked.required fields "name" Lenient.text?
    <*> Checked.required fields "coords" (Lenient.list? Lenient.real?)).value?

/-- The stored form. -/
def toJson (l : StoredLocation) : Json :=
  .obj [("name", .str l.name), ("coords", .numbers l.coordinates)]

end StoredLocation

namespace Classification

/-- Reads a stored classification. -/
def read? (value : Json) : Option Classification := do
  let fields ← value.fields?
  (mk <$> Checked.required fields "name" Lenient.text?
    <*> Checked.required fields "probability" Lenient.real?).value?

/-- The stored form. -/
def toJson (c : Classification) : Json :=
  .obj [("name", .str c.name), ("probability", .num c.probability)]

end Classification

/-- Reads a name that is stored as an object of its own. -/
def readName? (value : Json) : Option String := do
  (Checked.required (← value.fields?) "name" Lenient.text?).value?

/-- A name stored as an object of its own. -/
def nameJson (name : String) : Json := .obj [("name", .str name)]

namespace Metadata

/-- Metadata from stored parts, without the locations that lack a coordinate. -/
def ofStored (photo : Option String) (pipelineId : Option Int)
    (source semanticSource summary : Option String) (locations : List StoredLocation)
    (subjects : List String) (classes : List Classification)
    (icons groups pipelines references : List String) : Metadata :=
  ⟨photo, pipelineId, source, semanticSource, summary,
    locations.filterMap StoredLocation.toLocation?, subjects, classes, icons, groups, pipelines,
    references⟩

/-- Reads the fields of stored metadata. -/
def readFields (fields : Json.Fields) : Checked Metadata :=
  ofStored
    <$> Checked.optional fields "photo" Lenient.text?
    <*> Checked.optional fields "pipeline_id" Lenient.integer?
    <*> Checked.optional fields "source" Lenient.text?
    <*> Checked.optional fields "semantic_source" Lenient.text?
    <*> Checked.optional fields "summary" Lenient.text?
    <*> Checked.listOrEmpty fields "locations" StoredLocation.read?
    <*> Checked.listOrEmpty fields "subjects" readName?
    <*> Checked.listOrEmpty fields "classes" Classification.read?
    <*> Checked.listOrEmpty fields "icons" readName?
    <*> Checked.listOrEmpty fields "groups" readName?
    <*> Checked.listOrEmpty fields "pipelines" Lenient.text?
    <*> Checked.listOrEmpty fields "references" Lenient.text?

/-- Reads stored metadata.  A value that is no object fails as a whole, under the empty name. -/
def read : Json → Checked Metadata
  | .obj fields => readFields fields
  | _ => .invalid [""]

/-- The fields of the stored form; absent values are stored as `null`. -/
def toFields (m : Metadata) : Json.Fields :=
  [("photo", .ofOption .str m.photo), ("pipeline_id", .ofOption .int m.pipelineId),
    ("source", .ofOption .str m.source), ("semantic_source", .ofOption .str m.semanticSource),
    ("summary", .ofOption .str m.summary),
    ("locations", .arr (m.locations.map fun l => (StoredLocation.ofLocation l).toJson)),
    ("subjects", .arr (m.subjects.map nameJson)),
    ("classes", .arr (m.classes.map Classification.toJson)),
    ("icons", .arr (m.icons.map nameJson)), ("groups", .arr (m.groups.map nameJson)),
    ("pipelines", .strings m.pipelines), ("references", .strings m.references)]

end Metadata

end SearchGateway
