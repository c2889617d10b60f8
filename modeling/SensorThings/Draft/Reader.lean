import SensorThings.Draft.Basic
import SensorThings.Model.Document

/-!
Reading drafts from JSON. Unknown members are passed over, and a null counts as missing. An array
gives the members by position. Every nested entity is smaller than the value it stands in, so
reading ends.
-/
namespace SensorThings

/-- A value inside another one. -/
abbrev Json.Inner (json : Json) := { value : Json // sizeOf value < sizeOf json }

namespace Json

/-- A value with its members by name: an array holds them in the order of the names, as many as it
has. -/
def byName (names : List String) : Json → Json
  | .array items => if items.length ≤ names.length then .object (names.zip items) else .null
  | json => json

theorem sizeOf_lt_of_byName {names : List String} {json value : Json} {key : String}
    (found : (json.byName names).member? key = some value) : sizeOf value < sizeOf json := by
  unfold byName at found
  split at found
  next items =>
    split at found
    next =>
      obtain ⟨_, _, same⟩ := List.lookup_eq_some_iff.1 found
      have paired : (key, value) ∈ names.zip items := by simp [same]
      have inside := List.sizeOf_lt_of_mem (List.of_mem_zip paired).2
      simp only [array.sizeOf_spec]
      omega
    next => contradiction
  next => exact sizeOf_lt_of_member? found

private theorem sizeOf_lt_of_item {names : List String} {json : Json} {items : List Json}
    {key : String} (found : (json.byName names).member? key = some (.array items)) {item : Json}
    (inside : item ∈ items) : sizeOf item < sizeOf json := by
  have outer := sizeOf_lt_of_byName found
  have inner := List.sizeOf_lt_of_mem inside
  simp only [array.sizeOf_spec] at outer
  omega

/-- A member that may be missing or null. -/
def inner? (json : Json) (names : List String) (key : String) : Option json.Inner :=
  match found : (json.byName names).member? key with
  | none => none
  | some .null => none
  | some value => some ⟨value, sizeOf_lt_of_byName found⟩

/-- The items of a member that may be missing or null, but is else an array. -/
def inners? (json : Json) (names : List String) (key : String) :
    Option (Option (List json.Inner)) :=
  match found : (json.byName names).member? key with
  | none => some none
  | some .null => some none
  | some (.array items) =>
    some (some (items.attach.map fun ⟨item, inside⟩ => ⟨item, sizeOf_lt_of_item found inside⟩))
  | some _ => none

end Json

/-! The names of the members, in order. -/

def UnitDraft.names : List String :=
  ["name", "symbol", "definition"]

def ThingDraft.names : List String :=
  ["@iot.id", "name", "description", "properties", "Locations", "Datastreams",
    "HistoricalLocations"]

def LocationDraft.names : List String :=
  ["@iot.id", "name", "description", "encodingType", "location", "properties", "Things",
    "HistoricalLocations"]

def HistoricalLocationDraft.names : List String :=
  ["@iot.id", "time", "Thing", "Locations"]

def SensorDraft.names : List String :=
  ["@iot.id", "name", "description", "encodingType", "metadata", "properties", "Datastreams"]

def ObservedPropertyDraft.names : List String :=
  ["@iot.id", "name", "definition", "description", "properties", "Datastreams"]

def DatastreamDraft.names : List String :=
  ["@iot.id", "name", "description", "unitOfMeasurement", "observationType", "properties", "Thing",
    "Sensor", "ObservedProperty", "Observations"]

def FeatureDraft.names : List String :=
  ["@iot.id", "name", "description", "encodingType", "feature", "properties", "Observations"]

def ObservationDraft.names : List String :=
  ["@iot.id", "phenomenonTime", "resultTime", "validTime", "parameters", "result", "Datastream",
    "FeatureOfInterest"]

def UnitDraft.ofJson? (json : Json) : Option UnitDraft := do
  let record := json.byName UnitDraft.names
  if !record.isObject then none
  return {
    name := ← record.optional? "name" Json.string?
    symbol := ← record.optional? "symbol" Json.string?
    definition := ← record.optional? "definition" Json.string? }

mutual

def ThingDraft.ofJson? (json : Json) : Option ThingDraft := do
  let record := json.byName ThingDraft.names
  if !record.isObject then none
  return {
    id := ← record.optional? "@iot.id" EntityId.ofJson?
    name := ← record.optional? "name" Json.string?
    description := ← record.optional? "description" Json.string?
    properties := ← record.optional? "properties" some
    locations := ← (← json.inners? ThingDraft.names "Locations").mapM fun links =>
      links.mapM fun ⟨value, _⟩ => return (← LocationDraft.ofJson? value).link
    datastreams := ← (← json.inners? ThingDraft.names "Datastreams").mapM fun links =>
      links.mapM fun ⟨value, _⟩ => return (← DatastreamDraft.ofJson? value).link
    historicalLocations :=
      ← (← json.inners? ThingDraft.names "HistoricalLocations").mapM fun links =>
      links.mapM fun ⟨value, _⟩ => return (← HistoricalLocationDraft.ofJson? value).link }
termination_by json

def LocationDraft.ofJson? (json : Json) : Option LocationDraft := do
  let record := json.byName LocationDraft.names
  if !record.isObject then none
  return {
    id := ← record.optional? "@iot.id" EntityId.ofJson?
    name := ← record.optional? "name" Json.string?
    description := ← record.optional? "description" Json.string?
    encodingType := ← record.optional? "encodingType" Json.string?
    location := ← record.optional? "location" SentGeometry.ofJson?
    properties := ← record.optional? "properties" some
    things := ← (← json.inners? LocationDraft.names "Things").mapM fun links =>
      links.mapM fun ⟨value, _⟩ => return (← ThingDraft.ofJson? value).link
    historicalLocations :=
      ← (← json.inners? LocationDraft.names "HistoricalLocations").mapM fun links =>
      links.mapM fun ⟨value, _⟩ => return (← HistoricalLocationDraft.ofJson? value).link }
termination_by json

def HistoricalLocationDraft.ofJson? (json : Json) : Option HistoricalLocationDraft := do
  let record := json.byName HistoricalLocationDraft.names
  if !record.isObject then none
  return {
    id := ← record.optional? "@iot.id" EntityId.ofJson?
    time := ← record.optional? "time" Instant.ofDocument?
    thing := ← (json.inner? HistoricalLocationDraft.names "Thing").mapM fun ⟨value, _⟩ =>
      return (← ThingDraft.ofJson? value).link
    locations := ← (← json.inners? HistoricalLocationDraft.names "Locations").mapM fun links =>
      links.mapM fun ⟨value, _⟩ => return (← LocationDraft.ofJson? value).link }
termination_by json

def SensorDraft.ofJson? (json : Json) : Option SensorDraft := do
  let record := json.byName SensorDraft.names
  if !record.isObject then none
  return {
    id := ← record.optional? "@iot.id" EntityId.ofJson?
    name := ← record.optional? "name" Json.string?
    description := ← record.optional? "description" Json.string?
    encodingType := ← record.optional? "encodingType" Json.string?
    metadata := ← record.optional? "metadata" Json.string?
    properties := ← record.optional? "properties" some
    datastreams := ← (← json.inners? SensorDraft.names "Datastreams").mapM fun links =>
      links.mapM fun ⟨value, _⟩ => return (← DatastreamDraft.ofJson? value).link }
termination_by json

def ObservedPropertyDraft.ofJson? (json : Json) : Option ObservedPropertyDraft := do
  let record := json.byName ObservedPropertyDraft.names
  if !record.isObject then none
  return {
    id := ← record.optional? "@iot.id" EntityId.ofJson?
    name := ← record.optional? "name" Json.string?
    definition := ← record.optional? "definition" Json.string?
    description := ← record.optional? "description" Json.string?
    properties := ← record.optional? "properties" some
    datastreams := ← (← json.inners? ObservedPropertyDraft.names "Datastreams").mapM fun links =>
      links.mapM fun ⟨value, _⟩ => return (← DatastreamDraft.ofJson? value).link }
termination_by json

def DatastreamDraft.ofJson? (json : Json) : Option DatastreamDraft := do
  let record := json.byName DatastreamDraft.names
  if !record.isObject then none
  return {
    id := ← record.optional? "@iot.id" EntityId.ofJson?
    name := ← record.optional? "name" Json.string?
    description := ← record.optional? "description" Json.string?
    unit := ← record.optional? "unitOfMeasurement" UnitDraft.ofJson?
    observationType := ← record.optional? "observationType" Json.string?
    properties := ← record.optional? "properties" some
    thing := ← (json.inner? DatastreamDraft.names "Thing").mapM fun ⟨value, _⟩ =>
      return (← ThingDraft.ofJson? value).link
    sensor := ← (json.inner? DatastreamDraft.names "Sensor").mapM fun ⟨value, _⟩ =>
      return (← SensorDraft.ofJson? value).link
    observedProperty :=
      ← (json.inner? DatastreamDraft.names "ObservedProperty").mapM fun ⟨value, _⟩ =>
      return (← ObservedPropertyDraft.ofJson? value).link
    observations := ← (← json.inners? DatastreamDraft.names "Observations").mapM fun links =>
      links.mapM fun ⟨value, _⟩ => return (← ObservationDraft.ofJson? value).link }
termination_by json

def FeatureDraft.ofJson? (json : Json) : Option FeatureDraft := do
  let record := json.byName FeatureDraft.names
  if !record.isObject then none
  return {
    id := ← record.optional? "@iot.id" EntityId.ofJson?
    name := ← record.optional? "name" Json.string?
    description := ← record.optional? "description" Json.string?
    encodingType := ← record.optional? "encodingType" Json.string?
    feature := ← record.optional? "feature" SentGeometry.ofJson?
    properties := ← record.optional? "properties" some
    observations := ← (← json.inners? FeatureDraft.names "Observations").mapM fun links =>
      links.mapM fun ⟨value, _⟩ => return (← ObservationDraft.ofJson? value).link }
termination_by json

def ObservationDraft.ofJson? (json : Json) : Option ObservationDraft := do
  let record := json.byName ObservationDraft.names
  if !record.isObject then none
  return {
    id := ← record.optional? "@iot.id" EntityId.ofJson?
    phenomenonTime := ← record.optional? "phenomenonTime" TimeSpan.ofJson?
    resultTime := ← record.optional? "resultTime" Instant.ofDocument?
    validTime := ← record.optional? "validTime" Interval.ofJson?
    parameters := ← record.optional? "parameters" some
    result := ← record.optional? "result" some
    datastream := ← (json.inner? ObservationDraft.names "Datastream").mapM fun ⟨value, _⟩ =>
      return (← DatastreamDraft.ofJson? value).link
    feature := ← (json.inner? ObservationDraft.names "FeatureOfInterest").mapM fun ⟨value, _⟩ =>
      return (← FeatureDraft.ofJson? value).link }
termination_by json

end

end SensorThings
