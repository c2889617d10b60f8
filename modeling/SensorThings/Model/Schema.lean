import SensorThings.Filter.Schema
import SensorThings.Model.EntityKind

/-!
What clients may name in queries, by kind of entity. Times with a start and an end are pairs of
columns, and the encoding type of a feature is its column `featureType`.
-/
namespace SensorThings.EntityKind

private def textColumn (name : String) : String × Property :=
  (name, .column name .string)

private def relationTo (target : EntityKind) : String × Property :=
  (target.name, .relation target.name)

private def freeProperties : String × Property :=
  ("properties", .json "properties")

def properties? : EntityKind → Option (List (String × Property))
  | thing => some [textColumn "id", textColumn "name", textColumn "description", freeProperties]
  | location => some [
      textColumn "id", textColumn "name", textColumn "description", textColumn "encodingType",
      ("location", .column "location" .geometry), freeProperties]
  | historicalLocation => some [
      textColumn "id", ("time", .column "time" .instant), relationTo thing]
  | sensor => some [
      textColumn "id", textColumn "name", textColumn "description", textColumn "encodingType",
      textColumn "metadata", freeProperties]
  | observedProperty => some [
      textColumn "id", textColumn "name", textColumn "definition", textColumn "description",
      freeProperties]
  | datastream => some [
      textColumn "id", textColumn "name", textColumn "description", textColumn "observationType",
      ("phenomenonTime", .span "phenomenonTimeStart" "phenomenonTimeEnd"),
      ("resultTime", .span "resultTimeStart" "resultTimeEnd"),
      freeProperties, relationTo thing, relationTo sensor, relationTo observedProperty]
  | featureOfInterest => some [
      textColumn "id", textColumn "name", textColumn "description",
      ("encodingType", .column "featureType" .string),
      ("feature", .column "feature" .geometry), freeProperties]
  | observation => some [
      textColumn "id",
      ("phenomenonTime", .span "samplingTimeStart" "samplingTimeEnd"),
      ("resultTime", .column "resultTime" .instant),
      ("validTime", .span "validTimeStart" "validTimeEnd"),
      ("result", .column "result" .any),
      ("parameters", .json "parameters"),
      relationTo datastream, relationTo featureOfInterest]
  | dataset => none
  | unitOfMeasurement => none
  | format => none

def propertyMap? (kind : EntityKind) : Option PropertyMap :=
  kind.properties?.map (PropertyMap.mk kind.name)

def schema : Schema := fun name =>
  (ofName? name).bind propertyMap?

end SensorThings.EntityKind
