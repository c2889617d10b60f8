import SensorThings.Text.Blank

/-!
Types of observations, named in requests by a URI.
-/
namespace SensorThings

inductive ObservationType where
  | measurement
  | category
  | count
  | truth
  | text
  /-- Any observation; its results are kept as texts. -/
  | general
deriving DecidableEq, Repr

namespace ObservationType

def all : List ObservationType :=
  [measurement, category, count, truth, text, general]

def name : ObservationType → String
  | measurement => "Measurement"
  | category => "CategoryObservation"
  | count => "CountObservation"
  | truth => "TruthObservation"
  | text => "TextObservation"
  | general => "Observation"

def uri (type : ObservationType) : String :=
  "http://www.opengis.net/def/observationType/OGC-OM/2.0/OM_" ++ type.name

def ofName? (name : String) : Option ObservationType :=
  all.find? (·.name == name)

/-- White space around the URI does not count. -/
def ofUri? (uri : String) : Option ObservationType :=
  let uri := Text.trimmed uri
  all.find? (·.uri == uri)

end ObservationType

end SensorThings
