import SensorThings.Filter.Query
import SensorThings.Model.Member

/-!
Settings of a server. A setting that is left out has its standard value.
-/
namespace SensorThings

structure Config where
  defaultTop : Nat := 100
  maxTop : Nat := 10000
  /-- Make a feature from the location of the thing where an observation names none. -/
  deriveFeature : Bool := true
deriving DecidableEq, Repr

namespace Config

instance : Inhabited Config := ⟨{}⟩

/-- A page holds at least one entity. -/
def paging (config : Config) : Paging where
  defaultTop := config.defaultTop
  maxTop := max config.maxTop 1

private def size? : Json → Option Nat
  | .int value => if 0 ≤ value && value ≤ Text.maxUnsigned then some value.toNat else none
  | _ => none

def names : List String :=
  ["default_top", "max_top", "derive_feature_of_interest"]

/-- Settings that are listed without names come in order. -/
private def named (json : Json) : Json :=
  match json with
  | .array items => if items.length ≤ names.length then .ofMembers (names.zip items) else json
  | _ => json

def ofJson? (json : Json) : Option Config := do
  let settings := named json
  let standard : Config := {}
  if !settings.isObject then none
  return {
    defaultTop := ← settings.default? "default_top" standard.defaultTop size?
    maxTop := ← settings.default? "max_top" standard.maxTop size?
    deriveFeature :=
      ← settings.default? "derive_feature_of_interest" standard.deriveFeature Json.bool? }

def toJson (config : Config) : Json :=
  .ofMembers [
    ("default_top", .int config.defaultTop),
    ("max_top", .int config.maxTop),
    ("derive_feature_of_interest", .bool config.deriveFeature)]

end Config

end SensorThings
