import SensorThings.Change.Summary

/-!
Where things are and were. A move to other locations is recorded as a historical location, and every
location lists the records that name it.
-/
namespace SensorThings.Change

def backlink (historical location : EntityId) : Change Unit := do
  let found : Location ← fetch .location location
  if !found.historicalLocations.contains historical then
    save .location
      { found with historicalLocations := found.historicalLocations.insert historical }

/-- Add a historical location and list it with each of its locations. -/
def record (historical : HistoricalLocation) : Change Unit := do
  save .historicalLocation historical
  historical.locations.items.forM fun location => backlink historical.id location

def extendRecord (historical location : EntityId) : Change Unit := do
  let found : HistoricalLocation ← fetch .historicalLocation historical
  save .historicalLocation { found with locations := found.locations.insert location }
  backlink historical location

/-- Put a thing at other locations, and record the move unless it leads nowhere. The same locations
in the same order are no move. -/
def moveThing (id : EntityId) (locations : List EntityId) : Change Unit := do
  let thing : Thing ← fetch .thing id
  if thing.locations = locations then return ()
  save .thing { thing with locations }
  if !locations.isEmpty then
    let recordId ← draw
    record { id := recordId, time := ← now, thing := id, locations := IdSet.ofIds locations }

end SensorThings.Change
