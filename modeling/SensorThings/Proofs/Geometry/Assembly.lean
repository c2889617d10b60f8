import SensorThings.Geometry.WellKnownText
import SensorThings.Proofs.Sequencing

/-!
Geometries and the bodies they are made of. A type asks for lists of one depth, and the items in
them are the coordinates of the geometry in their order.
-/
namespace SensorThings.WellKnownText

def coordinates (positions : List Position) : List Nested :=
  positions.map .coordinate

def lists (lines : List (List Position)) : List Nested :=
  lines.map fun line => .list (coordinates line)

/-- The items in the body of a geometry, under the name of its type. Points may be listed as they
are or in lists of their own. -/
inductive HasBody : Geometry → String → List Nested → Prop where
  | point (position : Position) : HasBody (.point position) "POINT" (coordinates [position])
  | lineString (positions : List Position) :
      HasBody (.lineString positions) "LINESTRING" (coordinates positions)
  | polygon (rings : List (List Position)) : HasBody (.polygon rings) "POLYGON" (lists rings)
  | multiPoint (positions : List Position) :
      HasBody (.multiPoint positions) "MULTIPOINT" (coordinates positions)
  | multiPointLists (lines : List (List Position)) :
      HasBody (.multiPoint lines.flatten) "MULTIPOINT" (lists lines)
  | multiLineString (lines : List (List Position)) :
      HasBody (.multiLineString lines) "MULTILINESTRING" (lists lines)
  | multiPolygon (polygons : List (List (List Position))) :
      HasBody (.multiPolygon polygons) "MULTIPOLYGON"
        (polygons.map fun rings => .list (lists rings))

variable {items : List Nested} {nested : Nested}

theorem children_eq_ok_iff : nested.children = .ok items ↔ nested = .list items := by
  cases nested <;> simp [Nested.children]

theorem mapM_children_eq_ok_iff {α : Type} {step : Nested → Except Fault α} {make : α → Nested}
    (undoes : ∀ item result, step item = .ok result ↔ item = make result) {results : List α} :
    (do (← nested.children).mapM step) = .ok results ↔ nested = .list (results.map make) := by
  simp only [bind_eq_ok_iff, children_eq_ok_iff, mapM_eq_ok_iff_map undoes, exists_eq_right]

theorem positions_eq_ok_iff {positions : List Position} :
    nested.positions = .ok positions ↔ nested = .list (coordinates positions) := by
  refine mapM_children_eq_ok_iff fun item position => ?_
  cases item <;> simp

theorem rings_eq_ok_iff {lines : List (List Position)} :
    nested.rings = .ok lines ↔ nested = .list (lists lines) :=
  mapM_children_eq_ok_iff fun _ _ => positions_eq_ok_iff

theorem polygons_eq_ok_iff {polygons : List (List (List Position))} :
    nested.polygons = .ok polygons ↔
      nested = .list (polygons.map fun rings => .list (lists rings)) :=
  mapM_children_eq_ok_iff fun _ _ => rings_eq_ok_iff

theorem coordinates_injective {left right : List Position}
    (same : coordinates left = coordinates right) : left = right :=
  List.map_injective_iff.2 (fun _ _ => Nested.coordinate.inj) same

theorem points_eq_ok_iff {positions : List Position} :
    nested.points = .ok positions ↔ nested = .list (coordinates positions) ∨
      ∃ lines, positions = lines.flatten ∧ nested = .list (lists lines) := by
  rw [Nested.points]
  split
  next bare read =>
    rw [positions_eq_ok_iff] at read
    subst read
    constructor
    · rintro ⟨⟩
      exact .inl rfl
    · rintro (same | ⟨lines, rfl, same⟩)
      · rw [coordinates_injective (Nested.list.inj same)]
      · have both := Nested.list.inj same
        cases bare with
        | nil =>
          cases lines with
          | nil => rfl
          | cons line rest => contradiction
        | cons position rest =>
          cases lines with
          | nil => contradiction
          | cons line rest => exact nomatch (List.cons.inj both).1
  next fault failed =>
    simp only [bind_eq_ok_iff, rings_eq_ok_iff]
    constructor
    · rintro ⟨lines, same, done⟩
      exact .inr ⟨lines, (Except.ok.inj done).symm, same⟩
    · rintro (bare | ⟨lines, rfl, same⟩)
      · rw [positions_eq_ok_iff.2 bare] at failed
        contradiction
      · exact ⟨lines, same, rfl⟩

theorem assemble_eq_ok_iff {name : String} {geometry : Geometry} :
    assemble name (.list items) = .ok geometry ↔ HasBody geometry name items := by
  constructor
  · intro made
    unfold assemble at made
    split at made
    next same =>
      obtain ⟨positions, read, made⟩ := bind_eq_ok_iff.1 made
      rw [same, Nested.list.inj (positions_eq_ok_iff.1 read)]
      split at made
      next position =>
        cases made
        exact .point position
      next => contradiction
    split at made
    next same =>
      obtain ⟨positions, read, ⟨⟩⟩ := bind_eq_ok_iff.1 made
      rw [same, Nested.list.inj (positions_eq_ok_iff.1 read)]
      exact .lineString positions
    split at made
    next same =>
      obtain ⟨rings, read, ⟨⟩⟩ := bind_eq_ok_iff.1 made
      rw [same, Nested.list.inj (rings_eq_ok_iff.1 read)]
      exact .polygon rings
    split at made
    next same =>
      obtain ⟨positions, read, ⟨⟩⟩ := bind_eq_ok_iff.1 made
      rcases points_eq_ok_iff.1 read with bare | ⟨lines, rfl, listed⟩
      · rw [same, Nested.list.inj bare]
        exact .multiPoint positions
      · rw [same, Nested.list.inj listed]
        exact .multiPointLists lines
    split at made
    next same =>
      obtain ⟨lines, read, ⟨⟩⟩ := bind_eq_ok_iff.1 made
      rw [same, Nested.list.inj (rings_eq_ok_iff.1 read)]
      exact .multiLineString lines
    split at made
    next same =>
      obtain ⟨polygons, read, ⟨⟩⟩ := bind_eq_ok_iff.1 made
      rw [same, Nested.list.inj (polygons_eq_ok_iff.1 read)]
      exact .multiPolygon polygons
    next => contradiction
  · intro body
    cases body with
    | point position => rfl
    | lineString positions => exact bind_eq_ok_iff.2 ⟨_, positions_eq_ok_iff.2 rfl, rfl⟩
    | polygon rings => exact bind_eq_ok_iff.2 ⟨_, rings_eq_ok_iff.2 rfl, rfl⟩
    | multiPoint positions => exact bind_eq_ok_iff.2 ⟨_, points_eq_ok_iff.2 (.inl rfl), rfl⟩
    | multiPointLists lines =>
      exact bind_eq_ok_iff.2 ⟨_, points_eq_ok_iff.2 (.inr ⟨lines, rfl, rfl⟩), rfl⟩
    | multiLineString lines => exact bind_eq_ok_iff.2 ⟨_, rings_eq_ok_iff.2 rfl, rfl⟩
    | multiPolygon polygons => exact bind_eq_ok_iff.2 ⟨_, polygons_eq_ok_iff.2 rfl, rfl⟩

end SensorThings.WellKnownText
