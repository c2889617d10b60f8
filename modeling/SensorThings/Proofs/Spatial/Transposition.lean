import Mathlib.Data.List.Perm.Basic
import SensorThings.Proofs.Spatial.Pieces

/-!
The matrix of two geometries exchanged is the transposed matrix. Cuts and pieces come in another
order and in other spellings then, but a cell only counts in what dimension it was ever raised.
-/
namespace SensorThings.Spatial

namespace Matrix

def raiseAll (matrix : Matrix) (cells : List (Location × Location)) (extent : Extent) : Matrix :=
  cells.foldl (fun matrix cell => matrix.raise cell.1 cell.2 extent) matrix

@[simp] theorem larger_larger (first second : Extent) :
    (first.larger second).larger second = first.larger second := by
  cases first <;> cases second <;> rfl

theorem raiseAll_apply (matrix : Matrix) (cells : List (Location × Location)) (extent : Extent)
    (row column : Location) : matrix.raiseAll cells extent row column =
      if (row, column) ∈ cells then (matrix row column).larger extent else matrix row column := by
  induction cells generalizing matrix with
  | nil => rfl
  | cons cell rest ih =>
    obtain ⟨otherRow, otherColumn⟩ := cell
    have raised : matrix.raiseAll ((otherRow, otherColumn) :: rest) extent =
        (matrix.raise otherRow otherColumn extent).raiseAll rest extent := rfl
    simp only [raised, ih, raise, List.mem_cons, Prod.mk.injEq]
    by_cases here : row = otherRow ∧ column = otherColumn
    · obtain ⟨rfl, rfl⟩ := here
      simp [larger_larger]
    · simp [here]

theorem raiseAll_transpose {cells others : List (Location × Location)}
    (exchanged : ∀ row column, (row, column) ∈ others ↔ (column, row) ∈ cells) (matrix : Matrix)
    (extent : Extent) :
    matrix.transpose.raiseAll others extent = (matrix.raiseAll cells extent).transpose := by
  funext row column
  simp only [transpose, raiseAll_apply, exchanged]

@[simp] theorem disjoint_transpose : disjoint.transpose = disjoint := by
  funext row column
  cases row <;> cases column <;> rfl

end Matrix

namespace Shape

/-- Spots and segments of a shape are proper. -/
structure IsProper (shape : Shape) : Prop where
  spots : ∀ spot ∈ shape.spots, spot.IsProper
  segments : ∀ segment ∈ shape.segments, segment.IsProper

end Shape

variable {left right : Shape}

/-! What relating two shapes goes through, and the cells that each of it raises. -/

def cutsOf (left right : Shape) : List Spot :=
  cuts (left.segments ++ right.segments)

def spotsOf (left right : Shape) : List Spot :=
  distinct (cutsOf left right ++ left.spots ++ right.spots)

def piecesOf (left right : Shape) : List Segment :=
  (left.segments ++ right.segments).flatMap (pieces (cutsOf left right))

def spotCells (left right : Shape) : List (Location × Location) :=
  (spotsOf left right).map fun spot => (left.locate spot, right.locate spot)

def pieceCells (left right : Shape) : List (Location × Location) :=
  (piecesOf left right).map fun piece =>
    let middle := Spot.middle piece.start piece.stop
    (left.locate middle, right.locate middle)

def sideCells (left right : Shape) : List (Location × Location) :=
  (piecesOf left right).flatMap fun piece =>
    [((left.sideLocations piece).1, (right.sideLocations piece).1),
      ((left.sideLocations piece).2, (right.sideLocations piece).2)]

theorem relateShapes_eq (left right : Shape) : relateShapes left right =
    ((Matrix.disjoint.raiseAll (spotCells left right) .points).raiseAll
      (pieceCells left right) .lines).raiseAll (sideCells left right) .areas := by
  simp only [Matrix.raiseAll, spotCells, pieceCells, sideCells, List.foldl_map, List.foldl_flatMap]
  rfl

theorem shapes_isProper (leftProper : left.IsProper) (rightProper : right.IsProper) :
    ∀ segment ∈ left.segments ++ right.segments, segment.IsProper :=
  List.forall_mem_append.2 ⟨leftProper.segments, rightProper.segments⟩

theorem swapped_subset (left right : Shape) :
    left.segments ++ right.segments ⊆ right.segments ++ left.segments := fun _ =>
  (List.perm_append_comm.mem_iff).1

section

variable (leftProper : left.IsProper) (rightProper : right.IsProper)

include leftProper rightProper

theorem separate_cutsOf : Separate (cutsOf left right) :=
  separate_cuts (shapes_isProper leftProper rightProper)

theorem among_cutsOf : Among (cutsOf left right) (cutsOf right left) :=
  among_cuts (shapes_isProper rightProper leftProper) (swapped_subset left right)

theorem candidates_isProper :
    ∀ spot ∈ cutsOf left right ++ left.spots ++ right.spots, spot.IsProper := by
  rw [List.forall_mem_append, List.forall_mem_append]
  exact ⟨⟨(separate_cutsOf leftProper rightProper).proper, leftProper.spots⟩, rightProper.spots⟩

theorem among_spotsOf : Among (spotsOf left right) (spotsOf right left) := by
  refine Among.distinct (candidates_isProper rightProper leftProper) fun spot member => ?_
  simp only [List.mem_append] at member ⊢
  rcases member with (cut | isLeft) | isRight
  · obtain ⟨other, found, same⟩ := among_cutsOf leftProper rightProper spot cut
    exact ⟨other, .inl (.inl found), same⟩
  · exact ⟨spot, .inr isLeft, spot.same_self⟩
  · exact ⟨spot, .inl (.inr isRight), spot.same_self⟩

theorem spotsOf_isProper : ∀ spot ∈ spotsOf left right, spot.IsProper :=
  (separate_distinct (candidates_isProper leftProper rightProper)).proper

theorem piecesOf_isProper : ∀ piece ∈ piecesOf left right, piece.IsProper := by
  intro piece member
  obtain ⟨segment, -, member⟩ := List.mem_flatMap.1 member
  exact pieces_isProper (separate_cutsOf leftProper rightProper) member

theorem exists_pieceOf {piece : Segment} (member : piece ∈ piecesOf left right) :
    ∃ other ∈ piecesOf right left, other.Same piece := by
  obtain ⟨segment, inShapes, member⟩ := List.mem_flatMap.1 member
  obtain ⟨other, found, same⟩ := exists_piece (separate_cutsOf leftProper rightProper)
    (separate_cutsOf rightProper leftProper) (among_cutsOf leftProper rightProper)
    (among_cutsOf rightProper leftProper)
    (shapes_isProper leftProper rightProper segment inShapes) member
  exact ⟨other, List.mem_flatMap.2 ⟨segment, swapped_subset left right inShapes, found⟩, same⟩

theorem mem_spotCells_swap {row column : Location} (member : (row, column) ∈ spotCells left right) :
    (column, row) ∈ spotCells right left := by
  obtain ⟨spot, inSpots, cell⟩ := List.mem_map.1 member
  obtain ⟨other, found, same⟩ := among_spotsOf leftProper rightProper spot inSpots
  have locates (shape : Shape) : shape.locate other = shape.locate spot :=
    shape.locate_of_same (spotsOf_isProper rightProper leftProper other found)
      (spotsOf_isProper leftProper rightProper spot inSpots) same
  refine List.mem_map.2 ⟨other, found, ?_⟩
  rw [locates, locates]
  exact congrArg Prod.swap cell

theorem mem_pieceCells_swap {row column : Location}
    (member : (row, column) ∈ pieceCells left right) : (column, row) ∈ pieceCells right left := by
  obtain ⟨piece, inPieces, cell⟩ := List.mem_map.1 member
  obtain ⟨other, found, same⟩ := exists_pieceOf leftProper rightProper inPieces
  have proper := piecesOf_isProper leftProper rightProper piece inPieces
  have otherProper := piecesOf_isProper rightProper leftProper other found
  have locates (shape : Shape) : shape.locate (Spot.middle other.start other.stop) =
      shape.locate (Spot.middle piece.start piece.stop) :=
    shape.locate_of_same (Spot.middle_isProper otherProper.start otherProper.stop)
      (Spot.middle_isProper proper.start proper.stop) (Spot.middle_same same.starts same.stops)
  refine List.mem_map.2 ⟨other, found, ?_⟩
  simp only [locates]
  exact congrArg Prod.swap cell

theorem mem_sideCells_swap {row column : Location}
    (member : (row, column) ∈ sideCells left right) : (column, row) ∈ sideCells right left := by
  obtain ⟨piece, inPieces, cell⟩ := List.mem_flatMap.1 member
  obtain ⟨other, found, same⟩ := exists_pieceOf leftProper rightProper inPieces
  have sides (shape : Shape) : shape.sideLocations other = shape.sideLocations piece :=
    Shape.sideLocations_of_same (piecesOf_isProper rightProper leftProper other found)
      (piecesOf_isProper leftProper rightProper piece inPieces) same shape
  refine List.mem_flatMap.2 ⟨other, found, ?_⟩
  rw [sides, sides]
  exact List.mem_map_of_mem (f := Prod.swap) cell

theorem relateShapes_transpose :
    relateShapes right left = (relateShapes left right).transpose := by
  rw [relateShapes_eq, relateShapes_eq]
  have spots (row column : Location) : (row, column) ∈ spotCells right left ↔
      (column, row) ∈ spotCells left right :=
    ⟨mem_spotCells_swap rightProper leftProper, mem_spotCells_swap leftProper rightProper⟩
  have pieces (row column : Location) : (row, column) ∈ pieceCells right left ↔
      (column, row) ∈ pieceCells left right :=
    ⟨mem_pieceCells_swap rightProper leftProper, mem_pieceCells_swap leftProper rightProper⟩
  have sides (row column : Location) : (row, column) ∈ sideCells right left ↔
      (column, row) ∈ sideCells left right :=
    ⟨mem_sideCells_swap rightProper leftProper, mem_sideCells_swap leftProper rightProper⟩
  rw [← Matrix.raiseAll_transpose sides, ← Matrix.raiseAll_transpose pieces,
    ← Matrix.raiseAll_transpose spots, Matrix.disjoint_transpose]

end

namespace Shape

@[simp] theorem segments_append (left right : Shape) (segment : Segment) :
    segment ∈ (left.append right).segments ↔
      segment ∈ left.segments ∨ segment ∈ right.segments := by
  simp only [segments, append, List.flatten_append, List.mem_append]
  tauto

theorem IsProper.append (leftProper : left.IsProper) (rightProper : right.IsProper) :
    (left.append right).IsProper where
  spots := List.forall_mem_append.2 ⟨leftProper.spots, rightProper.spots⟩
  segments segment member := ((segments_append left right segment).1 member).elim
    (leftProper.segments segment) (rightProper.segments segment)

theorem empty_isProper : empty.IsProper :=
  ⟨nofun, nofun⟩

theorem foldl_append_isProper {shapes : List Shape} (proper : ∀ shape ∈ shapes, shape.IsProper) :
    (shapes.foldl append empty).IsProper :=
  List.foldlRecOn shapes append empty_isProper fun _ folded shape member =>
    folded.append (proper shape member)

theorem pathSegments_isProper {path : List Spot} (proper : ∀ spot ∈ path, spot.IsProper) :
    ∀ segment ∈ pathSegments path, segment.IsProper := by
  intro segment member
  obtain ⟨starts, stops, apart⟩ := mem_pathSegments member
  exact ⟨proper _ starts, proper _ stops, apart⟩

theorem ofLine_isProper {path : List Spot} (proper : ∀ spot ∈ path, spot.IsProper) :
    (ofLine path).IsProper := by
  rw [ofLine]
  split
  case h_1 spot _ first =>
    exact ⟨List.forall_mem_singleton.2 (proper spot (List.mem_of_mem_head? first)), nofun⟩
  case h_2 =>
    refine ⟨nofun, fun segment member => ?_⟩
    exact pathSegments_isProper proper segment (by simpa [segments, empty] using member)
  case h_3 => exact empty_isProper

theorem ringSegments_isProper {ring : List Spot} (proper : ∀ spot ∈ ring, spot.IsProper) :
    ∀ segment ∈ ringSegments ring, segment.IsProper := by
  cases ring with
  | nil => exact nofun
  | cons first rest =>
    refine pathSegments_isProper (List.forall_mem_append.2 ⟨proper, ?_⟩)
    exact List.forall_mem_singleton.2 (proper first List.mem_cons_self)

theorem ofRings_isProper {rings : List (List Spot)}
    (proper : ∀ ring ∈ rings, ∀ spot ∈ ring, spot.IsProper) : (ofRings rings).IsProper := by
  refine ⟨nofun, fun segment member => ?_⟩
  obtain ⟨ring, inRings, member⟩ : ∃ ring ∈ rings, segment ∈ ringSegments ring := by
    simpa [ofRings, segments, empty] using member
  exact ringSegments_isProper (proper ring inRings) segment member

variable (unit : Int)

theorem ofPositions_isProper (positions : List Position) :
    ∀ spot ∈ positions.map (Spot.ofPosition unit), spot.IsProper :=
  List.forall_mem_map.2 fun _ _ => Int.one_pos

theorem ofPositionLists_isProper (lines : List (List Position)) :
    ∀ line ∈ lines.map (List.map (Spot.ofPosition unit)), ∀ spot ∈ line, spot.IsProper :=
  List.forall_mem_map.2 fun line _ => ofPositions_isProper unit line

theorem ofGeometry_isProper (geometry : Geometry) : (ofGeometry unit geometry).IsProper := by
  cases geometry with
  | point position => exact ⟨ofPositions_isProper unit [position], nofun⟩
  | multiPoint positions => exact ⟨ofPositions_isProper unit positions, nofun⟩
  | lineString positions => exact ofLine_isProper (ofPositions_isProper unit positions)
  | multiLineString lines =>
    exact foldl_append_isProper
      (List.forall_mem_map.2 fun line _ => ofLine_isProper (ofPositions_isProper unit line))
  | polygon rings => exact ofRings_isProper (ofPositionLists_isProper unit rings)
  | multiPolygon polygons =>
    exact foldl_append_isProper
      (List.forall_mem_map.2 fun rings _ => ofRings_isProper (ofPositionLists_isProper unit rings))

end Shape

theorem unitExponent_perm {coordinates others : List Float} (perm : coordinates.Perm others) :
    unitExponent coordinates = unitExponent others := by
  rw [unitExponent, unitExponent]
  refine perm.foldl_eq' (fun first _ second _ unit => ?_) 0
  cases Binary64.parts first <;> cases Binary64.parts second <;> dsimp only
  split <;> split
  · rfl
  · rfl
  · rfl
  · exact min_right_comm ..

theorem relate_transpose (left right : Geometry) :
    relate right left = (relate left right).transpose := by
  rw [relate, relate, Bool.and_comm]
  split
  · rw [unitExponent_perm (List.perm_append_comm.flatMap_right _)]
    exact relateShapes_transpose (Shape.ofGeometry_isProper _ left)
      (Shape.ofGeometry_isProper _ right)
  · exact Matrix.disjoint_transpose.symm

end SensorThings.Spatial
