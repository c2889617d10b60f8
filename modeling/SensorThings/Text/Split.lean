/-!
Cutting texts at a separator. `splitAt` keeps empty pieces, so joining the pieces with the separator
gives the text back.
-/
namespace SensorThings.Text

/-- The pieces between separators: one more than there are separators. -/
def splitAt (separator : Char) : List Char → List (List Char)
  | [] => [[]]
  | character :: rest =>
    if character = separator then [] :: splitAt separator rest
    else match splitAt separator rest with
      | [] => [[character]]
      | piece :: pieces => (character :: piece) :: pieces

def splitFirst (separator : Char) : List Char → Option (List Char × List Char)
  | [] => none
  | character :: rest =>
    if character = separator then some ([], rest)
    else (splitFirst separator rest).map fun (before, after) => (character :: before, after)

def join (separator : List Char) : List (List Char) → List Char
  | [] => []
  | [piece] => piece
  | piece :: next :: pieces => piece ++ separator ++ join separator (next :: pieces)

@[simp] theorem splitAt_ne_nil (separator : Char) (characters : List Char) :
    splitAt separator characters ≠ [] := by
  induction characters with
  | nil => simp [splitAt]
  | cons character rest ih =>
    simp only [splitAt]
    split
    · simp
    · split <;> simp

@[simp] theorem join_splitAt (separator : Char) (characters : List Char) :
    join [separator] (splitAt separator characters) = characters := by
  induction characters with
  | nil => rfl
  | cons character rest ih =>
    simp only [splitAt]
    split
    next same =>
      cases pieces : splitAt separator rest with
      | nil => exact absurd pieces (splitAt_ne_nil separator rest)
      | cons piece others =>
        rw [pieces] at ih
        simp [join, ih, same]
    next other =>
      cases pieces : splitAt separator rest with
      | nil => exact absurd pieces (splitAt_ne_nil separator rest)
      | cons piece others =>
        rw [pieces] at ih
        cases others with
        | nil => simpa [join] using ih
        | cons second others => simpa [join] using ih

theorem splitFirst_eq_some {separator : Char} {characters before after : List Char}
    (found : splitFirst separator characters = some (before, after)) :
    characters = before ++ separator :: after := by
  induction characters generalizing before with
  | nil => simp [splitFirst] at found
  | cons character rest ih =>
    simp only [splitFirst] at found
    split at found
    next same =>
      simp only [Option.some.injEq, Prod.mk.injEq] at found
      obtain ⟨rfl, rfl⟩ := found
      simp [same]
    next other =>
      obtain ⟨⟨head, tail⟩, inner, shape⟩ := Option.map_eq_some_iff.1 found
      simp only [Prod.mk.injEq] at shape
      obtain ⟨rfl, rfl⟩ := shape
      simp [ih inner]

end SensorThings.Text
