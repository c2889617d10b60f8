import SensorThings.Model.ObservedValue

/-!
Results of observations. What a type makes of a value from a client is a result of that type; a
count fits 64 bits, and a quantity is finite unless the value itself is not.
-/
namespace SensorThings

theorem Text.fitsSigned_of_signed? {characters : List Char} {value : Int}
    (read : signed? characters = some value) : fitsSigned value = true := by
  unfold signed? at read
  split at read
  all_goals
    obtain ⟨number, -, inside⟩ := Option.bind_eq_some_iff.1 read
    dsimp only at inside
    split at inside
    next fits => exact Option.some.inj inside ▸ fits
    next => contradiction

namespace ObservedValue

theorem quantity?_eq_some {raw : Json} {value : ObservedValue}
    (read : quantity? raw = some value) : ∃ number, value = .quantity number ∧
      ∀ double, number = some double → raw = .float double ∨
        (∃ whole, raw = .int whole ∧ double = Binary64.ofInt whole) ∨
          Binary64.isFinite double = true := by
  unfold quantity? at read
  split at read
  next whole =>
    obtain rfl := Option.some.inj read
    refine ⟨_, rfl, ?_⟩
    rintro _ ⟨⟩
    exact .inr (.inl ⟨whole, rfl, rfl⟩)
  next double =>
    obtain rfl := Option.some.inj read
    refine ⟨_, rfl, ?_⟩
    rintro _ ⟨⟩
    exact .inl rfl
  next content =>
    generalize Text.trimmed content = word at read
    rcases Decidable.em ((word = "NaN" || word = "Inf" || word = "-Inf") = true) with gap | number
    · rw [if_pos gap] at read
      obtain rfl := Option.some.inj read
      exact ⟨none, rfl, nofun⟩
    · rw [if_neg number] at read
      split at read
      next double _ =>
        split at read
        next finite =>
          obtain rfl := Option.some.inj read
          refine ⟨_, rfl, ?_⟩
          rintro _ ⟨⟩
          exact .inr (.inr finite)
        next => contradiction
      next => contradiction
  next => contradiction

theorem count?_eq_some {raw : Json} {value : ObservedValue} (read : count? raw = some value) :
    ∃ number, value = .count number ∧ Text.fitsSigned number = true := by
  unfold count? at read
  split at read
  next content =>
    obtain ⟨number, signed, rfl⟩ := Option.map_eq_some_iff.1 read
    exact ⟨number, rfl, Text.fitsSigned_of_signed? signed⟩
  next =>
    obtain ⟨number, integer, rfl⟩ := Option.map_eq_some_iff.1 read
    refine ⟨number, rfl, ?_⟩
    unfold integer? at integer
    split at integer
    next =>
      split at integer
      next fits => exact Option.some.inj integer ▸ fits
      next => contradiction
    next => contradiction

theorem boolean?_eq_some {raw : Json} {value : ObservedValue} (read : boolean? raw = some value) :
    ∃ truth, value = .boolean truth := by
  unfold boolean? at read
  split at read
  next truth => exact ⟨truth, (Option.some.inj read).symm⟩
  next content =>
    generalize Text.lowerAscii (Text.trimmed content) = word at read
    rcases Decidable.em (word = "true") with yes | other
    · rw [if_pos yes] at read
      exact ⟨true, (Option.some.inj read).symm⟩
    · rw [if_neg other] at read
      rcases Decidable.em (word = "false") with no | neither
      · rw [if_pos no] at read
        exact ⟨false, (Option.some.inj read).symm⟩
      · rw [if_neg neither] at read
        contradiction
  next => contradiction

end ObservedValue

namespace ObservationType

def Fits : ObservationType → ObservedValue → Prop
  | measurement, .quantity _ => True
  | category, .category _ => True
  | count, .count _ => True
  | truth, .boolean _ => True
  | text, .text _ => True
  | general, .text _ => True
  | _, _ => False

variable {type : ObservationType} {raw : Json} {value : ObservedValue}

theorem result?_of_result (read : type.result raw = .ok value) : type.result? raw = some value := by
  unfold result at read
  split at read
  next found same => exact same.trans (congrArg some (Except.ok.inj read))
  next => contradiction

theorem fits_of_result (read : type.result raw = .ok value) : type.Fits value := by
  have given := result?_of_result read
  cases type with
  | measurement =>
    obtain ⟨number, rfl, -⟩ := ObservedValue.quantity?_eq_some given
    trivial
  | count =>
    obtain ⟨number, rfl, -⟩ := ObservedValue.count?_eq_some given
    trivial
  | truth =>
    obtain ⟨holds, rfl⟩ := ObservedValue.boolean?_eq_some given
    trivial
  | category | text | general =>
    obtain ⟨content, -, rfl⟩ := Option.map_eq_some_iff.1 given
    trivial

end ObservationType

end SensorThings
