import SensorThings.Time.Instant

/-!
The orders of dates, times of day and instants tell any two of them apart.
-/
namespace SensorThings

instance : Std.LawfulEqOrd Date where
  eq_of_compare {left right} same := by
    have fields : compareLex (compareOn Date.year) (compareLex (compareOn Date.month)
        (compareOn Date.day)) left right = .eq := same
    simp only [compareLex_eq_eq, compareOn, Std.LawfulEqOrd.compare_eq_iff_eq] at fields
    obtain ⟨year, month, day⟩ := fields
    cases left
    cases right
    cases year
    cases month
    cases day
    rfl

instance : Std.LawfulEqOrd TimeOfDay where
  eq_of_compare {left right} same := by
    have fields : compareLex (compareOn TimeOfDay.second) (compareOn TimeOfDay.nanosecond) left
        right = .eq := same
    simp only [compareLex_eq_eq, compareOn, Std.LawfulEqOrd.compare_eq_iff_eq] at fields
    obtain ⟨second, nanosecond⟩ := fields
    cases left
    cases right
    cases second
    cases nanosecond
    rfl

instance : Std.LawfulEqOrd Instant where
  eq_of_compare {left right} same := by
    have fields : compareLex (compareOn Instant.date) (compareOn Instant.time) left right = .eq :=
      same
    simp only [compareLex_eq_eq, compareOn, Std.LawfulEqOrd.compare_eq_iff_eq] at fields
    obtain ⟨date, time⟩ := fields
    cases left
    cases right
    cases date
    cases time
    rfl

end SensorThings
