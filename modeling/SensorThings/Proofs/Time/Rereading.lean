import SensorThings.Proofs.Sequencing
import SensorThings.Proofs.Time.Texts

/-!
Which written times are read again. A year before 0 or after 9999 is written with a sign. The form
with a zone has no signs, and the forms that have them end before the zone in which every written
time ends; so a time with such a year is refused, and all others are read back.
-/
namespace SensorThings

theorem Date.exists_sign_yearText {year : Int} (outside : ¬(0 ≤ year ∧ year ≤ 9999)) :
    ∃ sign rest, (yearText year).toList = sign :: rest ∧ sign.isDigit = false := by
  have signed : (0 ≤ year && year ≤ 9999) = false := by simpa using outside
  have plus : "+".toList = ['+'] := rfl
  have minus : "-".toList = ['-'] := rfl
  rw [yearText, if_neg (by simp [signed]), String.toList_append]
  split
  next => exact ⟨'-', _, by rw [minus]; rfl, rfl⟩
  next => exact ⟨'+', _, by rw [plus]; rfl, rfl⟩

namespace Time

theorem dateStep_timeStep_text (instant : Instant) : ∃ rest,
    dateStep instant.text.toList = some (instant.date, 'T' :: rest) ∧
      timeStep rest = some (instant.time, ['Z']) := by
  obtain ⟨month, day, hour, minute, second, nanosecond, characters, monthSpelled, daySpelled,
    hourSpelled, minuteSpelled, secondSpelled, fractionBound, reading, shape⟩ :=
      instant.exists_parts
  rw [shape]
  refine ⟨hour ++ ':' :: (minute ++ ':' :: (characters ++
    ((TimeOfDay.fractionText nanosecond).toList ++ ['Z']))), ?_, ?_⟩
  · refine (bind_of_eq (signedYear_yearText _ _)).trans ?_
    refine (bind_of_eq (exactly_cons '-' _)).trans ?_
    refine (bind_of_eq (shortNumber_append monthSpelled)).trans ?_
    refine (bind_of_eq (exactly_cons '-' _)).trans ?_
    refine (bind_of_eq (shortNumber_append daySpelled)).trans ?_
    exact bind_of_eq (Date.of?_self instant.date)
  · refine (bind_of_eq (shortNumber_append hourSpelled)).trans ?_
    refine (bind_of_eq (exactly_cons ':' _)).trans ?_
    refine (bind_of_eq (shortNumber_append minuteSpelled)).trans ?_
    refine (bind_of_eq (exactly_cons ':' _)).trans ?_
    refine (bind_of_eq (shortNumber_append secondSpelled)).trans ?_
    refine (bind_of_eq (fraction_fractionText fractionBound)).trans ?_
    exact bind_of_eq reading

theorem unzoned?_text (instant : Instant) : unzoned? instant.text.toList = none := by
  obtain ⟨rest, date, time⟩ := dateStep_timeStep_text instant
  refine (congrArg ended (?_ : _ = some (instant, ['Z']))).trans rfl
  refine (bind_of_eq date).trans ?_
  refine (bind_of_eq (exactly_cons 'T' _)).trans ?_
  exact bind_of_eq time

theorem date?_text (instant : Instant) : date? instant.text.toList = none := by
  obtain ⟨rest, date, -⟩ := dateStep_timeStep_text instant
  rw [date?, date]
  rfl

theorem zoned?_text_eq_none {instant : Instant} (outside : ¬instant.InFourDigits) :
    zoned? instant.text.toList = none := by
  obtain ⟨month, day, hour, minute, second, nanosecond, characters, -, -, -, -, -, -, -, shape⟩ :=
    instant.exists_parts
  obtain ⟨sign, rest, written, noDigit⟩ := Date.exists_sign_yearText outside
  have year (rest : List Char) : digits 4 4 (sign :: rest) = none := by
    simp [digits, List.take_succ_cons, noDigit]
  rw [shape, written, List.cons_append, zoned?, year]
  rfl

end Time

theorem Instant.ofText?_text_iff {instant other : Instant} :
    ofText? instant.text = some other ↔ other = instant ∧ instant.InFourDigits := by
  by_cases inFourDigits : instant.InFourDigits
  · rw [ofText?_text inFourDigits, Option.some.injEq, eq_comm, and_iff_left inFourDigits]
  · simp only [ofText?, trim_text, Time.zoned?_text_eq_none inFourDigits, Time.unzoned?_text,
      Time.date?_text, Option.map_none, inFourDigits, and_false, reduceCtorEq]

theorem Instant.ofText_text_iff {instant other : Instant} :
    ofText instant.text = .ok other ↔ other = instant ∧ instant.InFourDigits := by
  rw [← ofText?_text_iff, ofText]
  cases ofText? instant.text <;> simp

theorem Interval.ofText_text_iff {interval other : Interval} :
    ofText interval.text = .ok other ↔
      other = interval ∧ ∀ instant ∈ interval.instants, instant.InFourDigits := by
  have steps : ofText interval.text = (do
      let start ← Instant.ofText interval.start.text
      let stop ← Instant.ofText interval.stop.text
      make start stop) := by
    simp only [ofText, splitFirst_text, String.ofList_toList]
  have made : make interval.start interval.stop = .ok interval := dif_pos interval.ordered
  simp only [steps, bind_eq_ok_iff, Instant.ofText_text_iff, instants, List.forall_mem_cons]
  constructor
  · rintro ⟨start, ⟨rfl, first⟩, stop, ⟨rfl, last⟩, done⟩
    exact ⟨Except.ok.inj (done.symm.trans made), first, last, List.forall_mem_nil _⟩
  · rintro ⟨rfl, first, last, -⟩
    exact ⟨_, ⟨rfl, first⟩, _, ⟨rfl, last⟩, made⟩

/-- What is written of a time, whatever text it was read from, is read as that time and as nothing
else, an instant as an instant, to the nanosecond and with its leap second, if all its years are
from 0 to 9999. It is refused otherwise. -/
theorem TimeSpan.rereading (time other : TimeSpan) (span read : Interval) :
    (ofText time.text = .ok other ↔
      other = time ∧ ∀ instant ∈ time.instants, instant.InFourDigits) ∧
    (Interval.ofText span.text = .ok read ↔
      read = span ∧ ∀ instant ∈ span.instants, instant.InFourDigits) := by
  refine ⟨?_, Interval.ofText_text_iff⟩
  cases time with
  | instant time =>
    have steps : ofText (instant time).text = (Instant.ofText time.text >>= pure ∘ .instant) := by
      rw [ofText, contains_slash_text]
      rfl
    simp only [steps, bind_eq_ok_iff, Instant.ofText_text_iff, instants, List.forall_mem_singleton]
    constructor
    · rintro ⟨read, ⟨rfl, bound⟩, done⟩
      exact ⟨(Except.ok.inj done).symm, bound⟩
    · rintro ⟨rfl, bound⟩
      exact ⟨time, ⟨rfl, bound⟩, rfl⟩
  | interval span =>
    have steps : ofText (interval span).text =
        (Interval.ofText span.text >>= pure ∘ .interval) := by
      rw [ofText, contains_slash_text]
      rfl
    simp only [steps, bind_eq_ok_iff, Interval.ofText_text_iff, instants]
    constructor
    · rintro ⟨read, ⟨rfl, bounds⟩, done⟩
      exact ⟨(Except.ok.inj done).symm, bounds⟩
    · rintro ⟨rfl, bounds⟩
      exact ⟨span, ⟨rfl, bounds⟩, rfl⟩

end SensorThings
