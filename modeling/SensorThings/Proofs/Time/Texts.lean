import SensorThings.Proofs.Text.Digits
import SensorThings.Proofs.Text.Split
import SensorThings.Time.Interval

/-!
Times as texts. What is written of a time in the years 0 to 9999 is read back as that time, to the
nanosecond and with its leap second: widths are fixed, so every number ends where it should. Other
years have a sign, which only the lenient form reads before a zone.
-/
namespace SensorThings

namespace Time

variable {characters rest : List Char} {least most width value : Nat}

theorem digits_append (spells : Text.Spells characters most value) (enough : least ≤ most) :
    digits least most (characters ++ rest) = some (value, rest) := by
  have taken : (characters ++ rest).take most = characters := List.take_left' spells.length
  have digitsOnly : characters.takeWhile Char.isDigit = characters := by
    rw [← List.append_nil characters, List.takeWhile_append_of_pos spells.digits,
      List.takeWhile_nil]
  have spelled := spells.value
  rw [Nat.ofDigitChars_eq_foldl] at spelled
  simp only [digits, taken, digitsOnly, spells.length, if_neg (Nat.not_lt.2 enough),
    List.drop_left' spells.length, Nat.mul_comm _ 10, spelled]

theorem digits_spelled (spells : Text.Spells characters most value) (enough : least ≤ most) :
    digits least most characters = some (value, []) := by
  rw [← List.append_nil characters]
  exact digits_append spells enough

theorem shortNumber_append (spells : Text.Spells characters 2 value) :
    shortNumber (characters ++ rest) = some (value, rest) := by
  rw [shortNumber, spells.trimStart_append (by decide), digits_append spells (by decide)]

theorem digits_append_all (spells : Text.Spells characters width value) (enough : least ≤ width)
    {stop : Char} (rest : List Char) (noDigit : stop.isDigit = false) :
    digits least (characters ++ stop :: rest).length (characters ++ stop :: rest) =
      some (value, stop :: rest) := by
  have taken : (characters ++ stop :: rest).takeWhile Char.isDigit = characters := by
    rw [List.takeWhile_append_of_pos spells.digits, List.takeWhile_cons_of_neg (by simp [noDigit]),
      List.append_nil]
  have spelled := spells.value
  rw [Nat.ofDigitChars_eq_foldl] at spelled
  simp only [digits, List.take_length, taken, spells.length, if_neg (Nat.not_lt.2 enough),
    List.drop_left' spells.length, Nat.mul_comm _ 10, spelled]

theorem signedYear_append (spells : Text.Spells characters 4 value) :
    signedYear (characters ++ rest) = some ((value : Int), rest) := by
  have read : digits 1 4 (characters ++ rest) = some (value, rest) :=
    digits_append spells (by decide)
  rw [signedYear, spells.trimStart_append (by decide)]
  obtain ⟨first, others, rfl, digit⟩ := spells.exists_cons (by decide)
  rw [List.cons_append] at read ⊢
  split
  next same =>
    obtain ⟨rfl, -⟩ := List.cons.inj same
    contradiction
  next same =>
    obtain ⟨rfl, -⟩ := List.cons.inj same
    contradiction
  next => rw [read, Option.map_some]

theorem signedYear_minus (rest : List Char) : signedYear ('-' :: rest) =
    (digits 1 rest.length rest).map fun (year, rest) => (-(year : Int), rest) := rfl

theorem signedYear_plus (rest : List Char) : signedYear ('+' :: rest) =
    (digits 1 rest.length rest).map fun (year, rest) => ((year : Int), rest) := rfl

theorem signedYear_yearText (year : Int) (rest : List Char) :
    signedYear ((Date.yearText year).toList ++ '-' :: rest) = some (year, '-' :: rest) := by
  have plus : "+".toList = ['+'] := rfl
  have minus : "-".toList = ['-'] := rfl
  have all := digits_append_all (Text.spells_padded_max 4 year.natAbs)
    (Nat.le_trans (by decide : 1 ≤ 4) (Nat.le_max_left ..)) rest (rfl : '-'.isDigit = false)
  unfold Date.yearText
  by_cases plain : (0 ≤ year && year ≤ 9999) = true
  · rw [if_pos plain]
    simp only [Bool.and_eq_true, decide_eq_true_eq] at plain
    have bound : year.natAbs < 10000 := by omega
    rw [signedYear_append (Text.spells_padded (by decide) bound), Int.natAbs_of_nonneg plain.1]
  · rw [if_neg plain, String.toList_append, List.append_assoc]
    by_cases negative : year < 0
    · rw [if_pos negative, minus, List.singleton_append, signedYear_minus, all, Option.map_some]
      have same : -(year.natAbs : Int) = year := by omega
      simp only [same]
    · rw [if_neg negative, plus, List.singleton_append, signedYear_plus, all, Option.map_some]
      simp only [Int.natAbs_of_nonneg (Int.not_lt.1 negative)]

theorem fraction_append (spells : Text.Spells characters width value) (positive : 0 < width)
    (bound : width ≤ 9) :
    fraction ('.' :: (characters ++ 'Z' :: rest)) =
      some (Nat.pow 10 (9 - width) * value, 'Z' :: rest) := by
  have taken : (characters ++ 'Z' :: rest).takeWhile Char.isDigit = characters := by
    rw [List.takeWhile_append_of_pos spells.digits, List.takeWhile_cons_of_neg (by decide),
      List.append_nil]
  have inhabited : characters.isEmpty = false := by
    obtain ⟨first, others, rfl, -⟩ := spells.exists_cons positive
    rfl
  have nine := spells.append_zeros (9 - width)
  rw [Nat.add_sub_cancel' bound] at nine
  have read := digits_spelled nine (Nat.le_refl 9)
  have whole : characters.take 9 = characters :=
    List.take_of_length_le (spells.length ▸ bound)
  simp only [fraction, taken, inhabited, Bool.false_eq_true, if_false, spells.length, whole, read,
    Option.map_some, List.drop_left' spells.length]

theorem fraction_fractionText {nanosecond : Nat} (bound : nanosecond < 1000000000) :
    fraction ((TimeOfDay.fractionText nanosecond).toList ++ 'Z' :: rest) =
      some (nanosecond, 'Z' :: rest) := by
  have written : ∀ {width value : Nat}, 0 < width → width ≤ 9 → value < Nat.pow 10 width →
      fraction (("." ++ Text.padded width value).toList ++ 'Z' :: rest) =
        some (Nat.pow 10 (9 - width) * value, 'Z' :: rest) := by
    intro width value positive bound fits
    have point : ".".toList = ['.'] := rfl
    rw [String.toList_append, point]
    exact fraction_append (Text.spells_padded positive fits) positive bound
  unfold TimeOfDay.fractionText
  split
  next zero =>
    subst zero
    rfl
  split
  next =>
    rw [written (by decide) (by decide) (by rw [Nat.pow_eq]; omega), Nat.pow_eq]
    congr 2
    omega
  split
  next =>
    rw [written (by decide) (by decide) (by rw [Nat.pow_eq]; omega), Nat.pow_eq]
    congr 2
    omega
  next =>
    rw [written (by decide) (by decide) (by rw [Nat.pow_eq]; omega), Nat.pow_eq]
    congr 2
    omega

end Time

@[simp] theorem Date.of?_self (date : Date) : of? date.year date.month date.day = some date := by
  simp [of?, date.valid]

theorem Date.exists_yearText (year : Int) :
    ∃ first rest, (yearText year).toList = first :: rest ∧
      ∀ character ∈ first :: rest, character = '-' ∨ character = '+' ∨ character.isDigit = true := by
  have spelled := Text.spells_padded_max 4 year.natAbs
  have digits : ∀ character ∈ (Text.padded 4 year.natAbs).toList,
      character = '-' ∨ character = '+' ∨ character.isDigit = true :=
    fun character member => .inr (.inr (spelled.digits character member))
  have plus : "+".toList = ['+'] := rfl
  have minus : "-".toList = ['-'] := rfl
  unfold yearText
  split
  next =>
    obtain ⟨first, rest, shape, -⟩ := spelled.exists_cons (Nat.lt_of_lt_of_le (by decide)
      (Nat.le_max_left 4 _))
    exact ⟨first, rest, shape, shape ▸ digits⟩
  next =>
    split
    next => exact ⟨'-', _, by rw [String.toList_append, minus]; rfl,
        List.forall_mem_cons.2 ⟨.inl rfl, digits⟩⟩
    next => exact ⟨'+', _, by rw [String.toList_append, plus]; rfl,
        List.forall_mem_cons.2 ⟨.inr (.inl rfl), digits⟩⟩

theorem Date.month_le_day_le (date : Date) : date.month ≤ 12 ∧ date.day ≤ 31 := by
  have valid := date.valid
  simp only [Calendar.isDate, Bool.and_eq_true, decide_eq_true_eq] at valid
  have longest : Calendar.monthLength date.year date.month ≤ 31 := by
    unfold Calendar.monthLength
    split <;> split <;> simp
  omega

namespace TimeOfDay

theorem hour_lt (time : TimeOfDay) : time.hour < 24 := by
  have valid := time.valid
  simp only [isTime, Bool.and_eq_true, decide_eq_true_eq] at valid
  rw [hour]
  omega

theorem exists_reading (time : TimeOfDay) : ∃ second nanosecond,
    second ≤ 60 ∧ nanosecond < 1000000000 ∧
      time.text = Text.padded 2 time.hour ++ ":" ++ Text.padded 2 time.minute ++ ":" ++
        Text.padded 2 second ++ fractionText nanosecond ∧
      of? time.hour time.minute second nanosecond = some time := by
  obtain ⟨total, nanosecond, valid⟩ := time
  have bounds := valid
  simp only [isTime, Bool.and_eq_true, Bool.or_eq_true, decide_eq_true_eq, beq_iff_eq] at bounds
  obtain ⟨withinDay, kind⟩ := bounds
  have hours : total / 3600 < 24 := by omega
  have parts : total / 3600 * 3600 + total / 60 % 60 * 60 + total % 60 = total := by omega
  by_cases leap : 1000000000 ≤ nanosecond
  · have last : total % 60 = 59 := by omega
    refine ⟨total % 60 + 1, nanosecond - 1000000000, by omega, by omega, ?_, ?_⟩
    · simp [text, leap, hour, minute, secondOfMinute]
    · rw [last] at parts ⊢
      have less : nanosecond - 1000000000 < 1000000000 := by omega
      have again : nanosecond - 1000000000 + 1000000000 = nanosecond := by omega
      simp [of?, hour, minute, hours, less, again, parts, valid, Nat.mod_lt]
  · refine ⟨total % 60, nanosecond, by omega, by omega, ?_, ?_⟩
    · simp [text, leap, hour, minute, secondOfMinute]
    · have less : nanosecond < 1000000000 := by omega
      have plain : total % 60 ≠ 60 := by omega
      simp [of?, hour, minute, hours, less, plain, parts, valid, Nat.mod_lt]

end TimeOfDay

namespace Instant

/-- The year is one that is written in four digits, without a sign. -/
def InFourDigits (instant : Instant) : Prop :=
  0 ≤ instant.date.year ∧ instant.date.year ≤ 9999

instance (instant : Instant) : Decidable instant.InFourDigits :=
  inferInstanceAs (Decidable (_ ∧ _))

theorem spells_yearText {instant : Instant} (inFourDigits : instant.InFourDigits) :
    Text.Spells (Date.yearText instant.date.year).toList 4 instant.date.year.natAbs := by
  obtain ⟨nonnegative, most⟩ := inFourDigits
  have plain : Date.yearText instant.date.year = Text.padded 4 instant.date.year.natAbs := by
    simp [Date.yearText, nonnegative, most]
  have bound : instant.date.year.natAbs < 10000 := by omega
  rw [plain]
  exact Text.spells_padded (by decide) bound

theorem exists_parts (instant : Instant) :
    ∃ month day hour minute second nanosecond characters,
      Text.Spells month 2 instant.date.month ∧ Text.Spells day 2 instant.date.day ∧
      Text.Spells hour 2 instant.time.hour ∧ Text.Spells minute 2 instant.time.minute ∧
      Text.Spells characters 2 second ∧ nanosecond < 1000000000 ∧
      TimeOfDay.of? instant.time.hour instant.time.minute second nanosecond = some instant.time ∧
      instant.text.toList = (Date.yearText instant.date.year).toList ++ '-' :: (month ++ '-' ::
        (day ++ 'T' :: (hour ++ ':' :: (minute ++ ':' :: (characters ++
          ((TimeOfDay.fractionText nanosecond).toList ++ ['Z'])))))) := by
  obtain ⟨second, nanosecond, minuteBound, fractionBound, written, reading⟩ :=
    instant.time.exists_reading
  obtain ⟨months, days⟩ := instant.date.month_le_day_le
  have hours := instant.time.hour_lt
  have minutes : instant.time.minute < 60 := Nat.mod_lt _ (by decide)
  have two : ∀ {value : Nat}, value < 100 → Text.Spells (Text.padded 2 value).toList 2 value :=
    fun bound => Text.spells_padded (by decide) bound
  refine ⟨_, _, _, _, second, nanosecond, _, two (by omega), two (by omega), two (by omega),
    two (by omega), two (by omega), fractionBound, reading, ?_⟩
  have zone : "Z".toList = ['Z'] := rfl
  have dash : "-".toList = ['-'] := rfl
  have colon : ":".toList = [':'] := rfl
  have divider : "T".toList = ['T'] := rfl
  simp only [text, zoned, Date.text, written, String.toList_append, zone, dash, colon, divider,
    List.append_assoc, List.cons_append, List.nil_append]

@[simp] theorem ofLocal?_zero (instant : Instant) :
    ofLocal? instant.date instant.time 0 = some instant := by
  have valid := instant.time.valid
  have within := valid
  simp only [TimeOfDay.isTime, Bool.and_eq_true, decide_eq_true_eq] at within
  have same : ((instant.time.second : Int) % 86400).toNat = instant.time.second := by omega
  have early : ¬(instant.time.second : Int) < 0 := by omega
  have late : ¬86400 ≤ (instant.time.second : Int) := by omega
  simp [ofLocal?, same, early, late, valid]

end Instant

namespace Time

open Instant

variable {instant : Instant}

theorem bind_of_eq {α β : Type} {step : Option α} {result : α} {next : α → Option β}
    (same : step = some result) : (step >>= next) = next result := by
  rw [same]
  rfl

@[simp] theorem exactly_cons (expected : Char) (rest : List Char) :
    exactly expected (expected :: rest) = some ((), rest) :=
  if_pos rfl

@[simp] theorem zoned?_text (inFourDigits : instant.InFourDigits) :
    zoned? instant.text.toList = some instant := by
  obtain ⟨month, day, hour, minute, second, nanosecond, characters, monthSpelled, daySpelled,
    hourSpelled, minuteSpelled, secondSpelled, fractionBound, reading, shape⟩ :=
      instant.exists_parts
  have date : Date.of? (instant.date.year.natAbs : Int) instant.date.month instant.date.day =
      some instant.date := by
    rw [Int.natAbs_of_nonneg inFourDigits.1, Date.of?_self]
  rw [shape]
  refine (congrArg ended (?_ : _ = some (instant, []))).trans rfl
  refine (bind_of_eq (digits_append (spells_yearText inFourDigits) (Nat.le_refl 4))).trans ?_
  refine (bind_of_eq (exactly_cons '-' _)).trans ?_
  refine (bind_of_eq (digits_append monthSpelled (Nat.le_refl 2))).trans ?_
  refine (bind_of_eq (exactly_cons '-' _)).trans ?_
  refine (bind_of_eq (digits_append daySpelled (Nat.le_refl 2))).trans ?_
  refine (bind_of_eq (rfl : divider ('T' :: _) = some ((), _))).trans ?_
  refine (bind_of_eq (digits_append hourSpelled (Nat.le_refl 2))).trans ?_
  refine (bind_of_eq (exactly_cons ':' _)).trans ?_
  refine (bind_of_eq (digits_append minuteSpelled (Nat.le_refl 2))).trans ?_
  refine (bind_of_eq (exactly_cons ':' _)).trans ?_
  refine (bind_of_eq (digits_append secondSpelled (Nat.le_refl 2))).trans ?_
  refine (bind_of_eq (fraction_fractionText fractionBound)).trans ?_
  refine (bind_of_eq (rfl : zone _ ['Z'] = some (0, []))).trans ?_
  refine (bind_of_eq date).trans ?_
  refine (bind_of_eq reading).trans ?_
  exact bind_of_eq (ofLocal?_zero instant)

theorem lenient?_text (instant : Instant) : lenient? instant.text.toList = some instant := by
  obtain ⟨month, day, hour, minute, second, nanosecond, characters, monthSpelled, daySpelled,
    hourSpelled, minuteSpelled, secondSpelled, fractionBound, reading, shape⟩ :=
      instant.exists_parts
  have notUtc : String.ofList ((['Z'].take 3).map Char.toUpper) ≠ "UTC" := by decide
  rw [shape]
  refine (congrArg ended (?_ : _ = some (instant, []))).trans rfl
  refine (bind_of_eq (signedYear_yearText _ _)).trans ?_
  refine (bind_of_eq (exactly_cons '-' _)).trans ?_
  refine (bind_of_eq (shortNumber_append monthSpelled)).trans ?_
  refine (bind_of_eq (exactly_cons '-' _)).trans ?_
  refine (bind_of_eq (shortNumber_append daySpelled)).trans ?_
  refine (bind_of_eq (rfl : divider ('T' :: _) = some ((), _))).trans ?_
  refine (bind_of_eq (shortNumber_append hourSpelled)).trans ?_
  refine (bind_of_eq (exactly_cons ':' _)).trans ?_
  refine (bind_of_eq (shortNumber_append minuteSpelled)).trans ?_
  refine (bind_of_eq (exactly_cons ':' _)).trans ?_
  refine (bind_of_eq (shortNumber_append secondSpelled)).trans ?_
  refine (bind_of_eq (fraction_fractionText fractionBound)).trans ?_
  refine (if_neg notUtc).trans ?_
  refine (bind_of_eq (rfl : zone _ ['Z'] = some (0, []))).trans ?_
  refine (bind_of_eq (Date.of?_self instant.date)).trans ?_
  refine (bind_of_eq reading).trans ?_
  exact bind_of_eq (ofLocal?_zero instant)

end Time

namespace Instant

variable {instant : Instant}

@[simp]
theorem trim_text (instant : Instant) : Text.trim instant.text.toList = instant.text.toList := by
  obtain ⟨month, day, hour, minute, second, nanosecond, characters, -, -, -, -, -, -, -, shape⟩ :=
    instant.exists_parts
  obtain ⟨first, rest, year, signedDigits⟩ := Date.exists_yearText instant.date.year
  have start : Text.trimStart instant.text.toList = instant.text.toList := by
    have notBlank : Text.isBlank first = false := by
      rcases signedDigits first List.mem_cons_self with rfl | rfl | digit
      · rfl
      · rfl
      · exact Text.isBlank_of_isDigit digit
    rw [shape, year, List.cons_append, Text.trimStart, List.dropWhile_cons, notBlank]
    rfl
  have zone : "Z".toList = ['Z'] := rfl
  have notBlank : Text.isBlank 'Z' = false := rfl
  rw [Text.trim, start, text, zoned, String.toList_append, zone, Text.trimEnd, List.reverse_append,
    List.reverse_singleton, List.singleton_append, List.dropWhile_cons, notBlank]
  simp

@[simp] theorem ofText?_text (inFourDigits : instant.InFourDigits) :
    ofText? instant.text = some instant := by
  simp only [ofText?, trim_text, Time.zoned?_text inFourDigits]

theorem slash_not_mem_text (instant : Instant) : '/' ∉ instant.text.toList := by
  obtain ⟨month, day, hour, minute, second, nanosecond, characters, monthSpelled, daySpelled,
    hourSpelled, minuteSpelled, secondSpelled, fractionBound, -, shape⟩ := instant.exists_parts
  have fraction : '/' ∉ (TimeOfDay.fractionText nanosecond).toList := by
    have point : ".".toList = ['.'] := rfl
    have written : ∀ {width value : Nat}, 0 < width → value < Nat.pow 10 width →
        '/' ∉ ("." ++ Text.padded width value).toList := by
      intro width value positive fits
      rw [String.toList_append, point, List.singleton_append, List.mem_cons, not_or]
      exact ⟨by decide, (Text.spells_padded positive fits).not_mem rfl⟩
    unfold TimeOfDay.fractionText
    split
    · exact List.not_mem_nil
    split
    · exact written (by decide) (by rw [Nat.pow_eq]; omega)
    split <;> exact written (by decide) (by rw [Nat.pow_eq]; omega)
  have year : '/' ∉ (Date.yearText instant.date.year).toList := by
    obtain ⟨first, rest, written, signedDigits⟩ := Date.exists_yearText instant.date.year
    intro member
    rw [written] at member
    rcases signedDigits _ member with same | same | digit <;> contradiction
  rw [shape]
  simp [year, monthSpelled.not_mem, daySpelled.not_mem,
    hourSpelled.not_mem, minuteSpelled.not_mem, secondSpelled.not_mem, fraction]

end Instant

namespace Interval

def instants (interval : Interval) : List Instant :=
  [interval.start, interval.stop]

theorem splitFirst_text (interval : Interval) : Text.splitFirst '/' interval.text.toList =
    some (interval.start.text.toList, interval.stop.text.toList) := by
  have slash : "/".toList = ['/'] := rfl
  rw [text, String.toList_append, String.toList_append, slash, List.append_assoc]
  exact Text.splitFirst_append (Instant.slash_not_mem_text _)

@[simp] theorem ofText_text {interval : Interval}
    (inFourDigits : ∀ instant ∈ interval.instants, instant.InFourDigits) :
    ofText interval.text = .ok interval := by
  obtain ⟨start, stop⟩ : interval.start.InFourDigits ∧ interval.stop.InFourDigits := by
    simpa [instants] using inFourDigits
  have made : make interval.start interval.stop = .ok interval := dif_pos interval.ordered
  simp only [ofText, splitFirst_text, String.ofList_toList, Instant.ofText,
    Instant.ofText?_text start, Instant.ofText?_text stop]
  exact made

end Interval

namespace TimeSpan

def instants : TimeSpan → List Instant
  | instant time => [time]
  | interval span => span.instants

theorem contains_slash_text (time : TimeSpan) :
    time.text.toList.contains '/' = match time with
      | instant _ => false
      | interval _ => true := by
  cases time with
  | instant time => simpa [text] using Instant.slash_not_mem_text time
  | interval span =>
    have slash : "/".toList = ['/'] := rfl
    simp [text, Interval.text, String.toList_append, slash]

@[simp] theorem ofText_text {time : TimeSpan}
    (inFourDigits : ∀ instant ∈ time.instants, instant.InFourDigits) :
    ofText time.text = .ok time := by
  rw [ofText, contains_slash_text]
  cases time with
  | instant time =>
    have alone : time.InFourDigits := inFourDigits time List.mem_cons_self
    simp only [text, Instant.ofText, Instant.ofText?_text alone]
    rfl
  | interval span =>
    simp only [text, Interval.ofText_text inFourDigits]
    rfl

end TimeSpan

end SensorThings
