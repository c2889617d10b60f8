import SensorThings.Json.Reader

/-!
Numbers in JSON values. An integer that is read from a text fits 64 bits, with or without sign, and
a double is finite; numbers that would lie beyond are read otherwise or refused.
-/
namespace SensorThings.Json

mutual

/-- All numbers in a value are those of JSON texts: integers that fit 64 bits, with or without
sign, and finite doubles. -/
def numbersFit : Json → Bool
  | .int value => decide (-(Nat.pow 2 63) ≤ value) && decide (value < Nat.pow 2 64)
  | .float value => Binary64.isFinite value
  | .array items => itemsFit items
  | .object members => membersFit members
  | _ => true

def itemsFit : List Json → Bool
  | [] => true
  | item :: rest => numbersFit item && itemsFit rest

def membersFit : List (String × Json) → Bool
  | [] => true
  | (_, value) :: rest => numbersFit value && membersFit rest

end

@[simp] theorem numbersFit_int_iff {value : Int} :
    (int value).numbersFit = true ↔
      -9223372036854775808 ≤ value ∧ value < 18446744073709551616 := by
  have least : Nat.pow 2 63 = 9223372036854775808 := by decide
  have most : Nat.pow 2 64 = 18446744073709551616 := by decide
  rw [numbersFit, Bool.and_eq_true, decide_eq_true_eq, decide_eq_true_eq, least, most]
  rfl

@[simp] theorem itemsFit_iff {items : List Json} :
    itemsFit items = true ↔ ∀ item ∈ items, item.numbersFit = true := by
  induction items with
  | nil => simp [itemsFit]
  | cons item rest ih => rw [itemsFit, Bool.and_eq_true, ih, List.forall_mem_cons]

@[simp] theorem membersFit_iff {members : List (String × Json)} :
    membersFit members = true ↔ ∀ member ∈ members, member.2.numbersFit = true := by
  induction members with
  | nil => simp [membersFit]
  | cons member rest ih => rw [membersFit, Bool.and_eq_true, ih, List.forall_mem_cons]

variable {json value : Json} {key : String}

theorem numbersFit_of_lookup {members : List (String × Json)} (fits : membersFit members = true)
    (found : members.lookup key = some value) : value.numbersFit = true := by
  induction members with
  | nil => contradiction
  | cons member rest ih =>
    obtain ⟨other, first⟩ := member
    rw [membersFit, Bool.and_eq_true] at fits
    rw [List.lookup_cons] at found
    split at found
    · exact Option.some.inj found ▸ fits.1
    · exact ih fits.2 found

theorem numbersFit_of_member? (fits : json.numbersFit = true)
    (found : json.member? key = some value) : value.numbersFit = true := by
  cases json with
  | object members =>
    rw [numbersFit] at fits
    exact numbersFit_of_lookup fits found
  | _ => contradiction

theorem membersFit_insertMember {members : List (String × Json)}
    (fits : membersFit members = true) (valueFits : value.numbersFit = true) :
    membersFit (insertMember key value members) = true := by
  induction members with
  | nil => simp [insertMember, membersFit, valueFits]
  | cons member rest ih =>
    obtain ⟨other, old⟩ := member
    have parts := fits
    rw [membersFit, Bool.and_eq_true] at parts
    rw [insertMember]
    split
    · simp [membersFit, valueFits, parts]
    split
    · simp [membersFit, valueFits, parts]
    · simp [membersFit, parts, ih parts.2]

@[simp]
theorem numbersFit_ofMembers {members : List (String × Json)} (fits : membersFit members = true) :
    (ofMembers members).numbersFit = true := by
  have inserted : ∀ sorted : List (String × Json), membersFit sorted = true →
      membersFit
        (members.foldl (fun sorted member => insertMember member.1 member.2 sorted) sorted) =
        true := by
    induction members with
    | nil => exact fun _ sortedFits => sortedFits
    | cons member rest ih =>
      rw [membersFit, Bool.and_eq_true] at fits
      exact fun sorted sortedFits =>
        ih fits.2 _ (membersFit_insertMember sortedFits fits.1)
  rw [ofMembers_eq, numbersFit]
  exact inserted [] rfl

/-! Reading. -/

theorem numbersFit_of_signedFloat? {negative : Bool} {double : Float}
    (read : signedFloat? negative double = some json) : json.numbersFit = true := by
  unfold signedFloat? at read
  simp only [Option.ite_none_right_eq_some, Option.some.injEq] at read
  obtain ⟨finite, rfl⟩ := read
  exact finite

theorem numbersFit_of_wholeNumber? {negative : Bool} {digits : List Char}
    (read : wholeNumber? negative digits = some json) : json.numbersFit = true := by
  simp only [wholeNumber?] at read
  split at read
  · split at read
    next bounds =>
      have most : Nat.pow 2 63 = 9223372036854775808 := by decide
      rw [Bool.and_eq_true, decide_eq_true_eq, decide_eq_true_eq, most] at bounds
      obtain rfl := Option.some.inj read
      rw [numbersFit_int_iff]
      omega
    next =>
      obtain ⟨double, -, signed⟩ := Option.bind_eq_some_iff.1 read
      exact numbersFit_of_signedFloat? signed
  · split at read
    next bound =>
      have most : Text.maxUnsigned = 18446744073709551615 := by decide
      obtain rfl := Option.some.inj read
      rw [numbersFit_int_iff]
      omega
    next =>
      obtain ⟨double, -, signed⟩ := Option.bind_eq_some_iff.1 read
      exact numbersFit_of_signedFloat? signed

theorem numbersFit_of_scaledNumber? {negative : Bool} {significand : Significand}
    {characters rest : List Char}
    (read : scaledNumber? negative significand characters = some (json, rest)) :
    json.numbersFit = true := by
  simp only [scaledNumber?, Option.bind_eq_bind, Option.bind_eq_some_iff] at read
  obtain ⟨exponent, -, double, -, number, signed, same⟩ := read
  obtain ⟨rfl, -⟩ := Prod.mk.inj (Option.some.inj same)
  exact numbersFit_of_signedFloat? signed

theorem numbersFit_of_numberEnd? {negative plain : Bool} {whole characters rest : List Char}
    {significand : Significand}
    (read : numberEnd? negative plain whole significand characters = some (json, rest)) :
    json.numbersFit = true := by
  unfold numberEnd? at read
  split at read
  · exact numbersFit_of_scaledNumber? read
  · exact numbersFit_of_scaledNumber? read
  split at read
  · obtain ⟨number, wholeRead, same⟩ := Option.map_eq_some_iff.1 read
    obtain ⟨rfl, -⟩ := Prod.mk.inj same
    exact numbersFit_of_wholeNumber? wholeRead
  · obtain ⟨number, scaledRead, same⟩ := Option.map_eq_some_iff.1 read
    obtain ⟨rfl, -⟩ := Prod.mk.inj same
    obtain ⟨double, -, signed⟩ := Option.bind_eq_some_iff.1 scaledRead
    exact numbersFit_of_signedFloat? signed

theorem numbersFit_of_number? {characters rest : List Char}
    (read : number? characters = some (json, rest)) : json.numbersFit = true := by
  have unsigned : ∀ {negative characters},
      unsignedNumber? negative characters = some (json, rest) → json.numbersFit = true := by
    intro negative characters read
    simp only [unsignedNumber?] at read
    split at read
    · contradiction
    split at read
    · split at read
      · contradiction
      · exact numbersFit_of_numberEnd? read
    · exact numbersFit_of_numberEnd? read
  unfold number? at read
  split at read <;> exact unsigned read

mutual

theorem numbersFit_of_readValue {depth : Nat} : (fuel : Nat) → {characters : List Char} →
    {json : Json} → {rest : List Char} → readValue depth fuel characters = some (json, rest) →
    json.numbersFit = true
  | 0, _, _, _, read => by
    rw [readValue] at read
    contradiction
  | fuel + 1, _, json, _, read => by
    rw [readValue] at read
    split at read
    · obtain ⟨rfl, -⟩ := Prod.mk.inj (Option.some.inj read)
      rfl
    · obtain ⟨rfl, -⟩ := Prod.mk.inj (Option.some.inj read)
      rfl
    · obtain ⟨rfl, -⟩ := Prod.mk.inj (Option.some.inj read)
      rfl
    · obtain ⟨text, -, same⟩ := Option.map_eq_some_iff.1 read
      obtain ⟨rfl, -⟩ := Prod.mk.inj same
      rfl
    · split at read
      · contradiction
      split at read
      · obtain ⟨rfl, -⟩ := Prod.mk.inj (Option.some.inj read)
        rfl
      · exact numbersFit_of_readItems fuel rfl read
    · split at read
      · contradiction
      split at read
      · obtain ⟨rfl, -⟩ := Prod.mk.inj (Option.some.inj read)
        rfl
      · exact numbersFit_of_readMembers fuel rfl read
    · exact numbersFit_of_number? read

theorem numbersFit_of_readItems {depth : Nat} {reversed : List Json} : (fuel : Nat) →
    {characters : List Char} → {json : Json} → {rest : List Char} → itemsFit reversed = true →
    readItems depth reversed fuel characters = some (json, rest) → json.numbersFit = true
  | 0, _, _, _, _, read => by
    rw [readItems] at read
    contradiction
  | fuel + 1, _, json, _, fits, read => by
    rw [readItems] at read
    split at read
    · contradiction
    next item rest itemRead =>
      have longer : itemsFit (item :: reversed) = true := by
        rw [itemsFit, Bool.and_eq_true]
        exact ⟨numbersFit_of_readValue fuel itemRead, fits⟩
      split at read
      · exact numbersFit_of_readItems fuel longer read
      · obtain ⟨rfl, -⟩ := Prod.mk.inj (Option.some.inj read)
        rw [numbersFit, itemsFit_iff]
        intro found member
        exact itemsFit_iff.1 longer found (List.mem_reverse.1 member)
      · contradiction

theorem numbersFit_of_readMembers {depth : Nat} {reversed : List (String × Json)} :
    (fuel : Nat) → {characters : List Char} → {json : Json} → {rest : List Char} →
    membersFit reversed = true → readMembers depth reversed fuel characters = some (json, rest) →
    json.numbersFit = true
  | 0, _, _, _, _, read => by
    rw [readMembers] at read
    contradiction
  | fuel + 1, _, json, _, fits, read => by
    rw [readMembers] at read
    split at read
    next =>
      split at read
      · contradiction
      split at read
      next key _ _ _ _ _ =>
        split at read
        · contradiction
        next item rest itemRead =>
          have longer : membersFit ((key, item) :: reversed) = true := by
            rw [membersFit, Bool.and_eq_true]
            exact ⟨numbersFit_of_readValue fuel itemRead, fits⟩
          split at read
          · exact numbersFit_of_readMembers fuel longer read
          · obtain ⟨rfl, -⟩ := Prod.mk.inj (Option.some.inj read)
            apply numbersFit_ofMembers
            rw [membersFit_iff]
            intro found member
            exact membersFit_iff.1 longer found (List.mem_reverse.1 member)
          · contradiction
      · contradiction
    · contradiction

end

theorem numbersFit_of_ofText? {text : String} (read : ofText? text = some json) :
    json.numbersFit = true := by
  simp only [ofText?, read?] at read
  split at read
  next body rest bodyRead =>
    split at read
    · exact Option.some.inj read ▸ numbersFit_of_readValue _ bodyRead
    · contradiction
  next => contradiction

end SensorThings.Json
