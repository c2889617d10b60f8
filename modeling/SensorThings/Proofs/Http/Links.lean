import SensorThings.Http.Address
import SensorThings.Http.Listing
import SensorThings.Proofs.Http.Parameters
import SensorThings.Proofs.Text.Octets
import SensorThings.Proofs.Text.Split

/-!
Links to pages as requests. Such a link escapes blanks alone, so it asks for what it was written for
where no other character has a meaning of its own in an address.
-/
namespace SensorThings

namespace Address

/-- No character of a text has a meaning of its own in a query. -/
structure IsPlain (text : List Char) : Prop where
  undivided : '&' ∉ text
  unended : '#' ∉ text
  unblanked : '+' ∉ text
  literal : Text.IsLiteral text

/-- A parameter that can be written as it is, but for blanks in its value. -/
structure IsPlainParameter (parameter : String × String) : Prop where
  name : IsPlain parameter.1.toList
  undivided : '=' ∉ parameter.1.toList
  value : IsPlain parameter.2.toList

/-- No character of a path has a meaning of its own there. -/
structure IsPlainPath (path : String) : Prop where
  undivided : '?' ∉ path.toList
  unended : '#' ∉ path.toList
  literal : Text.IsLiteral path.toList

theorem isPlain_of_not_mem {text : List Char}
    (free : '&' ∉ text ∧ '#' ∉ text ∧ '+' ∉ text ∧ '%' ∉ text) : IsPlain text :=
  ⟨free.1, free.2.1, free.2.2.1, Text.isLiteral_of_not_mem free.2.2.2⟩

@[simp] theorem unescaped_of_isPlain {text : String} (plain : IsPlain text.toList) :
    unescaped text.toList = text := by
  rw [unescaped, Text.replaceChar_of_not_mem plain.unblanked,
    Text.octets_of_isLiteral plain.literal, Text.ofOctets_encoded, String.ofList_toList]

@[simp] theorem unescaped_replaceChar {text : String} (plain : IsPlain text.toList) :
    unescaped (Text.replaceChar ' ' ['%', '2', '0'] text.toList) = text := by
  have free : '+' ∉ Text.replaceChar ' ' ['%', '2', '0'] text.toList := fun member =>
    (Text.mem_replaceChar member).elim (by decide) plain.unblanked
  rw [unescaped, Text.replaceChar_of_not_mem free, Text.octets_replaceChar plain.literal,
    Text.ofOctets_encoded, String.ofList_toList]

theorem toList_parameterText (name value : String) :
    (parameterText name value).toList =
      name.toList ++ '=' :: Text.replaceChar ' ' ['%', '2', '0'] value.toList := by
  simp [parameterText]

@[simp] theorem parameter_parameterText {pair : String × String} (plain : IsPlainParameter pair) :
    parameter (parameterText pair.1 pair.2).toList = pair := by
  rw [toList_parameterText, parameter, Text.splitFirst_append plain.undivided]
  exact Prod.ext (unescaped_of_isPlain plain.name) (unescaped_replaceChar plain.value)

theorem not_mem_parameterText {pair : String × String} (plain : IsPlainParameter pair) :
    '&' ∉ (parameterText pair.1 pair.2).toList ∧ '#' ∉ (parameterText pair.1 pair.2).toList := by
  rw [toList_parameterText, List.mem_append, List.mem_append, List.mem_cons, List.mem_cons]
  refine ⟨not_or.2 ⟨plain.name.undivided, not_or.2 ⟨by decide, fun member => ?_⟩⟩,
    not_or.2 ⟨plain.name.unended, not_or.2 ⟨by decide, fun member => ?_⟩⟩⟩
  · exact (Text.mem_replaceChar member).elim (by decide) plain.value.undivided
  · exact (Text.mem_replaceChar member).elim (by decide) plain.value.unended

theorem latest_of_nodup {parameters : List (String × String)}
    (distinct : (parameters.map Prod.fst).Nodup) : latest parameters = parameters := by
  induction parameters with
  | nil => rfl
  | cons parameter rest ih =>
    obtain ⟨name, value⟩ := parameter
    rw [List.map_cons, List.nodup_cons] at distinct
    have absent : ¬rest.any (·.1 == name) = true := by
      rw [List.any_eq_true]
      rintro ⟨other, member, same⟩
      exact distinct.1 (List.mem_map.2 ⟨other, member, beq_iff_eq.1 same⟩)
    rw [latest, if_neg absent, ih distinct.2]

def written (pairs : List (String × String)) : String :=
  "&".intercalate (pairs.map fun pair => parameterText pair.1 pair.2)

theorem toList_written (pairs : List (String × String)) :
    (written pairs).toList =
      Text.join ['&'] (pairs.map fun pair => (parameterText pair.1 pair.2).toList) := by
  rw [written, String.toList_intercalate, ← Text.join_eq_intercalate, List.map_map]
  rfl

theorem not_mem_written {pairs : List (String × String)}
    (plain : ∀ pair ∈ pairs, IsPlainParameter pair) : '#' ∉ (written pairs).toList := by
  rw [toList_written]
  intro member
  rcases Text.mem_join member with between | ⟨piece, listed, inside⟩
  · contradiction
  · obtain ⟨pair, known, rfl⟩ := List.mem_map.1 listed
    exact (not_mem_parameterText (plain pair known)).2 inside

theorem parameters_written {pairs : List (String × String)} (inhabited : pairs ≠ [])
    (plain : ∀ pair ∈ pairs, IsPlainParameter pair) (distinct : (pairs.map Prod.fst).Nodup) :
    parameters (written pairs).toList = pairs := by
  have pieces : Text.splitAt '&' (written pairs).toList =
      pairs.map fun pair => (parameterText pair.1 pair.2).toList := by
    rw [toList_written, Text.splitAt_join (mt List.map_eq_nil_iff.1 inhabited)]
    rw [List.forall_mem_map]
    exact fun pair member => (not_mem_parameterText (plain pair member)).1
  have named : ∀ piece ∈ pairs.map fun pair => (parameterText pair.1 pair.2).toList,
      decide (piece ≠ []) = true := by
    rw [List.forall_mem_map]
    intro pair _
    rw [toList_parameterText]
    simp
  have read : (pairs.map fun pair => (parameterText pair.1 pair.2).toList).map parameter =
      pairs := by
    rw [List.map_map]
    exact (List.map_congr_left fun pair member =>
      parameter_parameterText (plain pair member)).trans (List.map_id _)
  rw [parameters, pieces, List.filter_eq_self.2 named, read, latest_of_nodup distinct]

-- An ampersand in a value is taken for the end of it.
example : parameters (written [("$orderby", "a&b")]).toList = [("$orderby", "a"), ("b", "")] := by
  cbv

theorem request?_append {base path query : String} (plain : IsPlainPath path)
    (unended : '#' ∉ query.toList) :
    request? base (base ++ "/" ++ path ++ "?" ++ query) =
      some (path, parameters query.toList) := by
  have whole : (base ++ "/" ++ path ++ "?" ++ query).toList =
      (base.toList ++ ['/']) ++ (path.toList ++ '?' :: query.toList) := by
    simp
  have kept : (path.toList ++ '?' :: query.toList).takeWhile (· ≠ '#') =
      path.toList ++ '?' :: query.toList := by
    rw [List.takeWhile_eq_self_iff]
    intro character member
    rw [decide_eq_true_eq]
    rintro rfl
    rcases List.mem_append.1 member with inPath | inQuery
    · exact plain.unended inPath
    · exact unended ((List.mem_cons.1 inQuery).resolve_left (by decide))
  have below : below? base (base ++ "/" ++ path ++ "?" ++ query) =
      some (path.toList ++ '?' :: query.toList) := by
    rw [below?, whole, if_pos (List.isPrefixOf_iff_prefix.2 (List.prefix_append ..)),
      List.drop_left,
      kept]
  rw [request?, below]
  simp only [Option.bind_eq_bind, Option.bind_some, Text.splitFirst_append plain.undivided,
    Option.getD_some, Text.octets_of_isLiteral plain.literal, Text.ofOctets?_encoded,
    String.ofList_toList]
  rfl

def turned (parameters : List (String × String)) (top skip : Nat) : List (String × String) :=
  (QueryOptions.unpaged parameters).mergeSort (fun left right =>
    decide (parameterText left.1 left.2 ≤ parameterText right.1 right.2)) ++
    [("$top", toString top), ("$skip", toString skip)]

theorem not_mem_toString (number : Nat) {character : Char}
    (other : character.isDigit = false) : character ∉ (toString number).toList := by
  rw [Nat.toString_eq_repr, Nat.toList_repr]
  intro member
  rw [Nat.isDigit_of_mem_toDigits (by decide) (by decide) member] at other
  contradiction

theorem isPlain_toString (number : Nat) : IsPlain (toString number).toList :=
  isPlain_of_not_mem ⟨not_mem_toString number rfl, not_mem_toString number rfl,
    not_mem_toString number rfl, not_mem_toString number rfl⟩

theorem parameterText_toString (name : String) (number : Nat) :
    parameterText name (toString number) = name ++ "=" ++ toString number := by
  rw [parameterText, Text.replaceChar_of_not_mem (not_mem_toString number rfl),
    String.ofList_toList]

theorem pageLink_eq (base path : String) (parameters : List (String × String)) (top skip : Nat) :
    pageLink base path parameters top skip =
      base ++ "/" ++ path ++ "?" ++ written (turned parameters top skip) := by
  have sorted := List.map_mergeSort
    (f := fun pair : String × String => parameterText pair.1 pair.2)
    (l := QueryOptions.unpaged parameters)
    (r := fun left right => decide (parameterText left.1 left.2 ≤ parameterText right.1 right.2))
    (s := fun left right => decide (left ≤ right)) (by intro left _ right _; rfl)
  rw [written, turned, List.map_append, sorted, List.map_cons, List.map_cons, List.map_nil,
    parameterText_toString, parameterText_toString]
  rfl

section

variable {parameters : List (String × String)} {top skip : Nat}

theorem turned_perm : (QueryOptions.unpaged parameters).Perm
    ((QueryOptions.unpaged parameters).mergeSort fun left right =>
      decide (parameterText left.1 left.2 ≤ parameterText right.1 right.2)) :=
  (List.mergeSort_perm ..).symm

theorem plain_turned (plain : ∀ pair ∈ parameters, IsPlainParameter pair) :
    ∀ pair ∈ turned parameters top skip, IsPlainParameter pair := by
  have counted {name : String} (isPlain : IsPlain name.toList) (undivided : '=' ∉ name.toList)
      (number : Nat) : IsPlainParameter (name, toString number) :=
    ⟨isPlain, undivided, isPlain_toString number⟩
  rw [turned, List.forall_mem_append]
  constructor
  · intro pair member
    exact plain pair (List.mem_filter.1 (turned_perm.mem_iff.2 member)).1
  · exact List.forall_mem_cons.2 ⟨counted (isPlain_of_not_mem (by decide)) (by decide) top,
      List.forall_mem_singleton.2 (counted (isPlain_of_not_mem (by decide)) (by decide) skip)⟩

theorem nodup_turned (distinct : (parameters.map Prod.fst).Nodup) :
    ((turned parameters top skip).map Prod.fst).Nodup := by
  have others : ((QueryOptions.unpaged parameters).map Prod.fst).Nodup :=
    distinct.sublist (List.filter_sublist.map Prod.fst)
  have unpaged : ∀ name ∈ (QueryOptions.unpaged parameters).map Prod.fst,
      name ≠ "$top" ∧ name ≠ "$skip" := by
    rw [List.forall_mem_map]
    intro pair member
    simpa using (List.mem_filter.1 member).2
  rw [turned, List.map_append, List.nodup_append]
  refine ⟨(turned_perm.map Prod.fst).nodup_iff.1 others,
    (by decide : ["$top", "$skip"].Nodup), fun name member other given => ?_⟩
  obtain ⟨notTop, notSkip⟩ := unpaged name ((turned_perm.map Prod.fst).mem_iff.2 member)
  rw [List.map_cons, List.map_singleton, List.mem_pair] at given
  rintro rfl
  exact given.elim notTop notSkip

theorem request?_pageLink {base path : String} (plainPath : IsPlainPath path)
    (plain : ∀ pair ∈ parameters, IsPlainParameter pair)
    (distinct : (parameters.map Prod.fst).Nodup) :
    request? base (pageLink base path parameters top skip) =
      some (path, turned parameters top skip) := by
  have plainTurned : ∀ pair ∈ turned parameters top skip, IsPlainParameter pair :=
    plain_turned plain
  have inhabited : turned parameters top skip ≠ [] := List.append_ne_nil_of_right_ne_nil _ nofun
  rw [pageLink_eq, request?_append plainPath (not_mem_written plainTurned),
    parameters_written inhabited plainTurned (nodup_turned distinct)]

theorem ofParameters_turned {options : QueryOptions}
    (accepted : QueryOptions.ofParameters parameters = .ok options)
    (distinct : (parameters.map Prod.fst).Nodup) (topFits : top ≤ Text.maxUnsigned)
    (skipFits : skip ≤ Text.maxUnsigned) :
    QueryOptions.ofParameters (turned parameters top skip) =
      .ok (options.onPage (some top) (some skip)) :=
  QueryOptions.ofParameters_onPage accepted distinct turned_perm topFits skipFits

end

end Address

end SensorThings
