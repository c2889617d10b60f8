import SensorThings.Change.Request
import SensorThings.Http.Representation
import SensorThings.Http.Resource
import SensorThings.Proofs.Json.Members
import SensorThings.Proofs.Store.View
import SensorThings.Proofs.Text.Digits
import SensorThings.Proofs.Text.Split
import SensorThings.Store.Navigation

/-!
The links of an entity as resource paths. A link leads back to the entity, or to what relates to it,
when its identifier is one segment of a path: neither empty nor divided by a slash. Quotes,
parentheses, signs and digits in it do no harm.
-/
namespace SensorThings

namespace EntityId

/-- Identifiers that are one segment of a path. -/
def IsAddressable (id : EntityId) : Prop :=
  id.text ≠ "" ∧ '/' ∉ id.text.toList

instance : DecidablePred IsAddressable := fun _ =>
  inferInstanceAs (Decidable (_ ∧ _))

/-- What stands for an identifier between the parentheses of an address. -/
def shown (id : EntityId) : List Char :=
  if (Text.signed? id.text.toList).isSome then id.text.toList
  else '\'' :: (id.text.toList ++ ['\''])

@[simp] theorem unquoted_shown (id : EntityId) : Resource.unquoted id.shown = id.text.toList := by
  rw [shown]
  split
  next number =>
    have spelled := Text.signed?_characters number
    unfold Resource.unquoted
    split
    next rest quoted =>
      have quote := spelled '\'' (quoted ▸ List.mem_cons_self)
      simp at quote
    next => rfl
  next => simp [Resource.unquoted, Resource.dropLast?]

theorem count_slash_shown (id : EntityId) : id.shown.count '/' = id.text.toList.count '/' := by
  rw [shown]
  split
  next => rfl
  next => simp

end EntityId

namespace EntityKind

def segment (kind : EntityKind) (id : EntityId) : List Char :=
  kind.addressName.toList ++ '(' :: (id.shown ++ [')'])

@[simp] theorem selfLink_eq (kind : EntityKind) (base : String) (id : EntityId) :
    kind.selfLink base id = base ++ String.ofList ('/' :: kind.segment id) := by
  rw [selfLink, ← String.toList_inj]
  unfold segment EntityId.shown
  split <;> simp

theorem addressName_characters (kind : EntityKind) :
    '/' ∉ kind.addressName.toList ∧ '(' ∉ kind.addressName.toList ∧
      kind.addressName.toList ≠ [] := by
  cases kind <;> decide

theorem collection?_of_ofCollection? {name : String} {kind : EntityKind}
    (found : ofCollection? name = some kind) : kind.collection? = some name := by
  have same := List.find?_some (show all.find? _ = _ from found)
  exact beq_iff_eq.1 same

theorem isPublic_of_ofCollection? {name : String} {kind : EntityKind}
    (found : ofCollection? name = some kind) : kind.isPublic = true := by
  rw [isPublic, collection?_of_ofCollection? found]
  rfl

@[simp] theorem ofCollection?_addressName {kind : EntityKind} (visible : kind.isPublic = true) :
    ofCollection? kind.addressName = some kind := by
  cases kind <;> first | rfl | contradiction

theorem relations_lead {kind : EntityKind} {relation : String}
    (member : relation ∈ kind.relations) :
    ∃ child single, Resource.relation? relation = some (child, single) ∧
      (kind.navigation? child).isSome = true ∧
      ∀ entity, single = true ↔ (kind.related? entity relation).isSome = true := by
  cases kind <;> simp only [relations, List.mem_cons, List.not_mem_nil, or_false] at member
  case thing =>
    rcases member with rfl | rfl | rfl <;> exact ⟨_, _, rfl, rfl, fun _ => by simp [related?]⟩
  case datastream =>
    rcases member with rfl | rfl | rfl | rfl <;>
      exact ⟨_, _, rfl, rfl, fun _ => by simp [related?]⟩
  case sensor => exact member ▸ ⟨_, _, rfl, rfl, fun _ => by simp [related?]⟩
  case observedProperty => exact member ▸ ⟨_, _, rfl, rfl, fun _ => by simp [related?]⟩
  case featureOfInterest => exact member ▸ ⟨_, _, rfl, rfl, fun _ => by simp [related?]⟩
  all_goals rcases member with rfl | rfl <;> exact ⟨_, _, rfl, rfl, fun _ => by simp [related?]⟩

end EntityKind

namespace Resource

theorem trimSlashes_cons {text : List Char} (first : text.head? ≠ some '/')
    (last : text.getLast? ≠ some '/') : trimSlashes ('/' :: text) = text := by
  have whole {text : List Char} (first : text.head? ≠ some '/') :
      text.dropWhile (· == '/') = text := by
    cases text with
    | nil => rfl
    | cons character rest =>
      exact List.dropWhile_cons_of_neg fun same => first (congrArg some (beq_iff_eq.1 same))
  rw [trimSlashes, List.dropWhile_cons_of_pos (by rfl), whole first,
    whole (List.head?_reverse ▸ last), List.reverse_reverse]

theorem relation?_eq_some {name : String} {child : EntityKind} {single : Bool}
    (leads : relation? name = some (child, single)) :
    child.collection? = some name ∨ child.name = name := by
  rw [relation?] at leads
  split at leads
  next collection =>
    cases leads
    exact .inl (EntityKind.collection?_of_ofCollection? collection)
  next =>
    split at leads
    next named =>
      split at leads <;> cases leads
      have same := List.find?_some (show EntityKind.all.find? _ = _ from named)
      exact .inr (beq_iff_eq.1 same)
    next => contradiction

theorem relation?_of_parenthesis {name : String} (found : ')' ∈ name.toList) :
    relation? name = none := by
  rw [Option.eq_none_iff_forall_ne_some]
  rintro ⟨child, single⟩ leads
  rcases relation?_eq_some leads with collection | rfl
  · revert found
    cases child <;> cases collection <;> decide
  · revert found
    cases child <;> decide

@[simp] theorem segment?_segment (kind : EntityKind) (id : EntityId) :
    segment? (kind.segment id) =
      if id.text = "" then none else some (kind.addressName, some id) := by
  have inside : dropLast? ')' (id.shown ++ [')']) = some id.shown := by
    rw [dropLast?, List.getLast?_concat, if_pos rfl, List.dropLast_concat]
  have empty : id.text.toList.isEmpty = true ↔ id.text = "" := by
    rw [List.isEmpty_iff, String.toList_eq_nil_iff]
  rw [segment?, EntityKind.segment, Text.splitFirst_append kind.addressName_characters.2.1]
  simp only [inside, Option.bind_eq_bind, Option.bind_some, id.unquoted_shown, empty,
    String.ofList_toList]
  split <;> rfl

variable {path : String} {kind : EntityKind}

/-- What the segments of a path lead to. -/
inductive Reading : List (List Char) → Resource → Prop
  | collection {segment : List Char} {name : String} {kind : EntityKind}
      (read : segment? segment = some (name, none))
      (known : EntityKind.ofCollection? name = some kind) : Reading [segment] (.collection kind)
  | entity {segment : List Char} {name : String} {kind : EntityKind} {id : EntityId}
      (read : segment? segment = some (name, some id))
      (known : EntityKind.ofCollection? name = some kind) : Reading [segment] (.entity kind id)
  | related {segment relation : List Char} {name : String} {kind child : EntityKind}
      {id : EntityId} {single : Bool} (read : segment? segment = some (name, some id))
      (known : EntityKind.ofCollection? name = some kind)
      (relates : relation? (String.ofList relation) = some (child, single)) :
      Reading [segment, relation] (.related kind id child single)

theorem reading_of_ofPath? {resource : Resource} (leads : ofPath? path = some resource) :
    Reading (Text.splitAt '/' (trimSlashes path.toList)) resource := by
  rw [ofPath?] at leads
  split at leads
  next => contradiction
  next first rest pieces =>
    simp only [Option.bind_eq_bind, Option.bind_eq_some_iff] at leads
    obtain ⟨⟨name, id⟩, read, kind, known, leads⟩ := leads
    dsimp only at read known leads
    rw [pieces]
    split at leads
    next =>
      cases leads
      exact .collection read known
    next =>
      cases leads
      exact .entity read known
    next =>
      obtain ⟨_, relates, leads⟩ := Option.bind_eq_some_iff.1 leads
      cases leads
      exact .related read known relates
    next => contradiction

theorem ofPath?_of_deep (deep : 1 < (trimSlashes path.toList).count '/') :
    ofPath? path = none := by
  have many := Text.length_splitAt '/' (trimSlashes path.toList)
  rw [Option.eq_none_iff_forall_ne_some]
  intro resource leads
  have reading := reading_of_ofPath? leads
  generalize Text.splitAt '/' (trimSlashes path.toList) = pieces at many reading
  cases reading <;> simp only [List.length_cons, List.length_nil] at many <;> omega

/-- No relation ends in a parenthesis, so a path that does has one segment. -/
theorem ofPath?_of_divided (divided : '/' ∈ trimSlashes path.toList)
    (ends : (trimSlashes path.toList).getLast? = some ')') : ofPath? path = none := by
  have many := Text.length_splitAt '/' (trimSlashes path.toList)
  have whole := Text.join_splitAt '/' (trimSlashes path.toList)
  have slashes := List.count_pos_iff.2 divided
  rw [Option.eq_none_iff_forall_ne_some]
  intro resource leads
  have reading := reading_of_ofPath? leads
  generalize Text.splitAt '/' (trimSlashes path.toList) = pieces at many whole reading
  cases reading with
  | collection =>
    rw [List.length_singleton] at many
    omega
  | entity =>
    rw [List.length_singleton] at many
    omega
  | @related _ relation _ _ _ _ _ _ _ relates =>
    rw [Text.join, Text.join] at whole
    rw [← whole, List.append_assoc, List.getLast?_append, List.singleton_append,
      List.getLast?_cons] at ends
    have parenthesis : ')' ∈ relation := by
      cases last : relation.getLast? with
      | none => simp [last] at ends
      | some character =>
        obtain rfl : character = ')' := by simpa [last] using ends
        exact List.mem_of_getLast? last
    rw [relation?_of_parenthesis (by simpa using parenthesis)] at relates
    contradiction

theorem head?_segment (kind : EntityKind) (id : EntityId) (rest : List Char) :
    (kind.segment id ++ rest).head? ≠ some '/' := by
  obtain ⟨free, -, inhabited⟩ := kind.addressName_characters
  rw [EntityKind.segment]
  cases name : kind.addressName.toList with
  | nil => exact absurd name inhabited
  | cons first others =>
    rintro ⟨⟩
    exact free (name ▸ List.mem_cons_self)

theorem count_slash_segment (kind : EntityKind) (id : EntityId) :
    (kind.segment id).count '/' = id.text.toList.count '/' := by
  rw [EntityKind.segment, List.count_append, List.count_eq_zero.2 kind.addressName_characters.1,
    Nat.zero_add, List.count_cons_of_ne (by decide), List.count_append, id.count_slash_shown]
  rfl

theorem ofPath?_segment (visible : kind.isPublic = true) (id : EntityId) :
    ofPath? (String.ofList ('/' :: kind.segment id)) =
      if id.IsAddressable then some (.entity kind id) else none := by
  have ends : (kind.segment id).getLast? = some ')' := by
    simp [EntityKind.segment, List.getLast?_append, List.getLast?_cons]
  have first := head?_segment kind id []
  rw [List.append_nil] at first
  have trimmed : trimSlashes (String.ofList ('/' :: kind.segment id)).toList = kind.segment id := by
    rw [String.toList_ofList]
    exact trimSlashes_cons first (by rw [ends]; decide)
  have slashes := count_slash_segment kind id
  by_cases divided : '/' ∈ id.text.toList
  · rw [if_neg fun addressable => addressable.2 divided]
    rw [← List.count_pos_iff, ← slashes, List.count_pos_iff, ← trimmed] at divided
    rw [← trimmed] at ends
    exact ofPath?_of_divided divided ends
  · have whole : '/' ∉ kind.segment id := by
      rwa [← List.count_eq_zero, ← slashes, List.count_eq_zero] at divided
    rw [ofPath?, trimmed, Text.splitAt_of_not_mem whole]
    simp only [segment?_segment, EntityId.IsAddressable, divided, not_false_eq_true, and_true]
    by_cases empty : id.text = ""
    · simp [empty]
    · simp [empty, EntityKind.ofCollection?_addressName visible]

theorem ofPath?_relation (visible : kind.isPublic = true) (id : EntityId) {relation : String}
    (member : relation ∈ kind.relations) {child : EntityKind} {single : Bool}
    (leads : relation? relation = some (child, single)) :
    ofPath? (String.ofList ('/' :: kind.segment id ++ '/' :: relation.toList)) =
      if id.IsAddressable then some (.related kind id child single) else none := by
  have named : '/' ∉ relation.toList ∧ relation.toList ≠ [] := by
    clear leads visible
    revert relation
    cases kind <;> decide
  have ends : (kind.segment id ++ '/' :: relation.toList).getLast? ≠ some '/' := by
    intro last
    rw [List.getLast?_append, List.getLast?_cons] at last
    cases end? : relation.toList.getLast? with
    | none => exact named.2 (List.getLast?_eq_none_iff.1 end?)
    | some character =>
      obtain rfl : character = '/' := by simpa [end?] using last
      exact named.1 (List.mem_of_getLast? end?)
  have trimmed :
      trimSlashes (String.ofList ('/' :: kind.segment id ++ '/' :: relation.toList)).toList =
        kind.segment id ++ '/' :: relation.toList := by
    rw [String.toList_ofList]
    exact trimSlashes_cons (head?_segment kind id _) ends
  have slashes := count_slash_segment kind id
  by_cases divided : '/' ∈ id.text.toList
  · rw [if_neg fun addressable => addressable.2 divided]
    apply ofPath?_of_deep
    rw [trimmed, List.count_append, List.count_cons_self, slashes]
    have := List.count_pos_iff.2 divided
    omega
  · have whole : '/' ∉ kind.segment id := by
      rwa [← List.count_eq_zero, ← slashes, List.count_eq_zero] at divided
    rw [ofPath?, trimmed, Text.splitAt_append whole, Text.splitAt_of_not_mem named.1]
    simp only [segment?_segment, EntityId.IsAddressable, divided, not_false_eq_true, and_true]
    by_cases empty : id.text = ""
    · simp [empty]
    · simp [empty, EntityKind.ofCollection?_addressName visible, leads]

end Resource

namespace Tables

def ownNames : List String :=
  ["name", "description", "properties", "encodingType", "location", "time", "metadata",
    "definition", "unitOfMeasurement", "observationType", "phenomenonTime", "resultTime",
    "feature", "validTime", "result", "parameters"]

private theorem present_names {α : Type} {key : String} {write : α → Json} {given : Option α}
    (known : key ∈ ownNames) : ∀ member ∈ Json.present key write given, member.1 ∈ ownNames := by
  cases given <;> simp [Json.present, known]

theorem ownMembers_names (tables : Tables) (kind : EntityKind) (entity : kind.Entity) :
    ∀ member ∈ tables.ownMembers kind entity, member.1 ∈ ownNames := by
  cases kind <;>
    simp only [ownMembers, Json.free, List.forall_mem_append] <;>
    and_intros <;>
    first | exact present_names (by decide) | simp [ownNames]

theorem lookup_links (relations : List String) (relation link : String) :
    (relations.map fun relation => (relation ++ "@iot.navigationLink",
      Json.string (link ++ "/" ++ relation))).lookup (relation ++ "@iot.navigationLink") =
        if relation ∈ relations then some (.string (link ++ "/" ++ relation)) else none := by
  induction relations with
  | nil => rfl
  | cons first rest ih =>
    rw [List.map_cons, Json.lookup_cons, ih]
    by_cases same : relation = first
    · rw [same, if_pos rfl, if_pos List.mem_cons_self]
    · rw [if_neg (mt (String.append_left_inj _).1 same)]
      simp [same]

theorem lookup_of_short {members : List (String × Json)}
    (short : ∀ member ∈ members, member.1.length < 19) (relation : String) :
    members.lookup (relation ++ "@iot.navigationLink") = none := by
  rw [List.lookup_eq_none_iff]
  intro member found
  refine bne_iff_ne.2 fun same => absurd (short member found) (Nat.not_lt.2 ?_)
  rw [← same, String.length_append]
  exact Nat.le_add_left ..

theorem links_represent (tables : Tables) (base : String) (kind : EntityKind)
    (entity : kind.Entity) :
    let link := kind.selfLink base (kind.idOf entity)
    let document := tables.represent base kind entity
    document.member? "@iot.selfLink" = some (.string link) ∧
      ∀ relation, document.member? (relation ++ "@iot.navigationLink") =
        if relation ∈ kind.relations then some (.string (link ++ "/" ++ relation)) else none := by
  have own : ∀ member ∈ tables.ownMembers kind entity,
      member.1.length < 19 ∧ member.1 ≠ "@iot.selfLink" := fun member found =>
    (by decide : ∀ name ∈ ownNames, name.length < 19 ∧ name ≠ "@iot.selfLink") _
      (ownMembers_names tables kind entity member found)
  dsimp only [represent]
  simp only [Json.member?_ofMembers]
  constructor
  · rw [List.reverse_append, List.reverse_append, List.lookup_append, List.lookup_append,
      List.lookup_eq_none_iff.2, List.lookup_eq_none_iff.2]
    · rfl
    · intro member found
      exact bne_iff_ne.2 (own member (List.mem_reverse.1 found)).2.symm
    · intro member found
      obtain ⟨relation, -, rfl⟩ := List.mem_map.1 (List.mem_reverse.1 found)
      exact bne_iff_ne.2 fun same => absurd (congrArg String.length same) (by
        rw [String.length_append]
        exact Nat.ne_of_lt (Nat.lt_add_left _ (by decide)))
  · intro relation
    rw [List.reverse_append, List.lookup_append, ← List.map_reverse, lookup_links, lookup_of_short,
      Option.or_none]
    · simp only [List.mem_reverse]
    · intro member found
      rcases List.mem_append.1 (List.mem_reverse.1 found) with first | second
      · simp only [List.mem_cons, List.not_mem_nil, or_false] at first
        rcases first with rfl | rfl
        · exact (by decide : "@iot.id".length < 19)
        · exact (by decide : "@iot.selfLink".length < 19)
      · exact (own member second).1

/-- The links of an entity lead back to it and to what relates to it, just if its identifier is one
segment of a path. -/
theorem links_lead {tables : Tables} {kind : EntityKind} {id : EntityId} {entity : kind.Entity}
    (visible : kind.isPublic = true) (found : tables.find? kind id = some entity) (base : String) :
    ∃ document, tables.representation base kind id = .ok document ∧
      (∃ path, document.member? "@iot.selfLink" = some (.string (base ++ path)) ∧
        Resource.ofPath? path = if id.IsAddressable then some (.entity kind id) else none) ∧
      (∀ relation, relation ∈ kind.relations ↔
        (document.member? (relation ++ "@iot.navigationLink")).isSome = true) ∧
      ∀ relation link, document.member? (relation ++ "@iot.navigationLink") = some link →
        ∃ path child single, link = .string (base ++ path) ∧
          (Resource.ofPath? path =
            if id.IsAddressable then some (.related kind id child single) else none) ∧
          (∃ scope, tables.scope kind id child = .ok scope) ∧
          (single = true ↔ (kind.related? entity relation).isSome = true) := by
  obtain ⟨self, navigation⟩ := links_represent tables base kind entity
  rw [idOf_of_find? found, EntityKind.selfLink_eq] at self navigation
  refine ⟨_, ?_, ⟨_, self, Resource.ofPath?_segment visible id⟩, fun relation => ?_, ?_⟩
  · rw [representation, if_pos visible, get, found]
    rfl
  · rw [navigation]
    split <;> simp [*]
  · intro relation link shown
    rw [navigation, Option.ite_none_right_eq_some] at shown
    obtain ⟨member, shown⟩ := shown
    obtain ⟨child, single, leads, navigable, counted⟩ := EntityKind.relations_lead member
    refine ⟨_, child, single, ?_, Resource.ofPath?_relation visible id member leads, ?_,
      counted entity⟩
    · rw [← Option.some.inj shown, Json.string.injEq, ← String.toList_inj]
      simp
    · obtain ⟨related, navigable⟩ := Option.isSome_iff_exists.1 navigable
      exact ⟨related tables entity, by rw [scope, navigable, get, found]; rfl⟩

end Tables

/-! A thing whose identifier is divided by a slash. -/
namespace SlashedThing

def body : Json :=
  .object [("@iot.id", .string "a/b"), ("description", .string "d"), ("name", .string "n")]

def store : Store :=
  (Store.change ⟨{}, 0⟩ ⟨default, default, fun _ => ⟨"x"⟩⟩ (Change.create .thing body)).2

theorem read_body : ThingDraft.ofJson? body =
    some ⟨some ⟨"a/b"⟩, some "n", some "d", none, none, none, none⟩ := by
  rw [ThingDraft.ofJson?]
  rfl

theorem stored : store.tables.find? .thing ⟨"a/b"⟩ =
    some (⟨⟨"a/b"⟩, "n", "d", none, []⟩ : Thing) := by
  unfold store Store.change Change.start
  simp only [Change.create, Change.draft, read_body]
  rfl

end SlashedThing

namespace Tables

/-- Its own link does not lead to it. -/
theorem links_lead_slashed_thing :
    ∃ document path,
      SlashedThing.store.tables.representation "b" .thing ⟨"a/b"⟩ = .ok document ∧
      document.member? "@iot.selfLink" = some (.string ("b" ++ path)) ∧
      Resource.ofPath? path = none := by
  obtain ⟨document, shown, ⟨path, self, leads⟩, -⟩ := links_lead rfl SlashedThing.stored "b"
  exact ⟨document, path, shown, self, leads.trans (if_neg (by decide))⟩

end Tables

end SensorThings
