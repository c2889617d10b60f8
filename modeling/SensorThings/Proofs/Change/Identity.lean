import SensorThings.Proofs.Change.Drafting
import SensorThings.Proofs.Change.Freshness

/-!
Identities in one creation. A body finds its identifier free when it claims it, and from its write
on the identifier is taken. Between the claim and the write of one body only its inner bodies are
made, so these alone can take the identifier unnoticed and be written over.
-/
namespace SensorThings

namespace Outline

/-- The keys of all bodies but features, which a client may send again. -/
def identities (outline : Outline) : List Key :=
  outline.keys.filter (·.kind ≠ .featureOfInterest)

@[simp] theorem identities_nil : identities nil = [] := rfl

@[simp] theorem identities_append (first second : Outline) :
    (first ++ second).identities = first.identities ++ second.identities := by
  simp [identities]

theorem identities_body {kind : EntityKind} (plain : kind ≠ .featureOfInterest) (id : EntityId)
    (inner rest : Outline) :
    (body kind id inner rest).identities = ⟨kind, id⟩ :: (inner.identities ++ rest.identities) := by
  simp [identities, keys, plain]

@[simp] theorem mem_identities {outline : Outline} {key : Key} :
    key ∈ outline.identities ↔ key ∈ outline.keys ∧ key.kind ≠ .featureOfInterest := by
  simp [identities]

end Outline

theorem FeatureBody.Repeats.isAutoGenerated {body : FeatureBody} {feature : FeatureOfInterest}
    (repeats : body.Repeats feature) : feature.autoGenerated = true := by
  obtain ⟨sent, description, -, -, same⟩ := repeats
  simp only [FeatureOfInterest.repeats, Bool.and_eq_true] at same
  exact same.1.1

namespace Creation

variable {environment : Environment} {outline : Outline} {before after : Progress}

private theorem claimed_of_mem {kind : EntityKind} {given : Option EntityId} {inner : Outline}
    {id : EntityId} {middle : Progress} {key : Key}
    (claimed : (Change.claim kind given).Returns environment before id middle)
    (member : key ∈ (Outline.named kind given inner .nil).keys) :
    key = ⟨kind, id⟩ ∧ before.tables.contains kind id = false ∨ key ∈ inner.keys := by
  obtain ⟨rfl, -, -⟩ | ⟨rfl, free, -⟩ := Change.returns_claim.1 claimed
  · right
    simpa [Outline.named] using member
  · simp only [Outline.named, Outline.keys, List.append_nil, List.mem_cons] at member
    rcases member with same | inside
    · exact .inl ⟨same, free⟩
    · exact .inr inside

theorem contains_of_mem (creation : Creation environment outline before after) {key : Key}
    (member : key ∈ outline.keys) : after.tables.contains key.kind key.id = true := by
  induction creation with
  | nil => simp [Outline.keys] at member
  | append first second ihFirst ihSecond =>
    rw [Outline.keys_append, List.mem_append] at member
    rcases member with here | later
    · exact second.contains (ihFirst here)
    · exact ihSecond later
  | bare kind entity isBare claimed =>
    obtain ⟨rfl, -⟩ | inside := claimed_of_mem claimed member
    · exact Progress.contains_save_self _ _ _
    · simp [Outline.keys] at inside
  | @feature given geometry description _ _ feature _ claimed =>
    obtain ⟨rfl, -, -⟩ | ⟨rfl, -, -⟩ := Change.returns_claim.1 claimed
    · simp [Outline.namedFeature, Outline.keys] at member
    · obtain rfl : key = ⟨.featureOfInterest, feature.id⟩ := by
        simpa [Outline.namedFeature, Outline.keys] using member
      exact Progress.contains_save_self _ _ _
  | repeated body feature found =>
    obtain rfl : key = ⟨.featureOfInterest, body.id⟩ := by simpa [Outline.keys] using member
    exact Tables.contains_of_find? found
  | derived => simp [Outline.keys] at member
  | adopted => simp [Outline.keys] at member
  | moved => simp [Outline.keys] at member
  | recorded historical claimed _ _ _ ran ih =>
    rw [ran.record.updates.contains]
    obtain ⟨rfl, -⟩ | inside := claimed_of_mem claimed member
    · exact Progress.contains_save_self _ _ _
    · exact Progress.contains_save (ih inside) _ _
  | extended => simp [Outline.keys] at member
  | datastream datastream claimed _ _ _ ih =>
    obtain ⟨rfl, -⟩ | inside := claimed_of_mem claimed member
    · exact Progress.contains_save_self _ _ _
    · exact Progress.contains_save (ih inside) _ _
  | dataset _ _ _ _ _ _ _ _ _ ih =>
    have made := ih member
    rw [← Progress.draw_tables] at made
    exact Progress.contains_save made _ _
  | observation observation stream datastream dataset raw claimed _ _ _ right _ _ _ _ ihLeft
      ihRight =>
    obtain ⟨rfl, -⟩ | inside := claimed_of_mem claimed member
    · exact Progress.contains_addObservation_self
    · rw [Outline.keys_append, List.mem_append] at inside
      apply Progress.contains_addObservation
      rcases inside with first | second
      · exact right.contains (ihLeft first)
      · exact ihRight second

theorem free_of_mem (creation : Creation environment outline before after) {key : Key}
    (member : key ∈ outline.identities) : before.tables.contains key.kind key.id = false := by
  rw [Outline.mem_identities] at member
  obtain ⟨member, plain⟩ := member
  induction creation with
  | nil => simp [Outline.keys] at member
  | append first _ ihFirst ihSecond =>
    rw [Outline.keys_append, List.mem_append] at member
    rcases member with here | later
    · exact ihFirst here
    · rw [← Bool.not_eq_true]
      intro there
      exact Bool.false_ne_true ((ihSecond later).symm.trans (first.contains there))
  | bare kind entity isBare claimed =>
    obtain ⟨rfl, free⟩ | inside := claimed_of_mem claimed member
    · exact free
    · simp [Outline.keys] at inside
  | @feature given =>
    cases given with
    | none => simp [Outline.namedFeature, Outline.keys] at member
    | some id =>
      simp only [Outline.namedFeature, Outline.keys, List.mem_singleton] at member
      exact absurd (congrArg Key.kind member) plain
  | repeated body =>
    simp only [Outline.keys, List.mem_singleton] at member
    exact absurd (congrArg Key.kind member) plain
  | derived => simp [Outline.keys] at member
  | adopted => simp [Outline.keys] at member
  | moved => simp [Outline.keys] at member
  | recorded historical claimed _ _ _ _ ih =>
    obtain ⟨rfl, free⟩ | inside := claimed_of_mem claimed member
    · exact free
    · exact claimed.claim_tables ▸ ih inside
  | extended => simp [Outline.keys] at member
  | datastream datastream claimed _ _ _ ih =>
    obtain ⟨rfl, free⟩ | inside := claimed_of_mem claimed member
    · exact free
    · exact claimed.claim_tables ▸ ih inside
  | dataset _ _ _ _ _ _ _ _ _ ih => exact ih member
  | observation observation stream datastream dataset raw claimed left _ _ _ _ _ _ _ ihLeft
      ihRight =>
    obtain ⟨rfl, free⟩ | inside := claimed_of_mem claimed member
    · exact free
    · rw [← claimed.claim_tables]
      rw [Outline.keys_append, List.mem_append] at inside
      rcases inside with first | second
      · exact ihLeft first
      · rw [← Bool.not_eq_true]
        intro there
        exact Bool.false_ne_true ((ihRight second).symm.trans (left.contains there))

private theorem nodup_named {kind : EntityKind} (plain : kind ≠ .featureOfInterest)
    (given : Option EntityId) {inner : Outline} (ih : inner.identities.Nodup ↔ ¬inner.Nests) :
    (Outline.named kind given inner .nil).identities.Nodup ↔
      ¬(Outline.named kind given inner .nil).Nests := by
  cases given with
  | none => simpa [Outline.named, Outline.Nests] using ih
  | some id =>
    rw [Outline.named, Outline.identities_body plain, Outline.identities_nil, List.append_nil,
      List.nodup_cons, ih, Outline.mem_identities]
    simp [Outline.Nests, plain]

private theorem nodup_append {first second : Outline} {middle : Progress}
    (left : Creation environment first before middle)
    (right : Creation environment second middle after)
    (ihLeft : first.identities.Nodup ↔ ¬first.Nests)
    (ihRight : second.identities.Nodup ↔ ¬second.Nests) :
    (first ++ second).identities.Nodup ↔ ¬(first ++ second).Nests := by
  have disjoint : ∀ one ∈ first.identities, ∀ other ∈ second.identities, one ≠ other := by
    intro one inFirst other inSecond same
    have taken := left.contains_of_mem (Outline.mem_identities.1 inFirst).1
    rw [same, right.free_of_mem inSecond] at taken
    contradiction
  rw [Outline.identities_append, List.nodup_append, ihLeft, ihRight, Outline.nests_append, not_or]
  exact ⟨fun ⟨one, other, _⟩ => ⟨one, other⟩, fun ⟨one, other⟩ => ⟨one, other, disjoint⟩⟩

theorem nodup_identities_iff (creation : Creation environment outline before after) :
    outline.identities.Nodup ↔ ¬outline.Nests := by
  induction creation with
  | nil => simp [Outline.Nests]
  | append left right ihLeft ihRight => exact nodup_append left right ihLeft ihRight
  | bare kind entity isBare =>
    have plain : kind ≠ .featureOfInterest := by
      rintro rfl
      exact isBare
    exact nodup_named plain _ (by simp [Outline.Nests])
  | @feature given => cases given <;> simp [Outline.namedFeature, Outline.Nests, Outline.identities,
      Outline.keys]
  | repeated body => simp [Outline.Nests, Outline.identities, Outline.keys]
  | derived => simp [Outline.Nests]
  | adopted => simp [Outline.Nests, Outline.identities, Outline.keys]
  | moved => simp [Outline.Nests]
  | recorded _ _ _ _ _ _ ih => exact nodup_named (by decide) _ ih
  | extended => simp [Outline.Nests]
  | datastream _ _ _ _ _ ih => exact nodup_named (by decide) _ ih
  | dataset _ _ _ _ _ _ _ _ _ ih => exact ih
  | observation _ _ _ _ _ _ left _ _ right _ _ _ _ ihLeft ihRight =>
    exact nodup_named (by decide) _ (nodup_append left right ihLeft ihRight)

theorem feature_kept (creation : Creation environment outline before after)
    (fresh : environment.Fresh outline.keys before) {id : EntityId} {feature : FeatureOfInterest}
    (found : before.tables.find? .featureOfInterest id = some feature) :
    after.tables.find? .featureOfInterest id = some feature := by
  induction creation with
  | nil => exact found
  | append left _ ihLeft ihRight => exact ihRight (fresh.right left) (ihLeft fresh.left found)
  | bare kind entity isBare claimed =>
    have plain : .featureOfInterest ≠ kind := by
      rintro rfl
      exact isBare
    rw [claimed.claim_save_tables, Tables.find?_put_of_ne _ _ _ plain]
    exact found
  | feature added _ claimed =>
    rw [claimed.claim_save_tables]
    exact Tables.find?_put_of_free (fresh.free_of_claim claimed) found
  | repeated => exact found
  | derived location added _ _ chosen =>
    rw [chosen.featureId_save_tables]
    exact Tables.find?_put_of_free (fresh.free_of_featureId chosen) found
  | adopted =>
    simpa using found
  | moved =>
    simpa using found
  | recorded historical claimed _ _ _ ran ih =>
    rw [ran.record.updates.others _ (by decide), Progress.find?_save_of_ne _ _ _ (by decide)]
    exact ih (fresh.claim claimed) (claimed.claim_tables ▸ found)
  | extended historical location ran =>
    obtain ⟨row, -, lists⟩ := ran.extendRecord
    rw [lists.updates.others _ (by decide), Progress.find?_save_of_ne _ _ _ (by decide)]
    exact found
  | datastream datastream claimed _ _ _ ih =>
    simpa using ih (fresh.claim claimed) (claimed.claim_tables ▸ found)
  | dataset _ _ _ _ _ _ _ _ _ ih =>
    simpa using ih fresh found
  | observation observation stream datastream dataset raw claimed left _ _ _ _ _ _ _ ihLeft
      ihRight =>
    rw [Progress.find?_addObservation _ _ _ _ _ (by decide)]
    have inside := fresh.claim claimed
    exact ihRight (inside.right left) (ihLeft inside.left (claimed.claim_tables ▸ found))

/-- A feature body either makes a feature under an identifier that no other carries, or repeats a
feature made from a location. -/
def SettlesFeature (bodies : List FeatureBody) (before after : Tables) (body : FeatureBody) :
    Prop :=
  (before.find? .featureOfInterest body.id = none ∧
    (∃ feature, after.find? .featureOfInterest body.id = some feature ∧
      FeatureOfInterest.autoGenerated feature = false) ∧
    (bodies.map FeatureBody.id).count body.id = 1) ∨
  ∃ feature, after.find? .featureOfInterest body.id = some feature ∧ body.Repeats feature

theorem mem_keys_of_feature {outline : Outline} {body : FeatureBody}
    (member : body ∈ outline.features) : ⟨.featureOfInterest, body.id⟩ ∈ outline.keys := by
  induction outline with
  | nil => simp [Outline.features] at member
  | body kind id inner rest ihInner ihRest =>
    simp only [Outline.features, List.mem_append] at member
    simp only [Outline.keys, List.mem_cons, List.mem_append]
    exact .inr (member.imp ihInner ihRest)
  | feature sent rest ih =>
    simp only [Outline.features, List.mem_cons] at member
    simp only [Outline.keys, List.mem_cons]
    rcases member with rfl | later
    · exact .inl rfl
    · exact .inr (ih later)
  | adopted _ _ _ ih => exact ih member

private theorem settlesFeature_append {first second : Outline} {middle : Progress}
    (left : Creation environment first before middle)
    (right : Creation environment second middle after)
    (fresh : environment.Fresh second.keys middle)
    (ihLeft : ∀ body ∈ first.features,
      SettlesFeature first.features before.tables middle.tables body)
    (ihRight : ∀ body ∈ second.features,
      SettlesFeature second.features middle.tables after.tables body) :
    ∀ body ∈ (first ++ second).features,
      SettlesFeature (first ++ second).features before.tables after.tables body := by
  intro body member
  unfold SettlesFeature
  rw [Outline.features_append, List.map_append, List.count_append]
  rw [Outline.features_append, List.mem_append] at member
  rcases member with inFirst | inSecond
  · obtain ⟨free, ⟨feature, found, plain⟩, once⟩ | ⟨feature, found, repeats⟩ := ihLeft body inFirst
    · have kept := right.feature_kept fresh found
      refine .inl ⟨free, ⟨feature, kept, plain⟩, ?_⟩
      have absent : (second.features.map FeatureBody.id).count body.id = 0 := by
        rw [List.count_eq_zero, List.mem_map]
        rintro ⟨other, inSecond, same⟩
        obtain ⟨otherFree, -⟩ | ⟨row, otherFound, repeats⟩ := ihRight other inSecond
        · rw [same, found] at otherFree
          contradiction
        · rw [same, kept] at otherFound
          obtain rfl := Option.some.inj otherFound
          exact Bool.false_ne_true (plain.symm.trans repeats.isAutoGenerated)
      rw [once, absent]
    · exact .inr ⟨feature, right.feature_kept fresh found, repeats⟩
  · obtain ⟨free, made, once⟩ | repeated := ihRight body inSecond
    · have absent : (first.features.map FeatureBody.id).count body.id = 0 := by
        rw [List.count_eq_zero, List.mem_map]
        rintro ⟨other, inFirst, same⟩
        have there := left.contains_of_mem (mem_keys_of_feature inFirst)
        simp only [same, Tables.contains, free, Option.isSome_none] at there
        contradiction
      refine .inl ⟨?_, made, by rw [once, absent]⟩
      rw [← Option.isNone_iff_eq_none, ← Option.isSome_eq_false_iff, ← Bool.not_eq_true]
      intro there
      have kept := left.contains there
      simp only [Tables.contains, free, Option.isSome_none] at kept
      contradiction
    · exact .inr repeated

private theorem SettlesFeature.congr {bodies : List FeatureBody}
    {before middle last after : Tables} {body : FeatureBody}
    (settled : SettlesFeature bodies middle last body) (same : middle = before)
    (kept : ∀ id, after.find? .featureOfInterest id = last.find? .featureOfInterest id) :
    SettlesFeature bodies before after body := by
  unfold SettlesFeature at settled ⊢
  rwa [← same, kept]

theorem features_settled (creation : Creation environment outline before after)
    (fresh : environment.Fresh outline.keys before) :
    ∀ body ∈ outline.features,
      SettlesFeature outline.features before.tables after.tables body := by
  induction creation with
  | nil => simp [Outline.features]
  | append left right ihLeft ihRight =>
    exact settlesFeature_append left right (fresh.right left) (ihLeft fresh.left)
      (ihRight (fresh.right left))
  | @bare kind given => cases given <;> simp [Outline.named, Outline.features]
  | @feature given geometry description _ _ feature plain claimed =>
    cases given with
    | none => simp [Outline.namedFeature, Outline.features]
    | some id =>
      intro body member
      obtain rfl : body = ⟨id, geometry, description⟩ := by
        simpa [Outline.namedFeature, Outline.features] using member
      obtain ⟨⟨⟩, -⟩ | ⟨⟨⟩, -, -⟩ := Change.returns_claim.1 claimed
      refine .inl ⟨fresh.free_of_claim claimed, ⟨feature, ?_, plain⟩, ?_⟩
      · rw [Progress.save_tables]
        exact Tables.find?_put_self _ _ rfl
      · simp [Outline.namedFeature, Outline.features]
  | repeated body feature found repeats =>
    intro other member
    obtain rfl : other = body := by simpa [Outline.features] using member
    exact .inr ⟨feature, found, repeats⟩
  | derived => simp [Outline.features]
  | adopted => simp [Outline.features]
  | moved => simp [Outline.features]
  | recorded historical claimed _ _ _ ran ih =>
    rw [Outline.features_named]
    intro body member
    refine (ih (fresh.claim claimed) body member).congr claimed.claim_tables fun id => ?_
    rw [ran.record.updates.others _ (by decide), Progress.find?_save_of_ne _ _ _ (by decide)]
  | extended => simp [Outline.features]
  | datastream datastream claimed _ _ _ ih =>
    rw [Outline.features_named]
    intro body member
    refine (ih (fresh.claim claimed) body member).congr claimed.claim_tables fun id => ?_
    rw [Progress.find?_save_of_ne _ _ _ (by decide)]
  | dataset _ _ _ _ _ _ _ _ _ ih =>
    intro body member
    refine (ih fresh body member).congr rfl fun id => ?_
    rw [Progress.find?_save_of_ne _ _ _ (by decide), Progress.draw_tables]
  | observation observation stream datastream dataset raw claimed left _ _ right _ _ _ _ ihLeft
      ihRight =>
    have inside := fresh.claim claimed
    rw [Outline.features_named]
    intro body member
    have settled := settlesFeature_append left right (inside.right left) (ihLeft inside.left)
      (ihRight (inside.right left)) body member
    refine settled.congr claimed.claim_tables fun id => ?_
    exact Progress.find?_addObservation _ _ _ _ _ (by decide)

end Creation

namespace Store

/-- Creating what a client sends, when it succeeds, finds every identity it is sent free; it takes
one twice, and so writes over its own entity, exactly if a body nests another of its kind and
identifier between its claim and its write; and features are shared only as they should be. -/
theorem created_identities (store : Store) (environment : Environment) (kind : EntityKind)
    (body : Json) (id : Option EntityId)
    (created : (store.change environment (Change.ofRequest (.create kind body))).1 = .ok id) :
    (∀ key ∈ (Outline.ofJson kind body).identities,
      store.tables.contains key.kind key.id = false) ∧
    ((Outline.ofJson kind body).identities.Nodup ↔ ¬(Outline.ofJson kind body).Nests) ∧
    (environment.Fresh (Outline.ofJson kind body).keys (.start store.tables) →
      ∀ sent ∈ (Outline.ofJson kind body).features,
        Creation.SettlesFeature (Outline.ofJson kind body).features store.tables
          (store.change environment (Change.ofRequest (.create kind body))).2.tables sent) := by
  obtain ⟨after, ran, result⟩ := change_ok created
  unfold Change.ofRequest at ran
  simp only [Change.returns_bind, Change.returns_pure] at ran
  obtain ⟨made, _, ran, rfl, rfl⟩ := ran
  have creation := (Change.made_create ran).creation
  refine ⟨fun key => creation.free_of_mem, creation.nodup_identities_iff, fun fresh => ?_⟩
  rw [result]
  exact creation.features_settled fresh

end Store

/-! A datastream whose thing lists a datastream of the same identifier. -/
namespace RepeatedDatastream

def environment : Environment where
  now := default
  config := default
  fresh number := ⟨String.ofList (List.replicate (number + 1) '+')⟩

def store : Store where
  tables := Tables.put (Tables.put {} .sensor ⟨⟨"s"⟩, "n", "d", "", "", none⟩) .observedProperty
    ⟨⟨"p"⟩, "n", "n", "d", none⟩
  version := 1

def reference (id : String) : Json :=
  .object [("@iot.id", .string id)]

def bodyWith (thing : List (String × Json)) : Json :=
  .object ([("@iot.id", .string "d"), ("name", .string "n"), ("description", .string "d"),
    ("unitOfMeasurement", .object []),
    ("observationType", .string ObservationType.measurement.uri), ("Sensor", reference "s"),
    ("ObservedProperty", reference "p")] ++ thing)

def thingBody : Json :=
  .object [("@iot.id", .string "t"), ("name", .string "n"), ("description", .string "d"),
    ("Datastreams", .array [bodyWith []])]

def body : Json :=
  bodyWith [("Thing", thingBody)]

def draftWith (thing : Option (Link ThingDraft)) : DatastreamDraft :=
  ⟨some ⟨"d"⟩, some "n", some "d", some ⟨none, none, none⟩, some ObservationType.measurement.uri,
    none, thing, some (.reference ⟨"s"⟩), some (.reference ⟨"p"⟩), none⟩

def thingDraft : ThingDraft :=
  ⟨some ⟨"t"⟩, some "n", some "d", none, none, some [.body (draftWith none)], none⟩

private theorem read_sensor : SensorDraft.ofJson? (reference "s") = some (.ofId ⟨"s"⟩) := by
  rw [SensorDraft.ofJson?]
  rfl

private theorem read_property :
    ObservedPropertyDraft.ofJson? (reference "p") = some (.ofId ⟨"p"⟩) := by
  rw [ObservedPropertyDraft.ofJson?]
  rfl

private theorem read_inner : DatastreamDraft.ofJson? (bodyWith []) = some (draftWith none) := by
  have sensor : (bodyWith []).inner? DatastreamDraft.names "Sensor" =
      some ⟨reference "s", by decide⟩ := rfl
  have property : (bodyWith []).inner? DatastreamDraft.names "ObservedProperty" =
      some ⟨reference "p", by decide⟩ := rfl
  rw [DatastreamDraft.ofJson?, sensor, property]
  simp only [Option.mapM_some, read_sensor, read_property]
  rfl

private theorem read_thing : ThingDraft.ofJson? thingBody = some thingDraft := by
  have streams : thingBody.inners? ThingDraft.names "Datastreams" =
      some (some [⟨bodyWith [], by decide⟩]) := rfl
  rw [ThingDraft.ofJson?, streams]
  simp only [Option.bind_eq_bind, Option.bind_some, Option.mapM_some, List.mapM_cons,
    List.mapM_nil, read_inner]
  rfl

theorem read_body : DatastreamDraft.ofJson? body = some (draftWith (some (.body thingDraft))) := by
  have sensor : body.inner? DatastreamDraft.names "Sensor" = some ⟨reference "s", by decide⟩ := rfl
  have property : body.inner? DatastreamDraft.names "ObservedProperty" =
      some ⟨reference "p", by decide⟩ := rfl
  have thing : body.inner? DatastreamDraft.names "Thing" = some ⟨thingBody, by decide⟩ := rfl
  rw [DatastreamDraft.ofJson?, sensor, property, thing]
  simp only [Option.mapM_some, read_sensor, read_property, read_thing]
  rfl

theorem outline_body : Outline.ofJson .datastream body =
    .body .datastream ⟨"d"⟩ (.body .thing ⟨"t"⟩ .nil (.body .datastream ⟨"d"⟩ .nil .nil)) .nil := by
  simp only [Outline.ofJson, read_body]
  rfl

theorem fresh_ne (number : Nat) {text : String} (other : text.toList.head? ≠ some '+') :
    environment.fresh number ≠ ⟨text⟩ := by
  intro same
  apply other
  have texts : String.ofList (List.replicate (number + 1) '+') = text :=
    congrArg EntityId.text same
  rw [← texts]
  simp [List.replicate_succ]

theorem fresh : environment.Fresh (Outline.ofJson .datastream body).keys (.start store.tables) where
  distinct := by
    intro number other same
    simpa [environment] using congrArg (fun id => id.text.toList.length) same
  unused := by
    intro number _ kind
    rw [← Bool.not_eq_true, Progress.start_tables, store, Tables.contains_put_iff,
      Tables.contains_put_iff]
    rintro (⟨-, same⟩ | ⟨-, same⟩ | there)
    · exact fresh_ne number (by decide) same.symm
    · exact fresh_ne number (by decide) same.symm
    · cases kind <;> contradiction
  unsent := by
    rw [outline_body]
    intro key member number
    simp only [Outline.keys, List.append_nil, List.nil_append, List.mem_cons,
      List.not_mem_nil, or_false] at member
    rcases member with rfl | rfl | rfl <;> exact fresh_ne number (by decide)

end RepeatedDatastream

namespace Store

open RepeatedDatastream in
/-- The inner datastream is written over by the outer one. -/
theorem created_identities_repeated :
    (store.change environment (Change.ofRequest (.create .datastream body))).1 =
        .ok (some ⟨"d"⟩) ∧
      ¬(Outline.ofJson .datastream body).identities.Nodup ∧
      (∀ key ∈ (Outline.ofJson .datastream body).identities,
        store.tables.contains key.kind key.id = false) ∧
      ∀ sent ∈ (Outline.ofJson .datastream body).features,
        Creation.SettlesFeature (Outline.ofJson .datastream body).features store.tables
          (store.change environment (Change.ofRequest (.create .datastream body))).2.tables
            sent := by
  have created : (store.change environment (Change.ofRequest (.create .datastream body))).1 =
      .ok (some ⟨"d"⟩) := by
    unfold Store.change Change.start
    simp only [Change.ofRequest, Change.create, Change.draft, read_body]
    rfl
  obtain ⟨free, nested, features⟩ := created_identities store environment .datastream body _ created
  refine ⟨created, ?_, free, features fresh⟩
  rw [nested, outline_body]
  simp [Outline.Nests, Outline.keys]

end Store

end SensorThings
