import SensorThings.Proofs.Draft.Reading
import SensorThings.Proofs.Model.Geometries

/-!
Drafts that clients send. What is read from a body as a free value is never null, and nested bodies
are bodies of the same sort: their numbers are those of JSON bodies too.
-/
namespace SensorThings

namespace Json

variable {json value : Json} {key : String}

@[simp] theorem numbersFit_byName (names : List String) (fits : json.numbersFit = true) :
    (json.byName names).numbersFit = true := by
  unfold byName
  split
  next items =>
    split
    next =>
      rw [numbersFit, itemsFit_iff] at fits
      rw [numbersFit, membersFit_iff]
      exact fun member paired => fits _ (List.of_mem_zip paired).2
    next => rfl
  next => exact fits

theorem exists_member_of_optional? {α : Type} {read? : Json → Option α} {given : α}
    (read : json.optional? key read? = some (some given)) :
    ∃ value, json.member? key = some value ∧ read? value = some given := by
  unfold optional? at read
  split at read
  next => simp at read
  next => simp at read
  next value _ there =>
    obtain ⟨made, madeRead, same⟩ := Option.map_eq_some_iff.1 read
    obtain rfl := Option.some.inj same
    exact ⟨value, there, madeRead⟩

theorem member?_of_optional? {given : Option Json} (read : json.optional? key some = some given) :
    given ≠ some .null ∧ ∀ value, given = some value → json.member? key = some value := by
  unfold optional? at read
  split at read
  next => simp [← Option.some.inj read]
  next => simp [← Option.some.inj read]
  next value notNull there =>
    obtain rfl := Option.some.inj read
    constructor
    · rintro ⟨⟩
      exact notNull rfl
    · rintro _ ⟨⟩
      exact there

end Json

theorem SentGeometry.isProper_of_optional? {json : Json} {key : String}
    {given : Option SentGeometry}
    (fits : json.numbersFit = true) (read : json.optional? key ofJson? = some given) :
    ∀ sent, given = some sent → sent.geometry.IsProper := by
  rintro sent rfl
  obtain ⟨value, there, sentRead⟩ := Json.exists_member_of_optional? read
  exact isProper_of_ofJson? (Json.numbersFit_of_member? fits there) sentRead

section

variable {α : Type} {read? : Json → Option α}

/-- A draft is read from a body. -/
def Sent (read? : Json → Option α) (draft : α) : Prop :=
  ∃ body : Json, body.numbersFit = true ∧ read? body = some draft

/-- What is nested as a body is sent as one. -/
def SentLink (read? : Json → Option α) (link : Link α) : Prop :=
  ∀ draft, link = .body draft → Sent read? draft

def SentLinks (read? : Json → Option α) (links : Option (List (Link α))) : Prop :=
  ∀ given, links = some given → ∀ link ∈ given, SentLink read? link

theorem Sent.link {draft : α} (sent : Sent read? draft) (hasFields : Bool)
    (id : Option EntityId) : SentLink read? (.make draft hasFields id) := by
  intro body same
  unfold Link.make at same
  split at same
  next =>
    split at same
    · exact Link.body.inj same ▸ sent
    · contradiction
  next => exact Link.body.inj same ▸ sent

/-- Links are read from bodies, and those that are bodies are sent with them. -/
def SendsLinks (readLink? : Json → Option (Link α)) (read? : Json → Option α) : Prop :=
  ∀ body link, body.numbersFit = true → readLink? body = some link → SentLink read? link

theorem sendsLinks {hasFields : α → Bool} {id : α → Option EntityId} :
    SendsLinks (fun body => (read? body).bind fun draft =>
      pure (Link.make draft (hasFields draft) (id draft))) read? := by
  intro body link fits read
  obtain ⟨draft, draftRead, same⟩ := Option.bind_eq_some_iff.1 read
  obtain rfl := Option.some.inj same
  exact Sent.link ⟨body, fits, draftRead⟩ _ _

variable {json : Json} {key : String} {readLink? : Json → Option (Link α)}

theorem sentLink_of_optional? (fits : json.numbersFit = true) (sends : SendsLinks readLink? read?)
    {given : Option (Link α)} (read : json.optional? key readLink? = some given) :
    ∀ link, given = some link → SentLink read? link := by
  rintro link rfl
  obtain ⟨value, there, linkRead⟩ := Json.exists_member_of_optional? read
  exact sends value link (Json.numbersFit_of_member? fits there) linkRead

theorem sentLink_of_mapM {items : List Json} (fits : ∀ item ∈ items, item.numbersFit = true)
    (sends : SendsLinks readLink? read?) {links : List (Link α)}
    (read : items.mapM readLink? = some links) : ∀ link ∈ links, SentLink read? link := by
  induction items generalizing links with
  | nil =>
    obtain rfl := Option.some.inj read
    simp
  | cons item rest ih =>
    rw [List.forall_mem_cons] at fits
    rw [List.mapM_cons] at read
    obtain ⟨first, firstRead, read⟩ := Option.bind_eq_some_iff.1 read
    obtain ⟨others, othersRead, same⟩ := Option.bind_eq_some_iff.1 read
    obtain rfl := Option.some.inj same
    rw [List.forall_mem_cons]
    exact ⟨sends item first fits.1 firstRead, ih fits.2 othersRead⟩

theorem sentLinks_of_optional? (fits : json.numbersFit = true)
    (sends : SendsLinks readLink? read?) {given : Option (List (Link α))}
    (read : json.optional? key (Json.list? readLink?) = some given) : SentLinks read? given := by
  rintro links rfl
  obtain ⟨value, there, listed⟩ := Json.exists_member_of_optional? read
  cases value with
  | array items =>
    have itemsFit := Json.numbersFit_of_member? fits there
    rw [Json.numbersFit] at itemsFit
    exact sentLink_of_mapM (Json.itemsFit_iff.1 itemsFit) sends listed
  | _ => contradiction

end

/-! What is known about the parts of a draft that was sent. -/

theorem Sent.thing {draft : ThingDraft} (sent : Sent ThingDraft.ofJson? draft) :
    draft.properties ≠ some .null ∧ SentLinks LocationDraft.ofJson? draft.locations ∧
      SentLinks DatastreamDraft.ofJson? draft.datastreams ∧
      SentLinks HistoricalLocationDraft.ofJson? draft.historicalLocations := by
  obtain ⟨json, jsonFits, read⟩ := sent
  have fits := Json.numbersFit_byName ThingDraft.names jsonFits
  have reads := ThingDraft.ofJson?_eq_some_iff.1 read
  exact ⟨(Json.member?_of_optional? reads.properties).1,
    sentLinks_of_optional? fits sendsLinks reads.locations,
    sentLinks_of_optional? fits sendsLinks reads.datastreams,
    sentLinks_of_optional? fits sendsLinks reads.historicalLocations⟩

theorem Sent.location {draft : LocationDraft} (sent : Sent LocationDraft.ofJson? draft) :
    draft.properties ≠ some .null ∧
      (∀ sent, draft.location = some sent → sent.geometry.IsProper) ∧
      SentLinks ThingDraft.ofJson? draft.things ∧
      SentLinks HistoricalLocationDraft.ofJson? draft.historicalLocations := by
  obtain ⟨json, jsonFits, read⟩ := sent
  have fits := Json.numbersFit_byName LocationDraft.names jsonFits
  have reads := LocationDraft.ofJson?_eq_some_iff.1 read
  exact ⟨(Json.member?_of_optional? reads.properties).1,
    SentGeometry.isProper_of_optional? fits reads.location,
    sentLinks_of_optional? fits sendsLinks reads.things,
    sentLinks_of_optional? fits sendsLinks reads.historicalLocations⟩

theorem Sent.historicalLocation {draft : HistoricalLocationDraft}
    (sent : Sent HistoricalLocationDraft.ofJson? draft) :
    (∀ link, draft.thing = some link → SentLink ThingDraft.ofJson? link) ∧
      SentLinks LocationDraft.ofJson? draft.locations := by
  obtain ⟨json, jsonFits, read⟩ := sent
  have fits := Json.numbersFit_byName HistoricalLocationDraft.names jsonFits
  have reads := HistoricalLocationDraft.ofJson?_eq_some_iff.1 read
  exact ⟨sentLink_of_optional? fits sendsLinks reads.thing,
    sentLinks_of_optional? fits sendsLinks reads.locations⟩

theorem Sent.sensor {draft : SensorDraft} (sent : Sent SensorDraft.ofJson? draft) :
    draft.properties ≠ some .null ∧ SentLinks DatastreamDraft.ofJson? draft.datastreams := by
  obtain ⟨json, jsonFits, read⟩ := sent
  have fits := Json.numbersFit_byName SensorDraft.names jsonFits
  have reads := SensorDraft.ofJson?_eq_some_iff.1 read
  exact ⟨(Json.member?_of_optional? reads.properties).1,
    sentLinks_of_optional? fits sendsLinks reads.datastreams⟩

theorem Sent.observedProperty {draft : ObservedPropertyDraft}
    (sent : Sent ObservedPropertyDraft.ofJson? draft) :
    draft.properties ≠ some .null ∧ SentLinks DatastreamDraft.ofJson? draft.datastreams := by
  obtain ⟨json, jsonFits, read⟩ := sent
  have fits := Json.numbersFit_byName ObservedPropertyDraft.names jsonFits
  have reads := ObservedPropertyDraft.ofJson?_eq_some_iff.1 read
  exact ⟨(Json.member?_of_optional? reads.properties).1,
    sentLinks_of_optional? fits sendsLinks reads.datastreams⟩

theorem Sent.datastream {draft : DatastreamDraft} (sent : Sent DatastreamDraft.ofJson? draft) :
    draft.properties ≠ some .null ∧
      (∀ link, draft.thing = some link → SentLink ThingDraft.ofJson? link) ∧
      (∀ link, draft.sensor = some link → SentLink SensorDraft.ofJson? link) ∧
      (∀ link, draft.observedProperty = some link → SentLink ObservedPropertyDraft.ofJson? link) ∧
      SentLinks ObservationDraft.ofJson? draft.observations := by
  obtain ⟨json, jsonFits, read⟩ := sent
  have fits := Json.numbersFit_byName DatastreamDraft.names jsonFits
  have reads := DatastreamDraft.ofJson?_eq_some_iff.1 read
  exact ⟨(Json.member?_of_optional? reads.properties).1,
    sentLink_of_optional? fits sendsLinks reads.thing,
    sentLink_of_optional? fits sendsLinks reads.sensor,
    sentLink_of_optional? fits sendsLinks reads.observedProperty,
    sentLinks_of_optional? fits sendsLinks reads.observations⟩

theorem Sent.feature {draft : FeatureDraft} (sent : Sent FeatureDraft.ofJson? draft) :
    draft.properties ≠ some .null ∧
      (∀ sent, draft.feature = some sent → sent.geometry.IsProper) ∧
      SentLinks ObservationDraft.ofJson? draft.observations := by
  obtain ⟨json, jsonFits, read⟩ := sent
  have fits := Json.numbersFit_byName FeatureDraft.names jsonFits
  have reads := FeatureDraft.ofJson?_eq_some_iff.1 read
  exact ⟨(Json.member?_of_optional? reads.properties).1,
    SentGeometry.isProper_of_optional? fits reads.feature,
    sentLinks_of_optional? fits sendsLinks reads.observations⟩

theorem Sent.observation {draft : ObservationDraft} (sent : Sent ObservationDraft.ofJson? draft) :
    draft.parameters ≠ some .null ∧
      (∀ raw, draft.result = some raw → raw.numbersFit = true) ∧
      (∀ link, draft.datastream = some link → SentLink DatastreamDraft.ofJson? link) ∧
      ∀ link, draft.feature = some link → SentLink FeatureDraft.ofJson? link := by
  obtain ⟨json, jsonFits, read⟩ := sent
  have fits := Json.numbersFit_byName ObservationDraft.names jsonFits
  have reads := ObservationDraft.ofJson?_eq_some_iff.1 read
  exact ⟨(Json.member?_of_optional? reads.parameters).1,
    fun raw given => Json.numbersFit_of_member? fits
      ((Json.member?_of_optional? reads.result).2 raw given),
    sentLink_of_optional? fits sendsLinks reads.datastream,
    sentLink_of_optional? fits sendsLinks reads.feature⟩

end SensorThings
