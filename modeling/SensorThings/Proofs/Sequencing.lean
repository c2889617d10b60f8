import Mathlib.Data.List.Forall2

/-!
Steps that may fail, one after the other. A sequence succeeds if each of its steps does, and fails
with the fault of the first that does not.
-/
namespace SensorThings

@[simp]
theorem bind_eq_ok_iff {ε α β : Type} {first : Except ε α} {next : α → Except ε β} {result : β} :
    first >>= next = .ok result ↔ ∃ value, first = .ok value ∧ next value = .ok result := by
  cases first with
  | error fault => exact ⟨nofun, nofun⟩
  | ok value => exact ⟨fun done => ⟨value, rfl, done⟩, fun ⟨_, rfl, done⟩ => done⟩

@[simp]
theorem bind_eq_error_iff {ε α β : Type} {first : Except ε α} {next : α → Except ε β} {fault : ε} :
    first >>= next = .error fault ↔
      first = .error fault ∨ ∃ value, first = .ok value ∧ next value = .error fault := by
  cases first with
  | error other => simp [bind, Except.bind]
  | ok value => simp [bind, Except.bind]

theorem bind_bind_eq_error {ε α β γ : Type} {first : Except ε α} {second : Except ε β}
    {next : α → β → Except ε γ} {fault : ε}
    (failed : (first >>= fun left => second >>= fun right => next left right) = .error fault) :
    first = .error fault ∨ second = .error fault ∨
      ∃ left right, next left right = .error fault := by
  rcases bind_eq_error_iff.1 failed with firstFailed | ⟨left, -, failed⟩
  · exact .inl firstFailed
  rcases bind_eq_error_iff.1 failed with secondFailed | ⟨right, -, failed⟩
  · exact .inr (.inl secondFailed)
  · exact .inr (.inr ⟨left, right, failed⟩)

theorem mapM_eq_ok_iff {ε α β : Type} {step : α → Except ε β} {items : List α}
    {results : List β} : items.mapM step = .ok results ↔
      List.Forall₂ (fun item result => step item = .ok result) items results := by
  induction items generalizing results with
  | nil =>
    rw [List.mapM_nil, List.forall₂_nil_left_iff]
    exact ⟨fun done => (Except.ok.inj done).symm, fun done => done ▸ rfl⟩
  | cons item rest ih =>
    simp only [List.mapM_cons, bind_eq_ok_iff, ih, List.forall₂_cons_left_iff]
    constructor
    · rintro ⟨result, first, results, others, done⟩
      exact ⟨result, results, first, others, (Except.ok.inj done).symm⟩
    · rintro ⟨result, results, first, others, rfl⟩
      exact ⟨result, first, results, others, rfl⟩

theorem exists_mapM_eq_ok_iff {ε α β : Type} {step : α → Except ε β} {items : List α} :
    (∃ results, items.mapM step = .ok results) ↔
      ∀ item ∈ items, ∃ result, step item = .ok result := by
  simp only [mapM_eq_ok_iff]
  induction items with
  | nil => exact ⟨nofun, fun _ => ⟨[], .nil⟩⟩
  | cons item rest ih =>
    rw [List.forall_mem_cons, ← ih]
    constructor
    · rintro ⟨_, _ | ⟨first, others⟩⟩
      exact ⟨⟨_, first⟩, _, others⟩
    · rintro ⟨⟨result, first⟩, results, others⟩
      exact ⟨result :: results, .cons first others⟩

theorem mapM_eq_error {ε α β : Type} {step : α → Except ε β} {items : List α} {fault : ε}
    (failed : items.mapM step = .error fault) : ∃ item ∈ items, step item = .error fault := by
  induction items with
  | nil => contradiction
  | cons item rest ih =>
    rw [List.mapM_cons] at failed
    rcases bind_eq_error_iff.1 failed with failed | ⟨result, -, failed⟩
    · exact ⟨item, List.mem_cons_self, failed⟩
    rcases bind_eq_error_iff.1 failed with failed | ⟨results, -, failed⟩
    · obtain ⟨other, member, failed⟩ := ih failed
      exact ⟨other, List.mem_cons_of_mem _ member, failed⟩
    · contradiction

theorem mapM_eq_some_iff_map {α β : Type} {step : α → Option β} {items : List α}
    {results : List β} : items.mapM step = some results ↔ items.map step = results.map some := by
  induction items generalizing results with
  | nil =>
    rw [List.mapM_nil, List.map_nil, List.nil_eq, List.map_eq_nil_iff]
    exact ⟨fun done => (Option.some.inj done).symm, fun done => done ▸ rfl⟩
  | cons item rest ih =>
    simp only [List.mapM_cons, Option.bind_eq_bind, Option.bind_eq_some_iff, ih, List.map_cons]
    constructor
    · rintro ⟨result, first, results, others, done⟩
      obtain rfl := Option.some.inj done
      rw [first, others, List.map_cons]
    · intro same
      obtain ⟨result, results, rfl, first, others⟩ := List.map_eq_cons_iff.1 same.symm
      exact ⟨result, first.symm, results, others.symm, rfl⟩

theorem mapM_eq_ok_iff_map {ε α β : Type} {step : α → Except ε β} {make : β → α}
    (undoes : ∀ item result, step item = .ok result ↔ item = make result) {items : List α}
    {results : List β} : items.mapM step = .ok results ↔ items = results.map make := by
  rw [mapM_eq_ok_iff]
  simp only [undoes]
  constructor
  · intro each
    induction each with
    | nil => rfl
    | cons same _ ih => rw [List.map_cons, same, ih]
  · rintro rfl
    induction results with
    | nil => exact .nil
    | cons result rest ih => exact .cons rfl ih

end SensorThings
