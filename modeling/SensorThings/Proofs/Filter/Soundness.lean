import Mathlib.Logic.Relation
import SensorThings.Proofs.Filter.Meaning
import SensorThings.Proofs.Model.Columns
import SensorThings.Store.Tables

/-!
Static types are kept. What an accepted expression compiles to has values of its static type, on
every row of the kind it is about; the columns it reads are there, and so are the arguments of the
functions it calls.
-/
namespace SensorThings

namespace Term

def children : Term → List Term
  | literal _ => []
  | column _ => []
  | arithmetic _ left right => [left, right]
  | negate operand => [operand]
  | call _ arguments => arguments

/-- A part of a term, at any depth; the term itself is one. -/
abbrev Within : Term → Term → Prop :=
  Relation.ReflTransGen fun child whole => child ∈ whole.children

/-- What a single node reads is there. A column belongs to the kind of the row that its relations
lead to, and each of them to the kind of the row before. A function has its arguments, each null or
of a type that is accepted there, and if they fit it has a result. -/
def Supplied [PlaneGeometry] (tables : Tables) (kind : EntityKind) (entity : kind.Entity) :
    Term → Prop
  | column reference => ∃ final, kind.Leads reference.hops final ∧ final.HasColumn reference.name ∧
      ∀ row, tables.follow? ⟨kind, entity⟩ reference.hops = some row → row.kind = final
  | call function arguments =>
    let scalars := values (tables.source kind entity) arguments
    function.Takes scalars.length ∧ function.Admits scalars ∧
      (function.Fits scalars → ∃ value, function.result? scalars = some value)
  | _ => True

/-- On a row of the kind, the value is of the type and nothing that is read is missing. -/
structure Sound [PlaneGeometry] (tables : Tables) (kind : EntityKind) (entity : kind.Entity)
    (term : Term) (type : ValueType) : Prop where
  typed : (term.value (tables.source kind entity)).HasType type
  supplied : ∀ part : Term, part.Within term → part.Supplied tables kind entity

@[simp] theorem values_eq_map [PlaneGeometry] (source : RowSource) (terms : List Term) :
    values source terms = terms.map (value source) := by
  induction terms with
  | nil => rfl
  | cons term rest ih => rw [values, List.map_cons, ih]

end Term

/-- The terms of an operand: one, or the start and the end of a time. -/
def Operand.terms : Operand → List Term
  | value term _ => [term]
  | span start stop => [start, stop]

theorem Operand.term_mem_terms (operand : Operand) : operand.term ∈ operand.terms := by
  cases operand <;> exact List.mem_cons_self

theorem Tables.kind_of_follow? (tables : Tables) {hops : List Hop} {start found : SomeEntity}
    {final : EntityKind} (leads : start.kind.Leads hops final)
    (followed : tables.follow? start hops = some found) : found.kind = final := by
  induction hops generalizing start with
  | nil =>
    cases leads
    cases followed
    rfl
  | cons hop rest ih =>
    cases leads with
    | @along _ next _ _ _ _ has named leads =>
      simp only [follow?, Option.bind_eq_bind, Option.bind_eq_some_iff] at followed
      obtain ⟨id, -, target, targetNamed, entity, -, followed⟩ := followed
      cases named.symm.trans targetNamed
      exact ih leads followed

namespace Term

section

variable {tables : Tables} {kind : EntityKind} {entity : kind.Entity} {hops : List Hop}
  {final : EntityKind} {name : String}

theorem hasType_column {type : ValueType} (leads : kind.Leads hops final)
    (holds : final.Holds name type) :
    (((tables.source kind entity).along hops).column name).HasType type := by
  rw [RowSource.column, RowSource.along, List.append_nil, Tables.source]
  cases followed : tables.follow? ⟨kind, entity⟩ hops with
  | none => exact .null type
  | some row =>
    obtain rfl := tables.kind_of_follow? leads followed
    exact holds.typed row.entity

end

variable [PlaneGeometry] {tables : Tables} {kind : EntityKind} {entity : kind.Entity}

theorem supplied_of_children {whole : Term} (node : whole.Supplied tables kind entity)
    (children : ∀ child ∈ whole.children, ∀ part : Term, part.Within child →
      part.Supplied tables kind entity) :
    ∀ part : Term, part.Within whole → part.Supplied tables kind entity := by
  intro part within
  cases within with
  | refl => exact node
  | tail within isChild => exact children _ isChild part within

section

variable {hops : List Hop} {final : EntityKind} {name : String}

theorem supplied_column {path : List String} (leads : kind.Leads hops final)
    (has : final.HasColumn name) :
    ∀ part : Term, part.Within (.column ⟨hops, name, path⟩) → part.Supplied tables kind entity :=
  supplied_of_children
    ⟨final, leads, has, fun _ followed => tables.kind_of_follow? leads followed⟩ nofun

theorem Sound.column {type : ValueType} (leads : kind.Leads hops final)
    (holds : final.Holds name type) :
    (Term.column ⟨hops, name, []⟩).Sound tables kind entity type where
  typed := by
    rw [RowSource.value_column]
    exact hasType_column leads holds
  supplied := supplied_column leads holds.has

theorem Sound.document (path : List String) (leads : kind.Leads hops final)
    (holds : final.Holds name .json) :
    (Term.column ⟨hops, name, path⟩).Sound tables kind entity
      (if path.isEmpty then .json else .any) := by
  cases path with
  | nil => exact .column leads holds
  | cons segment rest => exact ⟨.any _, supplied_column leads holds.has⟩

end

theorem Sound.literal (value : Scalar) :
    (Term.literal value).Sound tables kind entity value.type where
  typed := value.hasType_type
  supplied := supplied_of_children trivial nofun

theorem Sound.arithmetic (operator : Arithmetic) {left right : Term} {type other : ValueType}
    (leftSound : left.Sound tables kind entity type)
    (rightSound : right.Sound tables kind entity other) :
    (Term.arithmetic operator left right).Sound tables kind entity .number where
  typed := by
    rw [Term.value]
    exact operator.hasType_apply ..
  supplied := supplied_of_children trivial <| List.forall_mem_cons.2
    ⟨leftSound.supplied, List.forall_mem_singleton.2 rightSound.supplied⟩

theorem Sound.negate {operand : Term} {type : ValueType}
    (operandSound : operand.Sound tables kind entity type) :
    (Term.negate operand).Sound tables kind entity .number where
  typed := by
    rw [Term.value]
    exact Arithmetic.hasType_negate _
  supplied := supplied_of_children trivial <|
    List.forall_mem_singleton.2 operandSound.supplied

theorem Sound.call {function : Function} {arguments : List Term}
    (takes : function.Takes arguments.length)
    (argumentsSound : ∀ index argument, arguments[index]? = some argument →
      ∃ type, function.accepts index type = true ∧ argument.Sound tables kind entity type) :
    (Term.call function arguments).Sound tables kind entity function.resultType where
  typed := by
    rw [Term.value]
    exact function.hasType_apply _
  supplied := by
    refine supplied_of_children ?_ fun argument member => ?_
    · rw [Supplied, values_eq_map]
      rw [← List.length_map (Term.value (tables.source kind entity))] at takes
      refine ⟨takes, fun index value stands => ?_, Function.exists_result? takes⟩
      rw [List.getElem?_map, Option.map_eq_some_iff] at stands
      obtain ⟨argument, placed, rfl⟩ := stands
      obtain ⟨type, accepted, sound⟩ := argumentsSound index argument placed
      exact ⟨type, accepted, sound.typed⟩
    · obtain ⟨index, placed⟩ := List.mem_iff_getElem?.1 member
      obtain ⟨type, -, sound⟩ := argumentsSound index argument placed
      exact sound.supplied

end Term

namespace Expression

theorem length_of_operands {context : QueryContext} {whole : Expression} {name : String}
    {function : Function} {position : Nat} {arguments : List Expression} {terms : List Term}
    (compiled : operands context whole name function position arguments = .ok terms) :
    terms.length = arguments.length := by
  induction arguments generalizing position terms with
  | nil =>
    cases compiled
    rfl
  | cons argument rest ih =>
    obtain ⟨operand, others, -, -, othersCompiled, rfl⟩ := operands_cons_eq_ok_iff.1 compiled
    rw [List.length_cons, List.length_cons, ih othersCompiled]

section

variable [PlaneGeometry] {tables : Tables} {kind : EntityKind} {entity : kind.Entity}

theorem sound_of_resolution {path : List String} {map : PropertyMap} {hops : List Hop}
    {middle : EntityKind} {operand : Operand}
    (resolution : EntityKind.schema.Resolution map hops path operand)
    (leads : kind.Leads hops middle) (known : middle.propertyMap? = some map) :
    ∀ term ∈ operand.terms, term.Sound tables kind entity operand.type := by
  induction resolution generalizing middle with
  | column found =>
    have holds := EntityKind.backs_of_property? known found
    exact List.forall_mem_singleton.2 (.column leads holds)
  | span found =>
    obtain ⟨startHeld, stopHeld⟩ := EntityKind.backs_of_property? known found
    exact List.forall_mem_cons.2
      ⟨.column leads startHeld, List.forall_mem_singleton.2 (.column leads stopHeld)⟩
  | document found =>
    have holds := EntityKind.backs_of_property? known found
    exact List.forall_mem_singleton.2 (.document _ leads holds)
  | relation found mapped _ ih =>
    have has := EntityKind.backs_of_property? known found
    obtain ⟨next, named, nextKnown⟩ := Option.bind_eq_some_iff.1 mapped
    exact ih (leads.further has named) nextKnown

section

variable {root : PropertyMap} {now : Instant}

mutual

theorem sound_of_operand (known : kind.propertyMap? = some root) {expression : Expression}
    {operand : Operand}
    (compiled : expression.operand ⟨EntityKind.schema, root, now⟩ = .ok operand) :
    ∀ term ∈ operand.terms, term.Sound tables kind entity operand.type := by
  match expression with
  | literal value =>
    cases compiled
    exact List.forall_mem_singleton.2 (.literal value)
  | member path =>
    have resolution := Schema.resolution_of_resolve (located_eq_ok_iff.1 compiled)
    exact sound_of_resolution resolution (.here kind) known
  | arithmetic operator left right =>
    obtain ⟨leftOperand, rightOperand, leftCompiled, rightCompiled, -, -, rfl⟩ :=
      operand_arithmetic_eq_ok_iff.1 compiled
    have leftSound := sound_of_operand known leftCompiled _ leftOperand.term_mem_terms
    have rightSound := sound_of_operand known rightCompiled _ rightOperand.term_mem_terms
    exact List.forall_mem_singleton.2 (.arithmetic operator leftSound rightSound)
  | negate inner =>
    obtain ⟨innerOperand, innerCompiled, -, rfl⟩ := operand_negate_eq_ok_iff.1 compiled
    have innerSound := sound_of_operand known innerCompiled _ innerOperand.term_mem_terms
    exact List.forall_mem_singleton.2 innerSound.negate
  | call name arguments =>
    rcases operand_call_eq_ok_iff.1 compiled with
      ⟨-, instant, -, rfl⟩ | ⟨-, function, found, terms, termsCompiled, -, rfl⟩
    · exact List.forall_mem_singleton.2 (.literal (.instant instant))
    · have takes := Function.takes_of_ofCall? found
      rw [← length_of_operands termsCompiled] at takes
      have argumentsSound := sound_of_operands known termsCompiled
      simp only [Nat.zero_add] at argumentsSound
      exact List.forall_mem_singleton.2 (.call takes argumentsSound)
  | lambda .. => cases located_eq_ok_iff.1 compiled
  | both .. => cases located_eq_ok_iff.1 compiled
  | either .. => cases located_eq_ok_iff.1 compiled
  | not .. => cases located_eq_ok_iff.1 compiled
  | compare .. => cases located_eq_ok_iff.1 compiled

theorem sound_of_operands (known : kind.propertyMap? = some root) {whole : Expression}
    {name : String} {function : Function} {position : Nat} {arguments : List Expression}
    {terms : List Term}
    (compiled : operands ⟨EntityKind.schema, root, now⟩ whole name function position arguments =
      .ok terms) :
    ∀ index term, terms[index]? = some term →
      ∃ type, function.accepts (position + index) type = true ∧
        term.Sound tables kind entity type := by
  match arguments with
  | [] =>
    cases compiled
    exact nofun
  | argument :: rest =>
    obtain ⟨operand, others, operandCompiled, accepted, othersCompiled, rfl⟩ :=
      operands_cons_eq_ok_iff.1 compiled
    intro index term placed
    cases index with
    | zero =>
      cases placed
      exact ⟨operand.type, accepted,
        sound_of_operand known operandCompiled _ operand.term_mem_terms⟩
    | succ index =>
      rw [← Nat.add_assoc, Nat.add_right_comm]
      exact sound_of_operands known othersCompiled index term placed

end

end

end

/-- An expression that is accepted as a value, on a kind that clients see, has values of its static
type on every row of that kind, both ends of a time included, and reads nothing that is missing. -/
theorem sound_of_accepted [PlaneGeometry] {kind : EntityKind} {root : PropertyMap}
    (isPublic : kind.propertyMap? = some root) (now : Instant) {expression : Expression}
    {operand : Operand}
    (accepted : expression.operand ⟨EntityKind.schema, root, now⟩ = .ok operand)
    (tables : Tables) (entity : kind.Entity) :
    expression.term ⟨EntityKind.schema, root, now⟩ = .ok operand.term ∧
      operand.term ∈ operand.terms ∧
      ∀ term ∈ operand.terms, term.Sound tables kind entity operand.type :=
  ⟨by rw [term, accepted]; rfl, operand.term_mem_terms, sound_of_operand isPublic accepted⟩

/-- The name of a stream's thing without its first letter. -/
def thingNameTail : Expression :=
  call "substring" [member ["Thing", "name"], literal (.int 1)]

/-- A garden, under the identifier that a complete stream has for its thing. -/
def gardenTables : Tables :=
  Tables.put {} .thing (Thing.mk default "garden" "d" none [])

theorem sound_of_accepted_thingNameTail :
    ∃ root operand, EntityKind.datastream.propertyMap? = some root ∧
      thingNameTail.operand ⟨EntityKind.schema, root, dayAfter⟩ = .ok operand ∧
      operand.type = .string ∧
      operand.term.value (gardenTables.source .datastream (EntityKind.complete .datastream)) =
        .string "arden" ∧
      operand.term.Sound gardenTables .datastream (EntityKind.complete .datastream) .string := by
  refine ⟨_, _, rfl, rfl, rfl, ?_, ?_⟩
  · rfl
  · obtain ⟨-, stands, sound⟩ := @sound_of_accepted _ .datastream _ rfl dayAfter thingNameTail _ rfl
      gardenTables (EntityKind.complete .datastream)
    exact sound _ stands

end Expression

end SensorThings
