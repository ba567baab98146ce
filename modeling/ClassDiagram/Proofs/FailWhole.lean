import ClassDiagram.Proofs.Calls

/-!
# How a first run fails

A first run that fails for a reason of the document leaves nothing to be read,
and every later run tells the reason.  A stray fault ends the run as well, but
it leaves the store open, with all that was built before it.
-/

namespace ClassDiagram

open Step (outcome_eq_error outcome_eq_ok)

namespace Ingestion

/-- An ingestion whose store answers every question, now and later, with a failure. -/
structure Unusable (ingestion : Ingestion) (cause : IngestFault) (p : Progress) : Prop where
  invalid : p.store.FailedWith cause
  unreadable : ∀ {α : Type} (part : Store → α),
    p.store.read part = .error (.ingest (.invalidData cause))
  unanswered : ∀ {α : Type} (part : Store → Table String α) (kind : EntityKind)
    (id : Option String), p.store.get part kind id = .error (.ingest (.invalidData cause))
  untyped : ∀ id, p.store.fieldTypeName id = .error (.ingest (.invalidData cause))
  failing : ∀ calls, (ingestion.run.outcome (ingestion.after calls p)).1 =
    .error (.ingest (.invalidData cause))

theorem unusable_of_failedWith {ingestion : Ingestion} {cause : IngestFault} {p : Progress}
    (invalid : p.store.FailedWith cause) : ingestion.Unusable cause p where
  invalid := invalid
  unreadable := invalid.read
  unanswered := invalid.get
  untyped := invalid.fieldTypeName
  failing calls := by
    have same := ingestion.after_of_failedWith calls invalid
    rw [← same] at invalid
    rw [outcome_eq_error.mpr (ingestion.run_of_failedWith invalid)]

/--
A first run either gives the store it leaves, valid and frozen, or it tells a
fault that is the failure of the store ever after.
-/
def FailsWhole (ingestion : Ingestion) : Prop :=
  match ingestion.run.outcome .initial with
  | (.ok store, p) => p.store = store ∧ store.IsDone
  | (.error fault, p) => ∃ cause, fault = .ingest cause ∧ ingestion.Unusable cause p

/-- An ingestion that a stray fault has ended half way, with all that was built before it. -/
structure LeftOpen (fault : Fault) (p : Progress) : Prop where
  strays : fault.IsStray
  opened : p.store.IsOpen
  readable : ∀ {α : Type} (part : Store → α), p.store.read part = .ok (part p.store)

theorem leftOpen_of_isOpen {fault : Fault} {p : Progress} (strays : fault.IsStray)
    (opened : p.store.IsOpen) : LeftOpen fault p where
  strays := strays
  opened := opened
  readable part := by
    rw [Store.read, Store.checkValid_of_unfailed opened.unfailed]
    rfl

/-- What the fault of a first run is, and what it leaves. -/
theorem unusable_or_leftOpen {ingestion : Ingestion} {fault : Fault} {p : Progress}
    (failed : ingestion.run.outcome .initial = (.error fault, p)) :
    (∃ cause, fault = .ingest cause ∧ ingestion.Unusable cause p) ∨ LeftOpen fault p := by
  have collapsed : Collapsed fault p.store :=
    ingestion.run_meets.error Store.isOpen_empty (outcome_eq_error.mp failed)
  cases fault with
  | ingest cause => exact Or.inl ⟨cause, rfl, unusable_of_failedWith collapsed⟩
  | _ => exact Or.inr (leftOpen_of_isOpen collapsed.1 collapsed.2)

/-- The store that a first run gives is the one it leaves, and it is done. -/
theorem isDone_of_first_run {ingestion : Ingestion} {store : Store} {p : Progress}
    (done : ingestion.run.outcome .initial = (.ok store, p)) :
    p.store = store ∧ store.IsDone := by
  have same := ingestion.run_eq_ok_store (outcome_eq_ok.mp done)
  have finished := ingestion.run_meets.ok Store.isOpen_empty (outcome_eq_ok.mp done)
  rw [same] at finished
  exact ⟨same, finished⟩

/--
An ingestion fails whole unless its first run ends in a stray fault.  Every
other fault makes the store unusable, and a stray one leaves it open.
-/
theorem failsWhole_iff (ingestion : Ingestion) :
    (ingestion.FailsWhole ↔
      ∀ fault p, ingestion.run.outcome .initial = (.error fault, p) → ¬ fault.IsStray) ∧
    ∀ fault p, ingestion.run.outcome .initial = (.error fault, p) →
      (∃ cause, fault = .ingest cause ∧ ingestion.Unusable cause p) ∨ LeftOpen fault p := by
  refine ⟨⟨?_, ?_⟩, fun _ _ failed => unusable_or_leftOpen failed⟩
  · intro whole fault p failed strays
    unfold FailsWhole at whole
    rw [failed] at whole
    obtain ⟨cause, rfl, _⟩ := whole
    cases strays
  · intro tame
    unfold FailsWhole
    cases ran : ingestion.run.outcome .initial with
    | mk result p =>
        cases result with
        | ok store => exact isDone_of_first_run ran
        | error fault =>
            rcases unusable_or_leftOpen ran with unusable | left
            · exact unusable
            · exact absurd left.strays (tame fault p ran)

/-- A class with a field, and after it a class without an identifier. -/
def halfRead : Ingestion where
  model := umlElement "Model" [] [] [
    umlElement "packagedElement" [("type", "uml:Class"), ("id", "c")] [("name", "Course")] [
      umlElement "ownedAttribute" [("id", "f")] [("name", "title"), ("type", "String")] []],
    umlElement "packagedElement" [("type", "uml:Class")] [("name", "Person")] []]
  database := .sql
  registry := .ofDatabase .sql
  strict := false
  document := "course.xmi"

/-- A class without an identifier ends the run, but what came before it stays readable. -/
theorem not_failsWhole_halfRead :
    ¬ halfRead.FailsWhole ∧
      (halfRead.run.outcome .initial).1 =
        .error (.invalidEntity .objectClass [⟨"id", none, .notText⟩]) ∧
      (halfRead.run.outcome .initial).2.store.isValid = true ∧
      (halfRead.run.outcome .initial).2.store.frozen = false ∧
      (halfRead.run.outcome .initial).2.store.read (·.fields.keys) = .ok ["f"] := by
  refine ⟨?_, rfl, rfl, rfl, rfl⟩
  intro whole
  change ∃ cause, Fault.invalidEntity .objectClass [⟨"id", none, .notText⟩] = .ingest cause ∧ _
    at whole
  obtain ⟨_, ⟨⟩, _⟩ := whole

end Ingestion

end ClassDiagram
