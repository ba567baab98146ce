import ClassDiagram.Proofs.Calls
import ClassDiagram.Proofs.Histories

/-!
# The life of a store under an ingestion

An ingestion is called, and its store is changed and asked, in any order.  The
store is open at first.  The first freeze or the first failure closes it for
good: from then on it holds the same entities, refuses every filling, and once
it has a failure it keeps this one and tells it to whoever asks.
-/

namespace ClassDiagram

open Step (Keeps Meets outcome_eq_error outcome_eq_ok)

namespace Store

/-! ## What a store holds and what it can be asked -/

structure Contents where
  classes : Table String Class
  fields : Table String Field
  types : Table String ScalarType
  associations : Table String Association
  enumerations : Table String Enumeration
  userClass : Option String

def contents (store : Store) : Contents :=
  ⟨store.classes, store.fields, store.types, store.associations, store.enumerations,
    store.userClass⟩

inductive Question where
  | classes
  | fields
  | types
  | associations
  | enumerations
  | userClass
  | type (id : Option String)
  | objectClass (id : Option String)
  | field (id : Option String)
  | association (id : Option String)
  | enumeration (id : Option String)
  | fieldTypeName (id : Option String)
  | hasType (id : Option String)
  | hasClass (id : Option String)
  | isValid
  | isFrozen
  | failure
  | summary

namespace Question

def Answer : Question → Type
  | classes => Table String Class
  | fields => Table String Field
  | types => Table String ScalarType
  | associations => Table String Association
  | enumerations => Table String Enumeration
  | userClass => Option String
  | type _ => ScalarType
  | objectClass _ => Class
  | field _ => Field
  | association _ => Association
  | enumeration _ => Enumeration
  | fieldTypeName _ => String
  | hasType _ | hasClass _ | isValid | isFrozen => Bool
  | failure => Option IngestFault
  | summary => Summary

def answer (store : Store) : (question : Question) → Except Fault question.Answer
  | classes => store.read Store.classes
  | fields => store.read Store.fields
  | types => store.read Store.types
  | associations => store.read Store.associations
  | enumerations => store.read Store.enumerations
  | userClass => store.read Store.userClass
  | type id => store.getType id
  | objectClass id => store.getClass id
  | field id => store.getField id
  | association id => store.getAssociation id
  | enumeration id => store.getEnumeration id
  | fieldTypeName id => store.fieldTypeName id
  | hasType id => .ok (store.hasType id)
  | hasClass id => .ok (store.hasClass id)
  | isValid => .ok store.isValid
  | isFrozen => .ok store.frozen
  | failure => .ok store.failure
  | summary => .ok store.summary

def isGuarded : Question → Bool
  | hasType _ | hasClass _ | isValid | isFrozen | failure | summary => false
  | _ => true

theorem answer_of_failedWith {store : Store} {cause : IngestFault}
    (invalid : store.FailedWith cause) {question : Question}
    (guarded : question.isGuarded = true) :
    question.answer store = .error (.ingest (.invalidData cause)) := by
  cases question with
  | classes | fields | types | associations | enumerations | userClass => exact invalid.read _
  | type | objectClass | field | association | enumeration => exact invalid.get _ _ _
  | fieldTypeName id => exact invalid.fieldTypeName id
  | hasType | hasClass | isValid | isFrozen | failure | summary => cases guarded

end Question

def Operation.result (operation : Operation) (store : Store) : Except Fault Unit :=
  match operation.apply store with
  | .ok _ _ => .ok ()
  | .error fault _ => .error fault

/-! ## Closed stores -/

def Sound (store : Store) : Prop := store.isValid = false → store.frozen = true

def refusal (store : Store) : Fault :=
  match store.failure with
  | some cause => .ingest (.invalidData cause)
  | none => .frozen

theorem checkWritable_of_frozen {store : Store} (frozen : store.frozen = true) :
    store.checkWritable = .error store.refusal := by
  unfold refusal
  cases failure : store.failure with
  | none => exact IsDone.checkWritable ⟨failure, frozen⟩
  | some cause => exact FailedWith.checkWritable ⟨failure, frozen⟩

theorem Sound.isOpen {store : Store} (sound : store.Sound) (unfrozen : store.frozen = false) :
    store.IsOpen := by
  refine ⟨?_, unfrozen⟩
  cases failure : store.failure with
  | none => rfl
  | some cause =>
      have frozen := sound (isValid_of_failed failure)
      rw [unfrozen] at frozen
      cases frozen

theorem IsOpen.sound {store : Store} (opened : store.IsOpen) : store.Sound := by
  intro invalid
  cases (isValid_of_unfailed opened.unfailed).symm.trans invalid

end Store

namespace Ingestion

open Store (Operation Question)

variable {ingestion : Ingestion} {p : Progress}

/-! ## Calls and the faults they tell -/

def causeOf {α : Type} : Except Fault α → Option IngestFault
  | .ok _ => none
  | .error fault => fault.cause?

def Call.step (ingestion : Ingestion) : Call → Step Unit
  | .run => do let _ ← ingestion.run
  | .findElements => do let _ ← ingestion.findElements
  | .index => do let _ ← ingestion.index
  | .positions kind => do let _ ← (do return (← ingestion.index).positions kind : Step (List Nat))
  | .fillTypes => do let _ ← ingestion.fillTypes
  | .fillClasses => do let _ ← ingestion.fillClasses
  | .fillAssociations => do let _ ← ingestion.fillAssociations
  | .fillEnumerations => do let _ ← ingestion.fillEnumerations

theorem outcome_forget {α : Type} (step : Step α) (p : Progress) :
    ((step >>= fun _ => (pure () : Step Unit)).outcome p).2 = (step.outcome p).2 := by
  unfold Step.outcome
  rw [Step.bind_apply]
  cases step p <;> rfl

theorem Call.take_eq (call : Call) :
    call.take ingestion p = ((call.step ingestion).outcome p).2 := by
  cases call <;> exact (outcome_forget _ p).symm

def Call.result (ingestion : Ingestion) (call : Call) (p : Progress) : Except Fault Unit :=
  ((call.step ingestion).outcome p).1

/--
The fault of the document that gets out of a stage in a call.  A run of an
invalid store ends before its first stage.
-/
def Call.tells (ingestion : Ingestion) : Call → Progress → Option IngestFault
  | .run, p => if p.store.isValid then causeOf (Call.run.result ingestion p) else none
  | call, p => causeOf (call.result ingestion p)

theorem Call.tells_of_isValid (call : Call) (valid : p.store.isValid = true) :
    call.tells ingestion p = causeOf (call.result ingestion p) := by
  cases call with
  | run => exact if_pos valid
  | _ => rfl

def Call.freezes (ingestion : Ingestion) : Call → Progress → Bool
  | .run, p => (Call.run.result ingestion p).toBool
  | _, _ => false

/-- Every call but a run consists of stages. -/
theorem Staged.step {inv : Store → Prop} {tame : Fault → Prop} {told : Fault → Store → Prop}
    (staged : Staged inv tame told) (ingestion : Ingestion) {call : Call} (other : call ≠ .run) :
    Meets inv (call.step ingestion) inv told := by
  have done {α : Type} (_ : α) : Meets inv (pure () : Step Unit) inv told := fun _ start => start
  cases call with
  | run => exact absurd rfl other
  | findElements => exact staged.findElements.bind done
  | index => exact staged.index.bind done
  | positions kind => exact (staged.index.bind fun _ _ start => start).bind done
  | fillTypes => exact staged.fillTypes.bind done
  | fillClasses => exact staged.fillClasses.bind done
  | fillAssociations => exact staged.fillAssociations.bind done
  | fillEnumerations => exact staged.fillEnumerations.bind done

/-! ## Calls on a closed store -/

/-- A stage leaves a closed store as its fault leaves it. -/
theorem staged_of_closed {store : Store} {fault : Fault}
    (closed : store.checkWritable = .error fault) :
    Staged (· = store) (fun _ => True) fun told next => next = store.afterFault told where
  lasting := lasting_of_closed closed
  document cause next start := by
    rw [start.1]
    rfl
  other told next other start := by
    cases told with
    | ingest cause => exact absurd rfl (other cause)
    | _ => exact start.1

theorem Call.step_meets_of_frozen (ingestion : Ingestion) {store : Store}
    (frozen : store.frozen = true) (call : Call) :
    Meets (· = store) (call.step ingestion) (· = store)
      fun told next => next = store.afterFault told := by
  by_cases ran : call = .run
  · rintro p rfl
    rw [ran]
    cases failure : p.store.failure with
    | none =>
        have gives : Call.run.step ingestion p = _ :=
          Step.bind_of_ok (ingestion.run_of_isDone ⟨failure, frozen⟩) _
        rw [gives]
        rfl
    | some cause =>
        have invalid : p.store.FailedWith cause := ⟨failure, frozen⟩
        have tells : Call.run.step ingestion p = _ :=
          Step.bind_of_error (ingestion.run_of_failedWith invalid) _
        rw [tells]
        exact (invalid.invalidate_eq _).symm
  · exact (staged_of_closed (Store.checkWritable_of_frozen frozen)).step ingestion ran

/-- A call changes a closed store by the failure that it tells, and by nothing else. -/
theorem Call.take_of_frozen (call : Call) (frozen : p.store.frozen = true) :
    (call.take ingestion p).store =
      (call.tells ingestion p).elim p.store p.store.invalidate := by
  have after : (call.take ingestion p).store =
      (causeOf (call.result ingestion p)).elim p.store p.store.invalidate := by
    have result := call.step_meets_of_frozen ingestion frozen p rfl
    rw [call.take_eq]
    unfold Call.result Step.outcome
    cases done : call.step ingestion p with
    | ok a q =>
        rw [done] at result
        exact result
    | error fault q =>
        rw [done] at result
        cases fault with
        | ingest cause => exact result
        | _ => exact result
  cases failure : p.store.failure with
  | none => rw [after, call.tells_of_isValid (Store.isValid_of_unfailed failure)]
  | some cause =>
      have same (told : Option IngestFault) : told.elim p.store p.store.invalidate = p.store := by
        have invalid : p.store.FailedWith cause := ⟨failure, frozen⟩
        cases told with
        | none => rfl
        | some other => exact invalid.invalidate_eq other
      rw [after, same, same]

/-! ## Calls on an open store -/

/-- What a step has left of an open store shows in the fault that it tells, if any. -/
theorem store_of_meets_isOpen {step : Step Unit} {after : Store → Prop}
    (meets : Meets Store.IsOpen step after Collapsed) (opened : p.store.IsOpen) :
    match causeOf (step.outcome p).1 with
    | some cause => (step.outcome p).2.store.FailedWith cause
    | none => if (step.outcome p).1.toBool then after (step.outcome p).2.store
        else (step.outcome p).2.store.IsOpen := by
  have result := meets p opened
  unfold Step.outcome
  cases done : step p with
  | ok a q =>
      rw [done] at result
      exact result
  | error fault q =>
      rw [done] at result
      cases fault with
      | ingest cause => exact result
      | _ => exact result.2

/-- What a call that tells a fault, or none, leaves of an open store. -/
theorem Call.take_of_isOpen (call : Call) (opened : p.store.IsOpen) :
    match call.tells ingestion p with
    | some cause => (call.take ingestion p).store.FailedWith cause
    | none => if call.freezes ingestion p
        then (call.take ingestion p).store.IsDone else (call.take ingestion p).store.IsOpen := by
  have valid := Store.isValid_of_unfailed opened.unfailed
  rw [call.tells_of_isValid valid, call.take_eq]
  by_cases ran : call = .run
  · subst ran
    have run : Meets Store.IsOpen (Call.run.step ingestion) Store.IsDone Collapsed :=
      ingestion.run_meets.bind fun _ _ start => start
    exact store_of_meets_isOpen run opened
  · have left := store_of_meets_isOpen (staged_isOpen.step ingestion ran) opened
    have unfrozen : call.freezes ingestion p = false := by
      cases call with
      | run => exact absurd rfl ran
      | _ => rfl
    rw [unfrozen]
    rw [ite_self] at left
    exact left

/-! ## Acts -/

inductive Act where
  | ofCall (call : Call)
  | ofOperation (operation : Operation)
  | ofQuestion (question : Question)

namespace Act

def isDirect : Act → Bool
  | .ofCall _ => false
  | .ofOperation _ | .ofQuestion _ => true

def take (ingestion : Ingestion) : Act → Progress → Progress
  | .ofCall call, p => call.take ingestion p
  | .ofOperation operation, p => { p with store := operation.take p.store }
  | .ofQuestion _, p => p

def result (ingestion : Ingestion) : Act → Progress → Except Fault Unit
  | .ofCall call, p => call.result ingestion p
  | .ofOperation operation, p => operation.result p.store
  | .ofQuestion question, p => (question.answer p.store).map fun _ => ()

def tells (ingestion : Ingestion) : Act → Progress → Option IngestFault
  | .ofCall call, p => call.tells ingestion p
  | .ofOperation (.invalidate cause), _ => some cause
  | _, _ => none

def freezes (ingestion : Ingestion) : Act → Progress → Bool
  | .ofCall call, p => call.freezes ingestion p
  | .ofOperation .freeze, _ => true
  | _, _ => false

/-- An act on the store alone that fails leaves everything as it is. -/
theorem take_of_error {act : Act} {fault : Fault} (direct : act.isDirect = true)
    (failed : act.result ingestion p = .error fault) : act.take ingestion p = p := by
  cases act with
  | ofCall call => cases direct
  | ofQuestion question => rfl
  | ofOperation operation =>
      change operation.result p.store = _ at failed
      unfold Operation.result at failed
      cases refusal : operation.apply p.store with
      | ok _ store =>
          rw [refusal] at failed
          cases failed
      | error other store =>
          change { p with store := operation.take p.store } = p
          rw [Operation.take_of_error refusal]

/-- An act changes a closed store by the failure that it tells, and by nothing else. -/
theorem take_of_frozen (act : Act) (frozen : p.store.frozen = true) :
    (act.take ingestion p).store =
      (act.tells ingestion p).elim p.store p.store.invalidate := by
  cases act with
  | ofCall call => exact call.take_of_frozen frozen
  | ofQuestion question => rfl
  | ofOperation operation =>
      cases operation with
      | fill filling =>
          exact Store.take_of_refused (filling.refused (Store.checkWritable_of_frozen frozen))
      | freeze =>
          change { p.store with frozen := true } = p.store
          rw [← frozen]
      | invalidate cause => rfl

/-- What an act that tells a fault, or none, leaves of an open store. -/
theorem take_of_isOpen (ingestion : Ingestion) (act : Act) (opened : p.store.IsOpen) :
    match act.tells ingestion p with
    | some cause => (act.take ingestion p).store.FailedWith cause
    | none => if act.freezes ingestion p
        then (act.take ingestion p).store.IsDone else (act.take ingestion p).store.IsOpen := by
  cases act with
  | ofCall call => exact call.take_of_isOpen opened
  | ofQuestion question => exact opened
  | ofOperation operation =>
      cases operation with
      | fill filling =>
          change ((Operation.fill filling).take p.store).IsOpen
          cases done : filling.apply p.store with
          | ok _ next =>
              rw [Store.take_of_ok done]
              exact Store.Filling.isOpen_apply done
          | error fault next =>
              rw [Store.take_of_refused done]
              exact opened
      | freeze => exact opened.freeze
      | invalidate cause => exact Store.failedWith_invalidate opened.unfailed cause

variable (act : Act)

/-- A closed store holds what it held. -/
theorem contents_take (frozen : p.store.frozen = true) :
    (act.take ingestion p).store.contents = p.store.contents := by
  rw [act.take_of_frozen frozen]
  cases act.tells ingestion p <;> rfl

variable (sound : p.store.Sound)
include sound

/-- A store is closed after an act if it was, or if the act fails it or freezes it. -/
theorem frozen_take : (act.take ingestion p).store.frozen = true ↔
    p.store.frozen = true ∨ (act.tells ingestion p).isSome = true ∨
      act.freezes ingestion p = true := by
  cases frozen : p.store.frozen with
  | true =>
      rw [act.take_of_frozen frozen]
      cases act.tells ingestion p <;> simp [frozen]
  | false =>
      have left := act.take_of_isOpen ingestion (sound.isOpen frozen)
      cases told : act.tells ingestion p with
      | some cause =>
          rw [told] at left
          simp [left.frozen]
      | none =>
          rw [told] at left
          cases freezes : act.freezes ingestion p with
          | true =>
              rw [freezes] at left
              simp [Store.IsDone.frozen left]
          | false =>
              rw [freezes] at left
              simp [Store.IsOpen.unfrozen left]

/-- A store keeps its failure, and has that of an act if it has none. -/
theorem failure_take : (act.take ingestion p).store.failure =
    p.store.failure.or (act.tells ingestion p) := by
  cases frozen : p.store.frozen with
  | true =>
      rw [act.take_of_frozen frozen]
      cases told : act.tells ingestion p with
      | none => rw [Option.elim_none, Option.or_none]
      | some cause =>
          rw [Option.elim_some, Store.failure_invalidate]
          cases p.store.failure <;> rfl
  | false =>
      have opened := sound.isOpen frozen
      have left := act.take_of_isOpen ingestion opened
      rw [opened.unfailed, Option.none_or]
      cases told : act.tells ingestion p with
      | some cause =>
          rw [told] at left
          exact left.failed
      | none =>
          rw [told] at left
          dsimp only at left
          split at left
          · exact left.unfailed
          · exact left.unfailed

theorem sound_take : (act.take ingestion p).store.Sound := by
  intro invalid
  rw [act.frozen_take sound]
  rw [Store.isValid, act.failure_take sound] at invalid
  cases failure : p.store.failure with
  | some cause => exact Or.inl (sound (Store.isValid_of_failed failure))
  | none =>
      rw [failure, Option.none_or] at invalid
      refine Or.inr (Or.inl ?_)
      cases told : act.tells ingestion p with
      | some cause => rfl
      | none =>
          rw [told] at invalid
          cases invalid

end Act

/-! ## Acts in a row -/

def through (ingestion : Ingestion) : List Act → Progress → Progress
  | [], p => p
  | act :: rest, p => through ingestion rest (act.take ingestion p)

def told (ingestion : Ingestion) : List Act → Progress → List IngestFault
  | [], _ => []
  | act :: rest, p =>
      (act.tells ingestion p).toList ++ told ingestion rest (act.take ingestion p)

theorem sound_through (acts : List Act) (sound : p.store.Sound) :
    (ingestion.through acts p).store.Sound := by
  induction acts generalizing p with
  | nil => exact sound
  | cons act rest ih => exact ih (act.sound_take sound)

/-- After acts in a row a store has the failure it had, or else the first one it was told. -/
theorem failure_through (acts : List Act) (sound : p.store.Sound) :
    (ingestion.through acts p).store.failure =
      p.store.failure.or (ingestion.told acts p).head? := by
  induction acts generalizing p with
  | nil => exact Option.or_none.symm
  | cons act rest ih =>
      rw [through, ih (act.sound_take sound), act.failure_take sound, Option.or_assoc, told]
      cases act.tells ingestion p <;> rfl

/-- A store is closed after acts if it was, or if one of the acts fails it or freezes it. -/
theorem frozen_through (acts : List Act) (sound : p.store.Sound) :
    (ingestion.through acts p).store.frozen = true ↔ p.store.frozen = true ∨
      ∃ front act back, acts = front ++ act :: back ∧
        ((act.tells ingestion (ingestion.through front p)).isSome = true ∨
          act.freezes ingestion (ingestion.through front p) = true) := by
  induction acts generalizing p with
  | nil => simp [through]
  | cons act rest ih =>
      rw [through, ih (act.sound_take sound), act.frozen_take sound, or_assoc]
      refine or_congr_right ⟨?_, ?_⟩
      · rintro (first | ⟨front, later, back, rfl, closes⟩)
        · exact ⟨[], act, rest, rfl, first⟩
        · exact ⟨act :: front, later, back, rfl, closes⟩
      · rintro ⟨front, later, back, shape, closes⟩
        cases front with
        | nil =>
            cases shape
            exact Or.inl closes
        | cons other front =>
            cases shape
            exact Or.inr ⟨front, later, back, rfl, closes⟩

/-- A closed store stays closed, and holds what it held. -/
theorem through_of_frozen (acts : List Act) (sound : p.store.Sound)
    (frozen : p.store.frozen = true) :
    (ingestion.through acts p).store.frozen = true ∧
      (ingestion.through acts p).store.contents = p.store.contents := by
  refine ⟨(frozen_through acts sound).mpr (Or.inl frozen), ?_⟩
  induction acts generalizing p with
  | nil => rfl
  | cons act rest ih =>
      have still : (act.take ingestion p).store.frozen = true :=
        (act.frozen_take sound).mpr (Or.inl frozen)
      rw [through, ih (act.sound_take sound) still, act.contents_take frozen]

structure LifeCycle (ingestion : Ingestion) (acts : List Act) (p : Progress) : Prop where
  /-- An invalid store is frozen. -/
  frozen_of_invalid : p.store.isValid = false → p.store.frozen = true
  /-- The failure of the store is the first one that got out of a stage or was handed to it. -/
  first_failure : p.store.failure = (ingestion.told acts .initial).head?
  /-- A failure is kept, whatever comes later. -/
  failure_kept : ∀ cause, p.store.failure = some cause →
    ∀ later, (ingestion.through later p).store.failure = some cause
  /-- The store is frozen from the first failure or freeze on. -/
  frozen_iff : p.store.frozen = true ↔ ∃ front act back, acts = front ++ act :: back ∧
    ((act.tells ingestion (ingestion.through front .initial)).isSome = true ∨
      act.freezes ingestion (ingestion.through front .initial) = true)
  /-- A frozen store stays frozen and holds the same entities, whatever comes later. -/
  closed : p.store.frozen = true → ∀ later, (ingestion.through later p).store.frozen = true ∧
    (ingestion.through later p).store.contents = p.store.contents
  /-- A frozen store refuses every filling, with its failure if it has one. -/
  refused : p.store.frozen = true → ∀ filling : Store.Filling,
    filling.apply p.store = .error p.store.refusal p.store
  /-- An operation or a question that fails changes nothing. -/
  unchanged : ∀ (act : Act) fault, act.isDirect = true →
    act.result ingestion p = .error fault → act.take ingestion p = p
  /-- An invalid store answers every guarded question with its failure, and so does a run. -/
  unanswered : ∀ cause, p.store.failure = some cause →
    (∀ question : Question, question.isGuarded = true →
      question.answer p.store = .error (.ingest (.invalidData cause))) ∧
    (ingestion.run.outcome p).1 = .error (.ingest (.invalidData cause))

/--
Whatever calls, operations and questions have come in whatever order, the store
of an ingestion is in its life cycle.
-/
theorem lifeCycle_through (ingestion : Ingestion) (acts : List Act) :
    ingestion.LifeCycle acts (ingestion.through acts .initial) := by
  have begun : Progress.initial.store.Sound := Store.isOpen_empty.sound
  have sound : (ingestion.through acts .initial).store.Sound := sound_through acts begun
  refine {
    frozen_of_invalid := sound
    first_failure := ?_
    failure_kept := ?_
    frozen_iff := ?_
    closed := fun frozen later => through_of_frozen later sound frozen
    refused := fun frozen filling => filling.refused (Store.checkWritable_of_frozen frozen)
    unchanged := fun act fault direct failed => Act.take_of_error direct failed
    unanswered := ?_ }
  · rw [failure_through acts begun]
    exact Option.none_or
  · intro cause failure later
    rw [failure_through later sound, failure, Option.some_or]
  · rw [frozen_through acts begun]
    exact or_iff_right nofun
  · intro cause failure
    have invalid : (ingestion.through acts .initial).store.FailedWith cause :=
      ⟨failure, sound (Store.isValid_of_failed failure)⟩
    refine ⟨fun question guarded => Question.answer_of_failedWith invalid guarded, ?_⟩
    rw [outcome_eq_error.mpr (ingestion.run_of_failedWith invalid)]

end Ingestion

end ClassDiagram
