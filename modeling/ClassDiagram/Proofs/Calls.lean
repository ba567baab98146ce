import ClassDiagram.Ingestion
import ClassDiagram.Proofs.Contracts
import Mathlib.Data.List.Basic

/-!
# Calls of an ingestion

An ingestion may be called in many ways, and every call may fail.  A stage
that fails for a reason of the document makes the store invalid; a store that
is invalid stays as it is whatever is called.
-/

namespace ClassDiagram

open Step (Keeps Meets)
open Xml (Node)

/-! ## Classifying -/

namespace Index

theorem ofModel_eq_error {strict : Bool} {model : Node} {fault : Fault}
    (failed : ofModel strict model = .error fault) :
    fault = .brokenName ∨ ∃ cause, fault = .ingest cause := by
  rcases Fault.bind_eq_error.mp failed with broken | ⟨elements, _, scanned⟩
  · exact Or.inl (allOf_eq_error broken)
  · obtain ⟨_, place, node, _, _, rfl⟩ := scan_eq_error (ofElements_eq_error.mp scanned)
    exact Or.inr ⟨_, rfl⟩

def located (index : Index) (kind : ElementKind) : List (Node × Nat) :=
  index.elements.zipIdx.filter fun entry => kind? entry.1 = some kind

section

variable (index : Index) (kind : ElementKind)

theorem positions_eq_located : index.positions kind = (index.located kind).map Prod.snd :=
  index.sort (some kind)

variable {index kind} in
theorem getElem?_of_located {entry : Node × Nat} (inside : entry ∈ index.located kind) :
    index.elements[entry.2]? = some entry.1 :=
  List.mem_zipIdx_iff_getElem?.mp (List.mem_filter.mp inside).1

theorem elementsOf_eq_located : index.elementsOf kind = (index.located kind).map Prod.fst := by
  rw [elementsOf, positions_eq_located, List.filterMap_map]
  exact List.filterMap_eq_map_iff_forall_eq_some.mpr fun _ => getElem?_of_located

theorem elementsOf_eq :
    index.elementsOf kind = index.elements.filter fun node => kind? node = some kind := by
  let fits : Node → Bool := fun node => kind? node = some kind
  calc
    index.elementsOf kind = (index.elements.zipIdx.filter (fits ∘ Prod.fst)).map Prod.fst :=
      index.elementsOf_eq_located kind
    _ = index.elements.filter fits := by
      rw [← List.filter_map, List.zipIdx_map_fst]

/-- The elements of a kind are those at its positions. -/
theorem map_positions :
    (index.positions kind).map (index.elements[·]?) = (index.elementsOf kind).map some := by
  rw [positions_eq_located, elementsOf_eq_located, List.map_map, List.map_map]
  exact List.map_congr_left fun _ => getElem?_of_located

theorem length_positions : (index.positions kind).length = (index.elementsOf kind).length := by
  rw [positions_eq_located, elementsOf_eq_located, List.length_map, List.length_map]

end

theorem elements_of_ofModel {strict : Bool} {model : Node} {index : Index}
    (made : ofModel strict model = .ok index) :
    index.elements = childrenNamed model "packagedElement" := by
  obtain ⟨elements, listed, sorted⟩ := Fault.bind_eq_ok.mp made
  obtain ⟨whole, rfl⟩ := allOf_eq_ok.mp listed
  rw [(ofElements_eq_ok.mp sorted).1, found_select whole]

/-- The index of a model sorts its packaged elements by kind. -/
theorem elementsOf_of_ofModel {strict : Bool} {model : Node} {index : Index}
    (made : ofModel strict model = .ok index) (kind : ElementKind) :
    index.elementsOf kind = elementsOfKind model kind := by
  rw [elementsOf_eq, elements_of_ofModel made, elementsOfKind]

end Index

/-- An invalid store is not changed by another failure. -/
theorem Store.FailedWith.invalidate_eq {store : Store} {cause : IngestFault}
    (invalid : store.FailedWith cause) (other : IngestFault) :
    store.invalidate other = store := by
  have frozen := invalid.frozen
  have failed := invalid.failed
  cases store
  dsimp only at frozen failed
  rw [Store.invalidate, failed, frozen]
  rfl

def Store.afterFault (store : Store) : Fault → Store
  | .ingest cause => store.invalidate cause
  | _ => store

namespace Ingestion

variable (ingestion : Ingestion)

/-! ## Stages -/

def place (stage : Stage) : Option Place := some ⟨ingestion.document, stage.name⟩

/-- A stage does what its action does, and a fault of the document invalidates the store. -/
theorem runStage_apply {α : Type} (stage : Stage) (action : Step α) (p : Progress) :
    ingestion.runStage stage action p = match action p with
      | .ok a q =>
          .ok a { q with
            journal := q.journal ++ [⟨.stageCompleted stage, ingestion.place stage⟩] }
      | .error (.ingest cause) q =>
          .error (.ingest cause) { q with
            store := q.store.invalidate cause
            journal := q.journal ++ [⟨.stageFailed stage cause, ingestion.place stage⟩] }
      | .error fault q => .error fault q := by
  unfold runStage
  rw [Step.bind_apply, Step.repairing_apply]
  cases action p with
  | ok a q => rfl
  | error fault q => cases fault <;> rfl

theorem runStage_eq_ok {α : Type} {stage : Stage} {action : Step α} {p r : Progress} {a : α} :
    ingestion.runStage stage action p = .ok a r ↔
      ∃ q, action p = .ok a q ∧ r = { q with
        journal := q.journal ++ [⟨.stageCompleted stage, ingestion.place stage⟩] } := by
  rw [runStage_apply]
  cases action p with
  | ok b q =>
      constructor
      · intro done
        cases done
        exact ⟨q, rfl, rfl⟩
      · rintro ⟨_, ⟨⟩, rfl⟩
        rfl
  | error fault q => cases fault <;> simp

theorem runStage_of_error {α : Type} (stage : Stage) {action : Step α} {p q : Progress}
    {fault : Fault} (failed : action p = .error fault q) :
    ∃ journal, ingestion.runStage stage action p =
      .error fault { q with store := q.store.afterFault fault, journal } := by
  rw [runStage_apply, failed]
  cases fault <;> exact ⟨_, rfl⟩

/-- A stage fails for a reason of the document where its action does. -/
theorem runStage_eq_error {α : Type} {stage : Stage} {action : Step α} {p q : Progress}
    {cause : IngestFault} (failed : ingestion.runStage stage action p = .error (.ingest cause) q) :
    ∃ r, action p = .error (.ingest cause) r := by
  rw [runStage_apply] at failed
  cases acted : action p with
  | ok a r =>
      rw [acted] at failed
      cases failed
  | error fault r =>
      rw [acted] at failed
      cases fault <;> cases failed
      exact ⟨r, rfl⟩

/-- The contract of a stage, where `told` is what holds after a failure has been told. -/
theorem runStage_meets {α : Type} {stage : Stage} {action : Step α} {before after : Store → Prop}
    {failed told : Fault → Store → Prop} (contract : Meets before action after failed)
    (document : ∀ cause store, failed (.ingest cause) store →
      told (.ingest cause) (store.invalidate cause))
    (other : ∀ fault store, (∀ cause, fault ≠ .ingest cause) → failed fault store →
      told fault store) : Meets before (ingestion.runStage stage action) after told := by
  intro p start
  have result := contract p start
  rw [runStage_apply]
  cases done : action p with
  | ok a q =>
      rw [done] at result
      exact result
  | error fault q =>
      rw [done] at result
      cases fault with
      | ingest cause => exact document cause q.store result
      | _ => exact other _ q.store (fun _ => nofun) result

variable {inv : Store → Prop} {tame : Fault → Prop}

/-- The action of classifying the elements. -/
theorem classify_keeps (lasting : Lasting inv tame) :
    Keeps inv tame (do
      let index ← Step.lift (Index.ofModel ingestion.strict ingestion.model)
      Step.tellAll index.events
      return index) := by
  refine .bind (.lift fun fault failed => ?_) fun index => .bind (.tellAll _) fun _ => .pure index
  rcases Index.ofModel_eq_error failed with rfl | ⟨cause, rfl⟩
  · exact lasting.stray _ .brokenName
  · exact lasting.document cause

variable {told : Fault → Store → Prop}

/--
The contract of the stages under an invariant that fillings keep: `told` holds
after every failure.
-/
structure Staged (inv : Store → Prop) (tame : Fault → Prop)
    (told : Fault → Store → Prop) : Prop where
  lasting : Lasting inv tame
  document : ∀ cause store, inv store ∧ tame (.ingest cause) →
    told (.ingest cause) (store.invalidate cause)
  other : ∀ fault store, (∀ cause, fault ≠ .ingest cause) → inv store ∧ tame fault →
    told fault store

namespace Staged

variable {ingestion} (staged : Staged inv tame told)
include staged

theorem runStage {α : Type} {stage : Stage} {action : Step α} (keeps : Keeps inv tame action) :
    Meets inv (ingestion.runStage stage action) inv told :=
  ingestion.runStage_meets keeps staged.document staged.other

theorem findElements : Meets inv ingestion.findElements inv told :=
  .bind (staged.runStage (ingestion.classify_keeps staged.lasting)) fun _ => fun _ start => start

theorem index : Meets inv ingestion.index inv told := by
  refine .bind (fun _ start => start) fun progress => ?_
  cases progress.index with
  | some index => exact fun _ start => start
  | none => exact staged.findElements

theorem fillTypes : Meets inv ingestion.fillTypes inv told :=
  .bind staged.index fun _ => staged.runStage
    (.bind (Typing.declareAll_keeps staged.lasting _ _) fun _ => .pure _)

theorem fillClasses : Meets inv ingestion.fillClasses inv told :=
  .bind staged.index fun _ => .bind (fun _ start => start) fun _ => staged.runStage
    (.bind (Classes.addAll_keeps staged.lasting _ _ _) fun _ => .pure _)

theorem fillAssociations : Meets inv ingestion.fillAssociations inv told :=
  .bind staged.index fun _ => staged.runStage
    (.bind (Associations.link_keeps staged.lasting _) fun _ => .pure _)

theorem fillEnumerations : Meets inv ingestion.fillEnumerations inv told :=
  .bind staged.index fun _ => staged.runStage
    (.bind (Enumerations.addAll_keeps staged.lasting _) fun _ => .pure _)

end Staged

/-! ## Whole runs -/

def Collapsed : Fault → Store → Prop
  | .ingest cause, store => store.FailedWith cause
  | fault, store => fault.IsStray ∧ store.IsOpen

theorem Collapsed.isOpen_or_failedWith {fault : Fault} {store : Store}
    (collapsed : Collapsed fault store) : store.IsOpen ∨ ∃ cause, store.FailedWith cause := by
  cases fault with
  | ingest cause => exact Or.inr ⟨cause, collapsed⟩
  | _ => exact Or.inl collapsed.2

theorem staged_isOpen :
    Staged Store.IsOpen (fun fault => fault.IsStray ∨ ∃ cause, fault = .ingest cause)
      Collapsed where
  lasting := lasting_isOpen
  document cause _ start := Store.failedWith_invalidate start.1.unfailed cause
  other fault store other start := by
    rcases start.2 with strays | ⟨cause, same⟩
    · cases strays <;> exact ⟨by constructor, start.1⟩
    · exact absurd same (other cause)

theorem runStages_meets :
    Meets Store.IsOpen ingestion.runStages Store.IsDone Collapsed :=
  .bind (fun _ start => start) fun _ =>
    .bind staged_isOpen.findElements fun _ =>
      .bind staged_isOpen.fillTypes fun _ =>
        .bind staged_isOpen.fillClasses fun _ =>
          .bind staged_isOpen.fillAssociations fun _ =>
            .bind staged_isOpen.fillEnumerations fun _ =>
              .bind (fun _ start => Store.IsOpen.freeze start) fun _ _ start => start

/-- A run on an open store is a run of every stage. -/
theorem run_of_isOpen {p : Progress} (opened : p.store.IsOpen) :
    ingestion.run p = (ingestion.runStages >>= fun _ => Step.store) p := by
  unfold run
  rw [Step.bind_apply, Step.store_apply]
  dsimp only
  rw [Store.checkValid_of_unfailed opened.unfailed, Step.lift_ok, Step.bind_apply,
    Step.pure_apply]
  dsimp only
  rw [Step.bind_apply, Step.store_apply]
  dsimp only
  rw [opened.unfrozen]
  rfl

/-- A run on a store that is done gives the store once more. -/
theorem run_of_isDone {p : Progress} (done : p.store.IsDone) :
    ingestion.run p = .ok p.store { p with
      journal := p.journal ++ [⟨.alreadyDone, some ⟨ingestion.document, "parse"⟩⟩] } := by
  unfold run
  rw [Step.bind_apply, Step.store_apply]
  dsimp only
  rw [Store.checkValid_of_unfailed done.unfailed, Step.lift_ok, Step.bind_apply,
    Step.pure_apply]
  dsimp only
  rw [Step.bind_apply, Step.store_apply]
  dsimp only
  rw [done.frozen]
  rfl

/-- A run on an invalid store tells the failure and changes nothing. -/
theorem run_of_failedWith {p : Progress} {cause : IngestFault}
    (invalid : p.store.FailedWith cause) :
    ingestion.run p = .error (.ingest (.invalidData cause)) p := by
  unfold run
  rw [Step.bind_apply, Step.store_apply]
  dsimp only
  rw [invalid.checkValid]
  rfl

theorem run_meets : Meets Store.IsOpen ingestion.run Store.IsDone Collapsed := by
  intro p opened
  rw [ingestion.run_of_isOpen opened]
  exact (ingestion.runStages_meets.bind fun _ _ start => start) p opened

/-- The store that a run gives is the one it leaves. -/
theorem run_eq_ok_store {p q : Progress} {store : Store} (done : ingestion.run p = .ok store q) :
    q.store = store := by
  unfold run at done
  obtain ⟨_, _, _, done⟩ := Step.bind_eq_ok.mp done
  obtain ⟨_, _, _, done⟩ := Step.bind_eq_ok.mp done
  obtain ⟨_, _, _, done⟩ := Step.bind_eq_ok.mp done
  split at done
  · obtain ⟨_, _, _, last⟩ := Step.bind_eq_ok.mp done
    cases last
    rfl
  · obtain ⟨_, _, _, last⟩ := Step.bind_eq_ok.mp done
    cases last
    rfl

theorem run_outcome_eq_ok {p : Progress}
    (given : (ingestion.run.outcome p).1.toBool = true) :
    (ingestion.run.outcome p).1 = .ok (ingestion.run.outcome p).2.store := by
  cases ran : ingestion.run.outcome p with
  | mk result q =>
      rw [ran] at given
      cases result with
      | error fault => cases given
      | ok store =>
          have same := ingestion.run_eq_ok_store (Step.outcome_eq_ok.mp ran)
          exact congrArg Except.ok same.symm

/-! ## Calls in any order -/

inductive Call where
  | run
  | findElements
  | index
  | positions (kind : ElementKind)
  | fillTypes
  | fillClasses
  | fillAssociations
  | fillEnumerations

def Call.take (ingestion : Ingestion) : Call → Progress → Progress
  | .run, p => (ingestion.run.outcome p).2
  | .findElements, p => (ingestion.findElements.outcome p).2
  | .index, p => (ingestion.index.outcome p).2
  | .positions kind, p => ((do return (← ingestion.index).positions kind : Step _).outcome p).2
  | .fillTypes, p => (ingestion.fillTypes.outcome p).2
  | .fillClasses, p => (ingestion.fillClasses.outcome p).2
  | .fillAssociations, p => (ingestion.fillAssociations.outcome p).2
  | .fillEnumerations, p => (ingestion.fillEnumerations.outcome p).2

def after : List Call → Progress → Progress
  | [], p => p
  | call :: rest, p => after rest (call.take ingestion p)

/-- What every call keeps is kept by calls in a row. -/
theorem after_induction {ingestion : Ingestion} (holds : Progress → Prop)
    (taken : ∀ (call : Call) p, holds p → holds (call.take ingestion p)) (calls : List Call)
    {p : Progress} (start : holds p) : holds (ingestion.after calls p) := by
  induction calls generalizing p with
  | nil => exact start
  | cons call rest ih => exact ih (taken call p start)

/-- What every stage and every run leaves of the store is what every call leaves of it. -/
theorem Call.take_store {inv holds : Store → Prop} {tame : Fault → Prop}
    {told : Fault → Store → Prop} {ingestion : Ingestion} (staged : Staged inv tame told)
    (kept : ∀ store, inv store → holds store)
    (fell : ∀ fault store, told fault store → holds store) (call : Call) {p : Progress}
    (start : inv p.store) (ran : call = .run → holds (ingestion.run.outcome p).2.store) :
    holds (call.take ingestion p).store := by
  cases call with
  | run => exact ran rfl
  | findElements => exact staged.findElements.outcome_store kept fell start
  | index => exact staged.index.outcome_store kept fell start
  | positions kind =>
      exact (staged.index.bind fun _ _ start => start).outcome_store kept fell start
  | fillTypes => exact staged.fillTypes.outcome_store kept fell start
  | fillClasses => exact staged.fillClasses.outcome_store kept fell start
  | fillAssociations => exact staged.fillAssociations.outcome_store kept fell start
  | fillEnumerations => exact staged.fillEnumerations.outcome_store kept fell start

theorem staged_of_failedWith {store : Store} {cause : IngestFault}
    (invalid : store.FailedWith cause) :
    Staged (· = store) (fun _ => True) fun _ next => next = store where
  lasting := lasting_of_closed invalid.checkWritable
  document other _ start := by
    rw [start.1]
    exact invalid.invalidate_eq other
  other _ _ _ start := start.1

/-- An invalid store stays as it is, whatever is called. -/
theorem after_of_failedWith (calls : List Call) {p : Progress} {cause : IngestFault}
    (invalid : p.store.FailedWith cause) : (ingestion.after calls p).store = p.store := by
  refine after_induction (·.store = p.store) (fun call q same => ?_) calls rfl
  refine call.take_store (staged_of_failedWith invalid) (fun _ => id) (fun _ _ => id) same ?_
  rw [← same] at invalid
  intro _
  rw [Step.outcome_eq_error.mpr (ingestion.run_of_failedWith invalid)]
  exact same

end Ingestion

end ClassDiagram
