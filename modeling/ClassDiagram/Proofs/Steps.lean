import ClassDiagram.Progress
import ClassDiagram.Proofs.Stores

/-!
# Reasoning about steps

A step that succeeds is taken apart into the steps it consists of.  What holds
of the store whether a step succeeds or not is a contract, and the contract of
a composed step follows from those of its parts.
-/

namespace ClassDiagram.Step

variable {α β : Type}

/-! ## Outcomes of the basic steps -/

theorem bind_apply (step : Step α) (next : α → Step β) (p : Progress) :
    (step >>= next) p = match step p with
      | .ok a q => next a q
      | .error fault q => .error fault q := by
  change EStateM.bind step next p = _
  unfold EStateM.bind
  cases step p <;> rfl

@[simp] theorem pure_apply (a : α) (p : Progress) : (pure a : Step α) p = .ok a p := rfl

@[simp] theorem throw_apply (fault : Fault) (p : Progress) :
    (throw fault : Step α) p = .error fault p := rfl

@[simp] theorem get_apply (p : Progress) : (get : Step Progress) p = .ok p p := rfl

@[simp] theorem store_apply (p : Progress) : Step.store p = .ok p.store p := rfl

@[simp] theorem tell_apply (event : Event) (p : Progress) :
    tell event p = .ok () { p with journal := p.journal ++ [⟨event, none⟩] } := rfl

theorem lift_apply (result : Except Fault α) (p : Progress) :
    lift result p = match result with
      | .ok a => .ok a p
      | .error fault => .error fault p := by
  cases result <;> rfl

theorem change_apply (operation : Store.Change Unit) (p : Progress) :
    change operation p = match operation p.store with
      | .ok _ store => .ok () { p with store }
      | .error fault store => .error fault { p with store } := rfl

/-- A repair runs after a fault of the document, and the fault goes on. -/
theorem repairing_apply (step : Step α) (repair : IngestFault → Step Unit) (p : Progress) :
    repairing step repair p = match step p with
      | .ok a q => .ok a q
      | .error (.ingest cause) q => (repair cause >>= fun _ => throw (.ingest cause)) q
      | .error fault q => .error fault q := by
  change EStateM.tryCatch step _ p = _
  unfold EStateM.tryCatch
  cases step p with
  | ok a q => rfl
  | error fault q => cases fault <;> rfl

/-- The outcome of a step that has been evaluated. -/
theorem outcome_eq_ok {step : Step α} {p q : Progress} {a : α} :
    step.outcome p = (.ok a, q) ↔ step p = .ok a q := by
  unfold outcome
  cases step p <;> simp

theorem outcome_eq_error {step : Step α} {p q : Progress} {fault : Fault} :
    step.outcome p = (.error fault, q) ↔ step p = .error fault q := by
  unfold outcome
  cases step p <;> simp

theorem outcome_congr {step other : Step α} {p q : Progress} (same : step p = other q) :
    step.outcome p = other.outcome q := by
  rw [outcome, outcome, same]

/-! ## Steps that succeed -/

theorem bind_eq_ok {step : Step α} {next : α → Step β} {p r : Progress} {b : β} :
    (step >>= next) p = .ok b r ↔ ∃ a q, step p = .ok a q ∧ next a q = .ok b r := by
  rw [bind_apply]
  cases step p with
  | ok a q =>
      constructor
      · intro rest
        exact ⟨a, q, rfl, rest⟩
      · rintro ⟨_, _, ⟨⟩, rest⟩
        exact rest
  | error fault q => simp

theorem bind_of_ok {step : Step α} {p q : Progress} {a : α} (first : step p = .ok a q)
    (next : α → Step β) : (step >>= next) p = next a q := by
  rw [bind_apply, first]

theorem bind_of_error {step : Step α} {p q : Progress} {fault : Fault}
    (first : step p = .error fault q) (next : α → Step β) :
    (step >>= next) p = .error fault q := by
  rw [bind_apply, first]

theorem lift_eq_ok {result : Except Fault α} {p q : Progress} {a : α} :
    lift result p = .ok a q ↔ result = .ok a ∧ q = p := by
  cases result <;> simp [lift_apply, eq_comm]

/-- A step that only looks for what satisfies a condition leaves the progress to the next. -/
theorem bind_eq_ok_of_reads {step : Step α} {found : α → Prop} {p r : Progress}
    (reads : ∀ a q, step p = .ok a q ↔ found a ∧ q = p) {next : α → Step β} {b : β} :
    (step >>= next) p = .ok b r ↔ ∃ a, found a ∧ next a p = .ok b r := by
  rw [bind_eq_ok]
  constructor
  · rintro ⟨a, q, first, rest⟩
    obtain ⟨inside, rfl⟩ := (reads a q).mp first
    exact ⟨a, inside, rest⟩
  · rintro ⟨a, inside, rest⟩
    exact ⟨a, p, (reads a p).mpr ⟨inside, rfl⟩, rest⟩

theorem lift_bind_eq_ok {result : Except Fault α} {next : α → Step β} {p r : Progress} {b : β} :
    (lift result >>= next) p = .ok b r ↔ ∃ a, result = .ok a ∧ next a p = .ok b r :=
  bind_eq_ok_of_reads fun _ _ => lift_eq_ok

theorem store_bind_apply (next : Store → Step β) (p : Progress) :
    (Step.store >>= next) p = next p.store p := bind_apply _ _ _

theorem change_eq_ok {operation : Store.Change Unit} {p q : Progress} :
    change operation p = .ok () q ↔
      ∃ store, operation p.store = .ok () store ∧ q = { p with store } := by
  rw [change_apply]
  cases operation p.store <;> simp [eq_comm]

/-- The store a change makes, and the event that tells of it. -/
theorem change_tell_eq_ok {operation : Store.Change Unit} {event : Event} {p q : Progress} :
    (change operation >>= fun _ => tell event) p = .ok () q ↔
      ∃ store, operation p.store = .ok () store ∧
        q = { p with store, journal := p.journal ++ [⟨event, none⟩] } := by
  rw [bind_eq_ok]
  constructor
  · rintro ⟨_, _, changed, told⟩
    obtain ⟨store, done, rfl⟩ := change_eq_ok.mp changed
    cases told
    exact ⟨store, done, rfl⟩
  · rintro ⟨store, done, rfl⟩
    exact ⟨(), _, change_eq_ok.mpr ⟨store, done, rfl⟩, rfl⟩

theorem repairing_eq_ok {step : Step α} {repair : IngestFault → Step Unit} {p q : Progress}
    {a : α} : repairing step repair p = .ok a q ↔ step p = .ok a q := by
  rw [repairing_apply]
  cases step p with
  | ok b r => rfl
  | error fault r =>
      cases fault with
      | ingest cause =>
          change (repair cause >>= fun _ => throw _) r = _ ↔ _
          rw [bind_eq_ok]
          simp
      | _ => simp

/-! ## Steps that fail -/

/-- A row of steps fails in its first step, or in the rest after that. -/
theorem bind_eq_error {step : Step α} {next : α → Step β} {p r : Progress} {fault : Fault} :
    (step >>= next) p = .error fault r ↔
      step p = .error fault r ∨ ∃ a q, step p = .ok a q ∧ next a q = .error fault r := by
  rw [bind_apply]
  cases step p with
  | ok a q =>
      constructor
      · intro rest
        exact Or.inr ⟨a, q, rfl, rest⟩
      · rintro (⟨⟨⟩⟩ | ⟨_, _, ⟨⟩, rest⟩)
        exact rest
  | error fault q => simp

theorem lift_bind_eq_error {result : Except Fault α} {next : α → Step β} {p r : Progress}
    {fault : Fault} :
    (lift result >>= next) p = .error fault r ↔
      result = .error fault ∧ r = p ∨ ∃ a, result = .ok a ∧ next a p = .error fault r := by
  rw [bind_apply, lift_apply]
  cases result <;> simp [eq_comm]

theorem change_eq_error {operation : Store.Change Unit} {p q : Progress} {fault : Fault} :
    change operation p = .error fault q ↔
      ∃ store, operation p.store = .error fault store ∧ q = { p with store } := by
  rw [change_apply]
  cases operation p.store with
  | ok _ store => simp
  | error other store =>
      constructor
      · rintro ⟨⟩
        exact ⟨store, rfl, rfl⟩
      · rintro ⟨_, ⟨⟩, rfl⟩
        rfl

/-- A filling that is refused changes nothing. -/
theorem change_filling_eq_error (filling : Store.Filling) {p q : Progress} {fault : Fault}
    (refused : change filling.apply p = .error fault q) : q = p := by
  obtain ⟨store, refusal, rfl⟩ := change_eq_error.mp refused
  rw [Store.Filling.unchanged refusal]

theorem change_tell_eq_error (filling : Store.Filling) {event : Event} {p q : Progress}
    {fault : Fault}
    (failed : (change filling.apply >>= fun _ => tell event) p = .error fault q) : q = p := by
  rcases bind_eq_error.mp failed with refused | ⟨_, _, _, impossible⟩
  · exact change_filling_eq_error filling refused
  · cases impossible

/-- A fault of the document comes out of a step once it is repaired, or out of the repair. -/
theorem repairing_eq_error {step : Step α} {repair : IngestFault → Step Unit} {p r : Progress}
    {cause : IngestFault} (failed : repairing step repair p = .error (.ingest cause) r) :
    ∃ first q, step p = .error (.ingest first) q ∧
      (repair first q = .error (.ingest cause) r ∨ first = cause ∧ repair cause q = .ok () r) := by
  rw [repairing_apply] at failed
  cases taken : step p with
  | ok a q =>
      rw [taken] at failed
      cases failed
  | error fault q =>
      rw [taken] at failed
      cases fault with
      | ingest first =>
          refine ⟨first, q, rfl, ?_⟩
          rcases bind_eq_error.mp failed with refused | ⟨_, _, repaired, last⟩
          · exact Or.inl refused
          · cases last
            exact Or.inr ⟨rfl, repaired⟩
      | _ => cases failed

/-! ## Contracts -/

/--
From every store that satisfies `before`, the step ends in a store that
satisfies `after`, or in a fault and a store of which `failed` holds.
-/
def Meets (before : Store → Prop) (step : Step α) (after : Store → Prop)
    (failed : Fault → Store → Prop) : Prop :=
  ∀ p, before p.store → match step p with
    | .ok _ q => after q.store
    | .error fault q => failed fault q.store

variable {before middle after : Store → Prop} {failed : Fault → Store → Prop}

namespace Meets

theorem ok {step : Step α} (contract : Meets before step after failed) {p q : Progress} {a : α}
    (start : before p.store) (done : step p = .ok a q) : after q.store := by
  have result := contract p start
  rw [done] at result
  exact result

theorem error {step : Step α} (contract : Meets before step after failed) {p q : Progress}
    {fault : Fault} (start : before p.store) (done : step p = .error fault q) :
    failed fault q.store := by
  have result := contract p start
  rw [done] at result
  exact result

theorem bind {step : Step α} {next : α → Step β} (first : Meets before step middle failed)
    (rest : ∀ a, Meets middle (next a) after failed) :
    Meets before (step >>= next) after failed := by
  intro p start
  rw [bind_apply]
  have result := first p start
  cases done : step p with
  | ok a q =>
      rw [done] at result
      exact rest a q result
  | error fault q =>
      rw [done] at result
      exact result

theorem ite {condition : Prop} [Decidable condition] {left right : Step α}
    (yes : Meets before left after failed) (no : Meets before right after failed) :
    Meets before (if condition then left else right) after failed := by
  split
  · exact yes
  · exact no

end Meets

/-- What both outcomes of a contract imply holds of the store after the step. -/
theorem Meets.outcome_store {step : Step α} (contract : Meets before step after failed)
    {holds : Store → Prop} (succeeded : ∀ store, after store → holds store)
    (fell : ∀ fault store, failed fault store → holds store) {p : Progress}
    (start : before p.store) : holds (step.outcome p).2.store := by
  have result := contract p start
  unfold outcome
  cases done : step p with
  | ok a q =>
      rw [done] at result
      exact succeeded _ result
  | error fault q =>
      rw [done] at result
      exact fell fault _ result

/-- A step keeps an invariant of the store, whatever its outcome, and its faults are tame. -/
def Keeps (inv : Store → Prop) (tame : Fault → Prop) (step : Step α) : Prop :=
  Meets inv step inv fun fault store => inv store ∧ tame fault

variable {inv : Store → Prop} {tame : Fault → Prop}

namespace Keeps

theorem pure (a : α) : Keeps inv tame (Pure.pure a : Step α) := fun _ start => start

theorem throw {fault : Fault} (allowed : tame fault) : Keeps inv tame (throw fault : Step α) :=
  fun _ start => ⟨start, allowed⟩

theorem refuse {cause : IngestFault} (allowed : tame (.ingest cause)) :
    Keeps inv tame (Step.refuse cause : Step α) :=
  fun _ start => ⟨start, allowed⟩

theorem get : Keeps inv tame (MonadState.get : Step Progress) := fun _ start => start

theorem store : Keeps inv tame Step.store := fun _ start => start

theorem tell (event : Event) : Keeps inv tame (Step.tell event) := fun _ start => start

theorem modify {f : Progress → Progress} (same : ∀ p, (f p).store = p.store) :
    Keeps inv tame (modify f : Step PUnit) := by
  intro p start
  change inv (f p).store
  rw [same p]
  exact start

theorem lift {result : Except Fault α} (allowed : ∀ fault, result = .error fault → tame fault) :
    Keeps inv tame (Step.lift result) := by
  intro p start
  cases result with
  | ok a => exact start
  | error fault => exact ⟨start, allowed fault rfl⟩

theorem change {operation : Store.Change Unit}
    (keeps : ∀ store next, inv store → operation store = .ok () next → inv next)
    (allowed : ∀ store next fault, inv store → operation store = .error fault next →
      inv next ∧ tame fault) :
    Keeps inv tame (Step.change operation) := by
  intro p start
  rw [change_apply]
  cases done : operation p.store with
  | ok _ store => exact keeps _ _ start done
  | error fault store => exact allowed _ _ _ start done

theorem bind {step : Step α} {next : α → Step β} (first : Keeps inv tame step)
    (rest : ∀ a, Keeps inv tame (next a)) : Keeps inv tame (step >>= next) :=
  Meets.bind first rest

theorem ite {condition : Prop} [Decidable condition] {left right : Step α}
    (yes : Keeps inv tame left) (no : Keeps inv tame right) :
    Keeps inv tame (if condition then left else right) :=
  Meets.ite yes no

theorem tellAll (events : List Event) : Keeps inv tame (Step.tellAll events) := by
  induction events with
  | nil => exact pure ()
  | cons event rest ih => exact bind (tell event) fun _ => ih

theorem repairing {step : Step α} {repair : IngestFault → Step Unit}
    (first : Keeps inv tame step) (repaired : ∀ cause, Keeps inv tame (repair cause)) :
    Keeps inv tame (Step.repairing step repair) := by
  intro p start
  rw [repairing_apply]
  have result := first p start
  cases done : step p with
  | ok a q =>
      rw [done] at result
      exact result
  | error fault q =>
      rw [done] at result
      cases fault with
      | ingest cause => exact (repaired cause).bind (fun _ => throw result.2) q result.1
      | _ => exact result

end Keeps

end ClassDiagram.Step
