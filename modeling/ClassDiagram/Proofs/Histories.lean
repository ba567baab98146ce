import ClassDiagram.Proofs.Tables
import ClassDiagram.Proofs.Stores
import Mathlib.Data.List.Induction

/-!
# Histories of a store

A store changes by operations alone: fillings, and the two steps of its life
cycle.  An operation that is refused leaves the store as it is, and what every
operation keeps holds after any number of them.
-/

namespace ClassDiagram.Store

/-- An operation on a store; reading is none, since it changes nothing. -/
inductive Operation where
  | fill (filling : Filling)
  | freeze
  | invalidate (cause : IngestFault)

def Operation.apply : Operation → Change Unit
  | .fill filling => filling.apply
  | .freeze => modify Store.freeze
  | .invalidate cause => modify (·.invalidate cause)

def Operation.take (operation : Operation) (store : Store) : Store :=
  match operation.apply store with
  | .ok _ next => next
  | .error _ next => next

/-- An operation that is refused has written nothing. -/
theorem Operation.take_of_error {operation : Operation} {store next : Store} {fault : Fault}
    (refusal : operation.apply store = .error fault next) : operation.take store = store := by
  rw [take, refusal]
  cases operation with
  | fill filling => exact Filling.unchanged refusal
  | freeze => cases refusal
  | invalidate cause => cases refusal

def after (store : Store) (operations : List Operation) : Store :=
  operations.foldl (fun store operation => operation.take store) store

/-- The store after one operation more. -/
theorem after_concat (store : Store) (operations : List Operation) (operation : Operation) :
    store.after (operations ++ [operation]) = operation.take (store.after operations) := by
  rw [after, after, List.foldl_append]
  rfl

/-- What holds of a store before and after every operation in a history holds all along it. -/
theorem after_invariant (inv : Store → Prop) {store : Store} {operations : List Operation}
    (start : inv store)
    (step : ∀ front operation, front ++ [operation] <+: operations → inv (store.after front) →
      inv (operation.take (store.after front))) :
    ∀ front, front <+: operations → inv (store.after front) := by
  intro front
  induction front using List.reverseRecOn with
  | nil => exact fun _ => start
  | append_singleton front operation ih =>
      intro inside
      rw [after_concat]
      exact step front operation inside (ih ((List.prefix_append _ _).trans inside))

/-- A filling that is made gives the store after it. -/
theorem take_of_ok {filling : Filling} {store next : Store}
    (done : filling.apply store = .ok () next) :
    (Operation.fill filling).take store = next := by
  have made : (Operation.fill filling).apply store = .ok () next := done
  rw [Operation.take, made]

/-- A filling that is refused leaves the store as it is. -/
theorem take_of_refused {filling : Filling} {store next : Store} {fault : Fault}
    (refusal : filling.apply store = .error fault next) :
    (Operation.fill filling).take store = store :=
  @Operation.take_of_error (.fill filling) _ _ _ refusal

def Never (kind : Filling → Store → Prop) (operations : List Operation) : Prop :=
  ∀ front filling next, front ++ [.fill filling] <+: operations →
    filling.apply (empty.after front) = .ok () next → ¬ kind filling (empty.after front)

/--
What fillings break if and only if they are of a kind, and what the life cycle
keeps, holds all along a history if and only if no filling in it is of this kind.
-/
theorem after_iff_never (inv : Store → Prop) (kind : Filling → Store → Prop)
    {operations : List Operation} (start : inv empty)
    (freeze : ∀ store, inv store → inv store.freeze)
    (invalidate : ∀ store cause, inv store → inv (store.invalidate cause))
    (fill : ∀ front filling next, front ++ [.fill filling] <+: operations →
      inv (empty.after front) → filling.apply (empty.after front) = .ok () next →
        (inv next ↔ ¬ kind filling (empty.after front))) :
    (∀ front, front <+: operations → inv (empty.after front)) ↔ Never kind operations := by
  constructor
  · intro always front filling next inside done
    have before := always front ((List.prefix_append _ _).trans inside)
    have after := always _ inside
    rw [after_concat, take_of_ok done] at after
    exact (fill front filling next inside before done).mp after
  · intro never
    refine after_invariant inv start fun front operation inside before => ?_
    cases operation with
    | freeze => exact freeze _ before
    | invalidate cause => exact invalidate _ cause before
    | fill filling =>
        cases done : filling.apply (empty.after front) with
        | error fault refused =>
            rw [take_of_refused done]
            exact before
        | ok _ next =>
            rw [take_of_ok done]
            exact (fill front filling next inside before done).mpr
              (never front filling next inside done)

def Keyed (store : Store) : Prop :=
  ∀ id entity, store.classes.get? id = some entity → entity.id = id

theorem keyed_empty : empty.Keyed := fun _ _ => nofun

/-- Filing a class under its identifier keeps every class under its own. -/
theorem Keyed.insert {store : Store} (keyed : store.Keyed) (entity : Class) {id : String}
    {other : Class} (found : (store.classes.insert entity.id entity).get? id = some other) :
    other.id = id := by
  rcases Table.eq_or_get?_of_insert found with ⟨same, rfl⟩ | before
  · exact same
  · exact keyed id other before

theorem Filling.keyed {filling : Filling} {store next : Store} (keyed : store.Keyed)
    (done : filling.apply store = .ok () next) : next.Keyed := by
  intro id other found
  cases filling with
  | addType type =>
      obtain ⟨_, rfl⟩ := addType_eq_ok.mp done
      exact keyed id other found
  | addClass entity =>
      obtain ⟨_, rfl⟩ := addClass_eq_ok.mp done
      exact keyed.insert entity found
  | addField field =>
      obtain ⟨_, owner, _, rfl⟩ := addField_eq_ok.mp done
      exact keyed.insert { owner with fields := owner.fields ++ [field.id] } found
  | addAssociation association =>
      obtain ⟨_, rfl⟩ := addAssociation_eq_ok.mp done
      exact keyed id other found
  | addEnumeration enumeration =>
      obtain ⟨_, rfl⟩ := addEnumeration_eq_ok.mp done
      exact keyed id other found
  | removeClass removed =>
      obtain ⟨_, ⟨_, rfl⟩ | ⟨key, entity, _, _, rfl⟩⟩ := removeClass_eq_ok.mp done
      · exact keyed id other found
      · have filed : (store.classes.erase key).get? id = some other := found
        rw [Table.get?_erase] at filed
        split at filed
        · cases filed
        · exact keyed id other filed

/-- Every operation keeps each class under its own identifier. -/
theorem Operation.keyed (operation : Operation) {store : Store} (keyed : store.Keyed) :
    (operation.take store).Keyed := by
  cases operation with
  | fill filling =>
      cases done : filling.apply store with
      | ok _ next =>
          rw [take_of_ok done]
          exact filling.keyed keyed done
      | error fault refused =>
          rw [take_of_refused done]
          exact keyed
  | freeze => exact keyed
  | invalidate cause => exact keyed

theorem keyed_after (operations : List Operation) : (empty.after operations).Keyed :=
  after_invariant Keyed keyed_empty (fun _ operation _ keyed => operation.keyed keyed) operations
    (List.prefix_refl _)

end ClassDiagram.Store
