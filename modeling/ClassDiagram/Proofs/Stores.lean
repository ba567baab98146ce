import ClassDiagram.Proofs.Tables
import ClassDiagram.Store

/-!
# The theory of stores

An open store takes every filling that finds its class, a frozen one refuses
all of them, and one that a failure made invalid answers nothing but the
failure.
-/

namespace ClassDiagram

namespace Store

structure IsOpen (store : Store) : Prop where
  unfailed : store.failure = none
  unfrozen : store.frozen = false

/-- A frozen store that no failure has reached. -/
structure IsDone (store : Store) : Prop where
  unfailed : store.failure = none
  frozen : store.frozen = true

structure FailedWith (store : Store) (cause : IngestFault) : Prop where
  failed : store.failure = some cause
  frozen : store.frozen = true

theorem isOpen_empty : empty.IsOpen := ⟨rfl, rfl⟩

theorem IsOpen.freeze {store : Store} (opened : store.IsOpen) : store.freeze.IsDone :=
  ⟨opened.unfailed, rfl⟩

theorem failedWith_invalidate {store : Store} (unfailed : store.failure = none)
    (cause : IngestFault) : (store.invalidate cause).FailedWith cause := by
  refine ⟨?_, rfl⟩
  rw [failure_invalidate, unfailed]
  rfl

theorem isValid_of_unfailed {store : Store} (unfailed : store.failure = none) :
    store.isValid = true := by
  rw [isValid, unfailed]
  rfl

theorem isValid_of_failed {store : Store} {cause : IngestFault}
    (failed : store.failure = some cause) : store.isValid = false := by
  rw [isValid, failed]
  rfl

/-! ## Checks -/

theorem checkValid_of_unfailed {store : Store} (unfailed : store.failure = none) :
    store.checkValid = .ok () := by
  rw [checkValid, unfailed]

theorem FailedWith.checkValid {store : Store} {cause : IngestFault}
    (invalid : store.FailedWith cause) :
    store.checkValid = .error (.ingest (.invalidData cause)) := by
  rw [Store.checkValid, invalid.failed]

theorem IsOpen.checkWritable {store : Store} (opened : store.IsOpen) :
    store.checkWritable = .ok () := by
  rw [Store.checkWritable, checkValid_of_unfailed opened.unfailed, opened.unfrozen]
  rfl

theorem IsDone.checkWritable {store : Store} (done : store.IsDone) :
    store.checkWritable = .error .frozen := by
  rw [Store.checkWritable, checkValid_of_unfailed done.unfailed, done.frozen]
  rfl

theorem FailedWith.checkWritable {store : Store} {cause : IngestFault}
    (invalid : store.FailedWith cause) :
    store.checkWritable = .error (.ingest (.invalidData cause)) := by
  rw [Store.checkWritable, invalid.checkValid]
  rfl

theorem isOpen_of_checkWritable {store : Store} (writable : store.checkWritable = .ok ()) :
    store.IsOpen := by
  cases failure : store.failure with
  | some cause =>
      rw [Store.checkWritable, Store.checkValid, failure] at writable
      cases writable
  | none =>
      cases frozen : store.frozen with
      | true =>
          rw [IsDone.checkWritable ⟨failure, frozen⟩] at writable
          cases writable
      | false => exact ⟨failure, frozen⟩

/-! ## Operations -/

namespace Change

variable {α β : Type} {store next : Store}

theorem bind_of_ok {operation : Change α} {a : α} (done : operation store = .ok a next)
    (rest : α → Change β) : (operation >>= rest) store = rest a next := by
  change EStateM.bind operation rest store = _
  rw [EStateM.bind, done]

theorem ask_of_ok {question : Store → Except Fault α} {answer : α}
    (answered : question store = .ok answer) : ask question store = .ok answer store := by
  rw [ask, answered]

theorem ask_bind_of_error {question : Store → Except Fault α} {fault : Fault}
    (refused : question store = .error fault) (rest : α → Change β) :
    (ask question >>= rest) store = .error fault store := by
  change EStateM.bind (ask question) rest store = _
  rw [EStateM.bind, ask, refused]

theorem eq_ok_of_writes {operation : Change Unit} {written : Store}
    (writes : operation store = .ok () written) :
    operation store = .ok () next ↔ next = written := by
  rw [writes, EStateM.Result.ok.injEq, eq_self, true_and, eq_comm]

/-- An operation that asks first whether it may be made is made in an open store alone. -/
theorem checked_eq_ok {effect : Change Unit} :
    (ask checkWritable >>= fun _ => effect) store = .ok () next ↔
      store.IsOpen ∧ effect store = .ok () next := by
  constructor
  · intro done
    cases writable : store.checkWritable with
    | ok _ =>
        rw [bind_of_ok (ask_of_ok writable)] at done
        exact ⟨isOpen_of_checkWritable writable, done⟩
    | error fault =>
        rw [ask_bind_of_error writable] at done
        cases done
  · rintro ⟨opened, done⟩
    rw [bind_of_ok (ask_of_ok opened.checkWritable)]
    exact done

end Change

open Change (ask ask_bind_of_error ask_of_ok bind_of_ok checked_eq_ok eq_ok_of_writes)

theorem get_of_found {α : Type} {store : Store} (unfailed : store.failure = none)
    (part : Store → Table String α) (kind : EntityKind) {id : String} {entity : α}
    (found : (part store).get? id = some entity) :
    store.get part kind (some id) = .ok entity := by
  rw [get, checkValid_of_unfailed unfailed]
  simp only [Option.bind_some, found]
  rfl

theorem get_of_absent {α : Type} {store : Store} (unfailed : store.failure = none)
    (part : Store → Table String α) (kind : EntityKind) {id : String}
    (absent : (part store).get? id = none) :
    store.get part kind (some id) =
      .error (.ingest (.unresolved (.text id) (.text kind.word) .absent)) := by
  rw [get, checkValid_of_unfailed unfailed]
  simp only [Option.bind_some, absent]
  rfl

theorem addType_eq_ok {store next : Store} {type : ScalarType} :
    addType type store = .ok () next ↔
      store.IsOpen ∧ next = { store with types := store.types.insert type.id type } := by
  unfold addType
  exact checked_eq_ok.trans (and_congr_right fun _ => eq_ok_of_writes rfl)

theorem addClass_eq_ok {store next : Store} {entity : Class} :
    addClass entity store = .ok () next ↔
      store.IsOpen ∧ next = { store with
        classes := store.classes.insert entity.id entity
        userClass := if isUserName entity.name then some entity.id else store.userClass } := by
  unfold addClass
  refine checked_eq_ok.trans (and_congr_right fun _ => ?_)
  split
  · exact eq_ok_of_writes rfl
  · exact eq_ok_of_writes rfl

theorem addAssociation_eq_ok {store next : Store} {association : Association} :
    addAssociation association store = .ok () next ↔
      store.IsOpen ∧ next = { store with
        associations := store.associations.insert association.id association } := by
  unfold addAssociation
  exact checked_eq_ok.trans (and_congr_right fun _ => eq_ok_of_writes rfl)

theorem addEnumeration_eq_ok {store next : Store} {enumeration : Enumeration} :
    addEnumeration enumeration store = .ok () next ↔
      store.IsOpen ∧ next = { store with
        enumerations := store.enumerations.insert enumeration.id enumeration } := by
  unfold addEnumeration
  exact checked_eq_ok.trans (and_congr_right fun _ => eq_ok_of_writes rfl)

/-- A field whose class is not there is refused before anything is written. -/
theorem addField_of_absent {store : Store} {field : Field} (opened : store.IsOpen)
    (absent : store.classes.get? field.classId = none) :
    addField field store =
      .error (.ingest (.unresolved (.text field.classId) (.text "class") .absent)) store := by
  have missing : store.getClass field.classId = _ :=
    get_of_absent opened.unfailed Store.classes .objectClass absent
  unfold addField
  rw [bind_of_ok (ask_of_ok opened.checkWritable), ask_bind_of_error missing]
  rfl

/-- A field is added to the class it names, which has to be there. -/
theorem addField_eq_ok {store next : Store} {field : Field} :
    addField field store = .ok () next ↔
      store.IsOpen ∧ ∃ owner, store.classes.get? field.classId = some owner ∧
        next = { store with
          fields := store.fields.insert field.id field
          classes := store.classes.insert owner.id
            { owner with fields := owner.fields ++ [field.id] } } := by
  unfold addField
  refine checked_eq_ok.trans (and_congr_right fun opened => ?_)
  cases found : store.classes.get? field.classId with
  | none =>
      have missing : store.getClass field.classId = _ :=
        get_of_absent opened.unfailed Store.classes .objectClass found
      rw [ask_bind_of_error missing]
      simp
  | some owner =>
      have present : store.getClass field.classId = _ :=
        get_of_found opened.unfailed Store.classes .objectClass found
      rw [bind_of_ok (ask_of_ok present)]
      refine (eq_ok_of_writes rfl).trans ⟨fun made => ⟨owner, rfl, made⟩, ?_⟩
      rintro ⟨_, ⟨⟩, made⟩
      exact made

/-- Taking out a class that is not there changes nothing. -/
theorem removeClass_eq_ok {store next : Store} {id : Option String} :
    removeClass id store = .ok () next ↔ store.IsOpen ∧
      (id.bind store.classes.get? = none ∧ next = store ∨
        ∃ key entity, id = some key ∧ store.classes.get? key = some entity ∧
          next = { store with
            classes := store.classes.erase key
            fields := store.fields.eraseAll entity.fields
            userClass := if store.userClass = some key then none else store.userClass }) := by
  unfold removeClass
  refine checked_eq_ok.trans (and_congr_right fun _ => ?_)
  cases id with
  | none =>
      refine (eq_ok_of_writes rfl).trans ?_
      simp
  | some key =>
      have popped : popClass key store =
          .ok (store.classes.get? key) { store with classes := store.classes.erase key } := rfl
      dsimp only
      rw [bind_of_ok popped]
      cases found : store.classes.get? key with
      | none =>
          refine (eq_ok_of_writes rfl).trans ?_
          simp [found, Table.erase_of_absent found]
      | some entity =>
          refine (eq_ok_of_writes rfl).trans ?_
          simp [found]

/-- A change to what a store holds. -/
inductive Filling where
  | addType (type : ScalarType)
  | addClass (entity : Class)
  | addField (field : Field)
  | addAssociation (association : Association)
  | addEnumeration (enumeration : Enumeration)
  | removeClass (id : Option String)

namespace Filling

def apply : Filling → Change Unit
  | .addType type => Store.addType type
  | .addClass entity => Store.addClass entity
  | .addField field => Store.addField field
  | .addAssociation association => Store.addAssociation association
  | .addEnumeration enumeration => Store.addEnumeration enumeration
  | .removeClass id => Store.removeClass id

/-- Every change asks first whether it may be made. -/
theorem apply_eq_checked (filling : Filling) :
    ∃ effect : Change Unit, filling.apply = (ask checkWritable >>= fun _ => effect) := by
  cases filling <;> exact ⟨_, rfl⟩

theorem isOpen_of_ok {filling : Filling} {store next : Store}
    (done : filling.apply store = .ok () next) : store.IsOpen := by
  obtain ⟨effect, checked⟩ := filling.apply_eq_checked
  rw [checked] at done
  exact (checked_eq_ok.mp done).1

/-- A store that may not be changed refuses every filling for its own reason. -/
theorem refused (filling : Filling) {store : Store} {fault : Fault}
    (closed : store.checkWritable = .error fault) :
    filling.apply store = .error fault store := by
  obtain ⟨effect, checked⟩ := filling.apply_eq_checked
  rw [checked, ask_bind_of_error closed]

/-- A filling leaves an open store open. -/
theorem isOpen_apply {filling : Filling} {store next : Store}
    (done : filling.apply store = .ok () next) : next.IsOpen := by
  have opened := isOpen_of_ok done
  cases filling with
  | addType type =>
      obtain ⟨_, rfl⟩ := addType_eq_ok.mp done
      exact ⟨opened.unfailed, opened.unfrozen⟩
  | addClass entity =>
      obtain ⟨_, rfl⟩ := addClass_eq_ok.mp done
      exact ⟨opened.unfailed, opened.unfrozen⟩
  | addField field =>
      obtain ⟨_, _, _, rfl⟩ := addField_eq_ok.mp done
      exact ⟨opened.unfailed, opened.unfrozen⟩
  | addAssociation association =>
      obtain ⟨_, rfl⟩ := addAssociation_eq_ok.mp done
      exact ⟨opened.unfailed, opened.unfrozen⟩
  | addEnumeration enumeration =>
      obtain ⟨_, rfl⟩ := addEnumeration_eq_ok.mp done
      exact ⟨opened.unfailed, opened.unfrozen⟩
  | removeClass id =>
      obtain ⟨_, ⟨_, rfl⟩ | ⟨_, _, _, _, rfl⟩⟩ := removeClass_eq_ok.mp done
      · exact opened
      · exact ⟨opened.unfailed, opened.unfrozen⟩

/--
An open store refuses a field whose class is not there, and nothing else; it
refuses it before anything is written.
-/
theorem refusal_of_isOpen {filling : Filling} {store next : Store} {fault : Fault}
    (opened : store.IsOpen) (refusal : filling.apply store = .error fault next) :
    (∃ field cause, filling = .addField field ∧ fault = .ingest cause) ∧ next = store := by
  cases filling with
  | addType type =>
      cases (addType_eq_ok.mpr ⟨opened, rfl⟩).symm.trans refusal
  | addClass entity =>
      cases (addClass_eq_ok.mpr ⟨opened, rfl⟩).symm.trans refusal
  | addField field =>
      cases found : store.classes.get? field.classId with
      | some owner =>
          cases (addField_eq_ok.mpr ⟨opened, owner, found, rfl⟩).symm.trans refusal
      | none =>
          cases (addField_of_absent opened found).symm.trans refusal
          exact ⟨⟨field, _, rfl, rfl⟩, rfl⟩
  | addAssociation association =>
      cases (addAssociation_eq_ok.mpr ⟨opened, rfl⟩).symm.trans refusal
  | addEnumeration enumeration =>
      cases (addEnumeration_eq_ok.mpr ⟨opened, rfl⟩).symm.trans refusal
  | removeClass id =>
      cases found : id.bind store.classes.get? with
      | none =>
          cases (removeClass_eq_ok.mpr ⟨opened, Or.inl ⟨found, rfl⟩⟩).symm.trans refusal
      | some entity =>
          obtain ⟨key, rfl, present⟩ := Option.bind_eq_some_iff.mp found
          cases (removeClass_eq_ok.mpr
            ⟨opened, Or.inr ⟨key, entity, rfl, present, rfl⟩⟩).symm.trans refusal

theorem accepted_of_isOpen {filling : Filling} {store : Store} (opened : store.IsOpen)
    (other : ∀ field, filling ≠ .addField field) : ∃ next, filling.apply store = .ok () next := by
  cases applied : filling.apply store with
  | ok _ next => exact ⟨next, rfl⟩
  | error fault next =>
      obtain ⟨⟨field, _, same, _⟩, _⟩ := refusal_of_isOpen opened applied
      exact absurd same (other field)

/-- A filling that is refused has written nothing. -/
theorem unchanged {filling : Filling} {store next : Store} {fault : Fault}
    (refusal : filling.apply store = .error fault next) : next = store := by
  cases writable : store.checkWritable with
  | ok _ => exact (refusal_of_isOpen (isOpen_of_checkWritable writable) refusal).2
  | error reason =>
      rw [filling.refused writable] at refusal
      cases refusal
      rfl

end Filling

/-! ## Reading an invalid store -/

theorem FailedWith.read {α : Type} {store : Store} {cause : IngestFault}
    (invalid : store.FailedWith cause) (part : Store → α) :
    store.read part = .error (.ingest (.invalidData cause)) := by
  rw [Store.read, invalid.checkValid]
  rfl

theorem FailedWith.get {α : Type} {store : Store} {cause : IngestFault}
    (invalid : store.FailedWith cause) (part : Store → Table String α) (kind : EntityKind)
    (id : Option String) : store.get part kind id = .error (.ingest (.invalidData cause)) := by
  rw [Store.get, invalid.checkValid]
  rfl

theorem FailedWith.fieldTypeName {store : Store} {cause : IngestFault}
    (invalid : store.FailedWith cause) (id : Option String) :
    store.fieldTypeName id = .error (.ingest (.invalidData cause)) := by
  rw [Store.fieldTypeName, Store.getField, invalid.get]
  rfl

end Store

end ClassDiagram
