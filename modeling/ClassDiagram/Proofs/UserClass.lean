import ClassDiagram.Proofs.Ownership

/-!
# The class of users

A store records which class is the one of users.  The record follows the
classes until another class takes the identifier of the recorded one, or until
this one is taken out while there is a second class of users.
-/

namespace ClassDiagram.Store

def HoldsUser (store : Store) (id : String) : Prop :=
  ∃ entity, store.classes.get? id = some entity ∧ isUserName entity.name = true

/-- The recorded class is one of users, and one is recorded if there is any. -/
structure TracksUser (store : Store) : Prop where
  recorded : ∀ id, store.userClass = some id → store.HoldsUser id
  noticed : ∀ id, store.HoldsUser id → store.userClass ≠ none

/-- A filling puts another class in place of the recorded one, or takes it out before a second. -/
def Filling.LosesUser : Filling → Store → Prop
  | .addClass entity, store =>
      store.userClass = some entity.id ∧ isUserName entity.name = false
  | .removeClass (some id), store =>
      store.userClass = some id ∧ ∃ other, other ≠ id ∧ store.HoldsUser other
  | _, _ => False

theorem tracksUser_empty : empty.TracksUser :=
  ⟨fun _ => nofun, fun _ ⟨_, found, _⟩ => nomatch found⟩

section

variable {store next : Store}

/-! ## Fillings -/

theorem TracksUser.of_same (tracks : store.TracksUser)
    (holds : ∀ id, next.HoldsUser id ↔ store.HoldsUser id)
    (recorded : next.userClass = store.userClass) : next.TracksUser := by
  refine ⟨fun id here => ?_, fun id here => ?_⟩
  · rw [recorded] at here
    exact (holds id).mpr (tracks.recorded id here)
  · rw [recorded]
    exact tracks.noticed id ((holds id).mp here)

theorem holdsUser_addClass {entity : Class}
    (classes : next.classes = store.classes.insert entity.id entity) (id : String) :
    next.HoldsUser id ↔ entity.id = id ∧ isUserName entity.name = true ∨
      entity.id ≠ id ∧ store.HoldsUser id := by
  unfold HoldsUser
  rw [classes, Table.get?_insert]
  by_cases here : entity.id = id
  · simp [here]
  · simp [here]

theorem tracksUser_addClass_iff {entity : Class} (tracks : store.TracksUser)
    (done : Store.addClass entity store = .ok () next) :
    next.TracksUser ↔ ¬ (Filling.addClass entity).LosesUser store := by
  obtain ⟨_, made⟩ := addClass_eq_ok.mp done
  have classes : next.classes = store.classes.insert entity.id entity := by rw [made]
  have holds := holdsUser_addClass classes
  have recorded : next.userClass =
      if isUserName entity.name then some entity.id else store.userClass := by rw [made]
  cases named : isUserName entity.name with
  | true =>
      rw [named, if_pos rfl] at recorded
      refine iff_of_true ⟨fun id here => ?_, fun id _ => ?_⟩ fun loses => ?_
      · cases recorded.symm.trans here
        exact (holds _).mpr (Or.inl ⟨rfl, named⟩)
      · rw [recorded]
        exact Option.some_ne_none _
      · cases named.symm.trans loses.2
  | false =>
      rw [named, if_neg Bool.false_ne_true] at recorded
      constructor
      · rintro after ⟨here, _⟩
        rcases (holds _).mp (after.recorded entity.id (recorded.trans here)) with
          ⟨_, user⟩ | ⟨other, _⟩
        · cases named.symm.trans user
        · exact other rfl
      · intro keeps
        refine ⟨fun id here => ?_, fun id here => ?_⟩
        · rw [recorded] at here
          have other : entity.id ≠ id := fun same => keeps ⟨same ▸ here, named⟩
          exact (holds id).mpr (Or.inr ⟨other, tracks.recorded id here⟩)
        · rcases (holds id).mp here with ⟨_, user⟩ | ⟨_, before⟩
          · cases named.symm.trans user
          · rw [recorded]
            exact tracks.noticed id before

/-- A field leaves its class the name it has. -/
theorem holdsUser_addField {field : Field} (keyed : store.Keyed)
    (done : Store.addField field store = .ok () next) (id : String) :
    next.HoldsUser id ↔ store.HoldsUser id := by
  obtain ⟨_, owner, found, rfl⟩ := addField_eq_ok.mp done
  unfold HoldsUser
  dsimp only
  rw [Table.get?_insert, keyed _ owner found]
  by_cases here : field.classId = id
  · subst here
    simp [found]
  · simp [here]

theorem tracksUser_removeClass_iff {id : Option String} (tracks : store.TracksUser)
    (done : Store.removeClass id store = .ok () next) :
    next.TracksUser ↔ ¬ (Filling.removeClass id).LosesUser store := by
  obtain ⟨_, ⟨absent, rfl⟩ | ⟨key, entity, rfl, found, made⟩⟩ := removeClass_eq_ok.mp done
  · refine iff_of_true tracks fun loses => ?_
    cases id with
    | none => exact loses
    | some key =>
        obtain ⟨_, there, _⟩ := tracks.recorded key loses.1
        cases absent.symm.trans there
  · have holds (id : String) : next.HoldsUser id ↔ key ≠ id ∧ store.HoldsUser id := by
      unfold HoldsUser
      rw [made]
      dsimp only
      rw [Table.get?_erase]
      by_cases here : key = id
      · simp [here]
      · simp [here]
    have recorded :
        next.userClass = if store.userClass = some key then none else store.userClass := by
      rw [made]
    by_cases here : store.userClass = some key
    · rw [if_pos here] at recorded
      constructor
      · rintro after ⟨_, other, differ, holdsOther⟩
        exact after.noticed other ((holds other).mpr ⟨differ.symm, holdsOther⟩) recorded
      · intro keeps
        refine ⟨fun id impossible => ?_, fun id stays => ?_⟩
        · cases recorded.symm.trans impossible
        · obtain ⟨differ, holdsOther⟩ := (holds id).mp stays
          exact absurd ⟨here, id, differ.symm, holdsOther⟩ keeps
    · rw [if_neg here] at recorded
      refine iff_of_true ⟨fun id there => ?_, fun id stays => ?_⟩ fun loses => here loses.1
      · rw [recorded] at there
        have differ : key ≠ id := fun same => here (same ▸ there)
        exact (holds id).mpr ⟨differ, tracks.recorded id there⟩
      · rw [recorded]
        exact tracks.noticed id ((holds id).mp stays).2

/-- A filling keeps track of the class of users if and only if it does not lose it. -/
theorem Filling.tracksUser_iff {filling : Filling} (keyed : store.Keyed)
    (tracks : store.TracksUser) (done : filling.apply store = .ok () next) :
    next.TracksUser ↔ ¬ filling.LosesUser store := by
  cases filling with
  | addClass entity => exact tracksUser_addClass_iff tracks done
  | removeClass id => exact tracksUser_removeClass_iff tracks done
  | addField field =>
      have holds := holdsUser_addField keyed done
      obtain ⟨_, _, _, rfl⟩ := addField_eq_ok.mp done
      exact iff_of_true (tracks.of_same holds rfl) not_false
  | addType type =>
      obtain ⟨_, rfl⟩ := addType_eq_ok.mp done
      exact iff_of_true (tracks.of_same (fun _ => Iff.rfl) rfl) not_false
  | addAssociation association =>
      obtain ⟨_, rfl⟩ := addAssociation_eq_ok.mp done
      exact iff_of_true (tracks.of_same (fun _ => Iff.rfl) rfl) not_false
  | addEnumeration enumeration =>
      obtain ⟨_, rfl⟩ := addEnumeration_eq_ok.mp done
      exact iff_of_true (tracks.of_same (fun _ => Iff.rfl) rfl) not_false

/-- A filling leaves no class recorded that is not there. -/
theorem Filling.contains_userClass {filling : Filling}
    (there : ∀ id, store.userClass = some id → store.classes.contains id = true)
    (done : filling.apply store = .ok () next) :
    ∀ id, next.userClass = some id → next.classes.contains id = true := by
  intro id recorded
  cases filling with
  | addClass entity =>
      obtain ⟨_, rfl⟩ := addClass_eq_ok.mp done
      dsimp only at recorded ⊢
      split at recorded
      · cases recorded
        exact Table.contains_insert_self _ _ _
      · exact Table.contains_insert_of_contains (there id recorded) _ _
  | addField field =>
      obtain ⟨_, _, _, rfl⟩ := addField_eq_ok.mp done
      exact Table.contains_insert_of_contains (there id recorded) _ _
  | removeClass removed =>
      obtain ⟨_, ⟨_, rfl⟩ | ⟨key, _, _, _, rfl⟩⟩ := removeClass_eq_ok.mp done
      · exact there id recorded
      · dsimp only at recorded ⊢
        split at recorded
        · cases recorded
        · rename_i other
          have differ : key ≠ id := fun same => other (same ▸ recorded)
          have before := there id recorded
          unfold Table.contains at before ⊢
          rwa [Table.get?_erase, if_neg differ]
  | addType type =>
      obtain ⟨_, rfl⟩ := addType_eq_ok.mp done
      exact there id recorded
  | addAssociation association =>
      obtain ⟨_, rfl⟩ := addAssociation_eq_ok.mp done
      exact there id recorded
  | addEnumeration enumeration =>
      obtain ⟨_, rfl⟩ := addEnumeration_eq_ok.mp done
      exact there id recorded

end

/-! ## Histories -/

/-- All along a history a class that is recorded is there, be it one of users or not. -/
theorem contains_userClass_after (operations : List Operation) :
    ∀ id, (empty.after operations).userClass = some id →
      (empty.after operations).classes.contains id = true := by
  refine after_invariant
    (fun store => ∀ id, store.userClass = some id → store.classes.contains id = true)
    (by rintro _ ⟨⟩) (fun front operation _ there => ?_) operations (List.prefix_refl _)
  cases operation with
  | freeze => exact there
  | invalidate cause => exact there
  | fill filling =>
      cases done : filling.apply (empty.after front) with
      | error fault refused =>
          rw [take_of_refused done]
          exact there
      | ok _ next =>
          rw [take_of_ok done]
          exact filling.contains_userClass there done

/--
The class of users is tracked all along a history if and only if the history
puts no other class in place of the recorded one, and does not take this one
out while there is a second class of users.
-/
theorem tracksUser_after_iff (operations : List Operation) :
    (∀ front, front <+: operations → (empty.after front).TracksUser) ↔
      Never Filling.LosesUser operations :=
  after_iff_never TracksUser Filling.LosesUser tracksUser_empty
    (fun _ tracks => tracks.of_same (fun _ => Iff.rfl) rfl)
    (fun _ _ tracks => tracks.of_same (fun _ => Iff.rfl) rfl)
    fun front filling _ _ tracks done => filling.tracksUser_iff (keyed_after front) tracks done

/-- A class of users, and a class of courses in its place. -/
def replaced : List Operation :=
  [.fill (.addClass ⟨"c", "User", none, []⟩), .fill (.addClass course)]

/-- Two classes of users, and the second one is taken out again. -/
def orphaned : List Operation :=
  [.fill (.addClass ⟨"a", "User", none, []⟩), .fill (.addClass ⟨"b", "USER", none, []⟩),
    .fill (.removeClass "b")]

/-- A class of courses stays recorded for users, and a class of users is overlooked. -/
theorem not_tracksUser_replaced :
    ((empty.after replaced).userClass = some "c" ∧
        (empty.after replaced).classes.get? "c" = some course ∧
        ¬ (empty.after replaced).TracksUser) ∧
      (empty.after orphaned).userClass = none ∧
        (empty.after orphaned).classes.get? "a" = some ⟨"a", "User", none, []⟩ ∧
        ¬ (empty.after orphaned).TracksUser := by
  have stale : (empty.after replaced).classes.get? "c" = some course := by decide +kernel
  have user : (empty.after orphaned).classes.get? "a" = some ⟨"a", "User", none, []⟩ := by
    decide +kernel
  have unrecorded : (empty.after orphaned).userClass = none := by decide +kernel
  refine ⟨⟨by decide +kernel, stale, fun tracks => ?_⟩, unrecorded, user, fun tracks => ?_⟩
  · obtain ⟨_, found, named⟩ := tracks.recorded "c" (by decide +kernel)
    cases stale.symm.trans found
    exact absurd named (by decide +kernel)
  · exact tracks.noticed "a" ⟨_, user, by decide +kernel⟩ unrecorded

end ClassDiagram.Store
