import ClassDiagram.Proofs.Casing
import ClassDiagram.Proofs.Course

/-!
# References between entities

A run that succeeds leaves a store in which every reference leads to an entity
and every name is filled.  While it is under way a field may name an
enumeration that is still awaited, and all identifiers may be used again.
-/

namespace ClassDiagram

open Step (bind_eq_ok)
open Xml (Node)

/--
The references of a store lead to entities and its names are filled, where a
field may name a scalar type or something else that is known.
-/
structure Store.Intact (registry : Registry) (known : String → Prop) (store : Store) : Prop where
  keyed : ∀ id entity, store.classes.get? id = some entity → entity.id = id
  listed : ∀ id entity, store.classes.get? id = some entity →
    ∀ field ∈ entity.fields, store.fields.contains field = true
  owned : ∀ id field, store.fields.get? id = some field →
    store.classes.contains field.classId = true
  typed : ∀ id field, store.fields.get? id = some field →
    store.types.contains field.typeId = true ∨ known field.typeId
  linked : ∀ id association, store.associations.get? id = some association →
    store.classes.contains association.sourceId = true ∧
      store.classes.contains association.destinationId = true
  user : ∀ id, store.userClass = some id → store.classes.contains id = true
  registered : ∀ id type, store.types.get? id = some type →
    type.name ∈ registry.types.values
  classNamed : ∀ id entity, store.classes.get? id = some entity → entity.name ≠ ""
  fieldNamed : ∀ id field, store.fields.get? id = some field → field.name ≠ ""
  enumerationNamed : ∀ id enumeration, store.enumerations.get? id = some enumeration →
    enumeration.name ≠ "" ∧ ∀ value ∈ enumeration.values, value ≠ ""

namespace Store.Intact

variable {registry : Registry} {known : String → Prop} {store : Store}

theorem empty : Store.empty.Intact registry known where
  keyed _ _ := nofun
  listed _ _ := nofun
  owned _ _ := nofun
  typed _ _ := nofun
  linked _ _ := nofun
  user _ := nofun
  registered _ _ := nofun
  classNamed _ _ := nofun
  fieldNamed _ _ := nofun
  enumerationNamed _ _ := nofun

variable (intact : store.Intact registry known)
include intact

theorem addType (type : ScalarType) (listed : type.name ∈ registry.types.values) :
    { store with types := store.types.insert type.id type }.Intact registry known := by
  refine { intact with typed := ?_, registered := ?_ }
  · intro id field found
    rcases intact.typed id field found with present | awaited
    · exact Or.inl (Table.contains_insert_of_contains present _ _)
    · exact Or.inr awaited
  · intro id other found
    rcases Table.eq_or_get?_of_insert found with ⟨_, rfl⟩ | before
    · exact listed
    · exact intact.registered id other before

/-- A class may take the place of another one, whose fields then stay with it. -/
theorem addClass {entity : Class} (bare : entity.fields = []) (named : entity.name ≠ "") :
    { store with
      classes := store.classes.insert entity.id entity
      userClass :=
        if isUserName entity.name then some entity.id else store.userClass }.Intact
      registry known := by
  have stays {id : String} (present : store.classes.contains id = true) :
      (store.classes.insert entity.id entity).contains id = true :=
    Table.contains_insert_of_contains present _ _
  refine { intact with
    keyed := ?_, listed := ?_, owned := ?_, linked := ?_, user := ?_, classNamed := ?_ }
  · intro id other found
    rcases Table.eq_or_get?_of_insert found with ⟨same, rfl⟩ | before
    · exact same
    · exact intact.keyed id other before
  · intro id other found field member
    rcases Table.eq_or_get?_of_insert found with ⟨_, rfl⟩ | before
    · rw [bare] at member
      cases member
    · exact intact.listed id other before field member
  · intro id field found
    exact stays (intact.owned id field found)
  · intro id association found
    obtain ⟨source, destination⟩ := intact.linked id association found
    exact ⟨stays source, stays destination⟩
  · intro id found
    dsimp only at found
    split at found
    · cases found
      exact Table.contains_insert_self _ _ _
    · exact stays (intact.user id found)
  · intro id other found
    rcases Table.eq_or_get?_of_insert found with ⟨_, rfl⟩ | before
    · exact named
    · exact intact.classNamed id other before

/-- A field is listed by its class, which keeps its identifier and its name. -/
theorem addField {field : Field} {entity : Class}
    (found : store.classes.get? field.classId = some entity)
    (typed : store.types.contains field.typeId = true ∨ known field.typeId)
    (named : field.name ≠ "") :
    { store with
      fields := store.fields.insert field.id field
      classes := store.classes.insert entity.id
        { entity with fields := entity.fields ++ [field.id] } }.Intact registry known := by
  have stays {id : String} (present : store.classes.contains id = true) :
      (store.classes.insert entity.id { entity with
        fields := entity.fields ++ [field.id] }).contains id = true :=
    Table.contains_insert_of_contains present _ _
  refine { intact with
    keyed := ?_, listed := ?_, owned := ?_, typed := ?_, linked := ?_, user := ?_,
    classNamed := ?_, fieldNamed := ?_ }
  · intro id other filed
    rcases Table.eq_or_get?_of_insert filed with ⟨same, rfl⟩ | before
    · exact same
    · exact intact.keyed id other before
  · intro id other filed member inside
    rcases Table.eq_or_get?_of_insert filed with ⟨_, rfl⟩ | before
    · rcases List.mem_append.mp inside with old | new
      · exact Table.contains_insert_of_contains (intact.listed _ entity found member old) _ _
      · cases List.mem_singleton.mp new
        exact Table.contains_insert_self _ _ _
    · exact Table.contains_insert_of_contains (intact.listed id other before member inside) _ _
  · intro id other filed
    rcases Table.eq_or_get?_of_insert filed with ⟨_, rfl⟩ | before
    · exact stays (Table.contains_of_get? found)
    · exact stays (intact.owned id other before)
  · intro id other filed
    rcases Table.eq_or_get?_of_insert filed with ⟨_, rfl⟩ | before
    · exact typed
    · exact intact.typed id other before
  · intro id association filed
    obtain ⟨source, destination⟩ := intact.linked id association filed
    exact ⟨stays source, stays destination⟩
  · intro id filed
    exact stays (intact.user id filed)
  · intro id other filed
    rcases Table.eq_or_get?_of_insert filed with ⟨_, rfl⟩ | before
    · exact intact.classNamed _ entity found
    · exact intact.classNamed id other before
  · intro id other filed
    rcases Table.eq_or_get?_of_insert filed with ⟨_, rfl⟩ | before
    · exact named
    · exact intact.fieldNamed id other before

theorem addAssociation {association : Association}
    (source : store.classes.contains association.sourceId = true)
    (destination : store.classes.contains association.destinationId = true) :
    { store with
      associations := store.associations.insert association.id association }.Intact
      registry known := by
  refine { intact with linked := ?_ }
  intro id other filed
  rcases Table.eq_or_get?_of_insert filed with ⟨_, rfl⟩ | before
  · exact ⟨source, destination⟩
  · exact intact.linked id other before

theorem addEnumeration {enumeration : Enumeration} (named : enumeration.name ≠ "")
    (valued : ∀ value ∈ enumeration.values, value ≠ "") :
    { store with
      enumerations := store.enumerations.insert enumeration.id enumeration }.Intact
      registry known := by
  refine { intact with enumerationNamed := ?_ }
  intro id other filed
  rcases Table.eq_or_get?_of_insert filed with ⟨_, rfl⟩ | before
  · exact ⟨named, valued⟩
  · exact intact.enumerationNamed id other before

theorem freeze : store.freeze.Intact registry known := { intact with }

/-- What was awaited becomes known in the end. -/
theorem weaken {later : String → Prop} (arrived : ∀ id, known id → later id) :
    store.Intact registry later := by
  refine { intact with typed := ?_ }
  intro id field found
  rcases intact.typed id field found with present | awaited
  · exact Or.inl present
  · exact Or.inr (arrived _ awaited)

end Store.Intact

/-! ## What reading elements keeps -/

variable {p q : Progress} {registry : Registry} {known : String → Prop}

theorem Typing.declareAll_intact {nodes : List Node}
    (done : declareAll registry nodes p = .ok () q) (start : p.store.Intact registry known) :
    q.store.Intact registry known := by
  rw [declareAll_eq_each] at done
  refine Step.each_invariant (fun _ r => r.store.Intact registry known) done start ?_
  intro _ node _ r _ _ intact declared
  obtain ⟨type, _, declares, rfl⟩ := declare_eq_ok declared
  exact intact.addType type (canonical_mem_values declares.known)

namespace Classes

variable {enumerations : List (Option String)}

theorem addField_intact {owner : String} {node : Node}
    (done : addField registry enumerations owner node p = .ok () q)
    (start : p.store.Intact registry fun id => some id ∈ enumerations) :
    q.store.Intact registry fun id => some id ∈ enumerations := by
  obtain ⟨field, entity, types, _, isField, resolves, found, rfl⟩ := addField_eq_ok done
  have typed : { p.store with types }.Intact registry fun id => some id ∈ enumerations := by
    rcases resolves.added with same | ⟨_, listed, more⟩
    · rw [same]
      exact start
    · rw [more]
      exact start.addType ⟨field.typeId, field.typeId⟩ listed
  have named : field.name ≠ "" := by
    obtain ⟨name, titled, lowered⟩ := Option.map_eq_some_iff.mp isField.titled
    rw [← lowered]
    exact Text.decapitalize_ne_empty (title?_ne_empty titled)
  rw [← isField.owner_eq] at found
  exact typed.addField found resolves.found named

theorem add_intact {node : Node} (done : add registry enumerations node p = .ok () q)
    (start : p.store.Intact registry fun id => some id ∈ enumerations) :
    q.store.Intact registry fun id => some id ∈ enumerations := by
  obtain ⟨id, r, headed, _, members⟩ := add_eq_ok done
  obtain ⟨entity, _, heads, rfl, rfl⟩ := addClass_eq_ok headed
  have classed := start.addClass heads.bare (title?_ne_empty heads.titled)
  refine Step.each_invariant
    (fun _ r => r.store.Intact registry fun id => some id ∈ enumerations) members classed ?_
  intro _ member _ r s _ intact taken
  rcases addAttribute_eq_ok taken with ⟨_, rfl⟩ | ⟨_, added⟩
  · exact intact
  · exact addField_intact added intact

theorem addAll_intact {nodes : List Node}
    (done : addAll registry enumerations nodes p = .ok () q)
    (start : p.store.Intact registry fun id => some id ∈ enumerations) :
    q.store.Intact registry fun id => some id ∈ enumerations := by
  rw [addAll_eq_each] at done
  refine Step.each_invariant
    (fun _ r => r.store.Intact registry fun id => some id ∈ enumerations) done start ?_
  intro _ node _ r s _ intact taken
  exact add_intact taken intact

end Classes

theorem Associations.link_intact {nodes : List Node} (done : link nodes p = .ok () q)
    (start : p.store.Intact registry known) : q.store.Intact registry known := by
  obtain ⟨used, added, _⟩ := link_eq_ok.mp done
  refine Step.each_invariant (fun _ r => r.store.Intact registry known)
    (each_of_addAll added) start ?_
  intro _ node _ r _ _ intact taken
  obtain ⟨ids, _, joined, last⟩ := bind_eq_ok.mp taken
  cases last
  obtain ⟨_, _, association, _, _, joins, rfl⟩ := add_eq_ok joined
  exact intact.addAssociation joins.source_mem joins.destination_mem

namespace Enumerations

theorem addAll_intact {nodes : List Node} (done : addAll nodes p = .ok () q)
    (start : p.store.Intact registry known) : q.store.Intact registry known := by
  rw [addAll_eq_each] at done
  refine Step.each_invariant (fun _ r => r.store.Intact registry known) done start ?_
  intro _ node _ r _ _ intact taken
  obtain ⟨enumeration, _, lists, rfl⟩ := add_eq_ok taken
  refine intact.addEnumeration (title?_ne_empty lists.titled) fun value member => ?_
  have named : some value ∈ enumeration.values.map some := List.mem_map_of_mem member
  rw [← lists.listed] at named
  obtain ⟨literal, _, titled⟩ := List.mem_map.mp named
  exact title?_ne_empty titled

/-- In the end every enumeration that was awaited is there. -/
theorem addAll_contains {nodes : List Node} (done : addAll nodes p = .ok () q) :
    ∀ node ∈ nodes, ∀ id, id? node = some id → q.store.enumerations.contains id = true := by
  rw [addAll_eq_each] at done
  refine Step.each_invariant (fun front r => ∀ node ∈ front, ∀ id, id? node = some id →
    r.store.enumerations.contains id = true) done (by simp) ?_
  intro front node _ r _ _ passed taken other member id named
  obtain ⟨enumeration, _, lists, rfl⟩ := add_eq_ok taken
  rcases List.mem_append.mp member with old | new
  · exact Table.contains_insert_of_contains (passed other old id named) _ _
  · cases List.mem_singleton.mp new
    cases named.symm.trans lists.id_eq
    exact Table.contains_insert_self _ _ _

end Enumerations

/-! ## What a run gives -/

/-- The name of a field's type can be told where the type is a scalar type or an enumeration. -/
theorem Store.Intact.fieldTypeName {store : Store} (unfailed : store.failure = none)
    (intact : store.Intact registry (store.enumerations.contains · = true)) {id : String}
    (present : store.fields.contains id = true) :
    ∃ name, store.fieldTypeName (some id) = .ok name := by
  obtain ⟨field, found⟩ := (Table.contains_iff_exists _ _).mp present
  have field_eq : store.getField (some id) = .ok field :=
    get_of_found unfailed Store.fields .field found
  unfold Store.fieldTypeName
  cases typed : store.types.get? field.typeId with
  | some type =>
      refine ⟨type.name, Fault.bind_eq_ok.mpr ⟨field, field_eq, ?_⟩⟩
      rw [typed]
      rfl
  | none =>
      have named : store.enumerations.contains field.typeId = true := by
        rcases intact.typed id field found with scalar | named
        · rw [Table.contains, typed] at scalar
          cases scalar
        · exact named
      obtain ⟨enumeration, listed⟩ := (Table.contains_iff_exists _ _).mp named
      have enumeration_eq : store.getEnumeration (some field.typeId) = .ok enumeration :=
        get_of_found unfailed Store.enumerations .enumeration listed
      refine ⟨enumeration.name, Fault.bind_eq_ok.mpr ⟨field, field_eq, ?_⟩⟩
      rw [typed]
      exact Fault.bind_eq_ok.mpr ⟨enumeration, enumeration_eq, rfl⟩

namespace Ingestion

/--
The store that a first run gives refers to nothing but what it holds, and the
name of the type of every field can be told.
-/
theorem run_intact (ingestion : Ingestion) {store : Store}
    (done : (ingestion.run.outcome .initial).1 = .ok store) :
    store.Intact ingestion.registry (store.enumerations.contains · = true) ∧
      ∀ id, store.fields.contains id = true →
        ∃ name, store.fieldTypeName (some id) = .ok name := by
  obtain ⟨q, same, finished, ⟨course⟩⟩ := course_of_first_run done
  obtain ⟨index, typed, classed, linked, listed, _, _, ⟨_, types⟩, ⟨_, classes⟩,
    ⟨_, associations⟩, ⟨_, enumerations⟩, _, frozen⟩ := course
  have afterTypes : typed.store.Intact ingestion.registry fun id =>
      some id ∈ index.enumerationIds := Typing.declareAll_intact types Store.Intact.empty
  have afterClasses := Classes.addAll_intact classes afterTypes
  have afterAssociations := Associations.link_intact associations afterClasses
  have afterAll := Enumerations.addAll_intact enumerations afterAssociations
  have intact : store.Intact ingestion.registry (store.enumerations.contains · = true) := by
    rw [← same, frozen]
    refine afterAll.freeze.weaken fun id awaited => ?_
    obtain ⟨node, member, named⟩ := List.mem_map.mp awaited
    exact Enumerations.addAll_contains enumerations node member id named
  exact ⟨intact, fun _ present => intact.fieldTypeName finished.unfailed present⟩

/-- The fields of `lectures` name a declared type, an enumeration and an inferred type. -/
theorem run_intact_lectures :
    (lectures.run.outcome .initial).1 = .ok lecturesStore ∧
      lecturesStore.Intact lectures.registry (lecturesStore.enumerations.contains · = true) ∧
      lecturesStore.fields.keys = ["f1", "f2", "f3"] ∧
      ∀ id, lecturesStore.fields.contains id = true →
        ∃ name, lecturesStore.fieldTypeName (some id) = .ok name := by
  obtain ⟨intact, told⟩ := run_intact lectures run_lectures
  exact ⟨run_lectures, intact, by decide +kernel, told⟩

end Ingestion

end ClassDiagram
