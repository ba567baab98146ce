import ClassDiagram.Proofs.Reordering

/-!
# Types and the order of classes

Where all identifiers of a model differ, its classes may be put in any order
without a change to the types of the fields exactly if the fields stay with
their types.  A field does not if it refers to a scalar type that only other
classes bring in while another type is written on it.
-/

namespace ClassDiagram

open Classes (Passed Readable assign)
open Step (bind_eq_ok)
open Typing (Declares reference?)
open Xml (Node)

/-! ## Stores that give the same types -/

namespace Store

def TypesLike (store other : Store) : Prop :=
  ∀ id, (store.fields.get? id).map Field.typeId = (other.fields.get? id).map Field.typeId ∧
    store.fieldTypeName (some id) = other.fieldTypeName (some id)

def typeOf (store : Store) (field : Node) : String := (store.typeIdOf? field).getD ""

variable {store other : Store}

theorem TypesLike.typeIdOf?_eq (typesLike : store.TypesLike other) (field : Node) :
    store.typeIdOf? field = other.typeIdOf? field := by
  unfold typeIdOf?
  cases id? field with
  | none => rfl
  | some id => exact (typesLike id).1

/-- The name of a field's type is looked up by the type of the field. -/
theorem fieldTypeName_eq (id : String) : store.fieldTypeName (some id) =
    (store.checkValid >>= fun _ =>
      match (store.fields.get? id).map Field.typeId with
      | none => .error (.ingest (.unresolved (.text id) (.text EntityKind.field.word) .absent))
      | some typeId =>
          match store.types.get? typeId with
          | some type => .ok type.name
          | none => store.getEnumeration typeId >>= fun enumeration => .ok enumeration.name) := by
  unfold fieldTypeName getField get
  rw [Option.bind_some]
  cases store.checkValid with
  | error _ => rfl
  | ok _ =>
      cases store.fields.get? id with
      | none => rfl
      | some field => rfl

/-- Stores that give the fields the same types and look these up alike give the same names, too. -/
theorem typesLike_of_fields (failures : store.failure = other.failure)
    (fields : ∀ id, (store.fields.get? id).map Field.typeId =
      (other.fields.get? id).map Field.typeId)
    (types : ∀ id, store.types.get? id = other.types.get? id)
    (enumerations : store.enumerations = other.enumerations) : store.TypesLike other := by
  refine fun id => ⟨fields id, ?_⟩
  have valid : store.checkValid = other.checkValid := by
    unfold checkValid
    rw [failures]
  have enumeration : store.getEnumeration = other.getEnumeration := by
    funext id
    unfold getEnumeration get
    rw [valid, enumerations]
  rw [fieldTypeName_eq, fieldTypeName_eq, valid, fields, enumeration]
  simp only [types]

end Store

section

variable {registry : Registry} {declared : Table String ScalarType}
  {enumerations : List (Option String)}

/-- Fields that are in a store with their types have those that the store gives them. -/
theorem Assigned.assign_eq {assignment : Assignment} {store : Store}
    (assigned : Assigned declared enumerations assignment store) :
    assign store.typeOf (assignment.map Prod.fst) = assignment := by
  unfold assign
  rw [List.map_map]
  refine (List.map_congr_left fun place inside => ?_).trans (List.map_id assignment)
  change (place.1, (store.typeIdOf? place.1).getD "") = place
  rw [assigned.typed place inside]
  rfl

/-- Fields that have come by types have come by those that the store gives them. -/
theorem Classes.Passed.assigned {fields : List Node} {store : Store}
    (passed : Passed registry declared enumerations fields store) :
    Chosen declared enumerations registry (assign store.typeOf fields) ∧
      Assigned declared enumerations (assign store.typeOf fields) store := by
  obtain ⟨assignment, rfl, chosen, assigned⟩ := passed
  rw [assigned.assign_eq]
  exact ⟨chosen, assigned⟩

variable {typeOf : Node → String} {fields others : List Node} {store other : Store}

/-- Stores that give types to the same fields give them to the same identifiers. -/
theorem Assigned.typeId_le (assigned : Assigned declared enumerations (assign typeOf fields) store)
    (assignedAlso : Assigned declared enumerations (assign typeOf others) other)
    (listed : store.fields.keys = fields.filterMap id?) (inside : fields ⊆ others)
    {id typeId : String} (typed : (store.fields.get? id).map Field.typeId = some typeId) :
    (other.fields.get? id).map Field.typeId = some typeId := by
  obtain ⟨field, found, rfl⟩ := Option.map_eq_some_iff.mp typed
  have key : id ∈ store.fields.keys := (Table.contains_iff _ _).mp (Table.contains_of_get? found)
  rw [listed] at key
  obtain ⟨node, member, named⟩ := List.mem_filterMap.mp key
  have here := assigned.typed (node, typeOf node) (List.mem_map_of_mem member)
  have there := assignedAlso.typed (node, typeOf node) (List.mem_map_of_mem (inside member))
  unfold Store.typeIdOf? at here there
  rw [named, Option.bind_some] at here there
  rw [there, ← here, found, Option.map_some]

/-- Fields that have come by the same types in two orders have them in both stores. -/
theorem Assigned.typesLike
    (assigned : Assigned declared enumerations (assign typeOf fields) store)
    (assignedAlso : Assigned declared enumerations (assign typeOf others) other)
    (listed : store.fields.keys = fields.filterMap id?)
    (listedAlso : other.fields.keys = others.filterMap id?) (perm : others.Perm fields)
    (failures : store.failure = other.failure) (same : store.enumerations = other.enumerations) :
    store.TypesLike other := by
  refine Store.typesLike_of_fields failures (fun id => ?_) (fun id => ?_) same
  · ext typeId
    exact ⟨assigned.typeId_le assignedAlso listed perm.symm.subset,
      assignedAlso.typeId_le assigned listedAlso perm.subset⟩
  · exact assigned.types.get?_eq assignedAlso.types
      (fun _ => ⟨fun known => known.subset perm.symm.subset,
        fun known => known.subset perm.subset⟩) id

end

/-! ## What a run gives to the fields -/

namespace Ingestion

variable {ingestion : Ingestion} {q : Progress}

def classes (ingestion : Ingestion) : List Node := elementsOfKind ingestion.model .objectClass

def Announces (ingestion : Ingestion) (id : String) : Prop :=
  (∃ node ∈ elementsOfKind ingestion.model .scalarType, ∃ type,
    Declares ingestion.registry node type ∧ type.id = id) ∨
      ∃ node ∈ elementsOfKind ingestion.model .enumeration, id? node = some id

namespace Course

variable (course : ingestion.Course .initial q)
include course

theorem announced_iff (id : String) :
    Announced course.typed.store.types course.index.enumerationIds id ↔
      ingestion.Announces id := by
  obtain ⟨_, types⟩ := course.types
  have sorted := Index.elementsOf_of_ofModel course.made
  unfold Announced Announces Index.enumerationIds
  rw [Typing.declareAll_contains types, sorted, sorted, List.mem_map]
  simp [Progress.initial, Store.empty]

/-- The store at the end holds the classes, fields and types that have been read before. -/
theorem store_eq : ∃ associations enumerations, q.store =
    { course.classed.store with associations, enumerations, frozen := true } := by
  obtain ⟨_, linked⟩ := course.associations
  obtain ⟨_, listed⟩ := course.enumerations
  obtain ⟨associations, _, linked_eq⟩ := Associations.link_frame linked
  obtain ⟨enumerations, _, listed_eq⟩ := Enumerations.addAll_frame listed
  refine ⟨associations, enumerations, ?_⟩
  rw [course.store, listed_eq, linked_eq]
  rfl

/-- The fields come by their types, one after another. -/
theorem passed (distinct : Distinguished ingestion.classes) :
    Passed ingestion.registry course.typed.store.types course.index.enumerationIds
      (ingestion.classes.flatMap fieldsOf) q.store := by
  obtain ⟨_, classes⟩ := course.classes
  rw [Index.elementsOf_of_ofModel course.made] at classes
  obtain ⟨assignment, same, chosen, assigned⟩ := Classes.addAll_passed classes distinct.fields
  obtain ⟨_, _, store_eq⟩ := course.store_eq
  refine ⟨assignment, same, chosen, ?_⟩
  rw [store_eq]
  exact ⟨assigned.types, assigned.typed⟩

theorem typed_store : ∃ types, course.typed.store = { Store.empty with types } := by
  obtain ⟨_, types⟩ := course.types
  obtain ⟨types, _, typed⟩ := Typing.declareAll_frame types
  exact ⟨types, by rw [typed]; rfl⟩

/-- Reading the classes adds no associations and no enumerations. -/
theorem classed_bare : course.classed.store.associations = .empty ∧
    course.classed.store.enumerations = .empty := by
  obtain ⟨_, typed⟩ := course.typed_store
  obtain ⟨_, classes⟩ := course.classes
  have frame := Classes.addAll_frame classes
  rw [frame.associations, frame.enumerations, typed]
  exact ⟨rfl, rfl⟩

theorem keys_classed (distinct : Distinguished ingestion.classes) :
    course.classed.store.classes.keys = ingestion.classes.filterMap id? ∧
      course.classed.store.fields.keys = (ingestion.classes.flatMap fieldsOf).filterMap id? := by
  obtain ⟨_, typed⟩ := course.typed_store
  obtain ⟨_, classes⟩ := course.classes
  rw [Index.elementsOf_of_ofModel course.made] at classes
  refine Classes.addAll_keys classes distinct ?_ ?_ <;> rw [typed] <;> rfl

theorem keys_fields (distinct : Distinguished ingestion.classes) :
    q.store.fields.keys = (ingestion.classes.flatMap fieldsOf).filterMap id? := by
  obtain ⟨_, _, store_eq⟩ := course.store_eq
  rw [store_eq]
  exact (course.keys_classed distinct).2

theorem isDone : q.store.IsDone := by
  obtain ⟨_, _, done, _⟩ := course_of_first_run course.first_run
  exact done

/-- Every class that has been read can be read. -/
theorem readable {node : Node} (inside : node ∈ ingestion.classes) : Readable node := by
  obtain ⟨_, classes⟩ := course.classes
  rw [Index.elementsOf_of_ofModel course.made, Classes.addAll_eq_each] at classes
  obtain ⟨_, _, added⟩ := Step.each_mem classes node inside
  exact Classes.readable_of_add added

end Course

/-! ## Runs of reordered models -/

/-- The fields of a model come by the types that they have at the end of a course. -/
def Course.Suits (course : ingestion.Course .initial q) (model : Node) : Prop :=
  Chosen course.typed.store.types course.index.enumerationIds ingestion.registry
    (assign q.store.typeOf ((elementsOfKind model .objectClass).flatMap fieldsOf))

section

variable {q' : Progress} {model : Node} (course : ingestion.Course .initial q)
  (reordered : Reordered ingestion.model model)
include course reordered

theorem Course.index_reordered {other : Index} (kind : ElementKind)
    (apart : .objectClass ≠ kind) (made : Index.ofModel ingestion.strict model = .ok other) :
    other.elementsOf kind = course.index.elementsOf kind :=
  Index.elementsOf_congr course.made made (reordered.elements_other kind apart)

variable (distinct : Distinguished ingestion.classes)
include distinct

/-- If a run of the reordered model gives the same types, its fields come by these. -/
theorem Course.suits_of_typesLike (other : (ingestion.withModel model).Course .initial q')
    (typesLike : q.store.TypesLike q'.store) : course.Suits model := by
  have scalarTypes := course.index_reordered reordered .scalarType nofun other.made
  have awaited := Index.enumerationIds_congr
    (course.index_reordered reordered .enumeration nofun other.made)
  obtain ⟨told, types⟩ := other.types
  obtain ⟨typed, again, declared⟩ := course.declares_again scalarTypes told
  cases again.symm.trans types
  have sameType : q'.store.typeOf = q.store.typeOf := by
    funext field
    unfold Store.typeOf
    rw [typesLike.typeIdOf?_eq]
  have chosen := (other.passed (distinct.perm reordered.classes)).assigned.1
  rw [sameType, declared, awaited] at chosen
  exact chosen

structure ClassedAgain (ingestion : Ingestion) (model : Node) (typeOf : Node → String)
    (declared : Table String ScalarType) (enumerations : List (Option String))
    (typed classed : Progress) : Prop where
  read : Classes.addAll ingestion.registry enumerations (elementsOfKind model .objectClass)
    { typed with ends := .empty } = .ok () classed
  opened : classed.store.IsOpen
  assigned : Assigned declared enumerations
    (assign typeOf ((elementsOfKind model .objectClass).flatMap fieldsOf)) classed.store
  keys : classed.store.classes.keys = (elementsOfKind model .objectClass).filterMap id?
  noAssociations : classed.store.associations = .empty
  noEnumerations : classed.store.enumerations = .empty

/-- If the fields of the reordered model come by the same types, its classes are read. -/
theorem Course.classedAgain (suits : course.Suits model)
    {typed : Progress} (declared : typed.store = course.typed.store) :
    ∃ classed, ClassedAgain ingestion model q.store.typeOf course.typed.store.types
      course.index.enumerationIds typed classed := by
  have distinctAlso := distinct.perm reordered.classes
  obtain ⟨_, typed_eq⟩ := course.typed_store
  unfold Suits at suits
  rw [← declared] at suits typed_eq
  have opened : typed.store.IsOpen := by
    rw [typed_eq]
    exact ⟨rfl, rfl⟩
  obtain ⟨classed, classes, openedAlso, assigned⟩ := Classes.addAll_of_chosen
    (p := { typed with ends := .empty })
    (fun node inside => course.readable (reordered.classes.subset inside))
    distinctAlso.fields opened suits
  have frame := Classes.addAll_frame classes
  refine ⟨classed, classes, openedAlso, ?_, ?_, ?_, ?_⟩
  · rw [← declared]
    exact assigned
  · refine (Classes.addAll_keys classes distinctAlso ?_ ?_).1 <;> rw [typed_eq] <;> rfl
  · rw [frame.associations, typed_eq]
    rfl
  · rw [frame.enumerations, typed_eq]
    rfl

/-- If the classes of the reordered model have been read, its associations are linked. -/
theorem Course.link_again {typed classed : Progress}
    (again : ClassedAgain ingestion model q.store.typeOf course.typed.store.types
      course.index.enumerationIds typed classed) :
    ∃ journal, Associations.link (elementsOfKind ingestion.model .association) classed =
      .ok () { classed with
        store := { classed.store with associations := course.linked.store.associations }
        journal } := by
  have sorted := Index.elementsOf_of_ofModel course.made
  obtain ⟨_, classes⟩ := course.classes
  obtain ⟨_, associations⟩ := course.associations
  rw [sorted] at classes associations
  have filed := Classes.addAll_filed classes rfl
  have filedAlso := Classes.addAll_filed again.read rfl
  refine Associations.link_reordered associations filed filedAlso
    (reordered.classes.flatMap_right endsOf) distinct.ends (fun id there => ?_) again.opened
    (course.classed_bare.1.trans again.noAssociations.symm)
  rw [Table.contains_iff, (course.keys_classed distinct).1] at there
  rw [Table.contains_iff, again.keys]
  exact (reordered.classes.filterMap id?).symm.subset there

/-- If the fields of the reordered model come by the same types, a run takes its course. -/
theorem Course.exists_of_suits (suits : course.Suits model) :
    ∃ q', Nonempty ((ingestion.withModel model).Course .initial q') ∧
      Assigned course.typed.store.types course.index.enumerationIds
        (assign q.store.typeOf ((elementsOfKind model .objectClass).flatMap fieldsOf)) q'.store ∧
      q.store.enumerations = q'.store.enumerations := by
  obtain ⟨other, made⟩ := reordered.ofModel course.made
  have sorted := Index.elementsOf_of_ofModel course.made
  have sortedAlso := Index.elementsOf_of_ofModel made
  have scalarTypes := course.index_reordered reordered .scalarType nofun made
  have linkedSame := course.index_reordered reordered .association nofun made
  have listedSame := course.index_reordered reordered .enumeration nofun made
  have awaited := Index.enumerationIds_congr listedSame
  obtain ⟨typed, types, declared⟩ := course.declares_again scalarTypes []
  obtain ⟨classed, again⟩ := course.classedAgain reordered distinct suits declared
  obtain ⟨linksTold, associations⟩ := course.link_again reordered distinct again
  let linked : Progress := { classed with
    store := { classed.store with associations := course.linked.store.associations }
    journal := linksTold }
  have opened : linked.store.IsOpen := ⟨again.opened.unfailed, again.opened.unfrozen⟩
  obtain ⟨_, linkedBefore⟩ := course.associations
  obtain ⟨_, enumerations⟩ := course.enumerations
  have noEnumerations : course.linked.store.enumerations = linked.store.enumerations := by
    obtain ⟨_, _, linked_eq⟩ := Associations.link_frame linkedBefore
    rw [linked_eq]
    exact course.classed_bare.2.trans again.noEnumerations.symm
  obtain ⟨listsTold, added⟩ := Enumerations.addAll_transfer enumerations opened noEnumerations
  let listed : Progress := { linked with
    store := { linked.store with enumerations := course.listed.store.enumerations }
    journal := listsTold }
  refine ⟨{ listed with store := listed.store.freeze, index := some other }, ⟨{
    index := other
    typed := typed
    classed := classed
    linked := linked
    listed := listed
    made := made
    indexed := rfl
    types := ⟨[], types⟩
    classes := ⟨typed.journal, by rw [awaited, sortedAlso]; exact again.read⟩
    associations := ⟨classed.journal, by rw [linkedSame, sorted]; exact associations⟩
    enumerations := ⟨linked.journal, by rw [listedSame]; exact added⟩
    ends := rfl
    store := rfl }⟩, ⟨again.assigned.types, again.assigned.typed⟩, ?_⟩
  rw [course.store]
  rfl

/-- A reordered model has a run that gives the same types exactly if its fields come by these. -/
theorem Course.run_reordered : (∃ other, ((ingestion.withModel model).run.outcome .initial).1 =
      .ok other ∧ q.store.TypesLike other) ↔ course.Suits model := by
  constructor
  · rintro ⟨other, ran, typesLike⟩
    obtain ⟨q', rfl, _, ⟨courseAlso⟩⟩ := course_of_first_run ran
    exact course.suits_of_typesLike reordered distinct courseAlso typesLike
  · intro suits
    obtain ⟨q', ⟨courseAlso⟩, assigned, same⟩ :=
      course.exists_of_suits reordered distinct suits
    refine ⟨q'.store, courseAlso.first_run, ?_⟩
    have failures := course.isDone.unfailed.trans courseAlso.isDone.unfailed.symm
    exact (course.passed distinct).assigned.2.typesLike assigned (course.keys_fields distinct)
      (courseAlso.keys_fields (distinct.perm reordered.classes))
      (reordered.classes.flatMap_right fieldsOf) failures same

end

/--
Whatever the order of the classes, a first run succeeds and gives every field
the type that a store gives it, under the same name.
-/
def TypedInAnyOrder (ingestion : Ingestion) (store : Store) : Prop :=
  ∀ model, Reordered ingestion.model model →
    ∃ other, ((ingestion.withModel model).run.outcome .initial).1 = .ok other ∧
      store.TypesLike other

/--
Where all identifiers of a model differ, the order of its classes does not
matter to the types of the fields exactly if the fields stay with their types.
-/
theorem typedInAnyOrder_iff (ingestion : Ingestion) (distinct : DistinctIds ingestion.model)
    {store : Store} (done : (ingestion.run.outcome .initial).1 = .ok store) :
    ingestion.TypedInAnyOrder store ↔
      Steady ingestion.registry ingestion.Announces store.typeOf ingestion.classes := by
  obtain ⟨q, rfl, _, ⟨course⟩⟩ := course_of_first_run done
  have distinguished : Distinguished ingestion.classes := distinct.distinguished
  obtain ⟨chosen, assigned⟩ := (course.passed distinguished).assigned
  have announced : Announced course.typed.store.types course.index.enumerationIds =
      ingestion.Announces := funext fun id => propext (course.announced_iff id)
  rw [← announced]
  constructor
  · intro always
    refine steady_of_chosen fun others perm => ?_
    obtain ⟨model, reordered, rfl⟩ := exists_reordered perm
    exact (course.run_reordered reordered distinguished).mp (always model reordered)
  · intro steady model reordered
    refine (course.run_reordered reordered distinguished).mpr ?_
    exact steady.chosen chosen (fun _ => assigned.types.capitalized) reordered.classes

/-- The fields of `lectures` refer to what is announced, or have it written on them. -/
theorem steady_lectures :
    Steady lectures.registry lectures.Announces lecturesStore.typeOf lectures.classes := by
  have fields : lectures.classes.flatMap fieldsOf = [
      umlElement "ownedAttribute" [("id", "f1")] [("name", "Title"), ("type", "t")] [],
      umlElement "ownedAttribute" [("id", "f2")] [("name", "level"), ("type", "n")] [],
      umlElement "ownedAttribute" [("id", "f3")] [("name", "age"), ("type", "Integer")] []] := rfl
  refine steady_of_written fun field inside id refers => ?_
  rw [fields] at inside
  simp only [List.mem_cons, List.not_mem_nil, or_false] at inside
  rcases inside with rfl | rfl | rfl
  · cases refers
    exact Or.inl (Or.inl ⟨_, List.mem_singleton_self _, ⟨"t", "String"⟩,
      ⟨by rfl, by decide, by rfl⟩, rfl⟩)
  · cases refers
    exact Or.inl (Or.inr ⟨_, List.mem_singleton_self _, rfl⟩)
  · cases refers
    exact Or.inr ⟨some "Integer", rfl, by rfl⟩

/-- The classes of `lectures` can be put in any order. -/
theorem typedInAnyOrder_lectures :
    DistinctIds lectures.model ∧ (lectures.run.outcome .initial).1 = .ok lecturesStore ∧
      lectures.TypedInAnyOrder lecturesStore := by
  have distinct : DistinctIds lectures.model := by decide +kernel
  exact ⟨distinct, run_lectures,
    (typedInAnyOrder_iff lectures distinct run_lectures).mpr steady_lectures⟩

def bringing : Node :=
  umlElement "packagedElement" [("type", "uml:Class"), ("id", "a")] [("name", "Course")] [
    umlElement "ownedAttribute" [("id", "f")] [("name", "title"), ("type", "String")] []]

/-- The class whose field refers to `String` but has another type written on it. -/
def wavering : Node :=
  umlElement "packagedElement" [("type", "uml:Class"), ("id", "b")] [("name", "Room")] [
    umlElement "ownedAttribute" [("id", "g")] [("name", "number"), ("type", "String")] [
      umlElement "type" [] [("href", "types#Integer")] []]]

/-- A model where one class decides on the type of a field of another. -/
def rooms : Ingestion where
  model := umlElement "Model" [] [] [bringing, wavering]
  database := .sql
  registry := .ofDatabase .sql
  strict := false
  document := "rooms.xmi"

def roomsStore : Store := (rooms.run.outcome .initial).2.store

/-- The field refers to a scalar type if the class that brings it in comes first, and not before. -/
theorem not_typedInAnyOrder_rooms :
    DistinctIds rooms.model ∧ (rooms.run.outcome .initial).1 = .ok roomsStore ∧
      ¬ rooms.TypedInAnyOrder roomsStore := by
  have distinct : DistinctIds rooms.model := by decide +kernel
  refine ⟨distinct, rooms.run_outcome_eq_ok (by decide +kernel), fun always => ?_⟩
  let swapped : Node := umlElement "Model" [] [] [wavering, bringing]
  have reordered : Reordered rooms.model swapped := by
    refine ⟨⟨[wavering, bringing], rfl⟩, ?_, List.Perm.swap _ _ _⟩
    exact .cons (Or.inr ⟨by decide, by decide⟩) (.cons (Or.inr ⟨by decide, by decide⟩) .nil)
  obtain ⟨other, ran, typesLike⟩ := always swapped reordered
  have again : ((rooms.withModel swapped).run.outcome .initial).1 =
      .ok ((rooms.withModel swapped).run.outcome .initial).2.store :=
    (rooms.withModel swapped).run_outcome_eq_ok (by decide +kernel)
  rw [Except.ok.inj (ran.symm.trans again)] at typesLike
  exact absurd (typesLike "g").1 (by decide +kernel)

end Ingestion

end ClassDiagram
