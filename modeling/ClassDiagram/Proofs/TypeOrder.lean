import ClassDiagram.Proofs.Designation

/-!
# Which scalar types are in a store

The scalar types of a store are those that elements declare, in document
order, and after them those that fields have brought in, in the order in which
fields first use them.
-/

namespace ClassDiagram

open Classes (assign)
open Typing (Declares learn reference? typesAfter)
open Xml (Node)

variable {registry : Registry} {p q : Progress}

/-! ## Types that elements declare -/

/-- The types of type elements are filed one after another. -/
theorem Typing.declareAll_eq_ofList {nodes : List Node}
    (done : declareAll registry nodes p = .ok () q) (start : p.store.types = .empty) :
    ∃ declared, List.Forall₂ (Declares registry) nodes declared ∧
      q.store.types = .ofList (declared.map fun type => (type.id, type)) := by
  rw [declareAll_eq_each] at done
  refine Step.each_invariant (fun front r => ∃ declared,
    List.Forall₂ (Declares registry) front declared ∧
      r.store.types = .ofList (declared.map fun type => (type.id, type))) done
    ⟨[], .nil, start⟩ ?_
  rintro front node _ r _ _ ⟨declared, related, filed⟩ taken
  obtain ⟨type, _, declares, rfl⟩ := declare_eq_ok taken
  refine ⟨declared ++ [type], List.rel_append related (.cons declares .nil), ?_⟩
  rw [List.map_append, List.map_singleton, Table.ofList_concat, ← filed]

/-! ## Types that fields bring in -/

def Typing.inferredEntry (canonical : String) : String × ScalarType :=
  (canonical, ⟨canonical, canonical⟩)

/-- Names that are learned one after another are filed once each, in the order of first use. -/
theorem Typing.entries_foldl_learn (names : List String) (types : Table String ScalarType) :
    (names.foldl learn types).entries = types.entries ++
      ((names.filter (· ∉ types.keys)).eraseDups).map inferredEntry := by
  induction names generalizing types with
  | nil => simp
  | cons name rest ih =>
      rw [List.foldl_cons, ih]
      by_cases inside : name ∈ types.keys
      · have same : learn types name = types := if_pos ((Table.contains_iff _ _).mpr inside)
        rw [same, List.filter_cons_of_neg (by simpa using inside)]
      · have more : learn types name = types.insert name ⟨name, name⟩ :=
          if_neg fun known => inside ((Table.contains_iff _ _).mp known)
        rw [more, Table.entries_insert_new inside, Table.keys_insert, if_neg inside,
          Table.eraseDups_filter_cons inside, List.map_cons, List.append_assoc]
        rfl

theorem Typing.keys_foldl_learn (names : List String) (types : Table String ScalarType) :
    (names.foldl learn types).keys =
      types.keys ++ (names.filter (· ∉ types.keys)).eraseDups := by
  have first : Prod.fst ∘ inferredEntry = id := rfl
  rw [Table.keys, entries_foldl_learn, List.map_append, List.map_map, first, List.map_id]
  rfl

def isEnumerated (enumerations : List (Option String)) (place : Node × String) : Bool :=
  reference? place.1 == some place.2 && enumerations.contains (some place.2)

theorem isEnumerated_iff {enumerations : List (Option String)} {place : Node × String} :
    isEnumerated enumerations place = true ↔
      reference? place.1 = some place.2 ∧ some place.2 ∈ enumerations := by
  rw [isEnumerated, Bool.and_eq_true, beq_iff_eq, List.contains_iff_mem]

/-- The scalar types that fields use; a field that refers to an enumeration uses none. -/
def usesIn (enumerations : List (Option String)) (assignment : Assignment) : List String :=
  (assignment.filter (!isEnumerated enumerations ·)).map Prod.snd

theorem usesIn_append (enumerations : List (Option String)) (front back : Assignment) :
    usesIn enumerations (front ++ back) =
      usesIn enumerations front ++ usesIn enumerations back := by
  unfold usesIn
  rw [List.filter_append, List.map_append]

/-- A field learns the scalar type that it uses. -/
theorem typesAfter_eq (enumerations : List (Option String)) (field : Node)
    (types : Table String ScalarType) (typeId : String) :
    typesAfter enumerations field types typeId =
      (usesIn enumerations [(field, typeId)]).foldl learn types := by
  unfold typesAfter usesIn
  cases refers : isEnumerated enumerations (field, typeId) with
  | true =>
      rw [if_pos (isEnumerated_iff.mp refers), List.filter_cons_of_neg (by simp [refers])]
      rfl
  | false =>
      have unawaited := mt isEnumerated_iff.mpr (Bool.eq_false_iff.mp refers)
      rw [if_neg unawaited, List.filter_cons_of_pos (by simp [refers])]
      rfl

/-- Reading classes learns the scalar types that their fields use, one after another. -/
theorem Classes.addAll_learns {enumerations : List (Option String)} {nodes : List Node}
    (done : addAll registry enumerations nodes p = .ok () q)
    (distinct : ((nodes.flatMap fieldsOf).filterMap id?).Nodup) :
    q.store.types =
      (usesIn enumerations (assign q.store.typeOf (nodes.flatMap fieldsOf))).foldl learn
        p.store.types := by
  have learned : ∃ assignment, assignment.map Prod.fst = nodes.flatMap fieldsOf ∧
      Assigned p.store.types enumerations assignment q.store ∧
        q.store.types = (usesIn enumerations assignment).foldl learn p.store.types := by
    refine addAll_fields (fun fields store => ∃ assignment, assignment.map Prod.fst = fields ∧
      Assigned p.store.types enumerations assignment store ∧
        store.types = (usesIn enumerations assignment).foldl learn p.store.types) done
      ⟨[], rfl, ⟨.nil, nofun⟩, rfl⟩ ?_ ?_
    · rintro _ node id r s headed ⟨assignment, same, assigned, learned⟩
      obtain ⟨_, _, _, _, rfl⟩ := addClass_eq_ok headed
      exact ⟨assignment, same, ⟨assigned.types, assigned.typed⟩, learned⟩
    · rintro owner _ child rest r s shape added ⟨assignment, rfl, assigned, learned⟩
      obtain ⟨field, _, _, _, isField, resolves, _, rfl⟩ := addField_eq_ok added
      rw [shape] at distinct
      refine ⟨_, by rw [List.map_append, List.map_singleton],
        assigned.append resolves isField.id_eq (fresh_of_nodup distinct isField.id_eq), ?_⟩
      rw [usesIn_append, List.foldl_append, ← learned, ← typesAfter_eq]
      exact resolves.after_eq
  obtain ⟨assignment, same, assigned, learned⟩ := learned
  rw [← same, assigned.assign_eq]
  exact learned

/-! ## The types of a run -/

namespace Ingestion

variable {ingestion : Ingestion}

def Enumerated (ingestion : Ingestion) (field : Node) : Prop :=
  ∃ id ∈ reference? field, some id ∈ (elementsOfKind ingestion.model .enumeration).map id?

instance (ingestion : Ingestion) (field : Node) : Decidable (ingestion.Enumerated field) :=
  inferInstanceAs (Decidable (∃ id ∈ reference? field, _))

/--
The scalar types that the fields of a model use in a store, field by field; a
field that refers to an enumeration uses none.
-/
def scalarUses (ingestion : Ingestion) (store : Store) : List String :=
  ((ingestion.classes.flatMap fieldsOf).filter (¬ ingestion.Enumerated ·)).map store.typeOf

def fieldTypes (ingestion : Ingestion) (store : Store) : List String :=
  (ingestion.classes.flatMap fieldsOf).map store.typeOf

/-- Types in the order in which the first fields that have them come. -/
def InFieldOrder (ingestion : Ingestion) (store : Store) (ids : List String) : Prop :=
  ids = ((ingestion.fieldTypes store).filter (· ∈ ids)).eraseDups

/--
The scalar types of a store: those that elements declare, in document order,
and after them those that fields have brought in, in the order of first use.
-/
structure ListsTypes (ingestion : Ingestion) (store : Store) (declared : List ScalarType)
    (inferred : List String) : Prop where
  declares : List.Forall₂ (Declares ingestion.registry)
    (elementsOfKind ingestion.model .scalarType) declared
  entries : store.types.entries = (Table.ofList (declared.map fun type => (type.id, type))).entries
    ++ inferred.map Typing.inferredEntry
  keys : store.types.keys = (declared.map ScalarType.id).eraseDups ++ inferred
  inOrder : inferred =
    ((ingestion.scalarUses store).filter (· ∉ declared.map ScalarType.id)).eraseDups
  inFieldOrder : (∀ id ∈ inferred,
      some id ∉ (elementsOfKind ingestion.model .enumeration).map id?) →
    ingestion.InFieldOrder store inferred
  canonical : ∀ type ∈ store.types.values,
    ingestion.registry.canonical (some type.name) = .ok type.name
  used : ∀ id ∈ inferred, ∃ field ∈ store.fields.values, field.typeId = id
  nodup : inferred.Nodup

namespace Course

variable {q : Progress} (course : ingestion.Course .initial q)
include course

/-- The types that elements declare are filed one after another. -/
theorem typed_eq_ofList : ∃ declared, List.Forall₂ (Declares ingestion.registry)
      (elementsOfKind ingestion.model .scalarType) declared ∧
    course.typed.store.types = .ofList (declared.map fun type => (type.id, type)) := by
  obtain ⟨_, types⟩ := course.types
  rw [Index.elementsOf_of_ofModel course.made] at types
  exact Typing.declareAll_eq_ofList types rfl

variable (distinct : DistinctIds ingestion.model)
include distinct

/-- A field has the type of an enumeration exactly if it refers to one. -/
theorem enumerated_iff {field : Node}
    (inside : field ∈ ingestion.classes.flatMap fieldsOf) :
    isEnumerated course.index.enumerationIds (field, q.store.typeOf field) = true ↔
      ingestion.Enumerated field := by
  have listed := course.enumerationIds_eq
  rw [isEnumerated_iff, listed]
  constructor
  · rintro ⟨refers, awaited⟩
    exact ⟨_, refers, awaited⟩
  · rintro ⟨id, refers, awaited⟩
    obtain ⟨earlier, later, shape⟩ := List.append_of_mem inside
    have chooses := course.chooses distinct shape
    rw [chooses.typeId_eq refers (Or.inr (by rwa [listed]))]
    exact ⟨refers, awaited⟩

theorem usesIn_eq : usesIn course.index.enumerationIds
    (assign q.store.typeOf (ingestion.classes.flatMap fieldsOf)) =
      ingestion.scalarUses q.store := by
  unfold usesIn assign scalarUses
  rw [List.filter_map, List.map_map]
  refine congrArg _ (List.filter_congr fun field inside => ?_)
  rw [Bool.eq_iff_iff, Function.comp_apply, Bool.not_eq_true', decide_eq_true_eq,
    ← course.enumerated_iff distinct inside, Bool.not_eq_true]

/-- Of types that are no enumerations, it does not matter which fields refer to enumerations. -/
theorem scalarUses_filter {ids : List String} (apart : ∀ id ∈ ids,
      some id ∉ (elementsOfKind ingestion.model .enumeration).map id?) :
    (ingestion.scalarUses q.store).filter (· ∈ ids) =
      (ingestion.fieldTypes q.store).filter (· ∈ ids) := by
  unfold scalarUses fieldTypes
  rw [List.filter_map, List.filter_map, List.filter_filter]
  refine congrArg _ (List.filter_congr fun field inside => ?_)
  have unlisted (member : q.store.typeOf field ∈ ids) : ¬ ingestion.Enumerated field := by
    rw [← course.enumerated_iff distinct inside, isEnumerated_iff, course.enumerationIds_eq]
    exact fun both => apart _ member both.2
  simpa using unlisted

/-- The types at the end are those that elements declare and those that fields use. -/
theorem types_eq :
    q.store.types = (ingestion.scalarUses q.store).foldl learn course.typed.store.types := by
  obtain ⟨_, classes⟩ := course.classes
  obtain ⟨_, _, store_eq⟩ := course.store_eq
  rw [Index.elementsOf_of_ofModel course.made] at classes
  rw [← course.usesIn_eq distinct, store_eq]
  have learned := Classes.addAll_learns classes distinct.distinguished.fields
  exact learned

/-- A scalar type that fields use is the type of a field at the end. -/
theorem exists_field_of_scalarUses {id : String} (used : id ∈ ingestion.scalarUses q.store) :
    ∃ field ∈ q.store.fields.values, field.typeId = id := by
  obtain ⟨node, kept, rfl⟩ := List.mem_map.mp used
  have inside := (List.mem_filter.mp kept).1
  obtain ⟨_, assigned⟩ := (course.passed distinct.distinguished).assigned
  have typed := assigned.typed (node, q.store.typeOf node) (List.mem_map_of_mem inside)
  obtain ⟨key, _, filed⟩ := Option.bind_eq_some_iff.mp typed
  obtain ⟨field, found, typeId_eq⟩ := Option.map_eq_some_iff.mp filed
  exact ⟨field, (Table.mem_values_iff _ _).mpr ⟨key, found⟩, typeId_eq⟩

theorem listsTypes {database : Database} (builtIn : ingestion.registry = .ofDatabase database) :
    ∃ declared inferred, ingestion.ListsTypes q.store declared inferred := by
  obtain ⟨declared, declares, filed⟩ := course.typed_eq_ofList
  have firsts : course.typed.store.types.keys = (declared.map ScalarType.id).eraseDups := by
    rw [filed, Table.keys_ofList, List.map_map]
    rfl
  obtain ⟨inferred, inferred_eq⟩ : ∃ inferred, inferred = ((ingestion.scalarUses q.store).filter
      (· ∉ course.typed.store.types.keys)).eraseDups := ⟨_, rfl⟩
  have entries : q.store.types.entries =
      course.typed.store.types.entries ++ inferred.map Typing.inferredEntry := by
    rw [course.types_eq distinct, Typing.entries_foldl_learn, inferred_eq]
  have keys : q.store.types.keys = course.typed.store.types.keys ++ inferred := by
    rw [course.types_eq distinct, Typing.keys_foldl_learn, inferred_eq]
  refine ⟨declared, inferred, declares, ?_, ?_, ?_, fun apart => ?_, fun type inside => ?_,
    fun id inside => ?_, ?_⟩
  · rw [← filed, entries]
  · rw [keys, firsts]
  · simp only [inferred_eq, firsts, List.mem_eraseDups]
  · have same : (ingestion.scalarUses q.store).filter (· ∈ inferred) =
        (ingestion.scalarUses q.store).filter (· ∉ course.typed.store.types.keys) := by
      refine List.filter_congr fun id inside => ?_
      simp [inferred_eq, inside]
    unfold InFieldOrder
    rw [← course.scalarUses_filter distinct apart, same]
    exact inferred_eq
  · obtain ⟨_, found⟩ := (Table.mem_values_iff _ _).mp inside
    exact course.canonical_of_builtIn builtIn found
  · rw [inferred_eq, List.mem_eraseDups] at inside
    exact course.exists_field_of_scalarUses distinct (List.mem_filter.mp inside).1
  · have once : q.store.types.keys.Nodup := q.store.types.distinct
    rw [keys] at once
    exact (List.nodup_append.mp once).2.1

end Course

/--
Where all identifiers of a model differ and its registry is built in, the
scalar types are those that elements declare and, after them, those that the
fields use.
-/
theorem run_listsTypes (ingestion : Ingestion) {database : Database}
    (builtIn : ingestion.registry = .ofDatabase database) (distinct : DistinctIds ingestion.model)
    {store : Store} (done : (ingestion.run.outcome .initial).1 = .ok store) :
    ∃ declared inferred, ingestion.ListsTypes store declared inferred := by
  obtain ⟨q, rfl, _, ⟨course⟩⟩ := course_of_first_run done
  exact course.listsTypes distinct builtIn

/-- The types of `lectures` are a declared one and one that its last field brings in. -/
theorem run_listsTypes_lectures :
    lectures.registry = .ofDatabase .sql ∧ DistinctIds lectures.model ∧
      (lectures.run.outcome .initial).1 = .ok lecturesStore ∧
      lecturesStore.types.entries = [("t", ⟨"t", "String"⟩), ("Integer", ⟨"Integer", "Integer"⟩)] ∧
      ∃ declared inferred, lectures.ListsTypes lecturesStore declared inferred := by
  have distinct : DistinctIds lectures.model := by decide +kernel
  exact ⟨rfl, distinct, run_lectures, by decide +kernel,
    run_listsTypes lectures rfl distinct run_lectures⟩

/--
A model whose first field refers to an enumeration that is identified like a
scalar type, which the last field brings in.
-/
def levels : Ingestion where
  model := umlElement "Model" [] [] [
    umlElement "packagedElement" [("type", "uml:Class"), ("id", "c")] [("name", "Course")] [
      umlElement "ownedAttribute" [("id", "f1")] [("name", "level"), ("type", "String")] [],
      umlElement "ownedAttribute" [("id", "f2")] [("name", "credits"), ("type", "Integer")] [],
      umlElement "ownedAttribute" [("id", "f3")] [("name", "title")] [
        umlElement "type" [] [("href", "types#String")] []]],
    umlElement "packagedElement" [("type", "uml:Enumeration"), ("id", "String")]
      [("name", "Level")] []]
  database := .sql
  registry := .ofDatabase .sql
  strict := false
  document := "levels.xmi"

def levelsStore : Store := (levels.run.outcome .initial).2.store

/-- Scalar types need not be in the order in which the first fields that have them come. -/
theorem not_inFieldOrder_levels :
    levels.registry = .ofDatabase .sql ∧ DistinctIds levels.model ∧
      (levels.run.outcome .initial).1 = .ok levelsStore ∧
      ¬ ∃ declared inferred,
        List.Forall₂ (Declares levels.registry) (elementsOfKind levels.model .scalarType) declared ∧
        levelsStore.types.entries =
          (Table.ofList (declared.map fun type => (type.id, type))).entries ++
            inferred.map Typing.inferredEntry ∧
        levels.InFieldOrder levelsStore inferred := by
  have distinct : DistinctIds levels.model := by decide +kernel
  refine ⟨rfl, distinct, levels.run_outcome_eq_ok (by decide +kernel), ?_⟩
  rintro ⟨declared, inferred, declares, entries, inOrder⟩
  have none : elementsOfKind levels.model .scalarType = [] := rfl
  rw [none] at declares
  cases declares
  have keys : levelsStore.types.keys = ["Integer", "String"] := by decide +kernel
  have inferred_eq : inferred = ["Integer", "String"] := by
    rw [← keys, Table.keys, entries, List.map_append, List.map_map]
    exact (List.map_id inferred).symm
  rw [inferred_eq] at inOrder
  exact absurd inOrder (by unfold InFieldOrder; decide +kernel)

end Ingestion

end ClassDiagram
