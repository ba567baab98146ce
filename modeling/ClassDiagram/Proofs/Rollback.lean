import ClassDiagram.Proofs.FailFast
import ClassDiagram.Proofs.Reordering

/-!
# Classes that are taken back

A class whose attributes cannot all be read is taken out again with its fields.
What stays of it are the scalar types that its fields have brought in before.
-/

namespace ClassDiagram

open Step (bind_eq_error bind_eq_ok change_filling_eq_error change_tell_eq_error
  lift_bind_eq_error)
open Xml (Node)

variable {registry : Registry} {p q : Progress} {fault : Fault}

/-! ## Scalar types that fields bring in -/

namespace Typing

/-- An entry for a scalar type that no element declares, under its canonical name. -/
structure IsInferred (registry : Registry) (entry : String × ScalarType) : Prop where
  known : entry.1 ∈ registry.types.values
  type_eq : entry.2 = ⟨entry.1, entry.1⟩

def Extends (registry : Registry) (before after : Table String ScalarType) : Prop :=
  ∃ inferred, after.entries = before.entries ++ inferred ∧
    ∀ entry ∈ inferred, IsInferred registry entry

namespace Extends

variable {before middle after : Table String ScalarType}

theorem refl (types : Table String ScalarType) : Extends registry types types :=
  ⟨[], (List.append_nil _).symm, fun _ inside => nomatch inside⟩

theorem trans (first : Extends registry before middle) (second : Extends registry middle after) :
    Extends registry before after := by
  obtain ⟨earlier, shape, known⟩ := first
  obtain ⟨later, shapeAlso, knownAlso⟩ := second
  refine ⟨earlier ++ later, ?_, ?_⟩
  · rw [shapeAlso, shape, List.append_assoc]
  · intro entry inside
    rcases List.mem_append.mp inside with old | new
    · exact known entry old
    · exact knownAlso entry new

end Extends

theorem Resolves.extends {enumerations : List (Option String)} {field : Node}
    {before after : Table String ScalarType} {typeId : String}
    (resolves : Resolves registry enumerations field before after typeId) :
    Extends registry before after := by
  rcases resolves.added with same | ⟨unknown, listed, more⟩
  · rw [same]
    exact .refl before
  · have absent : typeId ∉ before.keys := by
      rw [← Table.contains_iff, unknown]
      exact Bool.false_ne_true
    refine ⟨[(typeId, ⟨typeId, typeId⟩)], ?_, ?_⟩
    · rw [more, Table.entries_insert_new absent]
    · intro entry inside
      cases List.mem_singleton.mp inside
      exact ⟨listed, rfl⟩

/-! ## Faults and what they leave -/

theorem canonicalName_eq_error {name : Option String}
    (failed : canonicalName registry name p = .error fault q) :
    ∃ journal, q = { p with journal } := by
  unfold canonicalName at failed
  split at failed
  · rw [Step.lift_apply] at failed
    split at failed <;> cases failed
    exact ⟨p.journal, rfl⟩
  · cases failed
    exact ⟨_, rfl⟩

/-- A type element that is refused declares nothing. -/
theorem declare_eq_error {node : Node} (failed : declare registry node p = .error fault q) :
    ∃ journal, q = { p with journal } := by
  unfold declare at failed
  rcases bind_eq_error.mp failed with unknown | ⟨canonical, r, known, rest⟩
  · exact canonicalName_eq_error unknown
  · obtain ⟨_, rfl⟩ := canonicalName_eq_ok.mp known
    rcases lift_bind_eq_error.mp rest with ⟨_, rfl⟩ | ⟨type, _, added⟩
    · exact ⟨_, rfl⟩
    · rw [change_tell_eq_error (.addType type) added]
      exact ⟨_, rfl⟩

/-- Declaring types changes the types alone, even if it fails. -/
theorem declareAll_eq_error {nodes : List Node}
    (failed : declareAll registry nodes p = .error fault q) :
    ∃ types journal, q = { p with store := { p.store with types }, journal } := by
  rw [declareAll_eq_each] at failed
  obtain ⟨front, node, _, r, _, passed, falls⟩ := Step.each_eq_error failed
  rw [← declareAll_eq_each] at passed
  obtain ⟨types, journal, rfl⟩ := declareAll_frame passed
  obtain ⟨_, rfl⟩ := declare_eq_error falls
  exact ⟨_, _, rfl⟩

theorem infer_eq_error {canonical : String} {field : Option String}
    (failed : infer canonical field p = .error fault q) : q = p := by
  unfold infer at failed
  rw [Step.store_bind_apply, Store.hasType, Option.any_some] at failed
  cases known : p.store.types.contains canonical with
  | true =>
      rw [known] at failed
      cases failed
  | false =>
      rw [known] at failed
      rcases lift_bind_eq_error.mp failed with ⟨_, same⟩ | ⟨type, _, added⟩
      · exact same
      · exact change_tell_eq_error (.addType type) added

/-- A field that does not come by a type brings none in. -/
theorem resolve_eq_error {enumerations : List (Option String)} {owner : String} {field : Node}
    (failed : resolve registry enumerations owner field p = .error fault q) : q = p := by
  unfold resolve at failed
  rw [Step.store_bind_apply] at failed
  cases found : referred? p.store enumerations field with
  | some id =>
      rw [found] at failed
      cases failed
  | none =>
      rw [found] at failed
      rcases lift_bind_eq_error.mp failed with ⟨_, same⟩ | ⟨name, _, rest⟩
      · exact same
      · split at rest
        · rcases lift_bind_eq_error.mp rest with ⟨_, same⟩ | ⟨canonical, _, rest⟩
          · exact same
          · rcases bind_eq_error.mp rest with unfit | ⟨_, _, _, impossible⟩
            · exact infer_eq_error unfit
            · cases impossible
        · cases rest
          rfl

end Typing

namespace Classes

variable {enumerations : List (Option String)} {owner : String} {node : Node}

theorem requireTitle_eq_error {what : String}
    (failed : requireTitle what node p = .error fault q) : q = p := by
  unfold requireTitle at failed
  cases titled : title? node with
  | some name =>
      rw [titled] at failed
      cases failed
  | none =>
      rw [titled] at failed
      cases failed
      rfl

/-- A class element that is refused before its attributes are read adds nothing. -/
theorem addClass_eq_error (failed : addClass node p = .error fault q) : q = p := by
  unfold addClass at failed
  rcases bind_eq_error.mp failed with untitled | ⟨name, r, titled, rest⟩
  · exact requireTitle_eq_error untitled
  · obtain ⟨_, rfl⟩ := requireTitle_eq_ok.mp titled
    rcases lift_bind_eq_error.mp rest with ⟨_, same⟩ | ⟨comment, _, rest⟩
    · exact same
    · rcases lift_bind_eq_error.mp rest with ⟨_, same⟩ | ⟨entity, _, rest⟩
      · exact same
      · rcases bind_eq_error.mp rest with refused | ⟨_, _, _, impossible⟩
        · exact change_filling_eq_error (.addClass entity) refused
        · cases impossible

/-- An attribute that is refused may have brought in its type, and nothing else. -/
theorem addField_eq_error
    (failed : addField registry enumerations owner node p = .error fault q) :
    ∃ types journal, Typing.Extends registry p.store.types types ∧
      q = { p with store := { p.store with types }, journal } := by
  unfold addField at failed
  rcases bind_eq_error.mp failed with untitled | ⟨name, r, titled, rest⟩
  · cases requireTitle_eq_error untitled
    exact ⟨_, _, .refl _, rfl⟩
  · obtain ⟨_, rfl⟩ := requireTitle_eq_ok.mp titled
    rcases bind_eq_error.mp rest with untyped | ⟨typeId, s, typed, rest⟩
    · cases Typing.resolve_eq_error untyped
      exact ⟨_, _, .refl _, rfl⟩
    · obtain ⟨types, journal, resolves, rfl⟩ := Typing.resolve_eq_ok typed
      refine ⟨types, journal, resolves.extends, ?_⟩
      rcases lift_bind_eq_error.mp rest with ⟨_, same⟩ | ⟨comment, _, rest⟩
      · exact same
      · rcases lift_bind_eq_error.mp rest with ⟨_, same⟩ | ⟨field, _, added⟩
        · exact same
        · exact change_tell_eq_error (.addField field) added

theorem addAttribute_eq_error
    (failed : addAttribute registry enumerations owner node p = .error fault q) :
    addField registry enumerations owner node p = .error fault q := by
  unfold addAttribute at failed
  split at failed
  · cases failed
  · exact failed

/-! ## One class -/

/--
A class is under way: it stands after the classes of a store, and its fields,
those of the attributes seen so far, after the fields.
-/
structure Grown (registry : Registry) (base : Store) (seen : List Node) (owner : String)
    (store : Store) : Prop where
  opened : store.IsOpen
  filed : ∃ entity added, store.classes.entries = base.classes.entries ++ [(owner, entity)] ∧
    entity.id = owner ∧ store.fields.entries = base.fields.entries ++ added ∧
    added.map Prod.fst = entity.fields ∧
    entity.fields = (seen.filter standsAlone).filterMap id?
  types : Typing.Extends registry base.types store.types

theorem isOpen_of_addClass {id : String} (done : addClass node p = .ok id q) :
    p.store.IsOpen := by
  obtain ⟨_, _, heads, _, _⟩ := addClass_eq_ok done
  rw [heads.addClass_apply] at done
  obtain ⟨_, _, changed, _⟩ := bind_eq_ok.mp done
  obtain ⟨_, taken, _⟩ := Step.change_eq_ok.mp changed
  exact (Store.addClass_eq_ok.mp taken).1

theorem addClass_grown {id : String} (done : addClass node p = .ok id q)
    (fresh : ∀ id, id? node = some id → id ∉ p.store.classes.keys) :
    Grown registry p.store [] id q.store := by
  have opened := isOpen_of_addClass done
  obtain ⟨entity, _, heads, rfl, rfl⟩ := addClass_eq_ok done
  refine ⟨⟨opened.unfailed, opened.unfrozen⟩, ⟨entity, [], ?_, rfl, ?_, ?_, ?_⟩, .refl _⟩
  · exact Table.entries_insert_new (fresh _ heads.id_eq) entity
  · exact (List.append_nil _).symm
  · rw [heads.bare, List.map_nil]
  · rw [heads.bare, List.filter_nil, List.filterMap_nil]

theorem addAttribute_grown {base : Store} {seen : List Node} (rest : List Node) {child : Node}
    (done : addAttribute registry enumerations owner child p = .ok () q)
    (start : Grown registry base seen owner p.store)
    (distinct : standsAlone child = true → (base.fields.keys ++
      (seen.filter standsAlone ++ child :: rest).filterMap id?).Nodup) :
    Grown registry base (seen ++ [child]) owner q.store := by
  rcases addAttribute_eq_ok done with ⟨kept, rfl⟩ | ⟨free, added⟩
  · have linked : ¬ standsAlone child = true := by
      rw [isEnd_eq] at kept
      simpa using kept
    have same : (seen ++ [child]).filter standsAlone = seen.filter standsAlone := by
      rw [List.filter_append, List.filter_cons_of_neg linked, List.filter_nil, List.append_nil]
    refine ⟨start.opened, ?_, start.types⟩
    rw [same]
    exact start.filed
  · have alone : standsAlone child = true := by
      rw [isEnd_eq] at free
      simpa using free
    obtain ⟨entity, others, classes, owned, fields, listed, named⟩ := start.filed
    obtain ⟨field, found, _, _, isField, resolves, filed, rfl⟩ := addField_eq_ok added
    cases filed.symm.trans (Table.get?_last classes)
    have absent : field.id ∉ p.store.fields.keys := by
      have apart := distinct alone
      rw [List.filterMap_append, List.filterMap_cons_some isField.id_eq, ← List.append_assoc,
        List.nodup_append] at apart
      rw [Table.keys, fields, List.map_append, listed, named]
      exact fun inside => apart.2.2 _ inside _ List.mem_cons_self rfl
    refine ⟨⟨start.opened.unfailed, start.opened.unfrozen⟩,
      ⟨{ entity with fields := entity.fields ++ [field.id] }, others ++ [(field.id, field)],
        ?_, owned, ?_, ?_, ?_⟩, start.types.trans resolves.extends⟩
    · rw [← owned] at classes ⊢
      exact Table.entries_insert_last classes _
    · rw [← List.append_assoc, ← fields]
      exact Table.entries_insert_new absent field
    · rw [List.map_append, listed]
      rfl
    · rw [List.filter_append, List.filter_cons_of_pos alone, List.filter_nil,
        List.filterMap_append, named, List.filterMap_cons_some isField.id_eq]
      rfl

/-- What taking a class back leaves: all that was there, and scalar types that were inferred. -/
structure RolledBack (registry : Registry) (before after : Store) : Prop where
  classes : after.classes = before.classes
  fields : after.fields = before.fields
  types : Typing.Extends registry before.types after.types

theorem RolledBack.refl (store : Store) : RolledBack registry store store :=
  ⟨rfl, rfl, .refl _⟩

/-- Taking out the class under way with its fields leaves what was there before it. -/
theorem Grown.removeClass {base store : Store} {seen : List Node}
    (grown : Grown registry base seen owner store) :
    ∃ next, Store.removeClass (some owner) store = .ok () next ∧ RolledBack registry base next := by
  obtain ⟨entity, added, classes, _, fields, listed, _⟩ := grown.filed
  refine ⟨_, Store.removeClass_eq_ok.mpr ⟨grown.opened,
    Or.inr ⟨owner, entity, rfl, Table.get?_last classes, rfl⟩⟩, ?_, ?_, grown.types⟩
  · exact Table.ext ((Table.entries_erase classes).trans (List.append_nil _))
  · rw [← listed]
    exact Table.ext (Table.entries_eraseAll fields)

/-- Where the attributes of a class cannot all be read, the class is under way up to the fault. -/
theorem addMembers_grown {base : Store} {cause : IngestFault}
    (failed : addMembers registry enumerations owner (node.select "ownedAttribute") p =
      .error (.ingest cause) q) (start : Grown registry base [] owner p.store)
    (distinct : (base.fields.keys ++ (fieldsOf node).filterMap id?).Nodup) :
    ∃ seen, Grown registry base seen owner q.store := by
  obtain ⟨more, selected⟩ := found_isPrefix node "ownedAttribute"
  have unread : Step.each (addAttribute registry enumerations owner)
      (node.select "ownedAttribute").found p = .error (.ingest cause) q := by
    unfold addMembers at failed
    rw [addAttributes_eq_each] at failed
    rcases bind_eq_error.mp failed with unread | ⟨_, _, _, broken⟩
    · exact unread
    · split at broken <;> cases broken
  obtain ⟨seen, child, later, r, shape, passed, falls⟩ := Step.each_eq_error unread
  have grown : Grown registry base seen owner r.store := by
    refine Step.each_invariant (fun front s => Grown registry base front owner s.store) passed
      start fun front other rest s t split grown taken => ?_
    refine addAttribute_grown ((rest ++ child :: later ++ more).filter standsAlone) taken grown
      fun alone => ?_
    have place : childrenNamed node "ownedAttribute" =
        front ++ other :: (rest ++ child :: later ++ more) := by
      rw [← selected, shape, split]
      simp
    rw [fieldsOf_split place alone] at distinct
    exact distinct
  obtain ⟨types, _, more, rfl⟩ := addField_eq_error (addAttribute_eq_error falls)
  exact ⟨seen, ⟨grown.opened.unfailed, grown.opened.unfrozen⟩, grown.filed,
    grown.types.trans more⟩

/--
A class element that is refused for a reason of the document leaves the classes
and fields as they were, if it and its fields bring in new identifiers.
-/
theorem add_rolledBack {cause : IngestFault}
    (failed : add registry enumerations node p = .error (.ingest cause) q)
    (fresh : ∀ id, id? node = some id → id ∉ p.store.classes.keys)
    (distinct : (p.store.fields.keys ++ (fieldsOf node).filterMap id?).Nodup) :
    RolledBack registry p.store q.store := by
  unfold add at failed
  rcases bind_eq_error.mp failed with refused | ⟨owner, r, headed, rest⟩
  · rw [addClass_eq_error refused]
    exact .refl _
  · obtain ⟨first, s, members, repair⟩ := Step.repairing_eq_error rest
    obtain ⟨seen, grown⟩ := addMembers_grown members (addClass_grown headed fresh) distinct
    obtain ⟨next, taken, back⟩ := grown.removeClass
    rcases repair with refused | ⟨_, repaired⟩
    · obtain ⟨_, refusal, _⟩ := Step.change_eq_error.mp refused
      cases refusal.symm.trans taken
    · cases (Step.change_eq_ok.mpr ⟨next, taken, rfl⟩).symm.trans repaired
      exact back

theorem add_rolledBack_after {nodes rest : List Node} {start reached fallen : Progress}
    {cause : IngestFault} (distinct : Distinguished (nodes ++ node :: rest))
    (noClasses : start.store.classes.entries = []) (noFields : start.store.fields.entries = [])
    (passed : addAll registry enumerations nodes start = .ok () reached)
    (failed : add registry enumerations node reached = .error (.ingest cause) fallen) :
    RolledBack registry reached.store fallen.store := by
  obtain ⟨classKeys, fieldKeys⟩ := addAll_keys passed distinct.front noClasses noFields
  refine add_rolledBack failed (fun id named => ?_) ?_
  · rw [classKeys]
    exact fresh_of_nodup distinct.classes named
  · have apart := distinct.fields
    rw [List.flatMap_append, List.flatMap_cons, List.filterMap_append, List.filterMap_append,
      ← List.append_assoc] at apart
    rw [fieldKeys]
    exact (List.nodup_append.mp apart).1

end Classes

/-! ## The stage of classes -/

namespace Ingestion

variable {ingestion : Ingestion} {cause : IngestFault} {k : Nat} {reached : Progress}

def readClasses (ingestion : Ingestion) (k : Nat) : Step Unit := do
  let index ← ingestion.index
  modify fun progress => { progress with ends := .empty }
  Classes.addAll ingestion.registry index.enumerationIds ((index.elementsOf .objectClass).take k)

/--
After the first `k` classes have been read, the next one ends in a fault of the
document.
-/
structure StopsAfter (ingestion : Ingestion) (p : Progress) (k : Nat) (cause : IngestFault)
    (reached : Progress) : Prop where
  passed : ingestion.readClasses k p = .ok () reached
  falls : ∃ index node fallen, reached.index = some index ∧
    (index.elementsOf .objectClass)[k]? = some node ∧
    Classes.add ingestion.registry index.enumerationIds node reached =
      .error (.ingest cause) fallen

theorem readClasses_apply {index : Index} (indexed : p.index = some index) (k : Nat) :
    ingestion.readClasses k p = Classes.addAll ingestion.registry index.enumerationIds
      ((index.elementsOf .objectClass).take k) { p with ends := .empty } :=
  Step.bind_of_ok (index_apply indexed) _

/-- Once the model is indexed, the stage of classes fails for the document at a class. -/
theorem exists_stopsAfter {index : Index} (indexed : p.index = some index)
    (failed : ingestion.fillClasses p = .error (.ingest cause) q) :
    ∃ k reached, ingestion.StopsAfter p k cause reached := by
  rw [fillClasses_apply indexed] at failed
  obtain ⟨r, worked⟩ := ingestion.runStage_eq_error failed
  have stops : Classes.addAll ingestion.registry index.enumerationIds
      (index.elementsOf .objectClass) { p with ends := .empty } = .error (.ingest cause) r := by
    rcases bind_eq_error.mp worked with stops | ⟨_, _, _, impossible⟩
    · exact stops
    · cases impossible
  rw [Classes.addAll_eq_each] at stops
  obtain ⟨front, node, rest, reached, shape, passed, falls⟩ := Step.each_eq_error stops
  rw [← Classes.addAll_eq_each] at passed
  refine ⟨front.length, reached, ?_, index, node, r, ?_, ?_, falls⟩
  · rw [readClasses_apply indexed, shape, List.take_left]
    exact passed
  · exact (Classes.addAll_frame passed).index.trans indexed
  · rw [shape, List.getElem?_append_right (Nat.le_refl _), Nat.sub_self]
    rfl

/-- The stage of classes stops where a class does. -/
theorem StopsAfter.fillClasses {index : Index} (indexed : p.index = some index)
    (stops : ingestion.StopsAfter p k cause reached) :
    ∃ front node rest fallen r, index.elementsOf .objectClass = front ++ node :: rest ∧
      Classes.addAll ingestion.registry index.enumerationIds front { p with ends := .empty } =
        .ok () reached ∧
      Classes.add ingestion.registry index.enumerationIds node reached =
        .error (.ingest cause) fallen ∧
      ingestion.fillClasses p = .error (.ingest cause) r ∧
      r.store = fallen.store.invalidate cause := by
  have passed := stops.passed
  rw [readClasses_apply indexed] at passed
  obtain ⟨_, node, fallen, indexedAlso, place, falls⟩ := stops.falls
  cases ((Classes.addAll_frame passed).index.trans indexed).symm.trans indexedAlso
  obtain ⟨inside, rfl⟩ := List.getElem?_eq_some_iff.mp place
  have shape : index.elementsOf .objectClass = (index.elementsOf .objectClass).take k ++
      (index.elementsOf .objectClass)[k] :: (index.elementsOf .objectClass).drop (k + 1) := by
    rw [← List.drop_eq_getElem_cons, List.take_append_drop]
  have read := passed
  rw [Classes.addAll_eq_each] at read
  have stopped : ingestion.work index .objectClass { p with ends := .empty } =
      .error (.ingest cause) fallen := work_of_element shape read falls
  obtain ⟨r, filled, left⟩ := ingestion.runStage_of_work_error .classes stopped _
  exact ⟨_, _, _, fallen, r, shape, passed, falls, (fillClasses_apply indexed).trans filled, left⟩

/-- What a fresh ingestion has, once its types were called for and its model is indexed. -/
structure TypesCalled (ingestion : Ingestion) (index : Index) (p : Progress) : Prop where
  made : Index.ofModel ingestion.strict ingestion.model = .ok index
  indexed : p.index = some index
  classes : p.store.classes = .empty
  fields : p.store.fields = .empty

theorem typesCalled_of_ofModel {index : Index}
    (made : Index.ofModel ingestion.strict ingestion.model = .ok index) :
    ingestion.TypesCalled index (ingestion.after [.fillTypes] .initial) := by
  obtain ⟨journal, called⟩ := fillTypes_of_ofModel (p := .initial) made rfl
  change ingestion.TypesCalled index (ingestion.fillTypes.outcome .initial).2
  rw [Step.outcome, called, runStage_apply]
  cases work : (do
      Typing.declareAll ingestion.registry (index.elementsOf .scalarType)
      return (index.positions .scalarType).length : Step Nat)
      { Progress.initial with index := some index, journal } with
  | ok number r =>
      obtain ⟨_, _, declared, last⟩ := bind_eq_ok.mp work
      cases last
      obtain ⟨_, _, rfl⟩ := Typing.declareAll_frame declared
      exact ⟨made, rfl, rfl, rfl⟩
  | error fault r =>
      rcases bind_eq_error.mp work with stopped | ⟨_, _, _, impossible⟩
      · obtain ⟨_, _, rfl⟩ := Typing.declareAll_eq_error stopped
        cases fault <;> exact ⟨made, rfl, rfl, rfl⟩
      · cases impossible

/-- A model that cannot be classified is not indexed. -/
theorem findElements_of_error
    (failed : Index.ofModel ingestion.strict ingestion.model = .error fault)
    (p : Progress) : ∃ q, ingestion.findElements p = .error fault q ∧ q.index = p.index := by
  have lifted : (do
      let index ← Step.lift (Index.ofModel ingestion.strict ingestion.model)
      Step.tellAll index.events
      return index : Step Index) p = .error fault p :=
    lift_bind_eq_error.mpr (Or.inl ⟨failed, rfl⟩)
  obtain ⟨journal, stopped⟩ := ingestion.runStage_of_error .index lifted
  exact ⟨_, Step.bind_of_error stopped _, rfl⟩

/-- If classes can be read after the types were called for, then the model is indexed. -/
theorem exists_typesCalled
    (passed : ingestion.readClasses k (ingestion.after [.fillTypes] .initial) = .ok () reached) :
    ∃ index, ingestion.TypesCalled index (ingestion.after [.fillTypes] .initial) := by
  cases made : Index.ofModel ingestion.strict ingestion.model with
  | ok index => exact ⟨index, typesCalled_of_ofModel made⟩
  | error fault =>
      obtain ⟨r, stopped, unindexed⟩ := findElements_of_error made .initial
      have called : ingestion.after [.fillTypes] .initial = r := by
        have fails : ingestion.fillTypes .initial = .error fault r :=
          Step.bind_of_error (show ingestion.index .initial = _ from stopped) _
        change (ingestion.fillTypes.outcome .initial).2 = r
        rw [Step.outcome_eq_error.mpr fails]
      obtain ⟨s, again, _⟩ := findElements_of_error made r
      have fails : ingestion.index r = .error fault s := by
        unfold Ingestion.index
        rw [Step.bind_apply, Step.get_apply]
        dsimp only
        rw [unindexed]
        exact again
      rw [called] at passed
      cases (Step.bind_of_error fails _).symm.trans passed

/--
Where all identifiers of a model differ, a class that ends the stage of classes
for a reason of the document leaves the classes and fields that the classes
before it have given, and after the scalar types at most some that were inferred.
-/
theorem fillClasses_rolledBack (ingestion : Ingestion) (distinct : DistinctIds ingestion.model)
    (stops : ingestion.StopsAfter (ingestion.after [.fillTypes] .initial) k cause reached) :
    (ingestion.fillClasses.outcome (ingestion.after [.fillTypes] .initial)).1 =
        .error (.ingest cause) ∧
      Classes.RolledBack ingestion.registry reached.store
        (ingestion.after [.fillTypes, .fillClasses] .initial).store := by
  obtain ⟨index, called⟩ := exists_typesCalled stops.passed
  obtain ⟨front, node, rest, fallen, r, shape, passed, falls, filled, left⟩ :=
    stops.fillClasses called.indexed
  have apart : Distinguished (front ++ node :: rest) := by
    rw [← shape, Index.elementsOf_of_ofModel called.made]
    exact distinct.distinguished
  have back := Classes.add_rolledBack_after apart (by rw [called.classes]; rfl)
    (by rw [called.fields]; rfl) passed falls
  change _ ∧ Classes.RolledBack _ _
    (ingestion.fillClasses.outcome (ingestion.after [.fillTypes] .initial)).2.store
  rw [Step.outcome_eq_error.mpr filled, left]
  exact ⟨rfl, back.classes, back.fields, back.types⟩

/-- Two classes, the second with a field of a new type and a field of no known type. -/
def numbered : Ingestion where
  model := umlElement "Model" [] [] [
    levelled,
    umlElement "packagedElement" [("type", "uml:Class"), ("id", "b")] [("name", "Room")] [
      umlElement "ownedAttribute" [("id", "g")] [("name", "number"), ("type", "Integer")] [],
      umlElement "ownedAttribute" [("id", "h")] [("name", "walls"), ("type", "Paint")] []],
    umlElement "packagedElement" [("type", "uml:Enumeration"), ("id", "l")] [("name", "Level")]
      []]
  database := .sql
  registry := .ofDatabase .sql
  strict := false
  document := "course.xmi"

def numberedIndex : Index := (Index.ofModel false numbered.model).toOption.getD default

def numberedReached : Progress :=
  ((numbered.readClasses 1).outcome (numbered.after [.fillTypes] .initial)).2

theorem stopsAfter_numbered : numbered.StopsAfter (numbered.after [.fillTypes] .initial) 1
    (.wrongType (.text "Paint") (.text "h") (.text "b")) numberedReached := by
  have passed : ((numbered.readClasses 1).outcome (numbered.after [.fillTypes] .initial)).1 =
      .ok () := by decide +kernel
  have falls : ∃ node, (numberedIndex.elementsOf .objectClass)[1]? = some node ∧
      ((Classes.add numbered.registry numberedIndex.enumerationIds node).outcome
        numberedReached).1 =
          .error (.ingest (.wrongType (.text "Paint") (.text "h") (.text "b"))) :=
    ⟨_, rfl, by decide +kernel⟩
  obtain ⟨node, place, falls⟩ := falls
  exact ⟨Step.outcome_eq_ok.mp (Prod.ext passed rfl), numberedIndex, node, _, rfl, place,
    Step.outcome_eq_error.mp (Prod.ext falls rfl)⟩

/-- The second class is taken back with its first field, and the type of this field stays. -/
theorem fillClasses_rolledBack_numbered :
    DistinctIds numbered.model ∧
      numbered.StopsAfter (numbered.after [.fillTypes] .initial) 1
        (.wrongType (.text "Paint") (.text "h") (.text "b")) numberedReached ∧
      Classes.RolledBack numbered.registry numberedReached.store
        (numbered.after [.fillTypes, .fillClasses] .initial).store ∧
      numberedReached.store.types.keys = [] ∧
      (numbered.after [.fillTypes, .fillClasses] .initial).store.types.keys = ["Integer"] := by
  have distinct : DistinctIds numbered.model := by decide +kernel
  exact ⟨distinct, stopsAfter_numbered,
    (fillClasses_rolledBack numbered distinct stopsAfter_numbered).2,
    by decide +kernel, by decide +kernel⟩

end Ingestion

end ClassDiagram
