import ClassDiagram.Proofs.Reading
import ClassDiagram.Proofs.Replacing
import ClassDiagram.Proofs.Transfer

/-!
# The types that fields come by

A field may refer to a scalar type that an earlier field has brought in, so its
type depends on the fields before it.  Which types fields come by in an order
is said here without regard to the steps that read them, and the classes are
read in an order exactly if their fields come by types in it.
-/

namespace ClassDiagram

open Step (bind_eq_ok)
open Typing (Chooses Resolves learn reference? typesAfter)
open Xml (Node)

/-! ## Fields with their types -/

abbrev Assignment := List (Node × String)

/-- A field brings in the scalar type it has, unless it refers to an enumeration. -/
def Brings (enumerations : List (Option String)) (place : Node × String) (id : String) : Prop :=
  place.2 = id ∧ ¬ (reference? place.1 = some id ∧ some id ∈ enumerations)

section

variable (declared : Table String ScalarType) (enumerations : List (Option String))

/-- The identifiers of scalar types that are there once some fields have been read. -/
def KnownAfter (passed : Assignment) (id : String) : Prop :=
  declared.contains id = true ∨ ∃ place ∈ passed, Brings enumerations place id

/-- Every field comes by its type, where the fields before it have come by theirs. -/
def Chosen (registry : Registry) (assignment : Assignment) : Prop :=
  ∀ passed field typeId later, assignment = passed ++ (field, typeId) :: later →
    Chooses registry enumerations (KnownAfter declared enumerations passed) field typeId

structure TypesOf (passed : Assignment) (types : Table String ScalarType) : Prop where
  contains_iff : ∀ id, types.contains id = true ↔ KnownAfter declared enumerations passed id
  kept : ∀ id type, declared.get? id = some type → types.get? id = some type
  added : ∀ id type, types.get? id = some type →
    declared.get? id = some type ∨ type = ⟨id, id⟩ ∧ Text.isCapitalized id = true

end

variable {registry : Registry} {declared : Table String ScalarType}
  {enumerations : List (Option String)}

theorem knownAfter_append (passed : Assignment) (place : Node × String) (id : String) :
    KnownAfter declared enumerations (passed ++ [place]) id ↔
      KnownAfter declared enumerations passed id ∨ Brings enumerations place id := by
  unfold KnownAfter
  constructor
  · rintro (known | ⟨other, inside, brings⟩)
    · exact Or.inl (Or.inl known)
    · rcases List.mem_append.mp inside with before | last
      · exact Or.inl (Or.inr ⟨other, before, brings⟩)
      · cases List.mem_singleton.mp last
        exact Or.inr brings
  · rintro ((known | ⟨other, before, brings⟩) | brings)
    · exact Or.inl known
    · exact Or.inr ⟨other, List.mem_append_left _ before, brings⟩
    · exact Or.inr ⟨place, List.mem_append_cons_self, brings⟩

theorem Typing.Chooses.congr {known other : String → Prop} {field : Node} {typeId : String}
    (chooses : Chooses registry enumerations known field typeId)
    (same : ∀ id, known id ↔ other id) : Chooses registry enumerations other field typeId := by
  have equal : known = other := funext fun id => propext (same id)
  rw [← equal]
  exact chooses

theorem Chosen.nil : Chosen declared enumerations registry [] := by
  intro passed field typeId later shape
  cases passed <;> cases shape

theorem Chosen.append {passed : Assignment} {field : Node} {typeId : String}
    (chosen : Chosen declared enumerations registry passed)
    (chooses : Chooses registry enumerations (KnownAfter declared enumerations passed) field
      typeId) : Chosen declared enumerations registry (passed ++ [(field, typeId)]) := by
  intro before other otherId later shape
  rcases List.eq_nil_or_concat later with rfl | ⟨rest, last, rfl⟩
  · obtain ⟨rfl, same⟩ := List.append_inj' shape rfl
    cases same
    exact chooses
  · rw [List.concat_eq_append, ← List.cons_append, ← List.append_assoc] at shape
    obtain ⟨rfl, _⟩ := List.append_inj' shape rfl
    exact chosen before other otherId rest rfl

namespace TypesOf

theorem nil : TypesOf declared enumerations [] declared where
  contains_iff id := by simp [KnownAfter]
  kept _ _ found := found
  added _ _ found := Or.inl found

theorem append {passed : Assignment} {field : Node} {typeId : String}
    {before after : Table String ScalarType} (holds : TypesOf declared enumerations passed before)
    (resolves : Resolves registry enumerations field before after typeId) :
    TypesOf declared enumerations (passed ++ [(field, typeId)]) after := by
  have after_eq := resolves.after_eq
  unfold typesAfter at after_eq
  split at after_eq
  · rename_i awaited
    rw [after_eq]
    refine { holds with contains_iff := fun id => ?_ }
    rw [knownAfter_append, holds.contains_iff]
    constructor
    · exact Or.inl
    · rintro (known | ⟨same, unawaited⟩)
      · exact known
      · cases same
        exact absurd awaited unawaited
  · rename_i unawaited
    have newcomer (absent : ¬ before.contains typeId = true) :
        Text.isCapitalized typeId = true := by
      cases resolves.chooses with
      | referred refers there =>
          rcases there with known | awaited
          · exact absurd known absent
          · exact absurd ⟨refers, awaited⟩ unawaited
      | written _ _ fits => exact fits.resolve_left absent
    rw [after_eq]
    refine ⟨fun id => ?_, fun id type found => ?_, fun id type found => ?_⟩
    · rw [Typing.contains_learn, holds.contains_iff, knownAfter_append]
      refine or_congr_right ⟨fun same => ⟨same, ?_⟩, And.left⟩
      rw [← same]
      exact unawaited
    · have old := holds.kept id type found
      unfold learn
      split
      · exact old
      · rename_i absent
        rw [Table.get?_insert, if_neg, old]
        rintro rfl
        exact absent (Table.contains_of_get? old)
    · unfold learn at found
      split at found
      · exact holds.added id type found
      · rename_i absent
        rcases Table.eq_or_get?_of_insert found with ⟨rfl, rfl⟩ | old
        · exact Or.inr ⟨rfl, newcomer absent⟩
        · exact holds.added id type old

variable {passed other : Assignment} {types others : Table String ScalarType}

theorem get?_le (left : TypesOf declared enumerations passed types)
    (right : TypesOf declared enumerations other others)
    (same : ∀ id, KnownAfter declared enumerations passed id ↔
      KnownAfter declared enumerations other id) {id : String} {type : ScalarType}
    (found : types.get? id = some type) : others.get? id = some type := by
  rcases left.added id type found with before | ⟨rfl, _⟩
  · exact right.kept id type before
  · have known := (left.contains_iff id).mp (Table.contains_of_get? found)
    obtain ⟨type, again⟩ := (Table.contains_iff_exists _ _).mp
      ((right.contains_iff id).mpr ((same id).mp known))
    rcases right.added id type again with before | ⟨rfl, _⟩
    · cases (left.kept id type before).symm.trans found
      exact again
    · exact again

/-- Fields that bring in the same scalar types leave tables that answer alike. -/
theorem get?_eq (left : TypesOf declared enumerations passed types)
    (right : TypesOf declared enumerations other others)
    (same : ∀ id, KnownAfter declared enumerations passed id ↔
      KnownAfter declared enumerations other id) (id : String) :
    types.get? id = others.get? id := by
  ext type
  exact ⟨left.get?_le right same, right.get?_le left fun id => (same id).symm⟩

/-- What fields have brought in has the name of a scalar type. -/
theorem capitalized (holds : TypesOf declared enumerations passed types) {id : String}
    (known : KnownAfter declared enumerations passed id)
    (undeclared : ¬ declared.contains id = true) : Text.isCapitalized id = true := by
  obtain ⟨type, found⟩ := (Table.contains_iff_exists _ _).mp ((holds.contains_iff id).mpr known)
  rcases holds.added id type found with before | ⟨_, capitalized⟩
  · exact absurd (Table.contains_of_get? before) undeclared
  · exact capitalized

end TypesOf

/-! ## Fields in a store -/

def Store.typeIdOf? (store : Store) (field : Node) : Option String :=
  (id? field).bind fun id => (store.fields.get? id).map Field.typeId

structure Assigned (declared : Table String ScalarType) (enumerations : List (Option String))
    (assignment : Assignment) (store : Store) : Prop where
  types : TypesOf declared enumerations assignment store.types
  typed : ∀ place ∈ assignment, store.typeIdOf? place.1 = some place.2

/-- One more field, under an identifier of its own, comes by a type. -/
theorem Assigned.append {passed : Assignment} {store : Store}
    (start : Assigned declared enumerations passed store) {node : Node} {field : Field}
    {types : Table String ScalarType} {classes : Table String Class}
    (resolves : Resolves registry enumerations node store.types types field.typeId)
    (named : id? node = some field.id) (fresh : field.id ∉ (passed.map Prod.fst).filterMap id?) :
    Assigned declared enumerations (passed ++ [(node, field.typeId)])
      { store with types, classes, fields := store.fields.insert field.id field } := by
  refine ⟨start.types.append resolves, fun place inside => ?_⟩
  unfold Store.typeIdOf?
  rcases List.mem_append.mp inside with before | last
  · have typed := start.typed place before
    unfold Store.typeIdOf? at typed
    obtain ⟨id, itself, filed⟩ := Option.bind_eq_some_iff.mp typed
    have other : field.id ≠ id := by
      rintro rfl
      exact fresh (List.mem_filterMap.mpr ⟨place.1, List.mem_map_of_mem before, itself⟩)
    rw [itself, Option.bind_some, Table.get?_insert, if_neg other, filed]
  · cases List.mem_singleton.mp last
    rw [named, Option.bind_some, Table.get?_insert_self]
    rfl

namespace Classes

variable {p q : Progress}

/-- Where one field stands among those of all classes. -/
theorem fields_split {front rest seen later : List Node} {node child : Node}
    (split : childrenNamed node "ownedAttribute" = seen ++ child :: later)
    (alone : standsAlone child = true) :
    (front ++ node :: rest).flatMap fieldsOf =
      (front.flatMap fieldsOf ++ seen.filter standsAlone) ++
        child :: (later.filter standsAlone ++ rest.flatMap fieldsOf) := by
  rw [List.flatMap_append, List.flatMap_cons, fieldsOf_split split alone, List.append_assoc,
    List.append_assoc, List.cons_append]

/--
What holds of the fields passed so far before and after every field, and does
not mind new classes, holds of all fields once the classes have been read.
-/
theorem addAll_fields (inv : List Node → Store → Prop) {nodes : List Node}
    (done : addAll registry enumerations nodes p = .ok () q) (start : inv [] p.store)
    (head : ∀ fields node id r s, addClass node r = .ok id s → inv fields r.store →
      inv fields s.store)
    (field : ∀ owner fields child rest r s, nodes.flatMap fieldsOf = fields ++ child :: rest →
      addField registry enumerations owner child r = .ok () s → inv fields r.store →
        inv (fields ++ [child]) s.store) : inv (nodes.flatMap fieldsOf) q.store := by
  rw [addAll_eq_each] at done
  refine Step.each_invariant (fun front r => inv (front.flatMap fieldsOf) r.store) done start ?_
  intro front node rest r s shape passed taken
  obtain ⟨id, t, headed, whole, members⟩ := add_eq_ok taken
  rw [found_select whole] at members
  have read := Step.each_invariant (fun seen u =>
    inv (front.flatMap fieldsOf ++ seen.filter standsAlone) u.store) members ?_ ?_
  · rw [List.flatMap_append, List.flatMap_singleton]
    exact read
  · rw [List.filter_nil, List.append_nil]
    exact head _ node id r t headed passed
  · intro seen child later u v split before added
    rw [List.filter_append, ← List.append_assoc]
    rcases addAttribute_eq_ok added with ⟨kept, rfl⟩ | ⟨free, added⟩
    · rw [isEnd_eq, Bool.not_eq_true'] at kept
      rw [List.filter_cons_of_neg (by simp [kept]), List.filter_nil, List.append_nil]
      exact before
    · rw [isEnd_eq, Bool.not_eq_false'] at free
      rw [List.filter_cons_of_pos free, List.filter_nil]
      refine field id _ child (later.filter standsAlone ++ rest.flatMap fieldsOf) u v ?_ added
        before
      rw [shape]
      exact fields_split split free

/-- The fields of classes that have been read have come by types, one after another. -/
def Passed (registry : Registry) (declared : Table String ScalarType)
    (enumerations : List (Option String)) (fields : List Node) (store : Store) : Prop :=
  ∃ assignment, assignment.map Prod.fst = fields ∧
    Chosen declared enumerations registry assignment ∧
      Assigned declared enumerations assignment store

theorem addAll_passed {nodes : List Node} (done : addAll registry enumerations nodes p = .ok () q)
    (distinct : ((nodes.flatMap fieldsOf).filterMap id?).Nodup) :
    Passed registry p.store.types enumerations (nodes.flatMap fieldsOf) q.store := by
  refine addAll_fields (Passed registry p.store.types enumerations) done
    ⟨[], rfl, .nil, .nil, nofun⟩ ?_ ?_
  · rintro _ node id r s headed ⟨assignment, same, chosen, assigned⟩
    obtain ⟨_, _, _, _, rfl⟩ := addClass_eq_ok headed
    exact ⟨assignment, same, chosen, assigned.types, assigned.typed⟩
  · rintro owner _ child rest r s shape added ⟨assignment, rfl, chosen, assigned⟩
    obtain ⟨field, _, _, _, isField, resolves, _, rfl⟩ := addField_eq_ok added
    rw [shape] at distinct
    exact ⟨_, by rw [List.map_append, List.map_singleton],
      chosen.append (resolves.chooses.congr assigned.types.contains_iff),
      assigned.append resolves isField.id_eq (fresh_of_nodup distinct isField.id_eq)⟩

/-! ## Classes that can be read -/

structure Readable (node : Node) : Prop where
  headed : ∃ entity, Heads node entity
  whole : (node.select "ownedAttribute").cut = false
  read : ∀ child ∈ fieldsOf node, ∃ owner field, IsField owner child field

theorem readable_of_add {node : Node} (done : add registry enumerations node p = .ok () q) :
    Readable node := by
  obtain ⟨id, _, headed, whole, members⟩ := add_eq_ok done
  obtain ⟨entity, _, heads, _, _⟩ := addClass_eq_ok headed
  refine ⟨⟨entity, heads⟩, whole, fun child inside => ?_⟩
  obtain ⟨listed, alone⟩ := List.mem_filter.mp inside
  rw [← found_select whole] at listed
  obtain ⟨_, _, taken⟩ := Step.each_mem members child listed
  rcases addAttribute_eq_ok taken with ⟨kept, _⟩ | ⟨_, added⟩
  · rw [isEnd_eq, alone] at kept
    cases kept
  · obtain ⟨field, _, _, _, isField, _⟩ := addField_eq_ok added
    exact ⟨id, field, isField⟩

def assign (typeOf : Node → String) (fields : List Node) : Assignment :=
  fields.map fun field => (field, typeOf field)

theorem assign_append (typeOf : Node → String) (front back : List Node) :
    assign typeOf (front ++ back) = assign typeOf front ++ assign typeOf back :=
  List.map_append

theorem map_fst_assign (typeOf : Node → String) (fields : List Node) :
    (assign typeOf fields).map Prod.fst = fields := by
  unfold assign
  rw [List.map_map]
  exact List.map_id fields

/-- A class is being read, and the fields read so far have come by their types. -/
structure Halfway (declared : Table String ScalarType) (enumerations : List (Option String))
    (typeOf : Node → String) (owner : String) (fields : List Node) (store : Store) : Prop where
  opened : store.IsOpen
  headed : ∃ entity, store.classes.get? owner = some entity ∧ entity.id = owner
  assigned : Assigned declared enumerations (assign typeOf fields) store

variable {typeOf : Node → String}

/-- An attribute that can be read is read if it is an end or comes by its type. -/
theorem Halfway.addAttribute {owner : String} {fields : List Node} {child : Node}
    (start : Halfway declared enumerations typeOf owner fields p.store) (rest : List Node)
    (read : standsAlone child = true → ∃ owner field, IsField owner child field)
    (chooses : standsAlone child = true → Chooses registry enumerations
      (KnownAfter declared enumerations (assign typeOf fields)) child (typeOf child))
    (distinct : standsAlone child = true → ((fields ++ child :: rest).filterMap id?).Nodup) :
    ∃ q, addAttribute registry enumerations owner child p = .ok () q ∧
      Halfway declared enumerations typeOf owner (fields ++ [child].filter standsAlone)
        q.store := by
  unfold Classes.addAttribute
  rw [isEnd_eq]
  cases alone : standsAlone child with
  | false =>
      rw [List.filter_cons_of_neg (by simp [alone]), List.filter_nil, List.append_nil]
      exact ⟨_, rfl, start.opened, start.headed, start.assigned⟩
  | true =>
      obtain ⟨_, field, isField⟩ := read alone
      obtain ⟨entity, found, same⟩ := start.headed
      let placed : Field := { field with typeId := typeOf child, classId := owner }
      have isPlaced : IsField owner child placed :=
        ⟨isField.id_eq, isField.titled, isField.documented, rfl⟩
      have resolves : Resolves registry enumerations child p.store.types
          (typesAfter enumerations child p.store.types (typeOf child)) placed.typeId :=
        ⟨(chooses alone).congr fun id => (start.assigned.types.contains_iff id).symm, rfl⟩
      obtain ⟨journal, added⟩ := isPlaced.addField resolves found start.opened
      have fresh : placed.id ∉ ((assign typeOf fields).map Prod.fst).filterMap id? := by
        rw [map_fst_assign]
        exact fresh_of_nodup (distinct alone) isPlaced.id_eq
      rw [List.filter_cons_of_pos alone, List.filter_nil]
      refine ⟨_, added, ⟨start.opened.unfailed, start.opened.unfrozen⟩, ?_, ?_⟩
      · refine ⟨{ entity with fields := entity.fields ++ [placed.id] }, ?_, same⟩
        rw [← same]
        exact Table.get?_insert_self _ _ _
      · rw [assign_append]
        exact start.assigned.append resolves isPlaced.id_eq fresh

/-- What a field chooses stands at its place among all fields. -/
theorem chooses_of_chosen {all fields later : List Node} {child : Node}
    (chosen : Chosen declared enumerations registry (assign typeOf all))
    (shape : all = fields ++ child :: later) : Chooses registry enumerations
      (KnownAfter declared enumerations (assign typeOf fields)) child (typeOf child) := by
  refine chosen (assign typeOf fields) child (typeOf child) (assign typeOf later) ?_
  rw [shape, assign_append]
  rfl

/-- A class that can be read is read where its fields come by types. -/
theorem Readable.add {nodes front rest : List Node} {node : Node} (readable : Readable node)
    (shape : nodes = front ++ node :: rest)
    (distinct : ((nodes.flatMap fieldsOf).filterMap id?).Nodup)
    (chosen : Chosen declared enumerations registry (assign typeOf (nodes.flatMap fieldsOf)))
    (opened : p.store.IsOpen)
    (assigned : Assigned declared enumerations (assign typeOf (front.flatMap fieldsOf)) p.store) :
    ∃ q, Classes.add registry enumerations node p = .ok () q ∧ q.store.IsOpen ∧
      Assigned declared enumerations (assign typeOf ((front ++ [node]).flatMap fieldsOf))
        q.store := by
  obtain ⟨entity, heads⟩ := readable.headed
  obtain ⟨journal, headed⟩ := heads.addClass_of_isOpen opened
  have selected := found_select readable.whole
  let begun : Progress := { p with
    store := { p.store with
      classes := p.store.classes.insert entity.id entity
      userClass := if Store.isUserName entity.name then some entity.id else p.store.userClass }
    journal }
  obtain ⟨q, members, ended⟩ : ∃ q, Step.each (addAttribute registry enumerations entity.id)
      (node.select "ownedAttribute").found begun = .ok () q ∧ Halfway declared enumerations typeOf
        entity.id (front.flatMap fieldsOf ++
          (node.select "ownedAttribute").found.filter standsAlone) q.store := by
    refine Step.each_succeeds (fun seen r => Halfway declared enumerations typeOf entity.id
      (front.flatMap fieldsOf ++ seen.filter standsAlone) r.store) ?_ ?_
    · rw [List.filter_nil, List.append_nil]
      exact ⟨⟨opened.unfailed, opened.unfrozen⟩, ⟨entity, Table.get?_insert_self _ _ _, rfl⟩,
        assigned.types, assigned.typed⟩
    · intro seen child later r split halfway
      rw [selected] at split
      rw [List.filter_append, ← List.append_assoc]
      refine halfway.addAttribute (later.filter standsAlone ++ rest.flatMap fieldsOf)
        (fun alone => ?_) (fun alone => ?_) (fun alone => ?_)
      · refine readable.read child (List.mem_filter.mpr ⟨?_, alone⟩)
        rw [split]
        exact List.mem_append_cons_self
      · refine chooses_of_chosen chosen (?_ : _ = _ ++ child :: (later.filter standsAlone ++
          rest.flatMap fieldsOf))
        rw [shape]
        exact fields_split split alone
      · rw [← fields_split split alone, ← shape]
        exact distinct
  refine ⟨q, add_of_members headed readable.whole members, ended.opened, ?_⟩
  rw [List.flatMap_append, List.flatMap_singleton, fieldsOf, ← selected]
  exact ended.assigned

/-- Classes are read in an order in which their fields come by types. -/
theorem addAll_of_chosen {nodes : List Node} (readable : ∀ node ∈ nodes, Readable node)
    (distinct : ((nodes.flatMap fieldsOf).filterMap id?).Nodup) (opened : p.store.IsOpen)
    (chosen : Chosen p.store.types enumerations registry (assign typeOf (nodes.flatMap fieldsOf))) :
    ∃ q, addAll registry enumerations nodes p = .ok () q ∧ q.store.IsOpen ∧
      Assigned p.store.types enumerations (assign typeOf (nodes.flatMap fieldsOf)) q.store := by
  rw [addAll_eq_each]
  refine Step.each_succeeds (fun front r => r.store.IsOpen ∧ Assigned p.store.types enumerations
    (assign typeOf (front.flatMap fieldsOf)) r.store) ⟨opened, .nil, nofun⟩ ?_
  rintro front node rest r shape ⟨opened, assigned⟩
  have inside : node ∈ nodes := List.mem_iff_append.mpr ⟨_, _, shape⟩
  exact (readable node inside).add shape distinct chosen opened assigned

end Classes

end ClassDiagram
