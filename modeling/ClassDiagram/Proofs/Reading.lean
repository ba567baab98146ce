import ClassDiagram.Proofs.Course
import ClassDiagram.Proofs.MemberLists
import ClassDiagram.Proofs.Trees
import ClassDiagram.Proofs.Wording
import Mathlib.Data.List.Forall2

/-!
# A faithful reading of a model

Where all identifiers of a model differ, a run that succeeds reads every
element once and in document order: nothing is lost, nothing is read twice,
and every entity says what its element says.
-/

namespace ClassDiagram

open Step (bind_eq_ok)
open Xml (Node)

/-! ## What a faithful reading is -/

/-- Whether an attribute belongs to no association. -/
def standsAlone (child : Node) : Bool := ((child.plain? "association").getD "").isEmpty

def fieldsOf (node : Node) : List Node :=
  (childrenNamed node "ownedAttribute").filter standsAlone

/-- A class says what its element says, and lists the identifiers of its fields. -/
structure ClassEntry (node : Node) (entry : String × Class) : Prop where
  key : entry.1 = entry.2.id
  id_eq : id? node = some entry.2.id
  titled : IsTitled node entry.2.name
  documented : IsDocumented node entry.2.comment
  listed : (fieldsOf node).map id? = entry.2.fields.map some

/--
A field says what the attribute says, only that its name starts in lower case,
and names the class it stands in.
-/
structure FieldEntry (place : Node × Node) (entry : String × Field) : Prop where
  key : entry.1 = entry.2.id
  id_eq : id? place.2 = some entry.2.id
  titled : ∃ title, IsTitled place.2 title ∧ IsLowered title entry.2.name
  documented : IsDocumented place.2 entry.2.comment
  owner : id? place.1 = some entry.2.classId

/-- An association leads from the type of its second member end to the type of its first. -/
structure AssociationEntry (model node : Node) (entry : String × Association) : Prop where
  key : entry.1 = entry.2.id
  id_eq : id? node = some entry.2.id
  joined : ∃ first ∈ model.within, ∃ second ∈ model.within, ∃ firstId secondId,
    Members.Ends node [firstId, secondId] ∧
      id? first = some firstId ∧ id? second = some secondId ∧
        second.plain? "type" = some entry.2.sourceId ∧
          first.plain? "type" = some entry.2.destinationId

structure EnumerationEntry (node : Node) (entry : String × Enumeration) : Prop where
  key : entry.1 = entry.2.id
  id_eq : id? node = some entry.2.id
  titled : IsTitled node entry.2.name
  listed : List.Forall₂ IsTitled (childrenNamed node "ownedLiteral") entry.2.values

/-- The attributes that become fields, each with its class, in document order. -/
def placedFields (classes : List Node) : List (Node × Node) :=
  classes.flatMap fun node => (fieldsOf node).map fun child => (node, child)

/-- A store holds one entry for every element of a model, in document order. -/
structure Store.Reads (model : Node) (store : Store) : Prop where
  classes : List.Forall₂ ClassEntry (elementsOfKind model .objectClass) store.classes.entries
  fields : List.Forall₂ FieldEntry (placedFields (elementsOfKind model .objectClass))
    store.fields.entries
  associations : List.Forall₂ (AssociationEntry model) (elementsOfKind model .association)
    store.associations.entries
  enumerations : List.Forall₂ EnumerationEntry (elementsOfKind model .enumeration)
    store.enumerations.entries

/-! ## Entries in document order -/

section

variable {ι ν : Type} {relation : ι → String × ν → Prop} {name : ι → Option String}

/-- Entries that are filed under the names of items have these names for keys. -/
theorem keys_of_forall₂ (named : ∀ item entry, relation item entry → name item = some entry.1)
    {items : List ι} {entries : List (String × ν)}
    (related : List.Forall₂ relation items entries) :
    entries.map Prod.fst = items.filterMap name := by
  induction related with
  | nil => rfl
  | cons here _ ih => rw [List.map_cons, List.filterMap_cons_some (named _ _ here), ih]

/-- Where names differ, the name of an item is not among those before it. -/
theorem fresh_of_nodup {front rest : List ι} {item : ι} {id : String}
    (distinct : ((front ++ item :: rest).filterMap name).Nodup) (named : name item = some id) :
    id ∉ front.filterMap name := by
  rw [List.filterMap_append, List.filterMap_cons_some named, List.nodup_append] at distinct
  intro inside
  exact distinct.2.2 id inside id List.mem_cons_self rfl

/-- The key of a new item is not in the table yet. -/
theorem absent_of_forall₂ (named : ∀ item entry, relation item entry → name item = some entry.1)
    {table : Table String ν} {front rest : List ι} {item : ι} {key : String}
    (related : List.Forall₂ relation front table.entries)
    (distinct : ((front ++ item :: rest).filterMap name).Nodup) (here : name item = some key) :
    key ∉ table.keys := by
  rw [Table.keys, keys_of_forall₂ named related]
  exact fresh_of_nodup distinct here

/-- A new item files its entry at the end of the table. -/
theorem forall₂_insert_new (named : ∀ item entry, relation item entry → name item = some entry.1)
    {table : Table String ν} {front rest : List ι} {item : ι} {key : String} {value : ν}
    (related : List.Forall₂ relation front table.entries)
    (distinct : ((front ++ item :: rest).filterMap name).Nodup)
    (here : relation item (key, value)) :
    List.Forall₂ relation (front ++ [item]) (table.insert key value).entries := by
  rw [Table.entries_insert_new (absent_of_forall₂ named related distinct (named item _ here))]
  exact List.rel_append related (.cons here .nil)

end

variable {p q : Progress}

/-! ## Enumerations and associations -/

theorem EnumerationEntry.named (node : Node) (entry : String × Enumeration)
    (read : EnumerationEntry node entry) : id? node = some entry.1 := by
  rw [read.key]
  exact read.id_eq

theorem AssociationEntry.named {model : Node} (node : Node) (entry : String × Association)
    (read : AssociationEntry model node entry) : id? node = some entry.1 := by
  rw [read.key]
  exact read.id_eq

theorem forall₂_isTitled {nodes : List Node} {titles : List String}
    (listed : nodes.map title? = titles.map some) : List.Forall₂ IsTitled nodes titles := by
  have same : List.Forall₂ (fun node title => title? node = some title) nodes titles :=
    List.forall₂_map_right_iff.mp (List.forall₂_map_left_iff.mp (List.forall₂_eq_eq_eq ▸ listed))
  exact same.imp fun _ _ => title?_eq_some_iff.mp

theorem Enumerations.addAll_reads {nodes : List Node} (done : addAll nodes p = .ok () q)
    (start : p.store.enumerations.entries = []) (distinct : (nodes.filterMap id?).Nodup) :
    List.Forall₂ EnumerationEntry nodes q.store.enumerations.entries := by
  rw [addAll_eq_each] at done
  refine Step.each_invariant
    (fun front r => List.Forall₂ EnumerationEntry front r.store.enumerations.entries) done ?_ ?_
  · rw [start]
    exact .nil
  · intro front node rest r _ shape read taken
    obtain ⟨enumeration, _, lists, rfl⟩ := add_eq_ok taken
    rw [shape] at distinct
    refine forall₂_insert_new EnumerationEntry.named read distinct
      ⟨rfl, lists.id_eq, title?_eq_some_iff.mp lists.titled, ?_⟩
    rw [← found_select lists.whole]
    exact forall₂_isTitled lists.listed

namespace Associations

/-- Ends of classes stand inside the model and are kept under their own identifiers. -/
def EndsInside (model : Node) (ends : Table (Option String) ClassEnd) : Prop :=
  ∀ key found, ends.get? key = some found → id? found.node = key ∧ found.node ∈ model.within

theorem endWith_inside {model node found : Node} {ends : Table (Option String) ClassEnd}
    {id : String} (inside : EndsInside model ends)
    (packaged : node ∈ elementsOfKind model .association)
    (whole : (node.select "ownedEnd").cut = false) (looked : endWith ends node id = some found) :
    id? found = some id ∧ found ∈ model.within := by
  rcases Option.or_eq_some_iff.mp looked with owned | ⟨_, declared⟩
  · obtain ⟨held, member, same⟩ := List.mem_map.mp (Table.mem_of_get?_ofList owned)
    obtain ⟨id_eq, rfl⟩ := Prod.mk.inj same
    rw [found_select whole] at member
    exact ⟨id_eq, mem_within_of_child packaged ((childrenNamed_sublist node _).subset member)⟩
  · obtain ⟨classEnd, filed, rfl⟩ := Option.map_eq_some_iff.mp declared
    exact inside _ classEnd filed

theorem link_reads {model : Node} (done : link (elementsOfKind model .association) p = .ok () q)
    (start : p.store.associations.entries = []) (inside : EndsInside model p.ends)
    (distinct : ((elementsOfKind model .association).filterMap id?).Nodup) :
    List.Forall₂ (AssociationEntry model) (elementsOfKind model .association)
      q.store.associations.entries := by
  obtain ⟨used, added, _⟩ := link_eq_ok.mp done
  have read := Step.each_invariant (fun front r => r.ends = p.ends ∧
    List.Forall₂ (AssociationEntry model) front r.store.associations.entries)
    (each_of_addAll added) ⟨rfl, by rw [start]; exact .nil⟩ ?_
  · exact read.2
  · rintro front node rest r _ shape ⟨same, read⟩ taken
    obtain ⟨ids, _, joined, last⟩ := bind_eq_ok.mp taken
    cases last
    obtain ⟨first, second, association, _, members, joins, rfl⟩ := add_eq_ok joined
    obtain ⟨firstId, secondId, rfl, firstFound, secondFound⟩ := joins.pair
    have packaged : node ∈ elementsOfKind model .association :=
      List.mem_iff_append.mpr ⟨_, _, shape⟩
    rw [same] at firstFound secondFound
    obtain ⟨firstId_eq, firstInside⟩ := endWith_inside inside packaged joins.whole firstFound
    obtain ⟨secondId_eq, secondInside⟩ := endWith_inside inside packaged joins.whole secondFound
    rw [shape] at distinct
    refine ⟨same, forall₂_insert_new AssociationEntry.named read distinct ?_⟩
    exact ⟨rfl, joins.id_eq, first, firstInside, second, secondInside, firstId, secondId,
      Members.ends_of_memberEnds members, firstId_eq, secondId_eq,
      (Option.filter_eq_some_iff.mp joins.source).1,
      (Option.filter_eq_some_iff.mp joins.destination).1⟩

end Associations

/-! ## Classes and fields -/

theorem ClassEntry.named (node : Node) (entry : String × Class) (read : ClassEntry node entry) :
    id? node = some entry.1 := by
  rw [read.key]
  exact read.id_eq

theorem FieldEntry.named (place : Node × Node) (entry : String × Field)
    (read : FieldEntry place entry) : id? place.2 = some entry.1 := by
  rw [read.key]
  exact read.id_eq

theorem placedFields_append (left right : List Node) :
    placedFields (left ++ right) = placedFields left ++ placedFields right :=
  List.flatMap_append

/-- Where one field stands among those of its class. -/
theorem fieldsOf_split {seen later : List Node} {node child : Node}
    (split : childrenNamed node "ownedAttribute" = seen ++ child :: later)
    (alone : standsAlone child = true) :
    fieldsOf node = seen.filter standsAlone ++ child :: later.filter standsAlone := by
  rw [fieldsOf, split, List.filter_append, List.filter_cons_of_pos alone]

/-- Where one field stands among those of all classes. -/
theorem placedFields_split {front rest seen later : List Node} {node child : Node}
    (split : childrenNamed node "ownedAttribute" = seen ++ child :: later)
    (alone : standsAlone child = true) :
    placedFields (front ++ node :: rest) =
      placedFields front ++ (seen.filter standsAlone).map (fun child => (node, child)) ++
        (node, child) :: ((later.filter standsAlone).map (fun child => (node, child)) ++
          placedFields rest) := by
  rw [placedFields_append, placedFields, placedFields, placedFields, List.flatMap_cons,
    fieldsOf_split split alone, List.map_append, List.map_cons, List.append_assoc,
    List.append_assoc, List.cons_append]

theorem ids_placedFields (classes : List Node) :
    (placedFields classes).filterMap (fun place => id? place.2) =
      (classes.flatMap fieldsOf).filterMap id? := by
  induction classes with
  | nil => rfl
  | cons node rest ih =>
      change (placedFields ([node] ++ rest)).filterMap _ = _
      rw [placedFields_append, List.filterMap_append, ih, List.flatMap_cons,
        List.filterMap_append, placedFields, List.flatMap_singleton, List.filterMap_map]
      rfl

namespace Classes

variable {registry : Registry} {enumerations : List (Option String)}

/-- An attribute is an end unless it stands alone. -/
theorem isEnd_eq (child : Node) : isEnd child = !standsAlone child := by
  unfold isEnd standsAlone
  cases child.plain? "association" <;> rfl

theorem addAll_ends {model : Node}
    (done : addAll registry enumerations (elementsOfKind model .objectClass) p = .ok () q)
    (start : Associations.EndsInside model p.ends) : Associations.EndsInside model q.ends := by
  rw [addAll_eq_each] at done
  refine Step.each_invariant (fun _ r => Associations.EndsInside model r.ends) done start ?_
  intro front node rest r _ shape inside taken
  have packaged : node ∈ elementsOfKind model .objectClass := List.mem_iff_append.mpr ⟨_, _, shape⟩
  obtain ⟨id, _, headed, whole, members⟩ := add_eq_ok taken
  obtain ⟨_, _, _, _, rfl⟩ := addClass_eq_ok headed
  refine Step.each_invariant (fun _ r => Associations.EndsInside model r.ends) members inside ?_
  intro before child after s _ members inside taken
  rcases addAttribute_eq_ok taken with ⟨_, rfl⟩ | ⟨_, added⟩
  · intro key found filed
    rcases Table.eq_or_get?_of_insert filed with ⟨same, rfl⟩ | old
    · have member : child ∈ childrenNamed node "ownedAttribute" := by
        rw [← found_select whole, members]
        exact List.mem_append_cons_self
      exact ⟨same, mem_within_of_child packaged ((childrenNamed_sublist node _).subset member)⟩
    · exact inside key found old
  · obtain ⟨_, _, _, _, _, _, _, rfl⟩ := addField_eq_ok added
    exact inside

/--
While the attributes of a class are read, the class stands last among the
classes, with the fields that were seen so far.
-/
structure UnderWay (front : List Node) (node : Node) (seen : List Node) (store : Store) :
    Prop where
  classes : ∃ before entity, store.classes.entries = before ++ [(entity.id, entity)] ∧
    List.Forall₂ ClassEntry front before ∧ id? node = some entity.id ∧
      IsTitled node entity.name ∧ IsDocumented node entity.comment ∧
        (seen.filter standsAlone).map id? = entity.fields.map some
  fields : List.Forall₂ FieldEntry
    (placedFields front ++ (seen.filter standsAlone).map fun child => (node, child))
    store.fields.entries

theorem addClass_underWay {front rest : List Node} {node : Node} {id : String}
    (done : addClass node p = .ok id q)
    (classes : List.Forall₂ ClassEntry front p.store.classes.entries)
    (fields : List.Forall₂ FieldEntry (placedFields front) p.store.fields.entries)
    (distinct : ((front ++ node :: rest).filterMap id?).Nodup) :
    UnderWay front node [] q.store ∧ id? node = some id := by
  obtain ⟨entity, _, heads, rfl, rfl⟩ := addClass_eq_ok done
  have absent := absent_of_forall₂ ClassEntry.named classes distinct heads.id_eq
  refine ⟨⟨⟨p.store.classes.entries, entity, Table.entries_insert_new absent entity, classes,
    heads.id_eq, title?_eq_some_iff.mp heads.titled,
    isDocumented_of_documentation heads.documented, ?_⟩, ?_⟩, heads.id_eq⟩
  · rw [heads.bare]
    rfl
  · rw [List.filter_nil, List.map_nil, List.append_nil]
    exact fields

theorem addAttribute_underWay {front seen : List Node} (rest : List (Node × Node))
    {node child : Node} {owner : String}
    (done : addAttribute registry enumerations owner child p = .ok () q)
    (named : id? node = some owner) (start : UnderWay front node seen p.store)
    (distinct : standsAlone child = true → ((placedFields front ++
      (seen.filter standsAlone).map (fun child => (node, child)) ++ (node, child) :: rest).filterMap
        fun place => id? place.2).Nodup) :
    UnderWay front node (seen ++ [child]) q.store := by
  rcases addAttribute_eq_ok done with ⟨kept, rfl⟩ | ⟨free, added⟩
  · have linked : standsAlone child = false := by
      rw [isEnd_eq] at kept
      simpa using kept
    have same : (seen ++ [child]).filter standsAlone = seen.filter standsAlone := by
      rw [List.filter_append, List.filter_cons_of_neg (by simp [linked]), List.filter_nil,
        List.append_nil]
    refine ⟨?_, ?_⟩
    · rw [same]
      exact start.classes
    · rw [same]
      exact start.fields
  · have alone : standsAlone child = true := by
      rw [isEnd_eq] at free
      simpa using free
    have more : (seen ++ [child]).filter standsAlone = seen.filter standsAlone ++ [child] := by
      rw [List.filter_append, List.filter_cons_of_pos alone, List.filter_nil]
    obtain ⟨before, entity, shape, read, id_eq, titled, documented, listed⟩ := start.classes
    obtain ⟨field, found, _, _, isField, _, filed, rfl⟩ := addField_eq_ok added
    cases named.symm.trans id_eq
    cases filed.symm.trans (Table.get?_last shape)
    refine ⟨⟨before, { entity with fields := entity.fields ++ [field.id] },
      Table.entries_insert_last shape _, read, id_eq, titled, documented, ?_⟩, ?_⟩
    · rw [more, List.map_append, List.map_append, listed, List.map_singleton, isField.id_eq]
      rfl
    · rw [more, List.map_append, ← List.append_assoc]
      refine forall₂_insert_new FieldEntry.named start.fields (distinct alone) ?_
      obtain ⟨title, isTitle, lowered⟩ := Option.map_eq_some_iff.mp isField.titled
      have isLowered : IsLowered title field.name :=
        lowered ▸ isLowered_decapitalize (title?_ne_empty isTitle)
      refine ⟨rfl, isField.id_eq, ⟨title, title?_eq_some_iff.mp isTitle, isLowered⟩,
        isDocumented_of_documentation isField.documented, ?_⟩
      rw [isField.owner_eq]
      exact id_eq

/-- A class element whose attributes have all been read is read. -/
theorem UnderWay.read {front : List Node} {node : Node} {store : Store}
    (finished : UnderWay front node (childrenNamed node "ownedAttribute") store) :
    List.Forall₂ ClassEntry (front ++ [node]) store.classes.entries ∧
      List.Forall₂ FieldEntry (placedFields (front ++ [node])) store.fields.entries := by
  obtain ⟨before, entity, shape, read, id_eq, titled, documented, listed⟩ := finished.classes
  refine ⟨?_, ?_⟩
  · rw [shape]
    exact List.rel_append read (.cons ⟨rfl, id_eq, titled, documented, listed⟩ .nil)
  · rw [placedFields_append, placedFields, placedFields, List.flatMap_singleton]
    exact finished.fields

theorem addAll_reads {nodes : List Node} (done : addAll registry enumerations nodes p = .ok () q)
    (noClasses : p.store.classes.entries = []) (noFields : p.store.fields.entries = [])
    (distinct : (nodes.filterMap id?).Nodup)
    (distinctFields : ((nodes.flatMap fieldsOf).filterMap id?).Nodup) :
    List.Forall₂ ClassEntry nodes q.store.classes.entries ∧
      List.Forall₂ FieldEntry (placedFields nodes) q.store.fields.entries := by
  rw [addAll_eq_each] at done
  refine Step.each_invariant (fun front r =>
    List.Forall₂ ClassEntry front r.store.classes.entries ∧
      List.Forall₂ FieldEntry (placedFields front) r.store.fields.entries) done ?_ ?_
  · rw [noClasses, noFields]
    exact ⟨.nil, .nil⟩
  · rintro front node rest r s shape ⟨classes, fields⟩ taken
    obtain ⟨id, t, headed, whole, members⟩ := add_eq_ok taken
    rw [shape] at distinct
    obtain ⟨start, named⟩ := addClass_underWay headed classes fields distinct
    apply UnderWay.read
    rw [← found_select whole]
    refine Step.each_invariant (fun seen r => UnderWay front node seen r.store) members start ?_
    intro seen child later t u split underWay taken
    rw [found_select whole] at split
    refine addAttribute_underWay ((later.filter standsAlone).map (fun child => (node, child)) ++
      placedFields rest) taken named underWay fun alone => ?_
    rw [← placedFields_split split alone, ← shape, ids_placedFields]
    exact distinctFields

end Classes

namespace Ingestion

/--
Where all identifiers of a model differ, the store that a first run gives holds
one entry for every element, in document order.
-/
theorem run_reads (ingestion : Ingestion) {store : Store}
    (distinct : DistinctIds ingestion.model)
    (done : (ingestion.run.outcome .initial).1 = .ok store) : store.Reads ingestion.model := by
  obtain ⟨q, same, _, ⟨course⟩⟩ := course_of_first_run done
  obtain ⟨index, typed, classed, linked, listed, made, _, ⟨_, types⟩, ⟨_, classes⟩,
    ⟨_, associations⟩, ⟨_, enumerations⟩, _, frozen⟩ := course
  have sorted := Index.elementsOf_of_ofModel made
  rw [sorted] at types classes associations enumerations
  obtain ⟨_, _, rfl⟩ := Typing.declareAll_frame types
  obtain ⟨classesRead, fieldsRead⟩ := Classes.addAll_reads classes rfl rfl
    (distinct.elements _)
    (distinct.members (fun node => List.filter_sublist.trans (childrenNamed_sublist node _)) _)
  have inside := Classes.addAll_ends classes fun _ _ => nofun
  have frame := Classes.addAll_frame classes
  have associationsRead := Associations.link_reads associations
    (by rw [frame.associations]; rfl) inside (distinct.elements _)
  obtain ⟨_, _, rfl⟩ := Associations.link_frame associations
  have enumerationsRead := Enumerations.addAll_reads enumerations
    (by rw [frame.enumerations]; rfl) (distinct.elements _)
  obtain ⟨_, _, rfl⟩ := Enumerations.addAll_frame enumerations
  rw [← same, frozen]
  exact ⟨classesRead, fieldsRead, associationsRead, enumerationsRead⟩

/--
The identifiers of `lectures` differ; two comments on a class become two lines,
and an attribute that belongs to an association becomes no field.
-/
theorem run_reads_lectures :
    DistinctIds lectures.model ∧ (lectures.run.outcome .initial).1 = .ok lecturesStore ∧
      lecturesStore.Reads lectures.model ∧
      lecturesStore.classes.values = [
        ⟨"c", "Lecture", some "Held once a week.\nIn the main hall.", ["f1", "f2"]⟩,
        ⟨"u", "User", none, ["f3"]⟩] ∧
      lecturesStore.fields.values = [
        ⟨"f1", "title", "t", "c", none⟩, ⟨"f2", "level", "n", "c", none⟩,
        ⟨"f3", "age", "Integer", "u", none⟩] ∧
      lecturesStore.associations.values = [
        ⟨"r", none, "c", "u", .manyToOne, some "reader", some "lectures", none, none⟩] ∧
      lecturesStore.enumerations.values = [⟨"n", "Level", ["Basic", "Basic"]⟩] := by
  have distinct : DistinctIds lectures.model := by decide +kernel
  exact ⟨distinct, run_lectures, run_reads lectures distinct run_lectures, by decide +kernel,
    by decide +kernel, by decide +kernel, by decide +kernel⟩

end Ingestion

end ClassDiagram
