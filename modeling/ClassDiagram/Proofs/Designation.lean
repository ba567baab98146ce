import ClassDiagram.Proofs.ClassOrder
import ClassDiagram.Proofs.FailFast
import ClassDiagram.Proofs.Integrity
import ClassDiagram.Proofs.Registries

/-!
# What the type of a field is called

The type attribute of a field may be the identifier of a type element or of an
enumeration, or the canonical name of a scalar type that is there by then; else
a type name is written on the field.  The name of the field's type follows from
the case the field is in.
-/

namespace ClassDiagram

open Classes (assign)
open Step (bind_eq_ok)
open Typing (Chooses Declares declaredId reference?)
open Xml (Node)

/-! ## The types that elements declare -/

namespace Typing

variable {registry : Registry} {p q : Progress} {node : Node} {type : ScalarType} {id : String}

/-- What is filed under an identifier is declared by the last element that declares it. -/
theorem exists_declares {nodes : List Node} (done : declareAll registry nodes p = .ok () q)
    (start : p.store.types = .empty) (filed : q.store.types.get? id = some type) :
    ∃ front node rest, nodes = front ++ node :: rest ∧ Declares registry node type ∧
      type.id = id ∧ ∀ other ∈ rest, ∀ another, Declares registry other another →
        another.id ≠ id := by
  rw [declareAll_eq_each] at done
  refine Step.each_invariant (fun seen r => ∀ type, r.store.types.get? id = some type →
    ∃ front node rest, seen = front ++ node :: rest ∧ Declares registry node type ∧
      type.id = id ∧ ∀ other ∈ rest, ∀ another, Declares registry other another →
        another.id ≠ id) done ?_ ?_ type filed
  · rw [start]
    intro type there
    cases there
  · intro seen node _ r _ _ before taken other there
    obtain ⟨added, _, declares, rfl⟩ := declare_eq_ok taken
    rw [Table.get?_insert] at there
    split at there
    · cases there
      exact ⟨seen, node, [], rfl, declares, ‹_›, List.forall_mem_nil _⟩
    · rename_i apart
      obtain ⟨front, found, rest, split, declaresToo, named, last⟩ := before other there
      refine ⟨front, found, rest ++ [node], ?_, declaresToo, named, ?_⟩
      · rw [split, List.append_assoc, List.cons_append]
      · intro later inside another declaresAlso
        rcases List.mem_append.mp inside with old | here
        · exact last later old another declaresAlso
        · cases List.mem_singleton.mp here
          rw [declaresAlso.unique declares]
          exact apart

/-- The last element that declares a type under an identifier decides what is filed there. -/
theorem get?_of_last {front rest : List Node}
    (done : declareAll registry (front ++ node :: rest) p = .ok () q)
    (declares : Declares registry node type)
    (last : ∀ other ∈ rest, ∀ another, Declares registry other another → another.id ≠ type.id) :
    q.store.types.get? type.id = some type := by
  rw [declareAll_eq_each, Step.each_append] at done
  obtain ⟨_, r, _, others⟩ := bind_eq_ok.mp done
  obtain ⟨_, s, here, later⟩ := bind_eq_ok.mp others
  obtain ⟨added, _, again, rfl⟩ := declare_eq_ok here
  cases declares.unique again
  refine Step.each_invariant (fun _ t => t.store.types.get? type.id = some type) later
    (Table.get?_insert_self _ _ _) ?_
  intro front other _ t _ shape before taken
  obtain ⟨another, _, declaresAlso, rfl⟩ := declare_eq_ok taken
  have inside : other ∈ rest := List.mem_iff_append.mpr ⟨_, _, shape⟩
  rw [Table.get?_insert, if_neg (last other inside another declaresAlso)]
  exact before

/-- A type goes by the identifier of its element, or else by its canonical name. -/
theorem Declares.identified_or_named (declares : Declares registry node type) :
    id? node = some type.id ∧ type.id ≠ "" ∨
      (id? node).filter (!·.isEmpty) = none ∧ type.id = type.name := by
  have id_eq := declares.id_eq
  unfold declaredId at id_eq
  cases own : (id? node).filter (!·.isEmpty) with
  | none =>
      rw [own] at id_eq
      exact Or.inr ⟨rfl, id_eq⟩
  | some key =>
      obtain ⟨named, filled⟩ := Option.filter_eq_some_iff.mp own
      have solid : key ≠ "" := by
        rintro rfl
        cases filled
      rw [own] at id_eq
      have same : type.id = key := id_eq
      rw [same]
      exact Or.inl ⟨named, solid⟩

/-- A type element with an identifier declares its type under it. -/
theorem Declares.id_of_identified (declares : Declares registry node type)
    (named : id? node = some id) (filled : id ≠ "") : type.id = id := by
  rcases declares.identified_or_named with ⟨own, _⟩ | ⟨none, _⟩
  · exact Option.some.inj (own.symm.trans named)
  · rw [named] at none
    simp [filled] at none

theorem exists_type_of_declareAll {nodes : List Node}
    (done : declareAll registry nodes p = .ok () q) (inside : node ∈ nodes) :
    ∃ type, Declares registry node type := by
  rw [declareAll_eq_each] at done
  obtain ⟨_, _, taken⟩ := Step.each_mem done node inside
  obtain ⟨type, _, declares, _⟩ := declare_eq_ok taken
  exact ⟨type, declares⟩

/-- A field that refers to what is there has it as its type. -/
theorem Chooses.typeId_eq {enumerations : List (Option String)} {known : String → Prop}
    {field : Node} {typeId : String} (chooses : Chooses registry enumerations known field typeId)
    (refers : reference? field = some id) (there : known id ∨ some id ∈ enumerations) :
    typeId = id := by
  cases chooses with
  | referred again _ => exact Option.some.inj (again.symm.trans refers)
  | written unknown _ _ => exact absurd there (unknown id refers)

end Typing

/-! ## The name of a field's type -/

namespace Store

variable {store : Store} {field : Node} {id typeId : String}

theorem fieldTypeName_of_scalar (unfailed : store.failure = none) (named : id? field = some id)
    (typed : store.typeIdOf? field = some typeId) {type : ScalarType}
    (found : store.types.get? typeId = some type) :
    store.fieldTypeName (some id) = .ok type.name := by
  unfold typeIdOf? at typed
  rw [named, Option.bind_some] at typed
  rw [fieldTypeName_eq, checkValid_of_unfailed unfailed, typed]
  simp only [found]
  rfl

theorem fieldTypeName_of_enumeration (unfailed : store.failure = none)
    (named : id? field = some id) (typed : store.typeIdOf? field = some typeId)
    (absent : store.types.get? typeId = none) {enumeration : Enumeration}
    (found : store.enumerations.get? typeId = some enumeration) :
    store.fieldTypeName (some id) = .ok enumeration.name := by
  unfold typeIdOf? at typed
  rw [named, Option.bind_some] at typed
  have enumerated : store.getEnumeration (some typeId) = .ok enumeration :=
    get_of_found unfailed Store.enumerations .enumeration found
  rw [fieldTypeName_eq, checkValid_of_unfailed unfailed, typed]
  simp only [absent, enumerated]
  rfl

end Store

namespace Ingestion

variable {ingestion : Ingestion} {q : Progress}

def IsBare (node : Node) : Prop := (id? node).filter (!·.isEmpty) = none

/--
A type element that goes by an identifier has it as its canonical name, unless
a later type element without an identifier takes its place.
-/
def NamedAlike (ingestion : Ingestion) (id : String) : Prop :=
  ∀ front node rest, elementsOfKind ingestion.model .scalarType = front ++ node :: rest →
    id? node = some id →
    (∀ other ∈ rest, IsBare other → ingestion.registry.canonical (other.plain? "name") ≠ .ok id) →
    ingestion.registry.canonical (node.plain? "name") = .ok id

/-- Where no type element goes by an identifier, none goes by another name. -/
theorem namedAlike_of_absent {id : String}
    (absent : ∀ node ∈ elementsOfKind ingestion.model .scalarType, id? node ≠ some id) :
    ingestion.NamedAlike id := by
  intro front node rest split named _
  refine absurd named (absent node ?_)
  rw [split]
  exact List.mem_append_cons_self

def Calls (ingestion : Ingestion) (store : Store) (typeId name : String) : Prop :=
  (∃ type, store.types.get? typeId = some type ∧ type.name = name) ∨
    store.types.get? typeId = none ∧ ∃ node ∈ elementsOfKind ingestion.model .enumeration,
      id? node = some typeId ∧ title? node = some name

namespace Course

variable (course : ingestion.Course .initial q)
include course

theorem enumerationIds_eq : course.index.enumerationIds =
    (elementsOfKind ingestion.model .enumeration).map id? := by
  unfold Index.enumerationIds
  rw [Index.elementsOf_of_ofModel course.made]

theorem mem_enumerationIds {id : String} : some id ∈ course.index.enumerationIds ↔
    ∃ node ∈ elementsOfKind ingestion.model .enumeration, id? node = some id := by
  rw [course.enumerationIds_eq, List.mem_map]

/-- A type element with an identifier declares its type under it. -/
theorem declares_of_identified {node : Node} {id : String}
    (packaged : node ∈ elementsOfKind ingestion.model .scalarType) (named : id? node = some id)
    (filled : id ≠ "") : ∃ type, Declares ingestion.registry node type ∧ type.id = id ∧
      course.typed.store.types.contains id = true := by
  obtain ⟨_, types⟩ := course.types
  rw [Index.elementsOf_of_ofModel course.made] at types
  obtain ⟨type, declares⟩ := Typing.exists_type_of_declareAll types packaged
  have same := declares.id_of_identified named filled
  exact ⟨type, declares, same, (Typing.declareAll_contains types id).mpr
    (Or.inr ⟨node, packaged, type, declares, same⟩)⟩

/-- The enumerations at the end are read from the elements, one for each. -/
theorem enumerations_read (distinct : DistinctIds ingestion.model) :
    List.Forall₂ EnumerationEntry (elementsOfKind ingestion.model .enumeration)
      q.store.enumerations.entries := by
  obtain ⟨_, associations⟩ := course.associations
  obtain ⟨_, enumerations⟩ := course.enumerations
  obtain ⟨_, _, linked⟩ := Associations.link_frame associations
  rw [Index.elementsOf_of_ofModel course.made] at enumerations
  rw [course.store]
  refine Enumerations.addAll_reads enumerations ?_ (distinct.elements _)
  rw [linked]
  change course.classed.store.enumerations.entries = []
  rw [course.classed_bare.2]
  rfl

/--
A scalar type is called like its identifier, unless a type element with this
identifier says otherwise.
-/
theorem name_eq_id (assigned : Assigned course.typed.store.types course.index.enumerationIds
      (assign q.store.typeOf (ingestion.classes.flatMap fieldsOf)) q.store)
    {id : String} {type : ScalarType} (found : q.store.types.get? id = some type)
    (agree : ingestion.NamedAlike id) : type.name = id := by
  rcases assigned.types.added id type found with before | ⟨rfl, _⟩
  · obtain ⟨_, types⟩ := course.types
    rw [Index.elementsOf_of_ofModel course.made] at types
    obtain ⟨front, node, rest, split, declares, rfl, last⟩ :=
      Typing.exists_declares types rfl before
    rcases declares.identified_or_named with ⟨own, _⟩ | ⟨_, same⟩
    · refine Except.ok.inj (declares.known.symm.trans (agree front node rest split own ?_))
      intro other inside bare canonical
      have packaged : other ∈ elementsOfKind ingestion.model .scalarType := by
        rw [split]
        exact List.mem_append_right _ (List.mem_cons_of_mem _ inside)
      obtain ⟨another, again⟩ := Typing.exists_type_of_declareAll types packaged
      refine last other inside another again ?_
      rw [again.id_eq, declaredId, bare]
      exact Except.ok.inj (again.known.symm.trans canonical)
    · exact same.symm
  · rfl

/-- Where the registry is built in, the scalar types at the end have canonical names. -/
theorem canonical_of_builtIn {database : Database}
    (builtIn : ingestion.registry = .ofDatabase database) {id : String} {type : ScalarType}
    (found : q.store.types.get? id = some type) :
    ingestion.registry.canonical (some type.name) = .ok type.name := by
  obtain ⟨_, types⟩ := course.types
  obtain ⟨_, classes⟩ := course.classes
  obtain ⟨_, _, store_eq⟩ := course.store_eq
  have afterTypes : course.typed.store.Intact ingestion.registry fun id =>
      some id ∈ course.index.enumerationIds := Typing.declareAll_intact types Store.Intact.empty
  rw [store_eq] at found
  have listed := (Classes.addAll_intact classes afterTypes).registered id type found
  rw [builtIn] at listed ⊢
  exact Registry.canonical_eq_ok.mpr (Registry.settles_ofDatabase database listed)

/-- What a field's type is called, be it a scalar type or an enumeration. -/
theorem exists_called (distinct : DistinctIds ingestion.model)
    {earlier later : List Node} {field : Node}
    (shape : ingestion.classes.flatMap fieldsOf = earlier ++ field :: later) :
    ∃ id name, id? field = some id ∧ q.store.fieldTypeName (some id) = .ok name ∧
      ingestion.Calls q.store (q.store.typeOf field) name := by
  obtain ⟨chosen, assigned⟩ := (course.passed distinct.distinguished).assigned
  have chooses := Classes.chooses_of_chosen chosen shape
  have inside : (field, q.store.typeOf field) ∈
      assign q.store.typeOf (ingestion.classes.flatMap fieldsOf) := by
    rw [shape]
    exact List.mem_map_of_mem List.mem_append_cons_self
  have typed : q.store.typeIdOf? field = some (q.store.typeOf field) := assigned.typed _ inside
  obtain ⟨id, named, _⟩ := Option.bind_eq_some_iff.mp typed
  have unfailed := course.isDone.unfailed
  cases found : q.store.types.get? (q.store.typeOf field) with
  | some type =>
      exact ⟨id, type.name, named, Store.fieldTypeName_of_scalar unfailed named typed found,
        Or.inl ⟨type, found, rfl⟩⟩
  | none =>
      have unknown : ¬ KnownAfter course.typed.store.types course.index.enumerationIds
          (assign q.store.typeOf (ingestion.classes.flatMap fieldsOf))
            (q.store.typeOf field) := by
        rw [← assigned.types.contains_iff, Table.contains, found]
        exact Bool.false_ne_true
      have awaited : some (q.store.typeOf field) ∈ course.index.enumerationIds := by
        by_contra unawaited
        exact unknown (Or.inr ⟨_, inside, rfl, fun both => unawaited both.2⟩)
      obtain ⟨node, packaged, node_id⟩ := course.mem_enumerationIds.mp awaited
      obtain ⟨entry, filed, read⟩ :=
        exists_right_of_forall₂ (course.enumerations_read distinct) node packaged
      have same : entry.1 = q.store.typeOf field :=
        Option.some.inj ((EnumerationEntry.named node entry read).symm.trans node_id)
      have listed : q.store.enumerations.get? (q.store.typeOf field) = some entry.2 := by
        rw [← same]
        exact (Table.get?_eq_some_iff _ _ _).mpr filed
      exact ⟨id, entry.2.name, named,
        Store.fieldTypeName_of_enumeration unfailed named typed found listed,
        Or.inr ⟨found, node, packaged, node_id, title?_eq_some_iff.mpr read.titled⟩⟩

end Course

/-! ## What a field designates -/

/--
A scalar type that is there before a field is read: a type element without an
identifier has its name, or an earlier field has it as its type.
-/
def KnownBefore (ingestion : Ingestion) (store : Store) (earlier : List Node) (id : String) :
    Prop :=
  (∃ node ∈ elementsOfKind ingestion.model .scalarType, IsBare node ∧
    ingestion.registry.canonical (node.plain? "name") = .ok id) ∨
      ∃ other ∈ earlier, store.typeIdOf? other = some id

def Unidentified (ingestion : Ingestion) (id : String) : Prop :=
  (∀ node ∈ elementsOfKind ingestion.model .scalarType, id? node ≠ some id) ∧
    ∀ node ∈ elementsOfKind ingestion.model .enumeration, id? node ≠ some id

/--
The name of a field's type follows from its type attribute, which may be the
identifier of a type element or of an enumeration, or the canonical name of a
scalar type that is there; else it follows from the type name written on the
field.  Where an identifier is also the canonical name of a scalar type, the
two must not say different things.
-/
structure Designates (ingestion : Ingestion) (store : Store) (earlier : List Node) (field : Node)
    (name : String) : Prop where
  declared : ∀ front node rest id,
    elementsOfKind ingestion.model .scalarType = front ++ node :: rest →
    reference? field = some id → id? node = some id →
    ∃ canonical, ingestion.registry.canonical (node.plain? "name") = .ok canonical ∧
      ((∀ other ∈ rest, IsBare other →
        ingestion.registry.canonical (other.plain? "name") = .ok id → canonical = id) →
          name = canonical)
  listed : ∀ node ∈ elementsOfKind ingestion.model .enumeration, ∀ id,
    reference? field = some id → id? node = some id →
    (∀ other ∈ elementsOfKind ingestion.model .scalarType, id? other ≠ some id) →
    ∃ title, title? node = some title ∧
      ((store.types.contains id = true → title = id) → name = title)
  brought : ∀ id, reference? field = some id → ingestion.Unidentified id →
    ingestion.KnownBefore store earlier id →
    name = id ∧ ∀ database, ingestion.registry = .ofDatabase database →
      ingestion.registry.canonical (some id) = .ok id
  written : (∀ id, reference? field = some id →
      ingestion.Unidentified id ∧ ¬ ingestion.KnownBefore store earlier id) →
    ∃ text canonical, inlineType field = .ok text ∧
      ingestion.registry.canonical text = .ok canonical ∧
      (ingestion.NamedAlike canonical → name = canonical)

namespace Course

variable (course : ingestion.Course .initial q) (distinct : DistinctIds ingestion.model)
  {earlier later : List Node} {field : Node}
  (shape : ingestion.classes.flatMap fieldsOf = earlier ++ field :: later)
include course distinct shape

theorem chooses : Chooses ingestion.registry course.index.enumerationIds
    (KnownAfter course.typed.store.types course.index.enumerationIds
      (assign q.store.typeOf earlier)) field (q.store.typeOf field) :=
  Classes.chooses_of_chosen (course.passed distinct.distinguished).assigned.1 shape

/-- What is known before a field stays known. -/
theorem contains_of_knownBefore {id : String}
    (known : KnownAfter course.typed.store.types course.index.enumerationIds
      (assign q.store.typeOf earlier) id) : q.store.types.contains id = true := by
  refine ((course.passed distinct.distinguished).assigned.2.types.contains_iff id).mpr
    (known.subset ?_)
  rw [shape]
  exact List.subset_append_left _ _

/-- Where nothing has an identifier, it is known before a field as a canonical name alone. -/
theorem knownBefore_iff {id : String} (unidentified : ingestion.Unidentified id) :
    KnownAfter course.typed.store.types course.index.enumerationIds
      (assign q.store.typeOf earlier) id ↔ ingestion.KnownBefore q.store earlier id := by
  obtain ⟨_, types⟩ := course.types
  rw [Index.elementsOf_of_ofModel course.made] at types
  have unawaited : some id ∉ course.index.enumerationIds := fun awaited => by
    obtain ⟨node, inside, named⟩ := course.mem_enumerationIds.mp awaited
    exact unidentified.2 node inside named
  have typed : ∀ other ∈ earlier, q.store.typeIdOf? other = some (q.store.typeOf other) := by
    intro other inside
    refine (course.passed distinct.distinguished).assigned.2.typed (other, _)
      (List.mem_map_of_mem ?_)
    rw [shape]
    exact List.mem_append_left _ inside
  constructor
  · rintro (declared | ⟨place, inside, same, _⟩)
    · obtain ⟨type, filed⟩ := (Table.contains_iff_exists _ _).mp declared
      obtain ⟨_, node, _, split, declares, rfl, _⟩ := Typing.exists_declares types rfl filed
      have packaged : node ∈ elementsOfKind ingestion.model .scalarType :=
        List.mem_iff_append.mpr ⟨_, _, split⟩
      rcases declares.identified_or_named with ⟨own, _⟩ | ⟨bare, named⟩
      · exact absurd own (unidentified.1 node packaged)
      · refine Or.inl ⟨node, packaged, bare, ?_⟩
        rw [named]
        exact declares.known
    · obtain ⟨other, before, rfl⟩ := List.mem_map.mp inside
      refine Or.inr ⟨other, before, ?_⟩
      rw [typed other before, ← same]
  · rintro (⟨node, packaged, bare, named⟩ | ⟨other, before, typed_eq⟩)
    · obtain ⟨type, declares⟩ := Typing.exists_type_of_declareAll types packaged
      refine Or.inl ((Typing.declareAll_contains types id).mpr
        (Or.inr ⟨node, packaged, type, declares, ?_⟩))
      rw [declares.id_eq, declaredId, bare]
      exact Except.ok.inj (declares.known.symm.trans named)
    · have same : q.store.typeOf other = id :=
        Option.some.inj ((typed other before).symm.trans typed_eq)
      exact Or.inr ⟨(other, q.store.typeOf other), List.mem_map_of_mem before, same,
        fun both => unawaited both.2⟩

omit shape in
/-- A field that refers to a type element has the type that this element declares. -/
theorem name_of_declared {front rest : List Node} {node : Node} {id name : String}
    (split : elementsOfKind ingestion.model .scalarType = front ++ node :: rest)
    (named : id? node = some id) (filled : id ≠ "") (calls : ingestion.Calls q.store id name) :
    ∃ canonical, ingestion.registry.canonical (node.plain? "name") = .ok canonical ∧
      ((∀ other ∈ rest, IsBare other →
        ingestion.registry.canonical (other.plain? "name") = .ok id → canonical = id) →
          name = canonical) := by
  obtain ⟨_, assigned⟩ := (course.passed distinct.distinguished).assigned
  obtain ⟨_, types⟩ := course.types
  rw [Index.elementsOf_of_ofModel course.made] at types
  have packaged : node ∈ elementsOfKind ingestion.model .scalarType :=
    List.mem_iff_append.mpr ⟨_, _, split⟩
  obtain ⟨type, declares, type_id, declared⟩ :=
    course.declares_of_identified packaged named filled
  refine ⟨type.name, declares.known, fun agree => ?_⟩
  obtain ⟨filed, kept⟩ := (Table.contains_iff_exists _ _).mp declared
  have found := assigned.types.kept id filed kept
  rcases calls with ⟨other, there, rfl⟩ | ⟨absent, _⟩
  · cases found.symm.trans there
    have ids := distinct.elements .scalarType
    by_cases same : type.name = id
    · rw [same]
      refine course.name_eq_id assigned found fun front other rest split other_id _ => ?_
      have inside : other ∈ elementsOfKind ingestion.model .scalarType :=
        List.mem_iff_append.mpr ⟨_, _, split⟩
      rw [eq_of_nodup_filterMap ids inside packaged other_id named, ← same]
      exact declares.known
    · -- The type element is the last to declare a type under its identifier.
      rw [split] at types ids
      have last : ∀ other ∈ rest, ∀ another, Typing.Declares ingestion.registry other another →
          another.id ≠ type.id := by
        intro other inside another declaresAlso equal
        rw [type_id] at equal
        rcases declaresAlso.identified_or_named with ⟨own, _⟩ | ⟨bare, another_name⟩
        · rw [equal] at own
          rw [List.filterMap_append, List.filterMap_cons_some named] at ids
          have fresh := (List.nodup_cons.mp (List.nodup_append.mp ids).2.1).1
          exact fresh (List.mem_filterMap.mpr ⟨other, inside, own⟩)
        · refine same (agree other inside bare ?_)
          rw [← equal, another_name]
          exact declaresAlso.known
      have decided := Typing.get?_of_last types declares last
      rw [type_id, kept] at decided
      rw [Option.some.inj decided]
  · cases found.symm.trans absent

omit shape in
/-- A field that refers to an enumeration has it as its type. -/
theorem name_of_listed {node : Node} {id name : String}
    (packaged : node ∈ elementsOfKind ingestion.model .enumeration) (named : id? node = some id)
    (undeclared : ∀ other ∈ elementsOfKind ingestion.model .scalarType, id? other ≠ some id)
    (calls : ingestion.Calls q.store id name) :
    ∃ title, title? node = some title ∧
      ((q.store.types.contains id = true → title = id) → name = title) := by
  obtain ⟨_, assigned⟩ := (course.passed distinct.distinguished).assigned
  obtain ⟨entry, _, read⟩ :=
    exists_right_of_forall₂ (course.enumerations_read distinct) node packaged
  have title := title?_eq_some_iff.mpr read.titled
  refine ⟨entry.2.name, title, fun agree => ?_⟩
  rcases calls with ⟨type, found, rfl⟩ | ⟨_, other, there, other_id, titled⟩
  · rw [agree (Table.contains_of_get? found)]
    exact course.name_eq_id assigned found (namedAlike_of_absent undeclared)
  · have same := eq_of_nodup_filterMap (distinct.elements .enumeration) there packaged
      other_id named
    rw [same, title] at titled
    exact (Option.some.inj titled).symm

/-- A field that refers to a canonical name that is known has it as its type. -/
theorem name_of_brought {id name : String} (unidentified : ingestion.Unidentified id)
    (known : ingestion.KnownBefore q.store earlier id)
    (calls : ingestion.Calls q.store id name) :
    name = id ∧ ∀ database, ingestion.registry = .ofDatabase database →
      ingestion.registry.canonical (some id) = .ok id := by
  obtain ⟨_, assigned⟩ := (course.passed distinct.distinguished).assigned
  have present := course.contains_of_knownBefore distinct shape
    ((course.knownBefore_iff distinct shape unidentified).mpr known)
  rcases calls with ⟨type, found, rfl⟩ | ⟨absent, _⟩
  · have same := course.name_eq_id assigned found (namedAlike_of_absent unidentified.1)
    refine ⟨same, fun database builtIn => ?_⟩
    rw [← same]
    exact course.canonical_of_builtIn builtIn found
  · rw [Table.contains, absent] at present
    cases present

/-- A field that refers to nothing that is there has the type that is written on it. -/
theorem name_of_written {name : String} (apart : ∀ id, reference? field = some id →
      ingestion.Unidentified id ∧ ¬ ingestion.KnownBefore q.store earlier id)
    (calls : ingestion.Calls q.store (q.store.typeOf field) name) :
    ∃ text canonical, inlineType field = .ok text ∧
      ingestion.registry.canonical text = .ok canonical ∧
      (ingestion.NamedAlike canonical → name = canonical) := by
  obtain ⟨_, assigned⟩ := (course.passed distinct.distinguished).assigned
  have unawaited : ∀ id, reference? field = some id →
      some id ∉ course.index.enumerationIds := by
    intro id refers awaited
    obtain ⟨node, inside, named⟩ := course.mem_enumerationIds.mp awaited
    exact (apart id refers).1.2 node inside named
  cases course.chooses distinct shape with
  | referred refers there =>
      obtain ⟨unidentified, unknown⟩ := apart _ refers
      rcases there with known | awaited
      · exact absurd ((course.knownBefore_iff distinct shape unidentified).mp known) unknown
      · exact absurd awaited (unawaited _ refers)
  | written _ text _ =>
      obtain ⟨text, read, canonical_eq⟩ := text
      refine ⟨text, q.store.typeOf field, read, canonical_eq, fun agree => ?_⟩
      rcases calls with ⟨type, found, rfl⟩ | ⟨absent, _⟩
      · exact course.name_eq_id assigned found agree
      · have inside : (field, q.store.typeOf field) ∈
            assign q.store.typeOf (ingestion.classes.flatMap fieldsOf) := by
          rw [shape]
          exact List.mem_map_of_mem List.mem_append_cons_self
        have present := (assigned.types.contains_iff _).mpr
          (Or.inr ⟨_, inside, rfl, fun both => unawaited _ both.1 both.2⟩)
        rw [Table.contains, absent] at present
        cases present

/-- What a field designates is what its type is called. -/
theorem designates {name : String}
    (calls : ingestion.Calls q.store (q.store.typeOf field) name) :
    ingestion.Designates q.store earlier field name where
  declared front node rest id split refers named := by
    have filled : id ≠ "" := by
      rintro rfl
      cases (Option.filter_eq_some_iff.mp refers).2
    have packaged : node ∈ elementsOfKind ingestion.model .scalarType :=
      List.mem_iff_append.mpr ⟨_, _, split⟩
    obtain ⟨_, _, _, declared⟩ := course.declares_of_identified packaged named filled
    rw [(course.chooses distinct shape).typeId_eq refers (Or.inl (Or.inl declared))] at calls
    exact course.name_of_declared distinct split named filled calls
  listed node packaged id refers named undeclared := by
    have awaited := course.mem_enumerationIds.mpr ⟨node, packaged, named⟩
    rw [(course.chooses distinct shape).typeId_eq refers (Or.inr awaited)] at calls
    exact course.name_of_listed distinct packaged named undeclared calls
  brought id refers unidentified known := by
    have there := (course.knownBefore_iff distinct shape unidentified).mpr known
    rw [(course.chooses distinct shape).typeId_eq refers (Or.inl there)] at calls
    exact course.name_of_brought distinct shape unidentified known calls
  written apart := course.name_of_written distinct shape apart calls

end Course

/--
Where all identifiers of a model differ, the name of every field's type follows
from what the field refers to and from what is written on it.
-/
theorem run_designates (ingestion : Ingestion) (distinct : DistinctIds ingestion.model)
    {store : Store} (done : (ingestion.run.outcome .initial).1 = .ok store)
    {earlier later : List Node} {field : Node}
    (shape : ingestion.classes.flatMap fieldsOf = earlier ++ field :: later) :
    ∃ id name, id? field = some id ∧ store.fieldTypeName (some id) = .ok name ∧
      ingestion.Designates store earlier field name := by
  obtain ⟨q, rfl, _, ⟨course⟩⟩ := course_of_first_run done
  obtain ⟨id, name, named, told, calls⟩ := course.exists_called distinct shape
  exact ⟨id, name, named, told, course.designates distinct shape calls⟩

/-- The last field of `lectures` has the type that is written on it. -/
theorem run_designates_lectures :
    DistinctIds lectures.model ∧ (lectures.run.outcome .initial).1 = .ok lecturesStore ∧
      ∃ earlier field, lectures.classes.flatMap fieldsOf = earlier ++ [field] ∧
        ∃ id name, id? field = some id ∧ lecturesStore.fieldTypeName (some id) = .ok name ∧
          lectures.Designates lecturesStore earlier field name := by
  have distinct : DistinctIds lectures.model := by decide +kernel
  have shape : lectures.classes.flatMap fieldsOf = [
      umlElement "ownedAttribute" [("id", "f1")] [("name", "Title"), ("type", "t")] [],
      umlElement "ownedAttribute" [("id", "f2")] [("name", "level"), ("type", "n")] []] ++
      [umlElement "ownedAttribute" [("id", "f3")] [("name", "age"), ("type", "Integer")] []] := rfl
  exact ⟨distinct, run_lectures, _, _, shape, run_designates lectures distinct run_lectures shape⟩

/--
The name of a field's type follows from what has the identifier in its type
attribute, or else from the type name written on the field, and from no other
field.
-/
structure DesignatesAlone (ingestion : Ingestion) (field : Node) (name : String) : Prop where
  declared : ∀ node ∈ elementsOfKind ingestion.model .scalarType, ∀ id,
    field.plain? "type" = some id → id? node = some id →
    ingestion.registry.canonical (node.plain? "name") = .ok name
  listed : ∀ node ∈ elementsOfKind ingestion.model .enumeration, ∀ id,
    field.plain? "type" = some id → id? node = some id →
    (∀ other ∈ elementsOfKind ingestion.model .scalarType, id? other ≠ some id) →
    title? node = some name
  written : (∀ id, field.plain? "type" = some id → ingestion.Unidentified id) →
    ∃ text, inlineType field = .ok text ∧ ingestion.registry.canonical text = .ok name

/-- A field refers to a scalar type that another field has brought in, whatever is written on it. -/
theorem not_designatesAlone_rooms :
    DistinctIds rooms.model ∧ (rooms.run.outcome .initial).1 = .ok roomsStore ∧
      ¬ ∀ field ∈ rooms.classes.flatMap fieldsOf, ∃ id name, id? field = some id ∧
        roomsStore.fieldTypeName (some id) = .ok name ∧ rooms.DesignatesAlone field name := by
  have distinct : DistinctIds rooms.model := by decide +kernel
  refine ⟨distinct, rooms.run_outcome_eq_ok (by decide +kernel), fun always => ?_⟩
  let member : Node := umlElement "ownedAttribute" [("id", "g")]
    [("name", "number"), ("type", "String")] [umlElement "type" [] [("href", "types#Integer")] []]
  have named : id? member = some "g" := by decide +kernel
  have told : roomsStore.fieldTypeName (some "g") = .ok "String" := by decide +kernel
  have inline : inlineType member = .ok (some "Integer") := by decide +kernel
  have canonical : rooms.registry.canonical (some "Integer") = .ok "Integer" := by decide +kernel
  have inside : member ∈ rooms.classes.flatMap fieldsOf := .tail _ (.head _)
  obtain ⟨id, name, id_eq, name_eq, alone⟩ := always member inside
  cases named.symm.trans id_eq
  cases told.symm.trans name_eq
  have apart (id : String) : rooms.Unidentified id := ⟨nofun, nofun⟩
  obtain ⟨text, text_eq, other⟩ := alone.written fun id _ => apart id
  cases inline.symm.trans text_eq
  exact absurd (Except.ok.inj (canonical.symm.trans other)) (by decide)

def typeElement (xmi : List (String × String)) (name : String) : Node :=
  umlElement "packagedElement" (("type", "uml:PrimitiveType") :: xmi) [("name", name)] []

def answers : Node :=
  umlElement "packagedElement" [("type", "uml:Enumeration"), ("id", "Boolean")]
    [("name", "Answer")] []

def referring (id reference : String) : Node :=
  umlElement "ownedAttribute" [("id", id)] [("name", id), ("type", reference)] []

def writtenOn (id name : String) : Node :=
  umlElement "ownedAttribute" [("id", id)] [("name", id)]
    [umlElement "type" [] [("href", "types#" ++ name)] []]

/-- A model whose identifiers are canonical names of other scalar types. -/
def clashing : Ingestion where
  model := umlElement "Model" [] [] [
    typeElement [("id", "String")] "Integer", typeElement [("id", "Long")] "Float",
    typeElement [] "Long", answers,
    umlElement "packagedElement" [("type", "uml:Class"), ("id", "c")] [("name", "Form")]
      [referring "size" "Long", writtenOn "signed" "Boolean", referring "reply" "Boolean",
        writtenOn "title" "String"]]
  database := .sql
  registry := .ofDatabase .sql
  strict := false
  document := "forms.xmi"

def clashingStore : Store := (clashing.run.outcome .initial).2.store

def IsTyped (ingestion : Ingestion) (store : Store) (field : Node) (name : String) : Prop :=
  field ∈ ingestion.classes.flatMap fieldsOf ∧
    ∃ id, id? field = some id ∧ store.fieldTypeName (some id) = .ok name

/--
Where an identifier is also the canonical name of another scalar type, the name
of a field's type may be neither that of the element which the field refers to,
`Float` or `Answer`, nor the one that is written on the field, `String`.
-/
theorem not_designates_clashing :
    DistinctIds clashing.model ∧ (clashing.run.outcome .initial).1 = .ok clashingStore ∧
      clashing.IsTyped clashingStore (referring "size" "Long") "Long" ∧
      clashing.IsTyped clashingStore (referring "reply" "Boolean") "Boolean" ∧
      clashing.IsTyped clashingStore (writtenOn "title" "String") "Integer" := by
  have distinct : DistinctIds clashing.model := by decide +kernel
  have read : (clashing.run.outcome .initial).1.toBool = true ∧
      clashingStore.fieldTypeName (some "size") = .ok "Long" ∧
      clashingStore.fieldTypeName (some "reply") = .ok "Boolean" ∧
      clashingStore.fieldTypeName (some "title") = .ok "Integer" := by decide +kernel
  obtain ⟨done, size, reply, title⟩ := read
  exact ⟨distinct, clashing.run_outcome_eq_ok done, ⟨.head _, "size", rfl, size⟩,
    ⟨.tail _ (.tail _ (.head _)), "reply", rfl, reply⟩,
    ⟨.tail _ (.tail _ (.tail _ (.head _))), "title", rfl, title⟩⟩

end Ingestion

end ClassDiagram
