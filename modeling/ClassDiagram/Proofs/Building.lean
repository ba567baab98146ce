import ClassDiagram.Proofs.Lookups
import ClassDiagram.Proofs.Loops
import ClassDiagram.Proofs.Stores

/-!
# What elements become

Each kind of element is related to the entity it stands for.  A builder that
succeeds has found this relation, and where the relation holds a builder does
no more than add the entity.
-/

namespace ClassDiagram

open Step (bind_eq_ok bind_eq_ok_of_reads bind_of_ok lift_bind_eq_ok lift_eq_ok)
open Xml (Node)

/-! ## Drafts -/

theorem orFault_eq_ok {α : Type} {kind : EntityKind} {check : Check α} {value : α} :
    check.orFault kind = .ok value ↔ check = .ok value := by
  cases check <;> simp [Check.orFault]

theorem Check.optionalText_of_offer {draft : Draft} {part : String} {value : Option String}
    (offered : draft.offer part = .ofOption value) :
    Check.optionalText draft part = .ok value := by
  rw [Check.optionalText, offered]
  cases value <;> rfl

theorem ScalarType.ofDraft_eq (id name : String) :
    ScalarType.ofDraft (Typing.draft id name) =
      if Text.isCapitalized name then .ok ⟨id, name⟩
      else Check.fail "name" (.notCapitalized name) := by
  change (Check.both (.ok id) (if Text.isCapitalized name then _ else _)).map _ = _
  cases Text.isCapitalized name <;> rfl

theorem ScalarType.ofDraft_eq_ok {id name : String} {type : ScalarType} :
    ScalarType.ofDraft (Typing.draft id name) = .ok type ↔
      Text.isCapitalized name = true ∧ type = ⟨id, name⟩ := by
  rw [ofDraft_eq]
  cases Text.isCapitalized name <;> simp [Check.fail, eq_comm]

theorem Class.ofDraft_eq (id comment : Option String) (name : String) :
    Class.ofDraft (Classes.draft id name comment) =
      id.elim (Check.fail "id" .notText) fun key => .ok ⟨key, name, comment, []⟩ := by
  cases id <;> cases comment <;> rfl

theorem Class.ofDraft_eq_ok {id comment : Option String} {name : String} {entity : Class} :
    Class.ofDraft (Classes.draft id name comment) = .ok entity ↔
      ∃ key, id = some key ∧ entity = ⟨key, name, comment, []⟩ := by
  rw [ofDraft_eq]
  cases id <;> simp [Check.fail, eq_comm]

theorem Field.ofDraft_eq (id comment : Option String) {name : String} (typeId owner : String)
    (filled : name ≠ "") :
    Field.ofDraft (Classes.fieldDraft id name typeId owner comment) =
      id.elim (Check.fail "id" .notText) fun key =>
        .ok ⟨key, Text.decapitalize name, typeId, owner, comment⟩ := by
  have named : Check.fieldName (Classes.fieldDraft id name typeId owner comment) =
      .ok (Text.decapitalize name) := by
    change (if name.isEmpty then _ else _) = _
    rw [if_neg (by simpa using filled)]
  unfold Field.ofDraft
  rw [named]
  cases id <;> cases comment <;> rfl

theorem Field.ofDraft_eq_ok {id comment : Option String} {name typeId owner : String}
    {field : Field} (filled : name ≠ "") :
    Field.ofDraft (Classes.fieldDraft id name typeId owner comment) = .ok field ↔
      ∃ key, id = some key ∧
        field = ⟨key, Text.decapitalize name, typeId, owner, comment⟩ := by
  rw [ofDraft_eq id comment typeId owner filled]
  cases id <;> simp [Check.fail, eq_comm]

theorem Association.ofDraft_eq (id name first second firstComment secondComment : Option String)
    (source destination : String) (cardinality : Cardinality) :
    Association.ofDraft (Associations.draft id name source destination cardinality first second
        firstComment secondComment) =
      id.elim (Check.fail "id" .notText) fun key => .ok ⟨key, name, source, destination,
        cardinality, first, second, firstComment, secondComment⟩ := by
  generalize offered : Associations.draft id name source destination cardinality first second
    firstComment secondComment = draft
  have named : Check.optionalText draft "name" = .ok name :=
    Check.optionalText_of_offer (by rw [← offered]; rfl)
  have linked : Check.cardinality draft "relationship_type" = .ok cardinality := by
    rw [← offered]
    cases cardinality <;> rfl
  have firstNamed : Check.optionalText draft "injected_field_in_source" = .ok first :=
    Check.optionalText_of_offer (by rw [← offered]; rfl)
  have secondNamed : Check.optionalText draft "injected_field_in_destination" = .ok second :=
    Check.optionalText_of_offer (by rw [← offered]; rfl)
  have firstDocumented : Check.optionalText draft "comment_in_source" = .ok firstComment :=
    Check.optionalText_of_offer (by rw [← offered]; rfl)
  have secondDocumented : Check.optionalText draft "comment_in_destination" = .ok secondComment :=
    Check.optionalText_of_offer (by rw [← offered]; rfl)
  unfold Association.ofDraft
  rw [named, linked, firstNamed, secondNamed, firstDocumented, secondDocumented]
  subst offered
  cases id <;> rfl

theorem Association.ofDraft_eq_ok {id name first second firstComment secondComment : Option String}
    {source destination : String} {cardinality : Cardinality} {association : Association} :
    Association.ofDraft (Associations.draft id name source destination cardinality first second
        firstComment secondComment) = .ok association ↔
      ∃ key, id = some key ∧ association = ⟨key, name, source, destination, cardinality, first,
        second, firstComment, secondComment⟩ := by
  rw [ofDraft_eq]
  cases id <;> simp [Check.fail, eq_comm]

theorem Enumeration.ofDraft_eq (id : Option String) (name : String) (values : List String) :
    Enumeration.ofDraft (Enumerations.draft id name values) =
      id.elim (Check.fail "id" .notText) fun key => .ok ⟨key, name, values⟩ := by
  have listed : Check.texts (Enumerations.draft id name values) "values" = .ok values := by
    rw [← Check.items_some "values" 0 values]
    cases id <;> rfl
  unfold Enumeration.ofDraft
  rw [listed]
  cases id <;> rfl

theorem Enumeration.ofDraft_eq_ok {id : Option String} {name : String} {values : List String}
    {enumeration : Enumeration} :
    Enumeration.ofDraft (Enumerations.draft id name values) = .ok enumeration ↔
      ∃ key, id = some key ∧ enumeration = ⟨key, name, values⟩ := by
  rw [ofDraft_eq]
  cases id <;> simp [Check.fail, eq_comm]

/-! ## Scalar types -/

theorem Registry.contains_of_canonical {registry : Registry} {name : Option String}
    {canonical : String} (known : registry.canonical name = .ok canonical) :
    registry.contains name = true := by
  cases name with
  | none => cases known
  | some name =>
      unfold Registry.canonical at known
      dsimp only at known
      split at known
      · assumption
      · cases known

namespace Typing

variable {registry : Registry} {p q : Progress}

theorem canonicalName_eq_ok {name : Option String} {canonical : String} :
    canonicalName registry name p = .ok canonical q ↔
      registry.canonical name = .ok canonical ∧ q = p := by
  unfold canonicalName
  cases known : registry.contains name with
  | true => exact lift_eq_ok
  | false =>
      constructor
      · intro impossible
        cases impossible
      · rintro ⟨found, _⟩
        cases known.symm.trans (Registry.contains_of_canonical found)

structure Declares (registry : Registry) (node : Node) (type : ScalarType) : Prop where
  known : registry.canonical (node.plain? "name") = .ok type.name
  capitalized : Text.isCapitalized type.name = true
  id_eq : type.id = declaredId node type.name

/-- A type element that declares a type adds it, and does nothing else. -/
theorem declare_eq_ok {node : Node} (done : declare registry node p = .ok () q) :
    ∃ type journal, Declares registry node type ∧ q = { p with
      store := { p.store with types := p.store.types.insert type.id type }, journal } := by
  unfold declare at done
  obtain ⟨canonical, known, rest⟩ := (bind_eq_ok_of_reads fun _ _ => canonicalName_eq_ok).mp done
  obtain ⟨type, drafted, added⟩ := lift_bind_eq_ok.mp rest
  obtain ⟨capitalized, rfl⟩ := ScalarType.ofDraft_eq_ok.mp (orFault_eq_ok.mp drafted)
  obtain ⟨store, taken, rfl⟩ := Step.change_tell_eq_ok.mp added
  obtain ⟨_, rfl⟩ := Store.addType_eq_ok.mp taken
  exact ⟨_, _, ⟨known, capitalized, rfl⟩, rfl⟩

theorem Declares.declare_apply {node : Node} {type : ScalarType}
    (declares : Declares registry node type) (p : Progress) :
    declare registry node p = (Step.change (Store.addType type) >>= fun _ =>
      Step.tell (.typeRegistered type.id type.name)) p := by
  unfold declare
  rw [bind_of_ok (canonicalName_eq_ok.mpr ⟨declares.known, rfl⟩), ← declares.id_eq,
    bind_of_ok (lift_eq_ok.mpr ⟨orFault_eq_ok.mpr
      (ScalarType.ofDraft_eq_ok.mpr ⟨declares.capitalized, rfl⟩), rfl⟩)]

def reference? (field : Node) : Option String := (field.plain? "type").filter (!·.isEmpty)

theorem referred?_eq_some {store : Store} {enumerations : List (Option String)} {field : Node}
    {id : String} :
    referred? store enumerations field = some id ↔
      reference? field = some id ∧ (store.types.contains id = true ∨ some id ∈ enumerations) := by
  unfold referred? reference?
  rw [Option.filter_eq_some_iff, Option.filter_eq_some_iff, Bool.and_eq_true, Bool.or_eq_true,
    List.contains_iff_mem, and_assoc]
  rfl

/-- A scalar type under its own canonical name is there afterwards, and was added if need be. -/
def learn (types : Table String ScalarType) (canonical : String) : Table String ScalarType :=
  if types.contains canonical then types else types.insert canonical ⟨canonical, canonical⟩

theorem infer_eq_ok {canonical : String} {field : Option String}
    (done : infer canonical field p = .ok () q) :
    (p.store.types.contains canonical = true ∨ Text.isCapitalized canonical = true) ∧
      ∃ journal, q = { p with
        store := { p.store with types := learn p.store.types canonical }, journal } := by
  unfold infer at done
  rw [Step.store_bind_apply] at done
  unfold learn
  cases known : p.store.types.contains canonical with
  | true =>
      rw [Store.hasType, Option.any_some, known] at done
      cases done
      exact ⟨Or.inl rfl, p.journal, rfl⟩
  | false =>
      rw [Store.hasType, Option.any_some, known] at done
      obtain ⟨type, drafted, added⟩ := lift_bind_eq_ok.mp done
      obtain ⟨capitalized, rfl⟩ := ScalarType.ofDraft_eq_ok.mp (orFault_eq_ok.mp drafted)
      obtain ⟨store, taken, rfl⟩ := Step.change_tell_eq_ok.mp added
      obtain ⟨_, rfl⟩ := Store.addType_eq_ok.mp taken
      exact ⟨Or.inr capitalized, _, rfl⟩

theorem infer_of_fits {canonical : String} (field : Option String) (opened : p.store.IsOpen)
    (fits : p.store.types.contains canonical = true ∨ Text.isCapitalized canonical = true) :
    ∃ journal, infer canonical field p = .ok () { p with
      store := { p.store with types := learn p.store.types canonical }, journal } := by
  unfold infer learn
  rw [Step.store_bind_apply]
  cases known : p.store.types.contains canonical with
  | true =>
      rw [Store.hasType, Option.any_some, known]
      exact ⟨p.journal, rfl⟩
  | false =>
      have capitalized : Text.isCapitalized canonical = true := by
        rw [known] at fits
        exact fits.resolve_left Bool.false_ne_true
      rw [Store.hasType, Option.any_some, known]
      have drafted : (ScalarType.ofDraft (draft canonical canonical)).orFault .scalarType =
          .ok ⟨canonical, canonical⟩ :=
        orFault_eq_ok.mpr (ScalarType.ofDraft_eq_ok.mpr ⟨capitalized, rfl⟩)
      exact ⟨_, lift_bind_eq_ok.mpr ⟨_, drafted, Step.change_tell_eq_ok.mpr
        ⟨_, Store.addType_eq_ok.mpr ⟨opened, rfl⟩, rfl⟩⟩⟩

/-- How a field comes by its type, where `known` tells which scalar types are there. -/
inductive Chooses (registry : Registry) (enumerations : List (Option String))
    (known : String → Prop) (field : Node) (typeId : String) : Prop where
  /-- It refers to a scalar type that is there, or to an enumeration that is awaited. -/
  | referred (refers : reference? field = some typeId)
      (there : known typeId ∨ some typeId ∈ enumerations)
  /-- It has the name of a scalar type written on it. -/
  | written (unknown : ∀ id, reference? field = some id → ¬ (known id ∨ some id ∈ enumerations))
      (name : ∃ name, inlineType field = .ok name ∧ registry.canonical name = .ok typeId)
      (fits : known typeId ∨ Text.isCapitalized typeId = true)

def typesAfter (enumerations : List (Option String)) (field : Node)
    (types : Table String ScalarType) (typeId : String) : Table String ScalarType :=
  if reference? field = some typeId ∧ some typeId ∈ enumerations then types
  else learn types typeId

/--
A field is typed by a scalar type that is there or by an enumeration that is
awaited, and it adds no scalar type but one under its canonical name.
-/
structure Resolves (registry : Registry) (enumerations : List (Option String)) (field : Node)
    (before after : Table String ScalarType) (typeId : String) : Prop where
  chooses : Chooses registry enumerations (before.contains · = true) field typeId
  after_eq : after = typesAfter enumerations field before typeId

theorem contains_learn (types : Table String ScalarType) (canonical other : String) :
    (learn types canonical).contains other = true ↔
      types.contains other = true ∨ canonical = other := by
  unfold learn
  split
  · rename_i known
    constructor
    · exact Or.inl
    · rintro (old | rfl)
      · exact old
      · exact known
  · rw [Table.contains_insert, or_comm]

/-- A field that refers to what is there adds no scalar type. -/
theorem typesAfter_of_referred {enumerations : List (Option String)} {field : Node}
    {types : Table String ScalarType} {typeId : String} (refers : reference? field = some typeId)
    (there : types.contains typeId = true ∨ some typeId ∈ enumerations) :
    typesAfter enumerations field types typeId = types := by
  unfold typesAfter learn
  rcases there with known | awaited
  · rw [known, if_pos rfl, ite_self]
  · rw [if_pos ⟨refers, awaited⟩]

namespace Resolves

variable {enumerations : List (Option String)} {field : Node}
  {before after : Table String ScalarType} {typeId : String}
  (resolves : Resolves registry enumerations field before after typeId)
include resolves

theorem found : after.contains typeId = true ∨ some typeId ∈ enumerations := by
  rw [resolves.after_eq]
  unfold typesAfter
  split
  · rename_i awaited
    exact Or.inr awaited.2
  · exact Or.inl ((contains_learn before typeId typeId).mpr (Or.inr rfl))

theorem added : after = before ∨ before.contains typeId = false ∧
    typeId ∈ registry.types.values ∧ after = before.insert typeId ⟨typeId, typeId⟩ := by
  have after_eq := resolves.after_eq
  unfold typesAfter learn at after_eq
  split at after_eq
  · exact Or.inl after_eq
  · rename_i unawaited
    split at after_eq
    · exact Or.inl after_eq
    · rename_i absent
      cases resolves.chooses with
      | referred refers there =>
          rcases there with known | awaited
          · exact absurd known absent
          · exact absurd ⟨refers, awaited⟩ unawaited
      | written _ name _ =>
          obtain ⟨_, _, known⟩ := name
          exact Or.inr ⟨Bool.eq_false_iff.mpr absent, canonical_mem_values known, after_eq⟩

end Resolves

theorem resolve_eq_ok {enumerations : List (Option String)} {owner typeId : String} {field : Node}
    (done : resolve registry enumerations owner field p = .ok typeId q) :
    ∃ types journal, Resolves registry enumerations field p.store.types types typeId ∧
      q = { p with store := { p.store with types }, journal } := by
  unfold resolve at done
  rw [Step.store_bind_apply] at done
  cases found : referred? p.store enumerations field with
  | some id =>
      rw [found] at done
      cases done
      obtain ⟨refers, there⟩ := referred?_eq_some.mp found
      exact ⟨p.store.types, p.journal,
        ⟨.referred refers there, (typesAfter_of_referred refers there).symm⟩, rfl⟩
  | none =>
      rw [found] at done
      have unknown (id : String) (refers : reference? field = some id) :
          ¬ (p.store.types.contains id = true ∨ some id ∈ enumerations) := by
        intro there
        cases found.symm.trans (referred?_eq_some.mpr ⟨refers, there⟩)
      obtain ⟨name, inline, rest⟩ := lift_bind_eq_ok.mp done
      split at rest
      · obtain ⟨canonical, known, rest⟩ := lift_bind_eq_ok.mp rest
        obtain ⟨_, r, inferred, last⟩ := bind_eq_ok.mp rest
        cases last
        obtain ⟨fits, journal, rfl⟩ := infer_eq_ok inferred
        refine ⟨_, journal, ⟨.written unknown ⟨name, inline, known⟩ fits, ?_⟩, rfl⟩
        unfold typesAfter
        rw [if_neg fun awaited => unknown _ awaited.1 (Or.inr awaited.2)]
      · cases rest

/-- A field that comes by a type is resolved in an open store. -/
theorem Resolves.resolve {enumerations : List (Option String)} {field : Node}
    {after : Table String ScalarType} {typeId : String}
    (resolves : Resolves registry enumerations field p.store.types after typeId)
    (opened : p.store.IsOpen) (owner : String) :
    ∃ journal, resolve registry enumerations owner field p = .ok typeId { p with
      store := { p.store with types := after }, journal } := by
  unfold Typing.resolve
  rw [Step.store_bind_apply, resolves.after_eq]
  cases resolves.chooses with
  | referred refers there =>
      rw [referred?_eq_some.mpr ⟨refers, there⟩, typesAfter_of_referred refers there]
      exact ⟨p.journal, rfl⟩
  | written unknown name fits =>
      have absent : referred? p.store enumerations field = none := by
        rw [Option.eq_none_iff_forall_ne_some]
        intro id found
        obtain ⟨refers, there⟩ := referred?_eq_some.mp found
        exact unknown id refers there
      obtain ⟨name, inline, known⟩ := name
      obtain ⟨journal, inferred⟩ := infer_of_fits (id? field) opened fits
      refine ⟨journal, ?_⟩
      unfold typesAfter
      rw [absent, if_neg fun awaited => unknown _ awaited.1 (Or.inr awaited.2)]
      refine lift_bind_eq_ok.mpr ⟨name, inline, ?_⟩
      rw [if_pos (Registry.contains_of_canonical known)]
      exact lift_bind_eq_ok.mpr ⟨typeId, known, bind_eq_ok.mpr ⟨(), _, inferred, rfl⟩⟩

end Typing

/-! ## Classes and fields -/

namespace Classes

variable {p q : Progress}

theorem requireTitle_eq_ok {what name : String} {node : Node} :
    requireTitle what node p = .ok name q ↔ title? node = some name ∧ q = p := by
  unfold requireTitle
  cases title? node with
  | some found =>
      change EStateM.Result.ok found p = _ ↔ _
      simp [eq_comm]
  | none =>
      constructor
      · intro impossible
        cases impossible
      · rintro ⟨⟨⟩, _⟩

structure Heads (node : Node) (entity : Class) : Prop where
  id_eq : id? node = some entity.id
  titled : title? node = some entity.name
  documented : documentation node = .ok entity.comment
  bare : entity.fields = []

theorem addClass_eq_ok {node : Node} {id : String} (done : addClass node p = .ok id q) :
    ∃ entity journal, Heads node entity ∧ id = entity.id ∧ q = { p with
      store := { p.store with
        classes := p.store.classes.insert entity.id entity
        userClass := if Store.isUserName entity.name then some entity.id else p.store.userClass }
      journal } := by
  unfold addClass at done
  obtain ⟨name, titled, rest⟩ := (bind_eq_ok_of_reads fun _ _ => requireTitle_eq_ok).mp done
  obtain ⟨comment, documented, rest⟩ := lift_bind_eq_ok.mp rest
  obtain ⟨_, drafted, added⟩ := lift_bind_eq_ok.mp rest
  obtain ⟨key, id_eq, rfl⟩ := Class.ofDraft_eq_ok.mp (orFault_eq_ok.mp drafted)
  obtain ⟨_, _, changed, rest⟩ := bind_eq_ok.mp added
  obtain ⟨store, taken, rfl⟩ := Step.change_eq_ok.mp changed
  obtain ⟨_, rfl⟩ := Store.addClass_eq_ok.mp taken
  cases rest
  exact ⟨_, _, ⟨id_eq, titled, documented, rfl⟩, rfl, rfl⟩

theorem Heads.addClass_apply {node : Node} {entity : Class} (heads : Heads node entity)
    (p : Progress) :
    addClass node p = (Step.change (Store.addClass entity) >>= fun _ =>
      Step.tell (.classAdded entity.name entity.id) >>= fun _ => pure entity.id) p := by
  obtain ⟨id, name, comment, fields⟩ := entity
  obtain ⟨id_eq, titled, documented, bare⟩ := heads
  cases bare
  unfold addClass
  rw [bind_of_ok (requireTitle_eq_ok.mpr ⟨titled, rfl⟩),
    bind_of_ok (lift_eq_ok.mpr ⟨documented, rfl⟩),
    bind_of_ok (lift_eq_ok.mpr ⟨orFault_eq_ok.mpr (Class.ofDraft_eq_ok.mpr ⟨_, id_eq, rfl⟩), rfl⟩)]

theorem Heads.addClass_of_isOpen {node : Node} {entity : Class} (heads : Heads node entity)
    (opened : p.store.IsOpen) :
    ∃ journal, addClass node p = .ok entity.id { p with
      store := { p.store with
        classes := p.store.classes.insert entity.id entity
        userClass := if Store.isUserName entity.name then some entity.id else p.store.userClass }
      journal } := by
  refine ⟨p.journal ++ [⟨.classAdded entity.name entity.id, none⟩], ?_⟩
  rw [heads.addClass_apply]
  exact bind_eq_ok.mpr
    ⟨(), _, Step.change_eq_ok.mpr ⟨_, Store.addClass_eq_ok.mpr ⟨opened, rfl⟩, rfl⟩, rfl⟩

structure IsField (owner : String) (node : Node) (field : Field) : Prop where
  id_eq : id? node = some field.id
  titled : (title? node).map Text.decapitalize = some field.name
  documented : documentation node = .ok field.comment
  owner_eq : field.classId = owner

/-- A field goes to the fields of its class, which is there, after its type has been found. -/
theorem addField_eq_ok {registry : Registry} {enumerations : List (Option String)}
    {owner : String} {node : Node}
    (done : addField registry enumerations owner node p = .ok () q) :
    ∃ field entity types journal, IsField owner node field ∧
      Typing.Resolves registry enumerations node p.store.types types field.typeId ∧
      p.store.classes.get? owner = some entity ∧
      q = { p with
        store := { p.store with
          types
          fields := p.store.fields.insert field.id field
          classes := p.store.classes.insert entity.id
            { entity with fields := entity.fields ++ [field.id] } }
        journal } := by
  unfold addField at done
  obtain ⟨name, titled, rest⟩ := (bind_eq_ok_of_reads fun _ _ => requireTitle_eq_ok).mp done
  obtain ⟨typeId, r, typed, rest⟩ := bind_eq_ok.mp rest
  obtain ⟨types, journal, resolves, rfl⟩ := Typing.resolve_eq_ok typed
  obtain ⟨comment, documented, rest⟩ := lift_bind_eq_ok.mp rest
  obtain ⟨field, drafted, added⟩ := lift_bind_eq_ok.mp rest
  rw [orFault_eq_ok, Field.ofDraft_eq_ok (title?_ne_empty titled)] at drafted
  obtain ⟨key, id_eq, rfl⟩ := drafted
  obtain ⟨store, taken, rfl⟩ := Step.change_tell_eq_ok.mp added
  obtain ⟨_, entity, found, rfl⟩ := Store.addField_eq_ok.mp taken
  refine ⟨_, entity, types, _, ⟨id_eq, ?_, documented, rfl⟩, resolves, found, rfl⟩
  rw [titled]
  rfl

/-- An attribute that stands for a field becomes a field of a class that is there. -/
theorem IsField.addField {registry : Registry} {enumerations : List (Option String)}
    {owner : String} {node : Node} {field : Field} {entity : Class}
    {types : Table String ScalarType} (isField : IsField owner node field)
    (resolves : Typing.Resolves registry enumerations node p.store.types types field.typeId)
    (found : p.store.classes.get? owner = some entity) (opened : p.store.IsOpen) :
    ∃ journal, addField registry enumerations owner node p = .ok () { p with
      store := { p.store with
        types
        fields := p.store.fields.insert field.id field
        classes := p.store.classes.insert entity.id
          { entity with fields := entity.fields ++ [field.id] } }
      journal } := by
  obtain ⟨title, titled, lowered⟩ := Option.map_eq_some_iff.mp isField.titled
  have shape : field =
      ⟨field.id, Text.decapitalize title, field.typeId, owner, field.comment⟩ := by
    rw [lowered, ← isField.owner_eq]
  have drafted : (Field.ofDraft (fieldDraft (id? node) title field.typeId owner
      field.comment)).orFault .field = .ok field :=
    orFault_eq_ok.mpr
      ((Field.ofDraft_eq_ok (title?_ne_empty titled)).mpr ⟨field.id, isField.id_eq, shape⟩)
  obtain ⟨journal, resolved⟩ := resolves.resolve opened owner
  rw [← isField.owner_eq] at found
  have opened' : { p.store with types }.IsOpen := ⟨opened.unfailed, opened.unfrozen⟩
  refine ⟨journal ++ [⟨.fieldAdded field.name field.typeId owner, none⟩], ?_⟩
  refine bind_eq_ok.mpr ⟨title, p, requireTitle_eq_ok.mpr ⟨titled, rfl⟩, ?_⟩
  refine bind_eq_ok.mpr ⟨field.typeId, _, resolved, ?_⟩
  refine lift_bind_eq_ok.mpr ⟨field.comment, isField.documented, ?_⟩
  exact lift_bind_eq_ok.mpr ⟨field, drafted, Step.change_tell_eq_ok.mpr
    ⟨_, Store.addField_eq_ok.mpr ⟨opened', entity, found, rfl⟩, rfl⟩⟩

/-- An attribute is kept as an end, or it becomes a field. -/
theorem addAttribute_eq_ok {registry : Registry} {enumerations : List (Option String)}
    {owner : String} {node : Node}
    (done : addAttribute registry enumerations owner node p = .ok () q) :
    isEnd node = true ∧ q = { p with ends := p.ends.insert (id? node) ⟨owner, node⟩ } ∨
      isEnd node = false ∧ addField registry enumerations owner node p = .ok () q := by
  unfold addAttribute at done
  cases kept : isEnd node with
  | true =>
      rw [kept] at done
      cases done
      exact Or.inl ⟨rfl, rfl⟩
  | false =>
      rw [kept] at done
      exact Or.inr ⟨rfl, done⟩

/-- A class element that is read becomes a class, and then its attributes are read. -/
theorem add_eq_ok {registry : Registry} {enumerations : List (Option String)} {node : Node}
    (done : add registry enumerations node p = .ok () q) :
    ∃ id r, addClass node p = .ok id r ∧ (node.select "ownedAttribute").cut = false ∧
      Step.each (addAttribute registry enumerations id) (node.select "ownedAttribute").found r =
        .ok () q := by
  unfold add at done
  obtain ⟨id, r, headed, rest⟩ := bind_eq_ok.mp done
  have members := Step.repairing_eq_ok.mp rest
  unfold addMembers at members
  rw [addAttributes_eq_each] at members
  obtain ⟨_, s, read, last⟩ := bind_eq_ok.mp members
  split at last
  · cases last
  · rename_i whole
    cases last
    exact ⟨id, r, headed, Bool.eq_false_iff.mpr whole, read⟩

end Classes

/-! ## Associations -/

namespace Associations

variable {p q : Progress}

theorem pairOfEnds_eq_ok {association : Node} {ids : List String} {pair : String × String} :
    pairOfEnds association ids p = .ok pair q ↔ ids = [pair.1, pair.2] ∧ q = p := by
  unfold pairOfEnds
  split
  · rename_i first second
    constructor
    · intro done
      cases done
      exact ⟨rfl, rfl⟩
    · rintro ⟨⟨⟩, rfl⟩
      rfl
  · rename_i other
    constructor
    · intro impossible
      cases impossible
    · rintro ⟨same, _⟩
      exact absurd same (other _ _)

def endWith (ends : Table (Option String) ClassEnd) (node : Node) (id : String) : Option Node :=
  ((ownedEnds (node.select "ownedEnd").found).get? (some id)).or
    ((ends.get? (some id)).map ClassEnd.node)

theorem findEnd_eq_ok {node found : Node} {association : Option String} {id : String} :
    findEnd (ownedEnds (node.select "ownedEnd").found) association id p = .ok found q ↔
      endWith p.ends node id = some found ∧ q = p := by
  unfold findEnd endWith
  cases (ownedEnds (node.select "ownedEnd").found).get? (some id) with
  | some held =>
      change EStateM.Result.ok held p = _ ↔ _
      simp [eq_comm (a := p)]
  | none =>
      cases declared : p.ends.get? (some id) with
      | some kept =>
          rw [Option.none_or, Option.map_some]
          constructor
          · intro looked
            obtain ⟨_, _, ⟨⟩, rest⟩ := bind_eq_ok.mp looked
            rw [declared] at rest
            cases rest
            exact ⟨rfl, rfl⟩
          · rintro ⟨⟨⟩, rfl⟩
            refine bind_eq_ok.mpr ⟨q, q, rfl, ?_⟩
            rw [declared]
            rfl
      | none =>
          rw [Option.none_or, Option.map_none]
          constructor
          · intro looked
            obtain ⟨_, _, ⟨⟩, rest⟩ := bind_eq_ok.mp looked
            rw [declared] at rest
            cases rest
          · rintro ⟨⟨⟩, _⟩

/-- An end that stands neither inside the association nor in a class is refused. -/
theorem findEnd_of_missing {node : Node} {id : String} (missing : endWith p.ends node id = none)
    (association : Option String) :
    findEnd (ownedEnds (node.select "ownedEnd").found) association id p =
      .error (.ingest (.unresolved (.text id) (.text "association end")
        (.ofOption association))) p := by
  obtain ⟨owned, declared⟩ := Option.or_eq_none_iff.mp missing
  unfold findEnd
  rw [owned]
  refine (bind_of_ok (Step.get_apply p) _).trans ?_
  rw [Option.map_eq_none_iff.mp declared]
  rfl

def typed? (side : Node) : Option String := (side.plain? "type").filter (!·.isEmpty)

theorem endClass_eq_ok {association : Option String} {side : Node} {id : String} :
    endClass association side p = .ok id q ↔
      (typed? side = some id ∧ p.store.classes.contains id = true) ∧ q = p := by
  unfold endClass typed?
  cases (side.plain? "type").filter (!·.isEmpty) with
  | none =>
      constructor
      · intro impossible
        cases impossible
      · rintro ⟨⟨⟨⟩, _⟩, _⟩
  | some owner =>
      change (if p.store.classes.contains owner = true then _ else _ : Step String) p = _ ↔ _
      split
      · rename_i present
        constructor
        · intro done
          cases done
          exact ⟨⟨rfl, present⟩, rfl⟩
        · rintro ⟨⟨⟨⟩, _⟩, rfl⟩
          rfl
      · rename_i absent
        constructor
        · intro impossible
          cases impossible
        · rintro ⟨⟨⟨⟩, present⟩, _⟩
          exact absurd present absent

/-- Whether an end allows many objects is told at most, and changes nothing else. -/
theorem sideIsMany_apply (side : Node) (p : Progress) :
    match isMany side with
    | .ok many => ∃ journal, sideIsMany side p = .ok many { p with journal }
    | .error fault => sideIsMany side p = .error fault p := by
  unfold sideIsMany isMany
  cases upperBound side with
  | error fault => rfl
  | ok bound => cases bound <;> exact ⟨_, rfl⟩

theorem cardinality_apply (first second : Node) (p : Progress) :
    match cardinalityBetween first second with
    | .ok found => ∃ journal, cardinality first second p = .ok found { p with journal }
    | .error fault => ∃ journal, cardinality first second p = .error fault { p with journal } := by
  unfold cardinality cardinalityBetween
  have destinations := sideIsMany_apply first p
  cases left : isMany first with
  | error fault =>
      rw [left] at destinations
      refine ⟨p.journal, ?_⟩
      rw [Step.bind_apply, destinations]
  | ok manyDestinations =>
      rw [left] at destinations
      obtain ⟨journal, destinations⟩ := destinations
      have sources := sideIsMany_apply second { p with journal }
      cases right : isMany second with
      | error fault =>
          rw [right] at sources
          refine ⟨journal, ?_⟩
          rw [Step.bind_apply, destinations]
          dsimp only
          rw [Step.bind_apply, sources]
      | ok manySources =>
          rw [right] at sources
          obtain ⟨journal', sources⟩ := sources
          refine ⟨journal', ?_⟩
          rw [Step.bind_apply, destinations]
          dsimp only
          rw [Step.bind_apply, sources]
          rfl

/--
An association element joins the classes of two ends, where ends are looked
for inside it and among those that classes declare.
-/
structure Joins (ends : Table (Option String) ClassEnd) (classes : Table String Class)
    (node : Node) (ids : List String) (first second : Node) (association : Association) :
    Prop where
  whole : (node.select "ownedEnd").cut = false
  pair : ∃ firstId secondId, ids = [firstId, secondId] ∧
    endWith ends node firstId = some first ∧ endWith ends node secondId = some second
  source : typed? second = some association.sourceId
  source_mem : classes.contains association.sourceId = true
  destination : typed? first = some association.destinationId
  destination_mem : classes.contains association.destinationId = true
  related : cardinalityBetween first second = .ok association.cardinality
  firstDocumented : documentation first = .ok association.commentInSource
  secondDocumented : documentation second = .ok association.commentInDestination
  id_eq : id? node = some association.id
  name_eq : association.name = title? node
  first_eq : association.fieldInSource = title? first
  second_eq : association.fieldInDestination = title? second

theorem build_eq_ok {node : Node} {ids : List String} {association : Association}
    (done : build node ids p = .ok association q) :
    ∃ first second, Joins p.ends p.store.classes node ids first second association ∧
      ∃ journal, q = { p with journal } := by
  unfold build at done
  obtain ⟨⟨firstId, secondId⟩, paired, rest⟩ :=
    (bind_eq_ok_of_reads fun _ _ => pairOfEnds_eq_ok).mp done
  obtain ⟨owned, selected, rest⟩ := lift_bind_eq_ok.mp rest
  obtain ⟨whole, rfl⟩ := allOf_eq_ok.mp selected
  obtain ⟨first, firstFound, rest⟩ := (bind_eq_ok_of_reads fun _ _ => findEnd_eq_ok).mp rest
  obtain ⟨second, secondFound, rest⟩ := (bind_eq_ok_of_reads fun _ _ => findEnd_eq_ok).mp rest
  obtain ⟨source, ⟨sourced, source_mem⟩, rest⟩ :=
    (bind_eq_ok_of_reads fun _ _ => endClass_eq_ok).mp rest
  obtain ⟨destination, ⟨destined, destination_mem⟩, rest⟩ :=
    (bind_eq_ok_of_reads fun _ _ => endClass_eq_ok).mp rest
  obtain ⟨found, r, counted, rest⟩ := bind_eq_ok.mp rest
  obtain ⟨firstComment, firstDocumented, rest⟩ := lift_bind_eq_ok.mp rest
  obtain ⟨secondComment, secondDocumented, rest⟩ := lift_bind_eq_ok.mp rest
  obtain ⟨drafted, rfl⟩ := lift_eq_ok.mp rest
  obtain ⟨key, id_eq, rfl⟩ := Association.ofDraft_eq_ok.mp (orFault_eq_ok.mp drafted)
  have related := cardinality_apply first second p
  cases between : cardinalityBetween first second with
  | error fault =>
      rw [between] at related
      obtain ⟨journal, failed⟩ := related
      cases failed.symm.trans counted
  | ok cardinality =>
      rw [between] at related
      obtain ⟨journal, told⟩ := related
      cases told.symm.trans counted
      exact ⟨first, second, ⟨whole, ⟨firstId, secondId, paired, firstFound, secondFound⟩,
        sourced, source_mem, destined, destination_mem, between, firstDocumented,
        secondDocumented, id_eq, rfl, rfl, rfl⟩, journal, rfl⟩

/-- Where both ends are found, typed and readable, all that is left to check is the draft. -/
theorem build_of_sides {node first second : Node} {firstId secondId source destination : String}
    {cardinality : Cardinality} {firstComment secondComment : Option String}
    (whole : (node.select "ownedEnd").cut = false)
    (firstFound : endWith p.ends node firstId = some first)
    (secondFound : endWith p.ends node secondId = some second)
    (sourced : typed? second = some source ∧ p.store.classes.contains source = true)
    (destined : typed? first = some destination ∧ p.store.classes.contains destination = true)
    (related : cardinalityBetween first second = .ok cardinality)
    (firstDocumented : documentation first = .ok firstComment)
    (secondDocumented : documentation second = .ok secondComment) :
    ∃ journal, build node [firstId, secondId] p =
      Step.lift ((Association.ofDraft (draft (id? node) (title? node) source destination
        cardinality (title? first) (title? second) firstComment secondComment)).orFault
          .association) { p with journal } := by
  have counted := cardinality_apply first second p
  rw [related] at counted
  obtain ⟨journal, told⟩ := counted
  refine ⟨journal, ?_⟩
  have paired : pairOfEnds node [firstId, secondId] p = .ok (firstId, secondId) p := rfl
  unfold build
  rw [bind_of_ok paired]
  dsimp only
  rw [bind_of_ok (lift_eq_ok.mpr ⟨allOf_eq_ok.mpr ⟨whole, rfl⟩, rfl⟩),
    bind_of_ok (findEnd_eq_ok.mpr ⟨firstFound, rfl⟩),
    bind_of_ok (findEnd_eq_ok.mpr ⟨secondFound, rfl⟩),
    bind_of_ok (endClass_eq_ok.mpr ⟨sourced, rfl⟩),
    bind_of_ok (endClass_eq_ok.mpr ⟨destined, rfl⟩), bind_of_ok told,
    bind_of_ok (lift_eq_ok.mpr ⟨firstDocumented, rfl⟩),
    bind_of_ok (lift_eq_ok.mpr ⟨secondDocumented, rfl⟩)]

theorem Joins.build {node first second : Node} {ids : List String} {association : Association}
    (joins : Joins p.ends p.store.classes node ids first second association) :
    ∃ journal, build node ids p = .ok association { p with journal } := by
  obtain ⟨firstId, secondId, rfl, firstFound, secondFound⟩ := joins.pair
  obtain ⟨journal, built⟩ := build_of_sides joins.whole firstFound secondFound
    ⟨joins.source, joins.source_mem⟩ ⟨joins.destination, joins.destination_mem⟩ joins.related
    joins.firstDocumented joins.secondDocumented
  refine ⟨journal, built.trans (lift_eq_ok.mpr ⟨orFault_eq_ok.mpr
    (Association.ofDraft_eq_ok.mpr ⟨association.id, joins.id_eq, ?_⟩), rfl⟩)⟩
  rw [← joins.name_eq, ← joins.first_eq, ← joins.second_eq]

/-- An association is refused if one of its ends is nowhere to be found. -/
theorem build_of_missing {node : Node} {firstId secondId : String}
    (whole : (node.select "ownedEnd").cut = false)
    (missing : endWith p.ends node firstId = none ∨ endWith p.ends node secondId = none) :
    ∃ cause, build node [firstId, secondId] p = .error (.ingest cause) p := by
  have paired : pairOfEnds node [firstId, secondId] p = .ok (firstId, secondId) p := rfl
  unfold build
  rw [bind_of_ok paired]
  dsimp only
  rw [bind_of_ok (lift_eq_ok.mpr ⟨allOf_eq_ok.mpr ⟨whole, rfl⟩, rfl⟩)]
  cases first : endWith p.ends node firstId with
  | none => exact ⟨_, Step.bind_of_error (findEnd_of_missing first _) _⟩
  | some found =>
      have second : endWith p.ends node secondId = none := by
        rcases missing with impossible | second
        · cases first.symm.trans impossible
        · exact second
      rw [bind_of_ok (findEnd_eq_ok.mpr ⟨first, rfl⟩)]
      exact ⟨_, Step.bind_of_error (findEnd_of_missing second _) _⟩

/-- An association element that is read adds the association it stands for. -/
theorem add_eq_ok {node : Node} {ids : List String} (done : add node p = .ok ids q) :
    ∃ first second association journal, memberEnds node = .ok ids ∧
      Joins p.ends p.store.classes node ids first second association ∧ q = { p with
        store := { p.store with
          associations := p.store.associations.insert association.id association }
        journal } := by
  unfold add at done
  obtain ⟨members, listed, rest⟩ := lift_bind_eq_ok.mp done
  obtain ⟨association, r, built, rest⟩ := bind_eq_ok.mp rest
  obtain ⟨first, second, joins, journal, rfl⟩ := build_eq_ok built
  obtain ⟨_, _, changed, rest⟩ := bind_eq_ok.mp rest
  obtain ⟨store, taken, rfl⟩ := Step.change_eq_ok.mp changed
  obtain ⟨_, rfl⟩ := Store.addAssociation_eq_ok.mp taken
  cases rest
  exact ⟨first, second, association, _, listed, joins, rfl⟩

/-- Adding associations is a loop, whatever their member ends are. -/
theorem each_of_addAll {nodes : List Node} {used : List String}
    (done : addAll nodes p = .ok used q) :
    Step.each (fun node => add node >>= fun _ => pure ()) nodes p = .ok () q := by
  induction nodes generalizing p used with
  | nil =>
      cases done
      rfl
  | cons node rest ih =>
      obtain ⟨ids, r, first, others⟩ := bind_eq_ok.mp done
      obtain ⟨found, s, later, last⟩ := bind_eq_ok.mp others
      cases last
      exact bind_eq_ok.mpr ⟨(), r, bind_eq_ok.mpr ⟨ids, r, first, rfl⟩, ih later⟩

theorem checkEnds_eq_ok {used : List String} {entries : List (Option String × ClassEnd)} :
    checkEnds used entries p = .ok () q ↔
      (∀ entry ∈ entries, entry.1.any used.contains = true) ∧ q = p := by
  induction entries with
  | nil =>
      change EStateM.Result.ok () p = _ ↔ _
      simp [eq_comm (a := p)]
  | cons entry rest ih =>
      obtain ⟨id, found⟩ := entry
      unfold checkEnds
      cases inside : id.any used.contains with
      | true =>
          rw [if_pos rfl, ih]
          simp [inside]
      | false =>
          constructor
          · intro impossible
            cases impossible
          · rintro ⟨all, _⟩
            cases inside.symm.trans (all (id, found) List.mem_cons_self)

theorem link_eq_ok {nodes : List Node} :
    link nodes p = .ok () q ↔ ∃ used, addAll nodes p = .ok used q ∧
      ∀ entry ∈ q.ends.entries, entry.1.any used.contains = true := by
  unfold link
  constructor
  · intro done
    obtain ⟨used, r, added, rest⟩ := bind_eq_ok.mp done
    obtain ⟨listed, rfl⟩ := checkEnds_eq_ok.mp rest
    exact ⟨used, added, listed⟩
  · rintro ⟨used, added, listed⟩
    exact bind_eq_ok.mpr ⟨used, q, added, checkEnds_eq_ok.mpr ⟨listed, rfl⟩⟩

end Associations

/-! ## Enumerations -/

namespace Enumerations

variable {p q : Progress}

theorem literalNames_eq_ok {enumeration : String} {nodes : List Node} {names : List String} :
    literalNames enumeration nodes p = .ok names q ↔
      nodes.map title? = names.map some ∧ q = p := by
  induction nodes generalizing names with
  | nil =>
      change EStateM.Result.ok [] p = _ ↔ _
      rw [EStateM.Result.ok.injEq, eq_comm (b := q)]
      cases names <;> simp
  | cons node rest ih =>
      unfold literalNames
      cases named : title? node with
      | none =>
          constructor
          · intro impossible
            cases impossible
          · rintro ⟨same, _⟩
            cases names with
            | nil => cases same
            | cons first others =>
                rw [List.map_cons, named] at same
                cases same
      | some name =>
          constructor
          · intro done
            obtain ⟨others, r, found, last⟩ := bind_eq_ok.mp done
            cases last
            obtain ⟨same, rfl⟩ := ih.mp found
            refine ⟨?_, rfl⟩
            rw [List.map_cons, named, same, List.map_cons]
          · rintro ⟨same, rfl⟩
            cases names with
            | nil => cases same
            | cons first others =>
                rw [List.map_cons, named, List.map_cons] at same
                obtain ⟨here, there⟩ := List.cons.inj same
                cases here
                exact bind_eq_ok.mpr ⟨others, q, ih.mpr ⟨there, rfl⟩, rfl⟩

structure Lists (node : Node) (enumeration : Enumeration) : Prop where
  whole : (node.select "ownedLiteral").cut = false
  id_eq : id? node = some enumeration.id
  titled : title? node = some enumeration.name
  listed : (node.select "ownedLiteral").found.map title? = enumeration.values.map some

theorem build_eq_ok {node : Node} {enumeration : Enumeration} :
    build node p = .ok enumeration q ↔ Lists node enumeration ∧ q = p := by
  unfold build
  cases named : title? node with
  | none =>
      constructor
      · intro impossible
        cases impossible
      · rintro ⟨lists, _⟩
        cases named.symm.trans lists.titled
  | some name =>
      dsimp only
      unfold values
      cases cut : (node.select "ownedLiteral").cut with
      | true =>
          constructor
          · intro done
            obtain ⟨_, _, valued, _⟩ := bind_eq_ok.mp done
            obtain ⟨_, _, _, thrown⟩ := bind_eq_ok.mp valued
            cases thrown
          · rintro ⟨lists, _⟩
            cases cut.symm.trans lists.whole
      | false =>
          constructor
          · intro done
            obtain ⟨names, r, valued, rest⟩ := bind_eq_ok.mp done
            obtain ⟨_, _, found, last⟩ := bind_eq_ok.mp valued
            cases last
            obtain ⟨listed, rfl⟩ := literalNames_eq_ok.mp found
            obtain ⟨drafted, rfl⟩ := lift_eq_ok.mp rest
            obtain ⟨key, id_eq, rfl⟩ := Enumeration.ofDraft_eq_ok.mp (orFault_eq_ok.mp drafted)
            exact ⟨⟨cut, id_eq, named, listed⟩, rfl⟩
          · rintro ⟨⟨_, id_eq, titled, listed⟩, rfl⟩
            cases named.symm.trans titled
            refine bind_eq_ok.mpr ⟨enumeration.values, q, ?_, ?_⟩
            · exact bind_eq_ok.mpr ⟨_, _, literalNames_eq_ok.mpr ⟨listed, rfl⟩, rfl⟩
            · refine lift_eq_ok.mpr ⟨orFault_eq_ok.mpr ?_, rfl⟩
              exact Enumeration.ofDraft_eq_ok.mpr ⟨enumeration.id, id_eq, rfl⟩

theorem add_eq_ok {node : Node} (done : add node p = .ok () q) :
    ∃ enumeration journal, Lists node enumeration ∧ q = { p with
      store := { p.store with
        enumerations := p.store.enumerations.insert enumeration.id enumeration }
      journal } := by
  unfold add at done
  obtain ⟨enumeration, lists, added⟩ := (bind_eq_ok_of_reads fun _ _ => build_eq_ok).mp done
  obtain ⟨store, taken, rfl⟩ := Step.change_tell_eq_ok.mp added
  obtain ⟨_, rfl⟩ := Store.addEnumeration_eq_ok.mp taken
  exact ⟨enumeration, _, lists, rfl⟩

end Enumerations

end ClassDiagram
