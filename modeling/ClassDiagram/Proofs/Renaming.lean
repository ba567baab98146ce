import ClassDiagram.Proofs.Building
import Mathlib.Data.List.Nodup
import Mathlib.Logic.Embedding.Basic

/-!
# Entities under other identifiers

Identifiers are put in place of others by an injective map.  Tables answer for
the new keys what they have answered for the old ones, and a store with other
identifiers takes fillings with other identifiers as the store itself takes
the fillings.  A fault may tell other identifiers too, but it is of the same
sort.
-/

namespace ClassDiagram

/-! ## Tables under other keys -/

namespace Table

variable {κ κ' ν ν' : Type}

def mapped (key : κ ↪ κ') (value : ν → ν') (table : Table κ ν) : Table κ' ν' where
  entries := table.entries.map (Prod.map key value)
  distinct := by
    have fst_map : (table.entries.map (Prod.map key value)).map Prod.fst =
        (table.entries.map Prod.fst).map key := by
      rw [List.map_map, List.map_map]
      rfl
    rw [fst_map]
    exact table.distinct.map key.injective

variable (key : κ ↪ κ') (value : ν → ν')

theorem mapped_id {value : ν → ν} (same : value = id) (table : Table κ ν) :
    table.mapped (.refl κ) value = table := by
  subst same
  exact Table.ext (List.map_id _)

variable [DecidableEq κ] [DecidableEq κ']

theorem lookup_map (k : κ) (entries : List (κ × ν)) :
    lookup (key k) (entries.map (Prod.map key value)) = (lookup k entries).map value := by
  induction entries with
  | nil => rfl
  | cons entry rest ih =>
      obtain ⟨k', old⟩ := entry
      by_cases same : k' = k
      · simp [lookup, same]
      · simp [lookup, same, ih]

theorem place_map (k : κ) (v : ν) (entries : List (κ × ν)) :
    place (key k) (value v) (entries.map (Prod.map key value)) =
      (place k v entries).map (Prod.map key value) := by
  induction entries with
  | nil => rfl
  | cons entry rest ih =>
      obtain ⟨k', old⟩ := entry
      by_cases same : k' = k
      · simp [place, same]
      · simp [place, same, ih]

theorem without_map (k : κ) (entries : List (κ × ν)) :
    without (key k) (entries.map (Prod.map key value)) =
      (without k entries).map (Prod.map key value) := by
  unfold without
  rw [List.filter_map]
  congr 1
  exact List.filter_congr fun entry _ => by simp

@[simp] theorem get?_mapped (table : Table κ ν) (k : κ) :
    (table.mapped key value).get? (key k) = (table.get? k).map value :=
  lookup_map key value k table.entries

@[simp] theorem contains_mapped (table : Table κ ν) (k : κ) :
    (table.mapped key value).contains (key k) = table.contains k := by
  unfold contains
  rw [get?_mapped, Option.isSome_map]

theorem insert_mapped (table : Table κ ν) (k : κ) (v : ν) :
    (table.mapped key value).insert (key k) (value v) = (table.insert k v).mapped key value :=
  Table.ext (place_map key value k v table.entries)

theorem erase_mapped (table : Table κ ν) (k : κ) :
    (table.mapped key value).erase (key k) = (table.erase k).mapped key value :=
  Table.ext (without_map key value k table.entries)

theorem eraseAll_mapped (table : Table κ ν) (keys : List κ) :
    (table.mapped key value).eraseAll (keys.map key) = (table.eraseAll keys).mapped key value := by
  induction keys generalizing table with
  | nil => rfl
  | cons k rest ih =>
      change ((table.mapped key value).erase (key k)).eraseAll (rest.map key) = _
      rw [erase_mapped, ih]
      rfl

theorem ofList_mapped (entries : List (κ × ν)) :
    ofList (entries.map (Prod.map key value)) = (ofList entries).mapped key value := by
  have onto (table : Table κ ν) :
      (entries.map (Prod.map key value)).foldl
          (fun table entry => table.insert entry.1 entry.2) (table.mapped key value) =
        (entries.foldl (fun table entry => table.insert entry.1 entry.2) table).mapped
          key value := by
    induction entries generalizing table with
    | nil => rfl
    | cons entry rest ih =>
        rw [List.map_cons, List.foldl_cons, List.foldl_cons, ← ih, ← insert_mapped]
        rfl
  exact onto empty

end Table

/-! ## Entities -/

def ScalarType.renamed (rename : String → String) (type : ScalarType) : ScalarType :=
  { type with id := rename type.id }

def Class.renamed (rename : String → String) (entity : Class) : Class :=
  { entity with id := rename entity.id, fields := entity.fields.map rename }

def Field.renamed (rename : String → String) (field : Field) : Field :=
  { field with
    id := rename field.id
    typeId := rename field.typeId
    classId := rename field.classId }

def Association.renamed (rename : String → String) (association : Association) : Association :=
  { association with
    id := rename association.id
    sourceId := rename association.sourceId
    destinationId := rename association.destinationId }

def Enumeration.renamed (rename : String → String) (enumeration : Enumeration) : Enumeration :=
  { enumeration with id := rename enumeration.id }

def Store.renamed (rename : String ↪ String) (store : Store) : Store :=
  { store with
    classes := store.classes.mapped rename (Class.renamed rename)
    fields := store.fields.mapped rename (Field.renamed rename)
    types := store.types.mapped rename (ScalarType.renamed rename)
    associations := store.associations.mapped rename (Association.renamed rename)
    enumerations := store.enumerations.mapped rename (Enumeration.renamed rename)
    userClass := store.userClass.map rename }

theorem Store.renamed_refl (store : Store) : store.renamed (.refl String) = store := by
  have classes : Class.renamed id = id := funext fun entity => by simp [Class.renamed]
  have fields : Field.renamed id = id := rfl
  have types : ScalarType.renamed id = id := rfl
  have associations : Association.renamed id = id := rfl
  have enumerations : Enumeration.renamed id = id := rfl
  unfold Store.renamed
  rw [Function.Embedding.coe_refl, Table.mapped_id classes, Table.mapped_id fields,
    Table.mapped_id types, Table.mapped_id associations, Table.mapped_id enumerations,
    Option.map_id]
  rfl

/-! ## Drafts -/

section

variable (rename : String → String)

theorem ScalarType.ofDraft_renamed (id name : String) :
    ScalarType.ofDraft (Typing.draft (rename id) name) =
      (ScalarType.ofDraft (Typing.draft id name)).map (renamed rename) := by
  rw [ofDraft_eq, ofDraft_eq]
  cases Text.isCapitalized name <;> rfl

theorem Class.ofDraft_renamed (id comment : Option String) (name : String) :
    Class.ofDraft (Classes.draft (id.map rename) name comment) =
      (Class.ofDraft (Classes.draft id name comment)).map (renamed rename) := by
  rw [ofDraft_eq, ofDraft_eq]
  cases id <;> rfl

theorem Field.ofDraft_renamed (id comment : Option String) {name : String}
    (typeId owner : String) (filled : name ≠ "") :
    Field.ofDraft (Classes.fieldDraft (id.map rename) name (rename typeId) (rename owner)
        comment) =
      (Field.ofDraft (Classes.fieldDraft id name typeId owner comment)).map (renamed rename) := by
  rw [ofDraft_eq _ _ _ _ filled, ofDraft_eq _ _ _ _ filled]
  cases id <;> rfl

theorem Association.ofDraft_renamed
    (id name first second firstComment secondComment : Option String)
    (source destination : String) (cardinality : Cardinality) :
    Association.ofDraft (Associations.draft (id.map rename) name (rename source)
        (rename destination) cardinality first second firstComment secondComment) =
      (Association.ofDraft (Associations.draft id name source destination cardinality first second
        firstComment secondComment)).map (renamed rename) := by
  rw [ofDraft_eq, ofDraft_eq]
  cases id <;> rfl

theorem Enumeration.ofDraft_renamed (id : Option String) (name : String) (values : List String) :
    Enumeration.ofDraft (Enumerations.draft (id.map rename) name values) =
      (Enumeration.ofDraft (Enumerations.draft id name values)).map (renamed rename) := by
  rw [ofDraft_eq, ofDraft_eq]
  cases id <;> rfl

end

theorem orFault_map {α β : Type} (f : α → β) (kind : EntityKind) (check : Check α) :
    Check.orFault kind (check.map f) = (Check.orFault kind check).map f := by
  cases check <;> rfl

/-! ## Faults that tell other identifiers -/

/-- A remark that repeats another one, or that tells the other identifiers in its place. -/
inductive Remark.Echoes (rename : String → String) : Remark → Remark → Prop where
  | same (remark : Remark) : Echoes rename remark remark
  | renamed (ids : List String) :
      Echoes rename (.text (" ".intercalate ids)) (.text (" ".intercalate (ids.map rename)))

/-- A fault of the document that is told with remarks that echo those of another one. -/
inductive IngestFault.Echoes (rename : String → String) : IngestFault → IngestFault → Prop where
  | same (fault : IngestFault) : Echoes rename fault fault
  | wrongType {name name' field field' owner owner' : Remark}
      (named : name.Echoes rename name') (within : field.Echoes rename field')
      (owned : owner.Echoes rename owner') :
      Echoes rename (.wrongType name field owner) (.wrongType name' field' owner')
  | nameMissing (what : Remark) {element element' : Remark}
      (within : element.Echoes rename element') :
      Echoes rename (.nameMissing what element) (.nameMissing what element')
  | unresolved {reference reference' referrer referrer' : Remark} (kind : Remark)
      (missed : reference.Echoes rename reference') (within : referrer.Echoes rename referrer') :
      Echoes rename (.unresolved reference kind referrer) (.unresolved reference' kind referrer')
  | invalidData {cause cause' : IngestFault} (inner : cause.Echoes rename cause') :
      Echoes rename (.invalidData cause) (.invalidData cause')

/-- A fault that is the same as another one, or of the document and an echo of it. -/
inductive Fault.Echoes (rename : String → String) : Fault → Fault → Prop where
  | same (fault : Fault) : Echoes rename fault fault
  | ingest {cause cause' : IngestFault} (inner : cause.Echoes rename cause') :
      Echoes rename (.ingest cause) (.ingest cause')

/-- What sort of fault it is: its kind if it concerns the document, and else it is its own sort. -/
def Fault.sort : Fault → IngestKind ⊕ Fault
  | .ingest cause => .inl cause.kind
  | fault => .inr fault

section

variable {rename : String → String}

theorem Remark.Echoes.text (id : String) : Echoes rename (.text id) (.text (rename id)) := by
  have single : Echoes rename (.text (" ".intercalate [id]))
      (.text (" ".intercalate ([id].map rename))) := .renamed [id]
  simpa using single

theorem Remark.Echoes.ofOption (id : Option String) :
    Echoes rename (.ofOption id) (.ofOption (id.map rename)) := by
  cases id with
  | none => exact .same _
  | some id => exact .text id

theorem IngestFault.Echoes.kind_eq {cause cause' : IngestFault}
    (echoes : cause.Echoes rename cause') : cause'.kind = cause.kind := by
  cases echoes <;> rfl

/-- An echo is of the same sort. -/
theorem Fault.Echoes.sort_eq {fault fault' : Fault} (echoes : fault.Echoes rename fault') :
    fault'.sort = fault.sort := by
  cases echoes with
  | same => rfl
  | ingest inner => exact congrArg Sum.inl inner.kind_eq

theorem Remark.Echoes.eq_of_id {remark remark' : Remark} (echoes : remark.Echoes id remark') :
    remark' = remark := by
  cases echoes with
  | same => rfl
  | renamed ids => rw [List.map_id]

theorem IngestFault.Echoes.eq_of_id {cause cause' : IngestFault}
    (echoes : cause.Echoes id cause') : cause' = cause := by
  induction echoes with
  | same => rfl
  | wrongType named within owned => rw [named.eq_of_id, within.eq_of_id, owned.eq_of_id]
  | nameMissing what within => rw [within.eq_of_id]
  | unresolved kind missed within => rw [missed.eq_of_id, within.eq_of_id]
  | invalidData _ ih => rw [ih]

/-- A fault that echoes another one with the same identifiers is this one. -/
theorem Fault.Echoes.eq_of_id {fault fault' : Fault} (echoes : fault.Echoes id fault') :
    fault' = fault := by
  cases echoes with
  | same => rfl
  | ingest inner => rw [inner.eq_of_id]

end

inductive Parallel (rename : String → String) {α β : Type} (like : α → β → Prop) :
    Except Fault α → Except Fault β → Prop where
  | ok {a : α} {b : β} (same : like a b) : Parallel rename like (.ok a) (.ok b)
  | error {fault fault' : Fault} (echoes : fault.Echoes rename fault') :
      Parallel rename like (.error fault) (.error fault')

namespace Parallel

variable {rename : String → String} {α β : Type} {like : α → β → Prop}
  {left : Except Fault α} {right : Except Fault β}

theorem of_ok {a : α} {b : β} (done : left = .ok a) (again : right = .ok b) (same : like a b) :
    Parallel rename like left right := by
  rw [done, again]
  exact .ok same

theorem of_error {fault fault' : Fault} (failed : left = .error fault)
    (again : right = .error fault') (echoes : fault.Echoes rename fault') :
    Parallel rename like left right := by
  rw [failed, again]
  exact .error echoes

theorem refl {like : α → α → Prop} {result : Except Fault α}
    (same : ∀ a, result = .ok a → like a a) : Parallel rename like result result := by
  cases result with
  | ok a => exact .ok (same a rfl)
  | error fault => exact .error (.same fault)

theorem map (f : α → β) (result : Except Fault α) :
    Parallel rename (fun a b => b = f a) result (result.map f) := by
  cases result with
  | ok a => exact .ok rfl
  | error fault => exact .error (.same fault)

end Parallel

/-! ## Stores that mirror each other -/

namespace Store

/-- Two operations end alike: they leave stores that are alike, and a fault and its echo if any. -/
inductive Twin (rename : String → String) (like : Store → Store → Prop) :
    EStateM.Result Fault Store Unit → EStateM.Result Fault Store Unit → Prop where
  | ok {left right : Store} (same : like left right) : Twin rename like (.ok () left) (.ok () right)
  | error {left right : Store} {fault fault' : Fault} (echoes : fault.Echoes rename fault')
      (same : like left right) : Twin rename like (.error fault left) (.error fault' right)

namespace Twin

variable {rename : String → String} {like : Store → Store → Prop}
  {first second : EStateM.Result Fault Store Unit} {left right : Store}

theorem of_ok (done : first = .ok () left) (again : second = .ok () right)
    (same : like left right) : Twin rename like first second := by
  rw [done, again]
  exact .ok same

theorem of_error {fault fault' : Fault} (failed : first = .error fault left)
    (again : second = .error fault' right) (echoes : fault.Echoes rename fault')
    (same : like left right) : Twin rename like first second := by
  rw [failed, again]
  exact .error echoes same

end Twin

def Filling.renamed (rename : String → String) : Filling → Filling
  | .addType type => .addType (type.renamed rename)
  | .addClass entity => .addClass (entity.renamed rename)
  | .addField field => .addField (field.renamed rename)
  | .addAssociation association => .addAssociation (association.renamed rename)
  | .addEnumeration enumeration => .addEnumeration (enumeration.renamed rename)
  | .removeClass id => .removeClass (id.map rename)

section

variable {rename : String ↪ String} {store : Store}

theorem IsOpen.renamed (opened : store.IsOpen) : (store.renamed rename).IsOpen :=
  ⟨opened.unfailed, opened.unfrozen⟩

theorem get?_classes_renamed (rename : String ↪ String) (store : Store) (id : String) :
    (store.renamed rename).classes.get? (rename id) =
      (store.classes.get? id).map (Class.renamed rename) :=
  Table.get?_mapped rename _ store.classes id

theorem addField_renamed (opened : store.IsOpen) (field : Field) :
    Twin rename (fun next next' => next' = next.renamed rename) (Store.addField field store)
      (Store.addField (field.renamed rename) (store.renamed rename)) := by
  have openedToo : (store.renamed rename).IsOpen := opened.renamed
  have moved := get?_classes_renamed rename store field.classId
  cases found : store.classes.get? field.classId with
  | none =>
      rw [found] at moved
      exact .of_error (addField_of_absent opened found) (addField_of_absent openedToo moved)
        (.ingest (.unresolved _ (.text field.classId) (.same _))) rfl
  | some owner =>
      rw [found] at moved
      refine .of_ok (addField_eq_ok.mpr ⟨opened, owner, found, rfl⟩)
        (addField_eq_ok.mpr ⟨openedToo, owner.renamed rename, moved, rfl⟩) ?_
      have appended : { owner.renamed rename with
            fields := (owner.renamed rename).fields ++ [rename field.id] } =
          Class.renamed rename { owner with fields := owner.fields ++ [field.id] } := by
        simp [Class.renamed]
      refine congrArg₂ (fun classes fields => { store.renamed rename with classes, fields }) ?_
        (Table.insert_mapped rename _ store.fields field.id field)
      change (store.classes.mapped rename _).insert (rename owner.id) _ = _
      rw [← Table.insert_mapped, ← appended]
      rfl

theorem removeClass_renamed (opened : store.IsOpen) (id : Option String) :
    Twin rename (fun next next' => next' = next.renamed rename) (Store.removeClass id store)
      (Store.removeClass (id.map rename) (store.renamed rename)) := by
  have openedToo : (store.renamed rename).IsOpen := opened.renamed
  have moved : (id.map rename).bind (store.renamed rename).classes.get? =
      (id.bind store.classes.get?).map (Class.renamed rename) := by
    cases id with
    | none => rfl
    | some id => exact get?_classes_renamed rename store id
  cases found : id.bind store.classes.get? with
  | none =>
      rw [found] at moved
      exact .of_ok (removeClass_eq_ok.mpr ⟨opened, Or.inl ⟨found, rfl⟩⟩)
        (removeClass_eq_ok.mpr ⟨openedToo, Or.inl ⟨moved, rfl⟩⟩) rfl
  | some entity =>
      obtain ⟨key, rfl, present⟩ := Option.bind_eq_some_iff.mp found
      rw [found] at moved
      refine .of_ok
        (removeClass_eq_ok.mpr ⟨opened, Or.inr ⟨key, entity, rfl, present, rfl⟩⟩)
        (removeClass_eq_ok.mpr
          ⟨openedToo, Or.inr ⟨rename key, entity.renamed rename, rfl, moved, rfl⟩⟩) ?_
      have classes : (store.renamed rename).classes.erase (rename key) =
          (store.classes.erase key).mapped rename (Class.renamed rename) :=
        Table.erase_mapped rename _ store.classes key
      have fields : (store.renamed rename).fields.eraseAll (entity.renamed rename).fields =
          (store.fields.eraseAll entity.fields).mapped rename (Field.renamed rename) :=
        Table.eraseAll_mapped rename _ store.fields entity.fields
      have onto : (store.renamed rename).userClass = some (rename key) ↔
          store.userClass = some key :=
        (Option.map_injective rename.injective).eq_iff (b := some key)
      rw [classes, fields]
      simp only [onto]
      by_cases same : store.userClass = some key
      · rw [if_pos same, if_pos same]
        rfl
      · rw [if_neg same, if_neg same]
        rfl

/-- An open store with other identifiers takes fillings with other identifiers. -/
theorem Filling.apply_renamed (rename : String ↪ String) (opened : store.IsOpen)
    (filling : Filling) :
    Twin rename (fun next next' => next' = next.renamed rename) (filling.apply store)
      ((filling.renamed rename).apply (store.renamed rename)) := by
  have openedToo : (store.renamed rename).IsOpen := opened.renamed
  cases filling with
  | addType type =>
      refine .of_ok (addType_eq_ok.mpr ⟨opened, rfl⟩) (addType_eq_ok.mpr ⟨openedToo, rfl⟩) ?_
      exact congrArg (fun types => { store.renamed rename with types })
        (Table.insert_mapped rename _ store.types type.id type)
  | addClass entity =>
      refine .of_ok (addClass_eq_ok.mpr ⟨opened, rfl⟩) (addClass_eq_ok.mpr ⟨openedToo, rfl⟩) ?_
      have user : (if isUserName entity.name then some (rename entity.id)
          else store.userClass.map rename) =
            (if isUserName entity.name then some entity.id else store.userClass).map rename := by
        split <;> rfl
      exact congrArg₂ (fun classes userClass => { store.renamed rename with classes, userClass })
        (Table.insert_mapped rename _ store.classes entity.id entity) user
  | addField field => exact addField_renamed opened field
  | addAssociation association =>
      refine .of_ok (addAssociation_eq_ok.mpr ⟨opened, rfl⟩)
        (addAssociation_eq_ok.mpr ⟨openedToo, rfl⟩) ?_
      exact congrArg (fun associations => { store.renamed rename with associations })
        (Table.insert_mapped rename _ store.associations association.id association)
  | addEnumeration enumeration =>
      refine .of_ok (addEnumeration_eq_ok.mpr ⟨opened, rfl⟩)
        (addEnumeration_eq_ok.mpr ⟨openedToo, rfl⟩) ?_
      exact congrArg (fun enumerations => { store.renamed rename with enumerations })
        (Table.insert_mapped rename _ store.enumerations enumeration.id enumeration)
  | removeClass id => exact removeClass_renamed opened id

end

/--
A store that holds the entities of another one under other identifiers, is
frozen if the other one is, and keeps an echo of its failure.
-/
structure Mirrors (rename : String ↪ String) (left right : Store) : Prop where
  entities : right = { left.renamed rename with failure := right.failure }
  failures : Option.Rel (IngestFault.Echoes rename) left.failure right.failure

namespace Mirrors

variable {rename : String ↪ String} {left right : Store}

theorem empty : Store.empty.Mirrors rename Store.empty := ⟨rfl, .none⟩

theorem of_unfailed {store : Store} (unfailed : store.failure = none) :
    store.Mirrors rename (store.renamed rename) := by
  refine ⟨rfl, ?_⟩
  change Option.Rel _ store.failure store.failure
  rw [unfailed]
  exact .none

variable (mirrors : left.Mirrors rename right)
include mirrors

theorem failure_cases : left.failure = none ∧ right.failure = none ∨
    ∃ cause cause', left.failure = some cause ∧ right.failure = some cause' ∧
      cause.Echoes rename cause' := by
  have failures := mirrors.failures
  generalize left.failure = failure, right.failure = failure' at failures
  cases failures with
  | none => exact Or.inl ⟨rfl, rfl⟩
  | some echoes => exact Or.inr ⟨_, _, rfl, rfl, echoes⟩

theorem eq_of_unfailed (unfailed : left.failure = none) : right = left.renamed rename := by
  obtain ⟨_, same⟩ | ⟨_, _, failed, _⟩ := mirrors.failure_cases
  · rw [mirrors.entities, same, ← unfailed]
    rfl
  · cases unfailed.symm.trans failed

omit mirrors in
/-- Stores that mirror each other under the same identifiers are the same. -/
theorem eq_of_refl (mirrors : left.Mirrors (.refl String) right) : right = left := by
  have entities := mirrors.entities
  rw [renamed_refl] at entities
  obtain ⟨unfailed, same⟩ | ⟨cause, cause', failed, again, kept⟩ := mirrors.failure_cases
  · rw [entities, same, ← unfailed]
  · rw [entities, again, kept.eq_of_id, ← failed]

theorem hasType (id : String) : right.hasType (rename id) = left.hasType id := by
  rw [mirrors.entities]
  exact Table.contains_mapped rename _ left.types id

theorem hasClass (id : String) : right.hasClass (rename id) = left.hasClass id := by
  rw [mirrors.entities]
  exact Table.contains_mapped rename _ left.classes id

theorem frozen : right.frozen = left.frozen := by
  rw [mirrors.entities]
  rfl

theorem freeze : left.freeze.Mirrors rename right.freeze :=
  ⟨congrArg Store.freeze mirrors.entities, mirrors.failures⟩

theorem invalidate {cause cause' : IngestFault} (echoes : cause.Echoes rename cause') :
    (left.invalidate cause).Mirrors rename (right.invalidate cause') := by
  refine ⟨?_, ?_⟩
  · rw [Store.invalidate, mirrors.entities]
    rfl
  · rw [failure_invalidate, failure_invalidate]
    obtain ⟨unfailed, same⟩ | ⟨_, _, failed, again, kept⟩ := mirrors.failure_cases
    · rw [unfailed, same]
      exact .some echoes
    · rw [failed, again]
      exact .some kept

theorem checkValid : Parallel rename (fun _ _ => True) left.checkValid right.checkValid := by
  unfold Store.checkValid
  obtain ⟨unfailed, same⟩ | ⟨_, _, failed, again, kept⟩ := mirrors.failure_cases
  · rw [unfailed, same]
    exact .ok trivial
  · rw [failed, again]
    exact .error (.ingest (.invalidData kept))

theorem checkWritable :
    Parallel rename (fun _ _ => True) left.checkWritable right.checkWritable := by
  unfold Store.checkWritable
  rw [mirrors.frozen]
  have valid := mirrors.checkValid
  generalize left.checkValid = check, right.checkValid = check' at valid
  cases valid with
  | error echoes => exact .error echoes
  | ok _ =>
      cases left.frozen with
      | true => exact .error (.same .frozen)
      | false => exact .ok trivial

/-- Fillings lead from stores that mirror each other to such stores. -/
theorem apply (filling : Filling) :
    Twin rename (Store.Mirrors rename) (filling.apply left)
      ((filling.renamed rename).apply right) := by
  have writable := mirrors.checkWritable
  generalize check : left.checkWritable = result, check' : right.checkWritable = result'
    at writable
  cases writable with
  | error echoes =>
      exact .of_error (filling.refused check) ((filling.renamed rename).refused check') echoes
        mirrors
  | ok _ =>
      have opened := isOpen_of_checkWritable check
      have taken := Filling.apply_renamed rename opened filling
      rw [← mirrors.eq_of_unfailed opened.unfailed] at taken
      generalize done : filling.apply left = next, again : (filling.renamed rename).apply right =
        next' at taken
      cases taken with
      | error echoes _ =>
          rw [Filling.unchanged done, Filling.unchanged again]
          exact .error echoes mirrors
      | ok same =>
          rw [same]
          exact .ok (.of_unfailed (Filling.isOpen_apply done).unfailed)

end Mirrors

end Store

end ClassDiagram
