import ClassDiagram.Fault
import ClassDiagram.Table

/-!
# The store of entities

A store holds the entities read from one document, by identifier and in order
of insertion.  It is open until it is frozen; a failure makes it invalid,
which also freezes it, and from then on it only tells the failure.
-/

namespace ClassDiagram

/-- The entities read from one document, and whether more may come. -/
structure Store where
  classes : Table String Class
  fields : Table String Field
  types : Table String ScalarType
  associations : Table String Association
  enumerations : Table String Enumeration
  /-- The class named `User` in any case, if there is one. -/
  userClass : Option String
  frozen : Bool
  /-- The failure that made the store invalid. -/
  failure : Option IngestFault
  deriving Inhabited

namespace Store

def empty : Store := ⟨.empty, .empty, .empty, .empty, .empty, none, false, none⟩

def isValid (store : Store) : Bool := store.failure.isNone

structure Summary where
  classes : Nat
  fields : Nat
  types : Nat
  associations : Nat
  enumerations : Nat
  deriving DecidableEq, Repr

/-- The numbers of entities, which can be read at any time. -/
def summary (store : Store) : Summary :=
  ⟨store.classes.size, store.fields.size, store.types.size, store.associations.size,
    store.enumerations.size⟩

/-! ## Reading -/

def checkValid (store : Store) : Except Fault Unit :=
  match store.failure with
  | some cause => .error (.ingest (.invalidData cause))
  | none => .ok ()

def read {α : Type} (store : Store) (part : Store → α) : Except Fault α := do
  store.checkValid
  return part store

def get {α : Type} (store : Store) (part : Store → Table String α) (kind : EntityKind)
    (id : Option String) : Except Fault α := do
  store.checkValid
  match id.bind (part store).get? with
  | some entity => return entity
  | none => throw (.ingest (.unresolved (.ofOption id) (.text kind.word) .absent))

def getType (store : Store) (id : Option String) : Except Fault ScalarType :=
  store.get Store.types .scalarType id

def getClass (store : Store) (id : Option String) : Except Fault Class :=
  store.get Store.classes .objectClass id

def getField (store : Store) (id : Option String) : Except Fault Field :=
  store.get Store.fields .field id

def getAssociation (store : Store) (id : Option String) : Except Fault Association :=
  store.get Store.associations .association id

def getEnumeration (store : Store) (id : Option String) : Except Fault Enumeration :=
  store.get Store.enumerations .enumeration id

def hasType (store : Store) (id : Option String) : Bool := id.any store.types.contains

def hasClass (store : Store) (id : Option String) : Bool := id.any store.classes.contains

def fieldTypeName (store : Store) (id : Option String) : Except Fault String := do
  let field ← store.getField id
  match store.types.get? field.typeId with
  | some type => return type.name
  | none => return (← store.getEnumeration field.typeId).name

/-! ## Filling -/

/-- An operation on a store; what it has written before a fault stays written. -/
abbrev Change (α : Type) := EStateM Fault Store α

/-- Ask the store something in the course of an operation. -/
def Change.ask {α : Type} (question : Store → Except Fault α) : Change α := fun store =>
  match question store with
  | .ok answer => .ok answer store
  | .error fault => .error fault store

def checkWritable (store : Store) : Except Fault Unit := do
  store.checkValid
  if store.frozen then throw .frozen

def addType (type : ScalarType) : Change Unit := do
  Change.ask checkWritable
  modify fun store => { store with types := store.types.insert type.id type }

def isUserName (name : String) : Bool := Text.lower name == "user"

def addClass (entity : Class) : Change Unit := do
  Change.ask checkWritable
  modify fun store => { store with classes := store.classes.insert entity.id entity }
  if isUserName entity.name then
    modify fun store => { store with userClass := some entity.id }

def addField (field : Field) : Change Unit := do
  Change.ask checkWritable
  let owner ← Change.ask (·.getClass field.classId)
  modify fun store => { store with fields := store.fields.insert field.id field }
  modify fun store => { store with
    classes := store.classes.insert owner.id { owner with fields := owner.fields ++ [field.id] } }

def addAssociation (association : Association) : Change Unit := do
  Change.ask checkWritable
  modify fun store => { store with
    associations := store.associations.insert association.id association }

def addEnumeration (enumeration : Enumeration) : Change Unit := do
  Change.ask checkWritable
  modify fun store => { store with
    enumerations := store.enumerations.insert enumeration.id enumeration }

def popClass (id : String) : Change (Option Class) :=
  modifyGet fun store =>
    (store.classes.get? id, { store with classes := store.classes.erase id })

/-- Take out a class and the fields attached to it; no class goes by an absent identifier. -/
def removeClass (id : Option String) : Change Unit := do
  Change.ask checkWritable
  if let some id := id then
    if let some entity ← popClass id then
      modify fun store => { store with fields := store.fields.eraseAll entity.fields }
      modify fun store => { store with
        userClass := if store.userClass = some id then none else store.userClass }

/-! ## Life cycle -/

def freeze (store : Store) : Store := { store with frozen := true }

/-- Mark the store unusable; the first failure is the one that is kept. -/
def invalidate (store : Store) (cause : IngestFault) : Store :=
  { store with frozen := true, failure := some (store.failure.getD cause) }

@[simp] theorem isValid_empty : empty.isValid = true := rfl

@[simp] theorem frozen_freeze (store : Store) : store.freeze.frozen = true := rfl

@[simp] theorem frozen_invalidate (store : Store) (cause : IngestFault) :
    (store.invalidate cause).frozen = true := rfl

@[simp] theorem isValid_invalidate (store : Store) (cause : IngestFault) :
    (store.invalidate cause).isValid = false := rfl

theorem failure_invalidate (store : Store) (cause : IngestFault) :
    (store.invalidate cause).failure = some (store.failure.getD cause) := rfl

end Store

end ClassDiagram
