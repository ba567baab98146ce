import ClassDiagram.Draft
import ClassDiagram.Text.Casing

/-!
# Entities of a class diagram

Scalar types, classes with their fields, associations between classes, and
enumerations.  Entities refer to each other by identifier alone.
-/

namespace ClassDiagram

inductive EntityKind where
  | scalarType
  | objectClass
  | field
  | association
  | enumeration
  deriving DecidableEq, Repr

def EntityKind.word : EntityKind → String
  | .scalarType => "type"
  | .objectClass => "class"
  | .field => "field"
  | .association => "association"
  | .enumeration => "enumeration"

inductive Cardinality where
  | oneToOne
  | oneToMany
  | manyToOne
  | manyToMany
  deriving DecidableEq, Repr, Inhabited

namespace Cardinality

def name : Cardinality → String
  | .oneToOne => "one-to-one"
  | .oneToMany => "one-to-many"
  | .manyToOne => "many-to-one"
  | .manyToMany => "many-to-many"

def ofName? : String → Option Cardinality
  | "one-to-one" => some .oneToOne
  | "one-to-many" => some .oneToMany
  | "many-to-one" => some .manyToOne
  | "many-to-many" => some .manyToMany
  | _ => none

def converse : Cardinality → Cardinality
  | .oneToMany => .manyToOne
  | .manyToOne => .oneToMany
  | same => same

/-- The cardinality with many destinations, many sources, both or neither. -/
def ofSides (manyDestinations manySources : Bool) : Cardinality :=
  match manyDestinations, manySources with
  | true, true => .manyToMany
  | true, false => .oneToMany
  | false, true => .manyToOne
  | false, false => .oneToOne

@[simp] theorem ofName?_name (cardinality : Cardinality) :
    ofName? cardinality.name = some cardinality := by
  cases cardinality <;> rfl

@[simp] theorem converse_converse (cardinality : Cardinality) :
    cardinality.converse.converse = cardinality := by
  cases cardinality <;> rfl

theorem ofSides_swap (manyDestinations manySources : Bool) :
    ofSides manySources manyDestinations = (ofSides manyDestinations manySources).converse := by
  cases manyDestinations <;> cases manySources <;> rfl

end Cardinality

structure ScalarType where
  id : String
  name : String
  deriving DecidableEq, Repr, Inhabited

structure Class where
  id : String
  name : String
  comment : Option String
  fields : List String
  deriving DecidableEq, Repr, Inhabited

/-- A field of a class, typed by a scalar type or an enumeration. -/
structure Field where
  id : String
  name : String
  typeId : String
  classId : String
  comment : Option String
  deriving DecidableEq, Repr, Inhabited

/-- An association, with what it adds to the classes at its ends. -/
structure Association where
  id : String
  name : Option String
  sourceId : String
  destinationId : String
  cardinality : Cardinality
  fieldInSource : Option String
  fieldInDestination : Option String
  commentInSource : Option String
  commentInDestination : Option String
  deriving DecidableEq, Repr, Inhabited

structure Enumeration where
  id : String
  name : String
  values : List String
  deriving DecidableEq, Repr, Inhabited

namespace Check

def typeName (draft : Draft) : Check String :=
  match text draft "name" with
  | .ok name => if Text.isCapitalized name then .ok name else fail "name" (.notCapitalized name)
  | .error defects => .error defects

/-- A field name: it may not be empty, and its first character becomes lower case. -/
def fieldName (draft : Draft) : Check String :=
  match text draft "name" with
  | .ok name =>
      if name.isEmpty then fail "name" .emptyFieldName else .ok (Text.decapitalize name)
  | .error defects => .error defects

def cardinality (draft : Draft) (part : String) : Check Cardinality :=
  match draft.offer part with
  | .text value =>
      match Cardinality.ofName? value with
      | some cardinality => .ok cardinality
      | none => fail part .notCardinality
  | .missing => fail part .missing
  | _ => fail part .notCardinality

end Check

open Check

def ScalarType.ofDraft (draft : Draft) : Check ScalarType :=
  (both (text draft "id") (typeName draft)).map fun (id, name) => ⟨id, name⟩

def Class.ofDraft (draft : Draft) : Check Class :=
  (both (text draft "id") (both (text draft "name")
    (both (optionalText draft "comment") (texts draft "fields")))).map
      fun (id, name, comment, fields) => ⟨id, name, comment, fields⟩

def Field.ofDraft (draft : Draft) : Check Field :=
  (both (text draft "id") (both (fieldName draft) (both (text draft "type_id")
    (both (text draft "class_id") (optionalText draft "comment"))))).map
      fun (id, name, typeId, classId, comment) => ⟨id, name, typeId, classId, comment⟩

def Association.ofDraft (draft : Draft) : Check Association :=
  (both (text draft "id") (both (optionalText draft "name")
    (both (text draft "source_class_id") (both (text draft "destination_class_id")
      (both (Check.cardinality draft "relationship_type")
        (both (optionalText draft "injected_field_in_source")
          (both (optionalText draft "injected_field_in_destination")
            (both (optionalText draft "comment_in_source")
              (optionalText draft "comment_in_destination"))))))))).map
      fun (id, name, source, destination, cardinality, fieldInSource, fieldInDestination,
          commentInSource, commentInDestination) =>
        ⟨id, name, source, destination, cardinality, fieldInSource, fieldInDestination,
          commentInSource, commentInDestination⟩

def Enumeration.ofDraft (draft : Draft) : Check Enumeration :=
  (both (text draft "id") (both (text draft "name") (texts draft "values"))).map
    fun (id, name, values) => ⟨id, name, values⟩

end ClassDiagram
