import ClassDiagram.Entity
import ClassDiagram.Remark

/-!
# Assigning to finished entities

The parts of a finished entity are frozen, and so is every other name that
does not start with a low line.  Names that start with one are free for notes,
which leave the parts as they are; a few of them are taken.  One of these
stands for all parts at once, and a dictionary may take their place.
-/

namespace ClassDiagram

def EntityKind.label : EntityKind → String
  | .scalarType => "ParsedType"
  | .objectClass => "ParsedClass"
  | .field => "ParsedField"
  | .association => "ParsedAssociation"
  | .enumeration => "ParsedEnum"

def EntityKind.parts : EntityKind → List String
  | .scalarType => ["id", "name"]
  | .objectClass => ["id", "name", "comment", "fields"]
  | .field => ["id", "name", "type_id", "class_id", "comment"]
  | .association =>
      ["id", "name", "source_class_id", "destination_class_id", "relationship_type",
        "injected_field_in_source", "injected_field_in_destination", "comment_in_source",
        "comment_in_destination"]
  | .enumeration => ["id", "name", "values"]

namespace Assignment

inductive Refusal where
  | frozen
  /-- The name shows something that is worked out from the entity. -/
  | derived
  /-- The name stands for those who watch the entity. -/
  | unwritable
  /-- The name stands for all parts, and takes a dictionary. -/
  | notADictionary (sort : String)
  /-- The name stands for the kind of the entity, and takes a class. -/
  | notAClass (sort : String)
  deriving DecidableEq, Repr

def isNote (name : String) : Bool := name.toList.head? = some '_'

def derivedNames : List String := ["__fields__", "__fields_set__"]

inductive Outcome where
  | refused (reason : Refusal)
  /-- A note is left, and the parts stay as they are. -/
  | noted
  /-- The entity shows the parts that the value holds, and no others. -/
  | replaced
  deriving DecidableEq, Repr

def outcome (name sort : String) : Outcome :=
  if !isNote name then .refused .frozen
  else if derivedNames.contains name then .refused .derived
  else
    match name with
    | "__weakref__" => .refused .unwritable
    | "__dict__" => if sort = "dict" then .replaced else .refused (.notADictionary sort)
    | "__class__" => .refused (.notAClass sort)
    | _ => .noted

def Refusal.message (kind : EntityKind) (name : String) : Refusal → String
  | .frozen => Flaw.frozen.message
  | .derived => "property '" ++ name ++ "' of '" ++ kind.label ++ "' object has no setter"
  | .unwritable =>
      "attribute '" ++ name ++ "' of '" ++ kind.label ++ "' objects is not writable"
  | .notADictionary sort => name ++ " must be set to a dictionary, not a '" ++ sort ++ "'"
  | .notAClass sort => name ++ " must be set to a class, not '" ++ sort ++ "' object"

def frozenDefects (name : String) : List Defect := [⟨name, none, .frozen⟩]

end Assignment

end ClassDiagram
