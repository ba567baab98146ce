import ClassDiagram.Typing

/-!
# Classes and their fields

A class element becomes a class, and its attributes become fields, except for
those that belong to an association: these are ends, kept for later.  A class
that cannot be completed is taken out again with its fields.
-/

namespace ClassDiagram

open Xml (Node)

namespace Classes

def draft (id : Option String) (name : String) (comment : Option String) : Draft :=
  [("id", .ofOption id), ("name", .text name), ("comment", .ofOption comment)]

def fieldDraft (id : Option String) (name typeId owner : String) (comment : Option String) :
    Draft :=
  [("id", .ofOption id), ("name", .text name), ("type_id", .text typeId),
    ("class_id", .text owner), ("comment", .ofOption comment)]

def requireTitle (what : String) (node : Node) : Step String :=
  match title? node with
  | some name => pure name
  | none => Step.refuse (.nameMissing (.text what) (.ofOption (id? node)))

def addClass (node : Node) : Step String := do
  let name ← requireTitle "class" node
  let comment ← Step.lift (documentation node)
  let entity ← Step.lift ((Class.ofDraft (draft (id? node) name comment)).orFault .objectClass)
  Step.change (Store.addClass entity)
  Step.tell (.classAdded name entity.id)
  return entity.id

def addField (registry : Registry) (enumerations : List (Option String)) (owner : String)
    (node : Node) : Step Unit := do
  let name ← requireTitle "field" node
  let typeId ← Typing.resolve registry enumerations owner node
  let comment ← Step.lift (documentation node)
  let field ← Step.lift
    ((Field.ofDraft (fieldDraft (id? node) name typeId owner comment)).orFault .field)
  Step.change (Store.addField field)
  Step.tell (.fieldAdded field.name typeId owner)

def isEnd (node : Node) : Bool := Text.isPresent (node.plain? "association")

def keepEnd (owner : String) (node : Node) : Step Unit :=
  modify fun progress =>
    { progress with ends := progress.ends.insert (id? node) ⟨owner, node⟩ }

def addAttributes (registry : Registry) (enumerations : List (Option String))
    (owner : String) : List Node → Step Unit
  | [] => pure ()
  | node :: rest => do
      if isEnd node then keepEnd owner node
      else addField registry enumerations owner node
      addAttributes registry enumerations owner rest

def addMembers (registry : Registry) (enumerations : List (Option String)) (owner : String)
    (attributes : Node.Selection) : Step Unit := do
  addAttributes registry enumerations owner attributes.found
  if attributes.cut then throw .brokenName

/-- Add a class with its fields, or neither. -/
def add (registry : Registry) (enumerations : List (Option String)) (node : Node) :
    Step Unit := do
  let owner ← addClass node
  Step.repairing (addMembers registry enumerations owner (node.select "ownedAttribute"))
    fun _ => Step.change (Store.removeClass owner)

def addAll (registry : Registry) (enumerations : List (Option String)) :
    List Node → Step Unit
  | [] => pure ()
  | node :: rest => do
      add registry enumerations node
      addAll registry enumerations rest

end Classes

end ClassDiagram
