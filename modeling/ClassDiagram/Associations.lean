import ClassDiagram.Classes

/-!
# Associations

An association has two member ends.  The first is navigated from the source
class, so its type is the destination; the type of the second is the source.
An end stands inside the association or among the attributes of a class.
-/

namespace ClassDiagram

open Xml (Node)

namespace Associations

def draft (id name : Option String) (source destination : String) (cardinality : Cardinality)
    (first second firstComment secondComment : Option String) : Draft :=
  [("id", .ofOption id), ("name", .ofOption name), ("source_class_id", .text source),
    ("destination_class_id", .text destination),
    ("relationship_type", .text cardinality.name),
    ("injected_field_in_source", .ofOption first),
    ("injected_field_in_destination", .ofOption second),
    ("comment_in_source", .ofOption firstComment),
    ("comment_in_destination", .ofOption secondComment)]

def pairOfEnds (association : Node) : List String → Step (String × String)
  | [first, second] => pure (first, second)
  | ids =>
      let reference := if ids.isEmpty then none else some (" ".intercalate ids)
      Step.refuse (.unresolved (.ofOption reference) (.text "pair of association ends")
        (.ofOption (id? association)))

def ownedEnds (ends : List Node) : Table (Option String) Node :=
  .ofList (ends.map fun node => (id? node, node))

def findEnd (owned : Table (Option String) Node) (association : Option String) (id : String) :
    Step Node := do
  match owned.get? (some id) with
  | some node => return node
  | none =>
      match (← get).ends.get? (some id) with
      | some found => return found.node
      | none =>
          Step.refuse (.unresolved (.text id) (.text "association end") (.ofOption association))

def endClass (association : Option String) (side : Node) : Step String := do
  let owner := side.plain? "type"
  match owner.filter (!·.isEmpty) with
  | some id =>
      if (← Step.store).hasClass id then return id
      else fail owner
  | none => fail owner
where
  fail (owner : Option String) : Step String := do
    Step.tell (.endClassUnknown association owner)
    Step.refuse (.unresolved (.ofOption owner) (.text "class") (.ofOption association))

/-- Whether an end allows many objects; an unreadable bound is told and counts as one. -/
def sideIsMany (side : Node) : Step Bool := do
  let bound ← Step.lift (upperBound side)
  match bound with
  | .unreadable text => Step.tell (.boundUnreadable text (id? side))
  | _ => pure ()
  return bound.isMany

def cardinality (first second : Node) : Step Cardinality := do
  let manyDestinations ← sideIsMany first
  let manySources ← sideIsMany second
  return .ofSides manyDestinations manySources

def build (node : Node) (ids : List String) : Step Association := do
  let (firstId, secondId) ← pairOfEnds node ids
  let owned := ownedEnds (← Step.lift (allOf (node.select "ownedEnd")))
  let first ← findEnd owned (id? node) firstId
  let second ← findEnd owned (id? node) secondId
  let source ← endClass (id? node) second
  let destination ← endClass (id? node) first
  let cardinality ← cardinality first second
  let firstComment ← Step.lift (documentation first)
  let secondComment ← Step.lift (documentation second)
  Step.lift ((Association.ofDraft (draft (id? node) (title? node) source destination cardinality
    (title? first) (title? second) firstComment secondComment)).orFault .association)

def add (node : Node) : Step (List String) := do
  let ids ← Step.lift (memberEnds node)
  let association ← build node ids
  Step.change (Store.addAssociation association)
  Step.tell (.associationAdded association)
  return ids

def addAll : List Node → Step (List String)
  | [] => pure []
  | node :: rest => do
      let ids ← add node
      let others ← addAll rest
      return ids ++ others

def checkEnds (used : List String) : List (Option String × ClassEnd) → Step Unit
  | [] => pure ()
  | (id, found) :: rest => do
      if id.any used.contains then checkEnds used rest
      else
        let association := found.node.plain? "association"
        Step.tell (.endUnlisted id found.owner association)
        Step.refuse (.unresolved (.ofOption association) (.text "association")
          (.text found.owner))

def link (nodes : List Node) : Step Unit := do
  let used ← addAll nodes
  checkEnds used (← get).ends.entries

end Associations

end ClassDiagram
