import ClassDiagram.Classes

/-!
# Enumerations

An enumeration and each of its literals have to have names; an enumeration
without literals is a valid one.
-/

namespace ClassDiagram

open Xml (Node)

namespace Enumerations

def draft (id : Option String) (name : String) (values : List String) : Draft :=
  [("id", .ofOption id), ("name", .text name), ("values", .ofTexts values)]

def literalNames (enumeration : String) : List Node → Step (List String)
  | [] => pure []
  | node :: rest =>
      match title? node with
      | some name => do
          let others ← literalNames enumeration rest
          return name :: others
      | none => do
          Step.tell (.literalUnnamed enumeration)
          Step.refuse (.nameMissing (.text ("value of enumeration '" ++ enumeration ++ "'"))
            (.ofOption (id? node)))

def values (enumeration : String) (literals : Node.Selection) : Step (List String) := do
  let names ← literalNames enumeration literals.found
  if literals.cut then throw .brokenName
  return names

def build (node : Node) : Step Enumeration := do
  match title? node with
  | some name =>
      let values ← values name (node.select "ownedLiteral")
      Step.lift ((Enumeration.ofDraft (draft (id? node) name values)).orFault .enumeration)
  | none =>
      Step.tell (.enumerationUnnamed (id? node))
      Step.refuse (.nameMissing (.text "enumeration") (.ofOption (id? node)))

def add (node : Node) : Step Unit := do
  let enumeration ← build node
  Step.change (Store.addEnumeration enumeration)
  Step.tell (.enumerationAdded enumeration.name enumeration.values.length)

def addAll : List Node → Step Unit
  | [] => pure ()
  | node :: rest => do
      add node
      addAll rest

end Enumerations

end ClassDiagram
