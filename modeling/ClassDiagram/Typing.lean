import ClassDiagram.Progress

/-!
# Scalar types

Type elements declare scalar types under their identifiers.  A field may also
use a scalar type that nothing declares; such a type is inferred once, under
its canonical name.
-/

namespace ClassDiagram

open Text (isPresent)
open Xml (Node)

namespace Typing

def draft (id name : String) : Draft := [("id", .text id), ("name", .text name)]

/-- The identifier a type is declared under: its own, or else its canonical name. -/
def declaredId (node : Node) (canonical : String) : String :=
  ((id? node).filter (!·.isEmpty)).getD canonical

def canonicalName (registry : Registry) (name : Option String) : Step String := do
  if registry.contains name then Step.lift (registry.canonical name)
  else
    Step.tell (.typeUnsupported name registry.database)
    Step.refuse (.wrongType (.ofOption name) .absent .absent)

def declare (registry : Registry) (node : Node) : Step Unit := do
  let canonical ← canonicalName registry (node.plain? "name")
  let type ← Step.lift
    ((ScalarType.ofDraft (draft (declaredId node canonical) canonical)).orFault .scalarType)
  Step.change (Store.addType type)
  Step.tell (.typeRegistered type.id type.name)

def declareAll (registry : Registry) : List Node → Step Unit
  | [] => pure ()
  | node :: rest => do
      declare registry node
      declareAll registry rest

def referred? (store : Store) (enumerations : List (Option String)) (field : Node) :
    Option String :=
  (field.plain? "type").filter fun reference =>
    !reference.isEmpty && (store.hasType reference || enumerations.contains (some reference))

def infer (canonical : String) (field : Option String) : Step Unit := do
  if !(← Step.store).hasType canonical then
    let type ← Step.lift ((ScalarType.ofDraft (draft canonical canonical)).orFault .scalarType)
    Step.change (Store.addType type)
    Step.tell (.typeInferred canonical field)

def resolve (registry : Registry) (enumerations : List (Option String)) (owner : String)
    (field : Node) : Step String := do
  match referred? (← Step.store) enumerations field with
  | some reference => return reference
  | none =>
      let name ← Step.lift (inlineType field)
      if registry.contains name then
        let canonical ← Step.lift (registry.canonical name)
        infer canonical (id? field)
        return canonical
      else Step.refuse (.wrongType (.ofOption name) (.ofOption (id? field)) (.text owner))

end Typing

end ClassDiagram
