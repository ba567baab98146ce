import ClassDiagram.Associations
import ClassDiagram.Enumerations

/-!
# Ingestion of a model

An ingestion reads one model in five stages: it indexes the elements, declares
types, adds classes with their fields, links associations, and adds
enumerations.  The first fault of the document makes the store invalid.
-/

namespace ClassDiagram

open Xml (Node)

structure Ingestion where
  model : Node
  database : Database
  registry : Registry
  /-- Whether elements of unknown kind are faults. -/
  strict : Bool
  /-- What the journal calls the document. -/
  document : String
  deriving Inhabited

namespace Ingestion

def tellFrom (ingestion : Ingestion) (stage : String) (event : Event) : Step Unit :=
  Step.tellFrom (some ⟨ingestion.document, stage⟩) event

/-- Run a stage; a fault of the document in it makes the store invalid. -/
def runStage {α : Type} (ingestion : Ingestion) (stage : Stage) (action : Step α) : Step α := do
  let result ← Step.repairing action fun cause => do
    ingestion.tellFrom stage.name (.stageFailed stage cause)
    Step.change (modify (·.invalidate cause))
  ingestion.tellFrom stage.name (.stageCompleted stage)
  return result

def findElements (ingestion : Ingestion) : Step Index := do
  let index ← ingestion.runStage .index do
    let index ← Step.lift (Index.ofModel ingestion.strict ingestion.model)
    Step.tellAll index.events
    return index
  modify fun progress => { progress with index := some index }
  return index

def index (ingestion : Ingestion) : Step Index := do
  match (← get).index with
  | some index => return index
  | none => ingestion.findElements

def fillTypes (ingestion : Ingestion) : Step Nat := do
  let index ← ingestion.index
  ingestion.runStage .types do
    Typing.declareAll ingestion.registry (index.elementsOf .scalarType)
    return (index.positions .scalarType).length

def fillClasses (ingestion : Ingestion) : Step Nat := do
  let index ← ingestion.index
  modify fun progress => { progress with ends := .empty }
  ingestion.runStage .classes do
    Classes.addAll ingestion.registry index.enumerationIds (index.elementsOf .objectClass)
    return (index.positions .objectClass).length

def fillAssociations (ingestion : Ingestion) : Step Nat := do
  let index ← ingestion.index
  ingestion.runStage .associations do
    Associations.link (index.elementsOf .association)
    return (index.positions .association).length

def fillEnumerations (ingestion : Ingestion) : Step Nat := do
  let index ← ingestion.index
  ingestion.runStage .enumerations do
    Enumerations.addAll (index.elementsOf .enumeration)
    return (index.positions .enumeration).length

def runStages (ingestion : Ingestion) : Step Unit := do
  ingestion.tellFrom "parse" (.started ingestion.database)
  let _ ← ingestion.findElements
  let _ ← ingestion.fillTypes
  let _ ← ingestion.fillClasses
  let _ ← ingestion.fillAssociations
  let _ ← ingestion.fillEnumerations
  Step.change (modify Store.freeze)
  ingestion.tellFrom "parse" (.finished (← Step.store).summary)

/-- Read the whole model once; later calls give the same store or tell the same fault. -/
def run (ingestion : Ingestion) : Step Store := do
  Step.lift (← Step.store).checkValid
  if (← Step.store).frozen then ingestion.tellFrom "parse" .alreadyDone
  else ingestion.runStages
  Step.store

end Ingestion

end ClassDiagram
