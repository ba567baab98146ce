import ClassDiagram.Index

/-!
# An ingestion under way

A step of an ingestion reads and changes its progress and may end in a fault.
What a step has changed before its fault stays changed.
-/

namespace ClassDiagram

open Xml (Node)

structure ClassEnd where
  owner : String
  node : Node
  deriving Repr, Inhabited

structure Progress where
  store : Store
  index : Option Index
  /-- The association ends that classes declare, by identifier. -/
  ends : Table (Option String) ClassEnd
  journal : Journal
  deriving Inhabited

def Progress.initial : Progress := ⟨.empty, none, .empty, []⟩

abbrev Step (α : Type) := EStateM Fault Progress α

namespace Step

def outcome {α : Type} (step : Step α) (progress : Progress) : Except Fault α × Progress :=
  match step progress with
  | .ok value progress => (.ok value, progress)
  | .error fault progress => (.error fault, progress)

def lift {α : Type} : Except Fault α → Step α
  | .ok value => pure value
  | .error fault => throw fault

def store : Step Store := return (← get).store

/-- Change the store; what an operation leaves of it stays, even where the operation fails. -/
def change (operation : Store.Change Unit) : Step Unit := fun progress =>
  match operation progress.store with
  | .ok _ store => .ok () { progress with store }
  | .error fault store => .error fault { progress with store }

def tellFrom (place : Option Place) (event : Event) : Step Unit :=
  modify fun progress => { progress with journal := progress.journal ++ [⟨event, place⟩] }

def tell (event : Event) : Step Unit := tellFrom none event

def tellAll : List Event → Step Unit
  | [] => pure ()
  | event :: rest => do
      tell event
      tellAll rest

def refuse {α : Type} (cause : IngestFault) : Step α := throw (.ingest cause)

/-- Take a step, and repair the progress before a fault of the document goes on. -/
def repairing {α : Type} (step : Step α) (repair : IngestFault → Step Unit) : Step α :=
  tryCatch step fun fault => do
    match fault with
    | .ingest cause => repair cause
    | _ => pure ()
    throw fault

@[simp] theorem lift_ok {α : Type} (value : α) : lift (.ok value) = pure value := rfl

@[simp] theorem lift_error {α : Type} (fault : Fault) :
    (lift (.error fault) : Step α) = throw fault := rfl

end Step

end ClassDiagram
