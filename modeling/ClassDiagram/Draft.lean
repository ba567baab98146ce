import ClassDiagram.Text.Quoted

/-!
# Drafts of entities and their defects

An entity is made from a draft that offers values by name.  Every name is
checked, so one draft may show several defects, in the order of the names.
-/

namespace ClassDiagram

inductive Offer where
  | missing
  | null
  | text (value : String)
  /-- A list, where an item that is no text counts as absent. -/
  | list (items : List (Option String))
  | other
  deriving DecidableEq, Repr

abbrev Draft := List (String × Offer)

def Draft.offer (draft : Draft) (name : String) : Offer := (draft.lookup name).getD .missing

def Offer.ofOption : Option String → Offer
  | some value => .text value
  | none => .null

def Offer.ofTexts (values : List String) : Offer := .list (values.map some)

inductive Flaw where
  | missing
  | notText
  | notList
  | notCardinality
  | notCapitalized (name : String)
  | emptyFieldName
  | frozen
  deriving DecidableEq, Repr

def Flaw.message : Flaw → String
  | .missing => "Field required"
  | .notText => "Input should be a valid string"
  | .notList => "Input should be a valid tuple"
  | .notCardinality =>
      "Input should be 'one-to-one', 'one-to-many', 'many-to-one' or 'many-to-many'"
  | .notCapitalized name =>
      "Value error, type name must be non-empty and capitalized, got " ++ Text.quoted name
  | .emptyFieldName => "Value error, field name must not be empty"
  | .frozen => "Instance is frozen"

structure Defect where
  part : String
  item : Option Nat
  flaw : Flaw
  deriving DecidableEq, Repr

/-- The result of a check: a value, or every defect found. -/
abbrev Check (α : Type) := Except (List Defect) α

namespace Check

def fail {α : Type} (part : String) (flaw : Flaw) : Check α := .error [⟨part, none, flaw⟩]

def both {α β : Type} : Check α → Check β → Check (α × β)
  | .ok a, .ok b => .ok (a, b)
  | .ok _, .error second => .error second
  | .error first, .ok _ => .error first
  | .error first, .error second => .error (first ++ second)

def text (draft : Draft) (part : String) : Check String :=
  match draft.offer part with
  | .text value => .ok value
  | .missing => fail part .missing
  | _ => fail part .notText

def optionalText (draft : Draft) (part : String) : Check (Option String) :=
  match draft.offer part with
  | .text value => .ok (some value)
  | .missing | .null => .ok none
  | _ => fail part .notText

def items (part : String) : Nat → List (Option String) → Check (List String)
  | _, [] => .ok []
  | position, item :: rest =>
      let first : Check String :=
        match item with
        | some value => .ok value
        | none => .error [⟨part, some position, .notText⟩]
      (both first (items part (position + 1) rest)).map fun pair => pair.1 :: pair.2

def texts (draft : Draft) (part : String) : Check (List String) :=
  match draft.offer part with
  | .list values => items part 0 values
  | .missing => .ok []
  | _ => fail part .notList

@[simp] theorem both_ok {α β : Type} (a : α) (b : β) :
    both (.ok a) (.ok b) = .ok (a, b) := rfl

theorem items_some (part : String) (position : Nat) (values : List String) :
    items part position (values.map some) = .ok values := by
  induction values generalizing position with
  | nil => rfl
  | cons value rest ih => simp [items, ih, Except.map]

end Check

end ClassDiagram
