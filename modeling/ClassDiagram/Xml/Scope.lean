import ClassDiagram.Xml.Name

/-!
# Namespace declarations in scope

A label before a colon stands for the namespace that the nearest declaration
binds to it; the empty label is the default namespace, for elements alone.
-/

namespace ClassDiagram.Xml

/-- A name as written: a label with a colon after it, if any, and the rest. -/
structure RawName where
  label : Option String
  base : String
  deriving DecidableEq, Repr, Inhabited

def RawName.text (name : RawName) : String :=
  match name.label with
  | some label => label ++ ":" ++ name.base
  | none => name.base

def xmlSpace : Space := ⟨"http://www.w3.org/XML/1998/namespace", rfl⟩

def declarationSpace : String := "http://www.w3.org/2000/xmlns/"

def RawName.declares? (name : RawName) : Option String :=
  match name.label with
  | none => if name.base = "xmlns" then some "" else none
  | some label => if label = "xmlns" then some name.base else none

/-- Namespaces by label, the nearest declaration first. -/
abbrev Scope := List (String × Space)

namespace Scope

def initial : Scope := [("xml", xmlSpace)]

/-- The namespace of a label; an empty one counts as none. -/
def find? (scope : Scope) (label : String) : Option Space :=
  (scope.lookup label).filter (!·.text.isEmpty)

/--
Whether a label may be bound to a namespace.  Only the default namespace may
be taken back, and `xml` and its namespace belong together.
-/
def allows (label space : String) : Bool :=
  (label.isEmpty || !space.isEmpty) && label != "xmlns" && space != declarationSpace &&
    ((label == "xml") == (space == xmlSpace.text))

/--
Add a declaration.  A namespace that holds a closing brace could not be told
from the local part of a name.
-/
def declare? (scope : Scope) (label space : String) : Option Scope :=
  if allows label space then (Space.of? space).map fun space => (label, space) :: scope else none

/-- The name of an element: labels need a declaration, and no label takes the default. -/
def elementName? (scope : Scope) (name : RawName) : Option Name :=
  match name.label with
  | some label => (scope.find? label).map (.qualified · name.base)
  | none =>
      match scope.find? "" with
      | some space => some (.qualified space name.base)
      | none => Name.bare? name.base

/-- The name of an attribute: without a label it is in no namespace. -/
def attributeName? (scope : Scope) (name : RawName) : Option Name :=
  match name.label with
  | some label => (scope.find? label).map (.qualified · name.base)
  | none => Name.bare? name.base

@[simp] theorem find?_initial_default : find? initial "" = none := by decide

end Scope

end ClassDiagram.Xml
