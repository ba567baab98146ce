import ClassDiagram.Xml.Name

/-!
# Document trees

A node is an element with attributes in document order, the text before its
first child, and children; or it is a comment.  Children are selected by the
local part of their names, and a child whose name has none ends the scan.
-/

namespace ClassDiagram.Xml

inductive Node where
  | element (name : Name) (attributes : List (Name × String)) (text : Option String)
      (children : List Node)
  | comment (text : String)
  deriving Repr, Inhabited

namespace Node

def name? : Node → Option Name
  | .element name _ _ _ => some name
  | .comment _ => none

def attributes : Node → List (Name × String)
  | .element _ attributes _ _ => attributes
  | .comment _ => []

def text? : Node → Option String
  | .element _ _ text _ => text
  | .comment text => some text

def children : Node → List Node
  | .element _ _ _ children => children
  | .comment _ => []

def attribute? (node : Node) (name : Name) : Option String := node.attributes.lookup name

def plain? (node : Node) (name : String) : Option String := node.attribute? (.ofText name)

/-- The children selected from a node, and whether a broken name ended the scan. -/
structure Selection where
  found : List Node
  cut : Bool
  deriving Repr, Inhabited

def Selection.cons (node : Node) (selection : Selection) : Selection :=
  { selection with found := node :: selection.found }

/-- Select the nodes whose local name is given, up to the first broken name. -/
def selectFrom (wanted : Option String) : List Node → Selection
  | [] => ⟨[], false⟩
  | .comment _ :: rest => selectFrom wanted rest
  | .element name attributes text children :: rest =>
      match name.localPart? with
      | none => ⟨[], true⟩
      | some base =>
          if some base = wanted then
            (selectFrom wanted rest).cons (.element name attributes text children)
          else selectFrom wanted rest

def select (node : Node) (wanted : Option String) : Selection := selectFrom wanted node.children

@[simp] theorem selectFrom_nil (wanted : Option String) : selectFrom wanted [] = ⟨[], false⟩ := rfl

@[simp] theorem selectFrom_comment (wanted : Option String) (text : String) (rest : List Node) :
    selectFrom wanted (.comment text :: rest) = selectFrom wanted rest := rfl

@[simp] theorem found_cons (node : Node) (selection : Selection) :
    (selection.cons node).found = node :: selection.found := rfl

@[simp] theorem cut_cons (node : Node) (selection : Selection) :
    (selection.cons node).cut = selection.cut := rfl

end Node

end ClassDiagram.Xml
