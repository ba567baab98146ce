import ClassDiagram.Fault
import ClassDiagram.Text.Numeral
import ClassDiagram.Xml.Node

/-!
# Looking things up on elements

Identifiers, declared types and references are attributes in any namespace
that names XMI; names and other properties are plain attributes.  What an
element says about itself may also stand in its children.
-/

namespace ClassDiagram

open Text (strip words plain? isPresent)
open Xml (Name Node)

def occursIn (wanted : List Char) : List Char → Bool
  | [] => wanted.isEmpty
  | c :: rest => wanted.isPrefixOf (c :: rest) || occursIn wanted rest

def isXmiSpace (space : Xml.Space) : Bool :=
  occursIn ['X', 'M', 'I'] (Text.upper space.text).toList

def isXmiName (wanted : Option String) (name : Name) : Bool :=
  match name.space? with
  | some (space, base) => some base = wanted && isXmiSpace space
  | none => false

/-- All children of a selection, unless a broken name cut it short. -/
def allOf (selection : Node.Selection) : Except Fault (List Node) :=
  if selection.cut then .error .brokenName else .ok selection.found

/-- The first child of a selection; a broken name matters only before it. -/
def firstOf (selection : Node.Selection) : Except Fault (Option Node) :=
  match selection.found with
  | node :: _ => .ok (some node)
  | [] => if selection.cut then .error .brokenName else .ok none

inductive ElementKind where
  | scalarType
  | objectClass
  | association
  | enumeration
  deriving DecidableEq, Repr, Inhabited

namespace ElementKind

def declared : ElementKind → String
  | .scalarType => "uml:PrimitiveType"
  | .objectClass => "uml:Class"
  | .association => "uml:Association"
  | .enumeration => "uml:Enumeration"

def ofDeclared? : Option String → Option ElementKind
  | some "uml:PrimitiveType" => some .scalarType
  | some "uml:Class" => some .objectClass
  | some "uml:Association" => some .association
  | some "uml:Enumeration" => some .enumeration
  | _ => none

@[simp] theorem ofDeclared?_declared (kind : ElementKind) :
    ofDeclared? (some kind.declared) = some kind := by
  cases kind <;> rfl

end ElementKind

/-! ## Attributes -/

/-- An XMI attribute, or else the one written with the usual label. -/
def xmi? (node : Node) (wanted : Option String) : Option String :=
  match node.attributes.find? (isXmiName wanted ·.1) with
  | some (_, value) => some value
  | none => node.plain? ("xmi:" ++ plain? wanted)

def id? (node : Node) : Option String := xmi? node "id"

def declaredKind? (node : Node) : Option String := xmi? node "type"

def kind? (node : Node) : Option ElementKind := ElementKind.ofDeclared? (declaredKind? node)

def solid? (text : String) : Option String :=
  let stripped := strip text
  if stripped.isEmpty then none else some stripped

def title? (node : Node) : Option String := (node.plain? "name").bind solid?

/-! ## Children -/

/-- The text of one comment: its body element if that holds text, else its body attribute. -/
def commentText (comment : Node) : Except Fault String := do
  let inside := (← firstOf (comment.select "body")).bind Node.text?
  if isPresent inside then return inside.getD ""
  return (comment.plain? "body").getD ""

def documentation (node : Node) : Except Fault (Option String) := do
  let comments ← allOf (node.select "ownedComment")
  let texts ← comments.mapM commentText
  match texts.filterMap solid? with
  | [] => return none
  | bodies => return some ("\n".intercalate bodies)

def afterLastMark? (text : List Char) : Option (List Char) :=
  if text.contains '#' then some (text.reverse.takeWhile (· ≠ '#')).reverse else none

def libraryType (fragment : List Char) : Option String :=
  match fragment.dropWhile (· = '/') with
  | [] => none
  | name => some (String.ofList name)

/--
The type name written on a field: that of a library type referred to by its
type element, or else its type attribute.
-/
def inlineType (field : Node) : Except Fault (Option String) := do
  let inside ← firstOf (field.select "type")
  match inside.bind fun type => afterLastMark? ((type.plain? "href").getD "").toList with
  | some fragment => return libraryType fragment
  | none => return field.plain? "type"

def memberReferences (members : List Node) : List String :=
  members.filterMap fun member => (xmi? member "idref").filter (!·.isEmpty)

def memberEnds (association : Node) : Except Fault (List String) :=
  match (association.plain? "memberEnd").filter (!·.isEmpty) with
  | some text => .ok (words text)
  | none => (allOf (association.select "memberEnd")).map memberReferences

/-! ## Bounds -/

inductive Bound where
  | one
  | many
  | unreadable (text : String)
  deriving DecidableEq, Repr

/-- Whether a bound allows more than one object; an unreadable one does not. -/
def Bound.isMany : Bound → Bool
  | .many => true
  | _ => false

def Bound.ofText (text : String) : Bound :=
  let text := strip text
  if text = "*" || text = "-1" then .many
  else
    match Text.integer? text with
    | some value => if value > 1 then .many else .one
    | none => .unreadable text

/-- The upper bound of an end, one unless it is given. -/
def upperBound (side : Node) : Except Fault Bound := do
  match ← firstOf (side.select "upperValue") with
  | some upper => return .ofText ((upper.plain? "value").getD "1")
  | none => return .one

def isMany (side : Node) : Except Fault Bool := return (← upperBound side).isMany

def cardinalityBetween (source destination : Node) : Except Fault Cardinality := do
  let manyDestinations ← isMany source
  let manySources ← isMany destination
  return .ofSides manyDestinations manySources

@[simp] theorem occursIn_nil (chars : List Char) : occursIn [] chars = true := by
  cases chars <;> simp [occursIn]

@[simp] theorem allOf_whole (found : List Node) : allOf ⟨found, false⟩ = .ok found := rfl

end ClassDiagram
