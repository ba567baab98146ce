import ClassDiagram.Xml.Node
import ClassDiagram.Xml.Prolog.Rules

/-!
# The tree of a document

The open elements form a stack of frames.  Each frame gathers the text before
the element's first child and the children that are complete; comments and
instructions leave no trace, so the text around them joins.
-/

namespace ClassDiagram.Xml

open Prolog (Rules AttributeRule)

structure Frame where
  raw : String
  name : Name
  attributes : List (Name × String)
  scope : Scope
  /-- The characters before the first child, the last one first. -/
  text : List Char
  /-- The complete children, the last one first. -/
  children : List Node
  deriving Repr, Inhabited

namespace Frame

/-- Add characters; they count only before the first child. -/
def addText (frame : Frame) (chars : List Char) : Frame :=
  if frame.children.isEmpty then { frame with text := chars.reverse ++ frame.text } else frame

def addChild (frame : Frame) (child : Node) : Frame :=
  { frame with children := child :: frame.children }

def close (frame : Frame) : Node :=
  .element frame.name frame.attributes
    (if frame.text.isEmpty then none else some (String.ofList frame.text.reverse))
    frame.children.reverse

end Frame

abbrev Valued := RawName × String

def Prolog.Rules.rule? (rules : Rules) (element : String) (name : RawName) :
    Option AttributeRule :=
  rules.attributes.find? fun rule => rule.element = element && rule.name = name

def valueOf? (rules : Rules) (element : String) (written : RawAttribute) : Option Valued := do
  let chars ← textOf? rules.lenient written.value
  let plain := (rules.rule? element written.name).all (·.plain)
  return (written.name, String.ofList (if plain then chars else tokenized chars))

def defaultsFor (rules : Rules) (element : String) (written : List RawName) : List Valued :=
  rules.attributes.filterMap fun rule =>
    if rule.element = element && !written.contains rule.name then
      rule.value.map fun value => (rule.name, value)
    else none

def declareAll? (scope : Scope) : List Valued → Option Scope
  | [] => some scope
  | (name, value) :: rest =>
      match name.declares? with
      | some label => do
          let scope ← scope.declare? label value
          declareAll? scope rest
      | none => declareAll? scope rest

def nameAll? (scope : Scope) : List Valued → Option (List (Name × String))
  | [] => some []
  | (name, value) :: rest =>
      if name.declares?.isSome then nameAll? scope rest
      else do
        let full ← scope.attributeName? name
        let others ← nameAll? scope rest
        return (full, value) :: others

def openFrame? (rules : Rules) (scope : Scope) (name : RawName)
    (written : List RawAttribute) : Option Frame := do
  let names := written.map (·.name)
  guard names.Nodup
  let values ← written.mapM (valueOf? rules name.text)
  let all := values ++ defaultsFor rules name.text names
  let scope ← declareAll? scope all
  let attributes ← nameAll? scope all
  guard (attributes.map Prod.fst).Nodup
  let full ← scope.elementName? name
  return ⟨name.text, full, attributes, scope, [], []⟩

/-- Close the innermost element: it is the root, or joins the element around it. -/
def closeFrame (frame : Frame) : List Frame → Node ⊕ List Frame
  | [] => .inl frame.close
  | outer :: rest => .inr (outer.addChild frame.close :: rest)

def take? (rules : Rules) (open' : List Frame) : Markup → Option (Node ⊕ List Frame)
  | .start name written closed => do
      let scope := (open'.head?.map (·.scope)).getD .initial
      let frame ← openFrame? rules scope name written
      return if closed then closeFrame frame open' else .inr (frame :: open')
  | .stop name =>
      match open' with
      | frame :: rest => if frame.raw = name then some (closeFrame frame rest) else none
      | [] => none
  | .text chars =>
      match open' with
      | frame :: rest => some (.inr (frame.addText chars :: rest))
      | [] => none
  | .aside => some (.inr open')

def readTree? (rules : Rules) : Nat → List Frame → List Char → Option (Node × List Char)
  | 0, _, _ => none
  | fuel + 1, frames, chars => do
      let (markup, rest) ← Markup.next? rules.alphabet chars
      match ← take? rules frames markup with
      | .inl root => return (root, rest)
      | .inr frames => readTree? rules fuel frames rest

def isEpilog (alphabet : Alphabet) : Nat → List Char → Bool
  | 0, _ => false
  | _ + 1, [] => true
  | fuel + 1, '<' :: '?' :: rest =>
      (afterInstruction? alphabet rest).any (isEpilog alphabet fuel)
  | fuel + 1, '<' :: '!' :: '-' :: '-' :: rest => (afterComment? rest).any (isEpilog alphabet fuel)
  | fuel + 1, c :: rest => isSpace c && isEpilog alphabet fuel rest

def readRoot? (rules : Rules) (chars : List Char) : Option Node := do
  let chars := unifyLines chars
  match chars with
  | '<' :: c :: _ =>
      if rules.alphabet.isNameStart c then
        let (root, rest) ← readTree? rules (chars.length + 1) [] chars
        if isEpilog rules.alphabet (rest.length + 1) rest then return root else none
      else none
  | _ => none

@[simp] theorem close_element (frame : Frame) :
    frame.close.name? = some frame.name := rfl

@[simp] theorem closeFrame_nil (frame : Frame) : closeFrame frame [] = .inl frame.close := rfl

end ClassDiagram.Xml
