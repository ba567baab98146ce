import ClassDiagram.Xml.Markup

/-!
# Rules from a document type

A document type may give attributes defaults and kinds.  Once it refers to
declarations elsewhere, later ones count in standalone documents alone, and
others may refer to entities that are not known.
-/

namespace ClassDiagram.Xml.Prolog

structure AttributeRule where
  element : String
  name : RawName
  plain : Bool
  value : Option String
  deriving DecidableEq, Repr

/-- What the content of a document goes by, mostly told by its document type. -/
structure Rules where
  /-- The letters that names are made of. -/
  alphabet : Alphabet
  /-- Whether literals are passed on in pieces. -/
  pieced : Bool
  /-- Whether declarations may stand where they are not read. -/
  outside : Bool
  /-- Whether the document says that no declarations outside matter. -/
  standalone : Bool
  /-- Whether later declarations still count. -/
  counting : Bool
  attributes : List AttributeRule
  deriving DecidableEq, Repr

def Rules.initial (alphabet : Alphabet) (pieced standalone : Bool) : Rules :=
  ⟨alphabet, pieced, false, standalone, true, []⟩

/-- The most bytes, counted as UTF-8 writes them, that a piece of a literal takes. -/
def pieceSize : Nat := 1024

/--
Whether no further piece of a literal starts with an ampersand, which would
pass for a reference to an unknown entity; the piece under way has taken some
bytes.
-/
def breaksWell (taken : Nat) : List Char → Bool
  | [] => true
  | c :: rest =>
      if taken + c.utf8Size ≤ pieceSize then breaksWell (taken + c.utf8Size) rest
      else c != '&' && breaksWell c.utf8Size rest

/-- Whether a literal that is passed on may stand in a document; its quote is passed on, too. -/
def Rules.passes (rules : Rules) (literal : List Char) : Bool :=
  !rules.pieced || breaksWell '"'.utf8Size literal

/-- Whether references to entities may be dropped from attribute values. -/
def Rules.lenient (rules : Rules) : Bool := rules.outside && !rules.standalone

def Rules.refer (rules : Rules) : Rules :=
  { rules with outside := true, counting := rules.standalone }

def Rules.covers (rules : Rules) (element : String) (name : RawName) : Bool :=
  rules.attributes.any fun rule => rule.element = element && rule.name = name

/-- Add the rule for an attribute; the first one counts. -/
def Rules.add (rules : Rules) (rule : AttributeRule) : Rules :=
  if rules.counting && !rules.covers rule.element rule.name then
    { rules with attributes := rules.attributes ++ [rule] }
  else rules

@[simp] theorem breaksWell_nil (taken : Nat) : breaksWell taken [] = true := rfl

end ClassDiagram.Xml.Prolog
