import ClassDiagram.Xml.Reference
import ClassDiagram.Xml.Scope

/-!
# Markup inside the root element

Content is a run of tags, characters, references, sections of plain text,
comments and instructions.  `Markup.next?` reads the one that comes first.
-/

namespace ClassDiagram.Xml

def rawName? (alphabet : Alphabet) (chars : List Char) : Option (RawName × List Char) := do
  let (first, rest) ← name? alphabet chars
  match rest with
  | ':' :: rest =>
      let (second, rest) ← name? alphabet rest
      return (⟨some (String.ofList first), String.ofList second⟩, rest)
  | _ => return (⟨none, String.ofList first⟩, rest)

/-- The rest after a comment whose opening has been read; two hyphens may only close it. -/
def afterComment? (chars : List Char) : Option (List Char) := do
  let (_, rest) ← until? ['-', '-'] chars
  after? ['>'] rest

def afterInstruction? (alphabet : Alphabet) (chars : List Char) : Option (List Char) := do
  let (target, rest) ← name? alphabet chars
  if target.map Char.toLower = ['x', 'm', 'l'] then none
  else
    match rest with
    | '?' :: '>' :: rest => return rest
    | c :: rest => if isSpace c then (until? ['?', '>'] rest).map Prod.snd else none
    | [] => none

structure RawAttribute where
  name : RawName
  value : List Piece
  deriving DecidableEq, Repr

def attribute? (alphabet : Alphabet) (chars : List Char) :
    Option (RawAttribute × List Char) := do
  let (name, rest) ← rawName? alphabet chars
  let rest ← after? ['='] (skipSpace rest)
  match skipSpace rest with
  | c :: rest =>
      if c = '"' || c = '\'' then
        let (value, rest) ← quotedPieces? alphabet c rest
        return (⟨name, value⟩, rest)
      else none
  | [] => none

def attributes? (alphabet : Alphabet) :
    Nat → List Char → Option (List RawAttribute × Bool × List Char)
  | 0, _ => none
  | fuel + 1, chars =>
      match skipSpace chars with
      | '>' :: rest => some ([], false, rest)
      | '/' :: '>' :: rest => some ([], true, rest)
      | found =>
          if chars.head?.any isSpace then do
            let (first, rest) ← attribute? alphabet found
            let (others, closed, rest) ← attributes? alphabet fuel rest
            return (first :: others, closed, rest)
          else none

inductive Markup where
  | start (name : RawName) (attributes : List RawAttribute) (closed : Bool)
  | stop (name : String)
  | text (chars : List Char)
  | aside
  deriving DecidableEq, Repr

def startTag? (alphabet : Alphabet) (chars : List Char) : Option (Markup × List Char) := do
  let (name, rest) ← rawName? alphabet chars
  let (attributes, closed, rest) ← attributes? alphabet (rest.length + 1) rest
  return (.start name attributes closed, rest)

def endTag? (alphabet : Alphabet) (chars : List Char) : Option (Markup × List Char) := do
  let (first, rest) ← name? alphabet chars
  let inName := fun c => alphabet.isNameChar c || c = ':'
  let rest' ← after? ['>'] (skipSpace (rest.dropWhile inName))
  return (.stop (String.ofList (first ++ rest.takeWhile inName)), rest')

def Markup.next? (alphabet : Alphabet) : List Char → Option (Markup × List Char)
  | [] => none
  | '<' :: '/' :: rest => endTag? alphabet rest
  | '<' :: '?' :: rest => (afterInstruction? alphabet rest).map (.aside, ·)
  | '<' :: '!' :: '-' :: '-' :: rest => (afterComment? rest).map (.aside, ·)
  | '<' :: '!' :: rest => do
      let rest ← after? ['[', 'C', 'D', 'A', 'T', 'A', '['] rest
      let (chars, rest) ← until? [']', ']', '>'] rest
      return (.text chars, rest)
  | '<' :: rest => startTag? alphabet rest
  | '&' :: rest => do
      match ← reference? alphabet rest with
      | (.char c, rest) => return (.text [c], rest)
      | (.entity _, _) => none
  | ']' :: ']' :: '>' :: _ => none
  | c :: rest => if isLegal c then some (.text [c], rest) else none

/-- Line ends written as a return, alone or with a line feed, become line feeds. -/
def unifyLines : List Char → List Char
  | [] => []
  | '\r' :: '\n' :: rest => '\n' :: unifyLines rest
  | '\r' :: rest => '\n' :: unifyLines rest
  | c :: rest => c :: unifyLines rest

@[simp] theorem unifyLines_nil : unifyLines [] = [] := rfl

@[simp] theorem next?_nil (alphabet : Alphabet) : Markup.next? alphabet [] = none := rfl

end ClassDiagram.Xml
