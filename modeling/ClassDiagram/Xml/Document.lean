import ClassDiagram.Xml.Encoding
import ClassDiagram.Xml.Prolog
import ClassDiagram.Xml.Source
import ClassDiagram.Xml.Tree

/-!
# Whole documents

A document is a declaration, if any, a prolog, the root element, and nothing
but white space, comments and instructions after it.
-/

namespace ClassDiagram.Xml

namespace Declaration

def isValueChar (c : Char) : Bool := c.isAlphanum || c = '.' || c = '-' || c = '_'

structure Setting where
  name : String
  value : String
  rest : List Char
  deriving DecidableEq, Repr

def setting? (chars : List Char) : Option Setting := do
  let inName := fun c => !isSpace c && c != '='
  let name := chars.takeWhile inName
  guard (!name.isEmpty)
  let rest ← after? ['='] (skipSpace (chars.dropWhile inName))
  match skipSpace rest with
  | quote :: rest =>
      guard (quote = '"' || quote = '\'')
      let rest' ← after? [quote] (rest.dropWhile isValueChar)
      return ⟨String.ofList name, String.ofList (rest.takeWhile isValueChar), rest'⟩
  | [] => none

def settings? : Nat → List Char → Option (List (String × String))
  | 0, _ => none
  | fuel + 1, chars =>
      match skipSpace chars with
      | [] => some []
      | found =>
          if chars.head?.any isSpace then do
            let setting ← setting? found
            let others ← settings? fuel setting.rest
            return (setting.name, setting.value) :: others
          else none

def isEncodingName (value : String) : Bool := value.toList.head?.any Char.isAlpha

/-- What the settings after the version say: the encoding, and whether the document stands alone. -/
def choices? : List (String × String) → Option (Option String × Bool)
  | [] => some (none, false)
  | [("encoding", name)] => if isEncodingName name then some (some name, false) else none
  | [("standalone", value)] => (yesNo? value).map (none, ·)
  | [("encoding", name), ("standalone", value)] =>
      if isEncodingName name then (yesNo? value).map (some name, ·) else none
  | _ => none
where
  yesNo? (value : String) : Option Bool :=
    if value = "yes" then some true else if value = "no" then some false else none

def read? (chars : List Char) : Option (Option String × Bool) := do
  match ← settings? (chars.length + 1) chars with
  | ("version", _) :: rest => choices? rest
  | _ => none

end Declaration

def declaration? (chars : List Char) : Option (List Char × List Char) := do
  let rest ← after? ['<', '?', 'x', 'm', 'l'] chars
  guard (rest.head?.any fun c => isSpace c || c = '?')
  until? ['?', '>'] rest

def startsDeclaration (chars : List Char) : Bool :=
  (after? ['<', '?', 'x', 'm', 'l'] chars).any fun rest =>
    rest.head?.any fun c => isSpace c || c = '?'

def readBody (encoding : Encoding) (standalone : Bool) (chars : List Char) :
    Except Refusal Node := do
  let (rules, rest) ← Prolog.read encoding.alphabet (!encoding.isPlain) standalone chars
  orMalformed (readRoot? rules rest)

/-- The encoding to go on with after a declaration; a text keeps the one it has. -/
def Source.follow (source : Source) (current : Encoding) (name : String) :
    Except Refusal Encoding :=
  match source with
  | .text _ => .ok current
  | .bytes _ => current.follow name

def readBytes (source : Source) (content : List UInt8) : Except Refusal Node :=
  let (encoding, bytes) := Encoding.detect content
  let chars := encoding.decode bytes
  if startsDeclaration chars then
    match declaration? chars with
    | none => .error .malformed
    | some (text, rest) =>
        match Declaration.read? text with
        | none => .error .malformed
        | some (none, standalone) => readBody encoding standalone rest
        | some (some name, standalone) => do
            let chosen ← source.follow encoding name
            readBody chosen standalone
              (chosen.decode (bytes.drop (encoding.width * (chars.length - rest.length))))
  else readBody encoding false chars

def readDocument : Reader := fun source => do readBytes source (← source.toBytes)

end ClassDiagram.Xml
