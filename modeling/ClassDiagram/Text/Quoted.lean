import ClassDiagram.Text.PrintTable

/-!
# Quoted texts in messages

Messages quote a text between single quotes, or between double quotes when it
holds a single quote and no double quote.  Backslashes and the chosen quote
are escaped, and characters that print as nothing are written by number.
-/

namespace ClassDiagram.Text

def isPrintable (c : Char) : Bool :=
  if c.toNat < 128 then 32 ≤ c.toNat && c.toNat < 127 else !inRanges PrintTable.hidden c.toNat

def hexDigit (value : Nat) : Char :=
  if value < 10 then Char.ofNat (48 + value) else Char.ofNat (87 + value)

def hexDigits : Nat → Nat → List Char
  | 0, _ => []
  | width + 1, value => hexDigits width (value / 16) ++ [hexDigit (value % 16)]

def numbered (c : Char) : List Char :=
  if c.toNat < 0x100 then ['\\', 'x'] ++ hexDigits 2 c.toNat
  else if c.toNat < 0x10000 then ['\\', 'u'] ++ hexDigits 4 c.toNat
  else ['\\', 'U'] ++ hexDigits 8 c.toNat

def quoteChar (quote c : Char) : List Char :=
  if c = quote || c = '\\' then ['\\', c]
  else if c = '\t' then ['\\', 't']
  else if c = '\n' then ['\\', 'n']
  else if c = '\r' then ['\\', 'r']
  else if isPrintable c then [c]
  else numbered c

def quoteFor (chars : List Char) : Char :=
  if chars.contains '\'' && !chars.contains '"' then '"' else '\''

def quoted (text : String) : String :=
  let chars := text.toList
  let quote := quoteFor chars
  String.ofList (quote :: chars.flatMap (quoteChar quote) ++ [quote])

def absent : String := "None"

def truthWord (value : Bool) : String := if value then "True" else "False"

def quoted? : Option String → String
  | some text => quoted text
  | none => absent

def plain? : Option String → String
  | some text => text
  | none => absent

def isPresent : Option String → Bool
  | some text => !text.isEmpty
  | none => false

@[simp] theorem quoted?_none : quoted? none = absent := rfl

@[simp] theorem quoted?_some (text : String) : quoted? (some text) = quoted text := rfl

@[simp] theorem plain?_none : plain? none = absent := rfl

@[simp] theorem plain?_some (text : String) : plain? (some text) = text := rfl

@[simp] theorem isPresent_none : isPresent none = false := rfl

@[simp] theorem isPresent_some (text : String) : isPresent (some text) = !text.isEmpty := rfl

end ClassDiagram.Text
