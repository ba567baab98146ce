import ClassDiagram.Xml.Letter

/-!
# References and attribute values

A reference stands for one character, by number or by one of five names, or
for an entity that a document type would have to declare.
-/

namespace ClassDiagram.Xml

inductive Piece where
  | char (c : Char)
  | entity (name : String)
  deriving DecidableEq, Repr

def namedChars : List (String × Char) :=
  [("lt", '<'), ("gt", '>'), ("amp", '&'), ("quot", '"'), ("apos", '\'')]

def hexValue? (c : Char) : Option Nat :=
  if '0' ≤ c ∧ c ≤ '9' then some (c.toNat - 48)
  else if 'a' ≤ c ∧ c ≤ 'f' then some (c.toNat - 87)
  else if 'A' ≤ c ∧ c ≤ 'F' then some (c.toNat - 55)
  else none

def decimalValue? (c : Char) : Option Nat :=
  if '0' ≤ c ∧ c ≤ '9' then some (c.toNat - 48) else none

def number? (base : Nat) (digit? : Char → Option Nat) (value : Nat) (started : Bool) :
    List Char → Option (Nat × List Char)
  | [] => none
  | c :: rest =>
      match digit? c with
      | some digit => number? base digit? (value * base + digit) true rest
      | none => if c = ';' && started then some (value, rest) else none

def numberedChar? (code : Nat) : Option Char :=
  if h : code.isValidChar then
    let c := Char.ofNatAux code h
    if isLegal c then some c else none
  else none

def reference? (alphabet : Alphabet) : List Char → Option (Piece × List Char)
  | '#' :: 'x' :: rest => do
      let (code, rest) ← number? 16 hexValue? 0 false rest
      let c ← numberedChar? code
      return (.char c, rest)
  | '#' :: rest => do
      let (code, rest) ← number? 10 decimalValue? 0 false rest
      let c ← numberedChar? code
      return (.char c, rest)
  | chars =>
      match name? alphabet chars with
      | some (name, ';' :: rest) =>
          match namedChars.lookup (String.ofList name) with
          | some c => some (.char c, rest)
          | none => some (.entity (String.ofList name), rest)
      | _ => none

/--
The pieces of an attribute value, up to a closing quote or, without one, to
the end; and the rest after the quote.  White space counts as a plain space,
with a return and its line feed as one.
-/
def pieces? (alphabet : Alphabet) : Nat → Option Char → List Char → Option (List Piece × List Char)
  | 0, _, _ => none
  | _ + 1, none, [] => some ([], [])
  | _ + 1, some _, [] => none
  | fuel + 1, quote, '&' :: rest => do
      let (piece, rest) ← reference? alphabet rest
      let (pieces, rest) ← pieces? alphabet fuel quote rest
      return (piece :: pieces, rest)
  | fuel + 1, quote, '\r' :: '\n' :: rest => do
      let (pieces, rest) ← pieces? alphabet fuel quote rest
      return (.char ' ' :: pieces, rest)
  | fuel + 1, quote, c :: rest =>
      if quote = some c then some ([], rest)
      else if c = '<' || !isLegal c then none
      else do
        let (pieces, rest) ← pieces? alphabet fuel quote rest
        return (.char (if isSpace c then ' ' else c) :: pieces, rest)

def quotedPieces? (alphabet : Alphabet) (quote : Char) (chars : List Char) :
    Option (List Piece × List Char) :=
  pieces? alphabet (chars.length + 1) (some quote) chars

def literalPieces? (alphabet : Alphabet) (chars : List Char) : Option (List Piece) :=
  (pieces? alphabet (chars.length + 1) none chars).map Prod.fst

/--
The text of an attribute value.  A reference to an entity is dropped if
declarations that were not read may hold it, and refused otherwise.
-/
def textOf? (lenient : Bool) : List Piece → Option (List Char)
  | [] => some []
  | .char c :: rest => (textOf? lenient rest).map (c :: ·)
  | .entity _ :: rest => if lenient then textOf? lenient rest else none

def dropSpaces (chars : List Char) : List Char := chars.dropWhile (· = ' ')

def squeeze : List Char → List Char
  | ' ' :: ' ' :: rest => squeeze (' ' :: rest)
  | c :: rest => c :: squeeze rest
  | [] => []

/-- The value of an attribute that holds tokens: single spaces, and none at the ends. -/
def tokenized (chars : List Char) : List Char :=
  squeeze (dropSpaces (dropSpaces chars).reverse).reverse

@[simp] theorem textOf?_nil (lenient : Bool) : textOf? lenient [] = some [] := rfl

@[simp] theorem textOf?_char (lenient : Bool) (c : Char) (rest : List Piece) :
    textOf? lenient (.char c :: rest) = (textOf? lenient rest).map (c :: ·) := rfl

end ClassDiagram.Xml
