import ClassDiagram.Text.Blank

/-!
# Whole numbers written as text

A whole number is an optional sign and decimal digits of any script, where a
single underscore may stand between two digits.  A text with more than 4300
digits is not read.
-/

namespace ClassDiagram.Text

/-- The zeros of the decimal digit rows beyond ASCII; nine digits follow each. -/
def digitZeros : List Nat :=
  [0x660, 0x6F0, 0x7C0, 0x966, 0x9E6, 0xA66, 0xAE6, 0xB66, 0xBE6, 0xC66, 0xCE6, 0xD66, 0xDE6,
   0xE50, 0xED0, 0xF20, 0x1040, 0x1090, 0x17E0, 0x1810, 0x1946, 0x19D0, 0x1A80, 0x1A90, 0x1B50,
   0x1BB0, 0x1C40, 0x1C50, 0xA620, 0xA8D0, 0xA900, 0xA9D0, 0xA9F0, 0xAA50, 0xABF0, 0xFF10,
   0x104A0, 0x10D30, 0x11066, 0x110F0, 0x11136, 0x111D0, 0x112F0, 0x11450, 0x114D0, 0x11650,
   0x116C0, 0x11730, 0x118E0, 0x11950, 0x11C50, 0x11D50, 0x11DA0, 0x16A60, 0x16AC0, 0x16B50,
   0x1D7CE, 0x1D7D8, 0x1D7E2, 0x1D7EC, 0x1D7F6, 0x1E140, 0x1E2F0, 0x1E950, 0x1FBF0]

def digit? (c : Char) : Option Nat :=
  if c.toNat < 128 then
    if c.isDigit then some (c.toNat - 48) else none
  else
    (digitZeros.find? fun base => base ≤ c.toNat && c.toNat ≤ base + 9).map (c.toNat - ·)

def maxDigits : Nat := 4300

/-- The digits of a numeral: digits with single underscores between them. -/
def digits? : List Char → Option (List Nat)
  | [] => none
  | [c] => (digit? c).map ([·])
  | c :: '_' :: rest => do
      let value ← digit? c
      let values ← digits? rest
      return value :: values
  | c :: next :: rest => do
      let value ← digit? c
      let values ← digits? (next :: rest)
      return value :: values

def ofDigits (digits : List Nat) : Nat :=
  digits.foldl (fun value digit => 10 * value + digit) 0

def natural? (chars : List Char) : Option Nat :=
  match digits? chars with
  | some digits => if digits.length ≤ maxDigits then some (ofDigits digits) else none
  | none => none

def integer? (text : String) : Option Int :=
  match stripChars text.toList with
  | '-' :: rest => (natural? rest).map fun value => -(value : Int)
  | '+' :: rest => (natural? rest).map fun value => (value : Int)
  | chars => (natural? chars).map fun value => (value : Int)

@[simp] theorem ofDigits_nil : ofDigits [] = 0 := rfl

@[simp] theorem digits?_nil : digits? [] = none := rfl

@[simp] theorem natural?_nil : natural? [] = none := rfl

end ClassDiagram.Text
