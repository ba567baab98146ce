/-!
# Code pages

A code page gives a character to each byte, or none.  The lower half is ASCII,
apart from characters that a page may do without, so that markup looks the
same in all of them.
-/

namespace ClassDiagram.Xml

/-- An encoding with one byte per character that agrees with ASCII. -/
structure Codepage where
  /-- The characters of the bytes from 128 on; the null character stands for none. -/
  upper : String
  /-- The ASCII characters that no byte stands for. -/
  missing : List Char
  deriving DecidableEq, Repr

namespace Codepage

/-- The character of a byte, given those of the upper half; a place without one holds null. -/
def charOf (page : Codepage) (upper : Array Char) (byte : UInt8) : Char :=
  if byte < 0x80 then
    let c := Char.ofNat byte.toNat
    if c ∈ page.missing then '\x00' else c
  else upper[byte.toNat - 128]?.getD '\x00'

def decode (page : Codepage) (bytes : List UInt8) : List Char :=
  let upper := page.upper.toList.toArray
  bytes.map (page.charOf upper)

@[simp] theorem decode_nil (page : Codepage) : page.decode [] = [] := rfl

@[simp] theorem length_decode (page : Codepage) (bytes : List UInt8) :
    (page.decode bytes).length = bytes.length := by
  simp [decode]

structure Labels where
  /-- Names that count as they stand. -/
  strict : List String
  /-- Names that may have points in place of low lines. -/
  loose : List String
  deriving DecidableEq, Repr

def Labels.contains (labels : Labels) (name : String) : Bool :=
  labels.strict.contains name || labels.loose.contains name ||
    labels.loose.contains (String.ofList (name.toList.map fun c => if c = '.' then '_' else c))

end Codepage

end ClassDiagram.Xml
