import ClassDiagram.Xml.Charset
import ClassDiagram.Xml.Letter
import ClassDiagram.Xml.Refusal

/-!
# Encodings of documents

A document that comes as bytes is read by its first bytes: a byte order mark
or the pattern of the first character tells the family, and a declaration may
then choose among the encodings of that family.  A place that holds no
character reads as the null character, which no document may hold.
-/

namespace ClassDiagram.Xml

inductive Encoding where
  | utf8
  | utf16Big
  | utf16Little
  | latin
  | ascii
  | codepage (page : Codepage)
  deriving DecidableEq, Repr

namespace Encoding

def broken : List Char := ['\x00']

def isTail (byte : UInt8) : Bool := 0x80 ≤ byte && byte ≤ 0xBF

def tailBits (byte : UInt8) : Nat := byte.toNat % 64

def decodeUtf8 : List UInt8 → List Char
  | [] => []
  | a :: rest =>
      if a < 0x80 then Char.ofNat a.toNat :: decodeUtf8 rest
      else
        match rest with
        | b :: rest =>
            if 0xC2 ≤ a && a ≤ 0xDF && isTail b then
              Char.ofNat (a.toNat % 32 * 64 + tailBits b) :: decodeUtf8 rest
            else
              match rest with
              | c :: rest =>
                  if 0xE0 ≤ a && a ≤ 0xEF && isTail b && isTail c &&
                      (a != 0xE0 || 0xA0 ≤ b) && (a != 0xED || b ≤ 0x9F) then
                    Char.ofNat ((a.toNat % 16 * 64 + tailBits b) * 64 + tailBits c) ::
                      decodeUtf8 rest
                  else
                    match rest with
                    | d :: rest =>
                        if 0xF0 ≤ a && a ≤ 0xF4 && isTail b && isTail c && isTail d &&
                            (a != 0xF0 || 0x90 ≤ b) && (a != 0xF4 || b ≤ 0x8F) then
                          Char.ofNat
                              (((a.toNat % 8 * 64 + tailBits b) * 64 + tailBits c) * 64 +
                                tailBits d) ::
                            decodeUtf8 rest
                        else broken
                    | [] => broken
              | [] => broken
        | [] => broken

/-- Bytes as units of sixteen bits; an odd byte at the end makes no unit. -/
def units (big : Bool) : List UInt8 → List (Option Nat)
  | [] => []
  | [_] => [none]
  | a :: b :: rest =>
      (if big then some (a.toNat * 256 + b.toNat) else some (b.toNat * 256 + a.toNat)) ::
        units big rest

/-- Units as UTF-16: a leading half takes ten bits from the unit after it. -/
def decodeUnits : List (Option Nat) → List Char
  | [] => []
  | none :: _ => broken
  | [some unit] => if 0xD800 ≤ unit && unit ≤ 0xDFFF then broken else [Char.ofNat unit]
  | some unit :: next :: rest =>
      if 0xD800 ≤ unit && unit ≤ 0xDBFF then
        match next with
        | some low =>
            Char.ofNat (0x10000 + unit % 1024 * 1024 + low % 1024) :: decodeUnits rest
        | none => broken
      else if 0xDC00 ≤ unit && unit ≤ 0xDFFF then broken
      else Char.ofNat unit :: decodeUnits (next :: rest)

def decodeAscii : List UInt8 → List Char
  | [] => []
  | byte :: rest => if byte < 0x80 then Char.ofNat byte.toNat :: decodeAscii rest else broken

def decode (encoding : Encoding) (bytes : List UInt8) : List Char :=
  match encoding with
  | .utf8 => decodeUtf8 bytes
  | .utf16Big => decodeUnits (units true bytes)
  | .utf16Little => decodeUnits (units false bytes)
  | .latin => bytes.map fun byte => Char.ofNat byte.toNat
  | .ascii => decodeAscii bytes
  | .codepage page => page.decode bytes

def width : Encoding → Nat
  | .utf16Big | .utf16Little => 2
  | _ => 1

def alphabet : Encoding → Alphabet
  | .utf16Big | .utf16Little | .latin => .broad
  | .utf8 | .ascii | .codepage _ => .narrow

def isPlain : Encoding → Bool
  | .utf8 | .ascii => true
  | .utf16Big | .utf16Little | .latin | .codepage _ => false

/-- The encoding that the first bytes tell, and the bytes after a byte order mark. -/
def detect : List UInt8 → Encoding × List UInt8
  | 0xEF :: 0xBB :: 0xBF :: rest => (.utf8, rest)
  | 0xFE :: 0xFF :: rest => (.utf16Big, rest)
  | 0xFF :: 0xFE :: rest => (.utf16Little, rest)
  | a :: b :: rest =>
      if a = 0 then (.utf16Big, a :: b :: rest)
      else if b = 0 then (.utf16Little, a :: b :: rest)
      else (.utf8, a :: b :: rest)
  | bytes => (.utf8, bytes)

def switchTo (current wanted : Encoding) : Except Refusal Encoding :=
  if current.width = wanted.width then .ok wanted else .error .malformed

def firstBeyond : Nat := 0x80

/-- The place of a byte among those after the hyphen, if the bytes stand in order. -/
def placeAfterHyphen (byte : Nat) : Nat := byte - ('-'.toNat + 1)

/--
Change to an encoding that goes by one of many names.  An encoding is tried on
all bytes in order, and has to read them one by one.
-/
def ofCharset (name : String) : Option Charset → Except Refusal Encoding
  | some (.codepage page) => .ok (.codepage page)
  | some .foreign => .error .malformed
  | some .multibyte => .error .multibyteEncoding
  | some .transform => .error (.notAnEncoding name)
  | some (.strict reason) => .error (.undecodable name reason)
  | some .hyphenated => .error (.beyondAscii firstBeyond (placeAfterHyphen firstBeyond))
  | none => .error (.unknownEncoding name)

/-- Follow the name of a declared encoding; the names of the families come first. -/
def follow (current : Encoding) (name : String) : Except Refusal Encoding :=
  match (name.toList.map Char.toLower) |> String.ofList with
  | "utf-8" => switchTo current .utf8
  | "iso-8859-1" => switchTo current .latin
  | "us-ascii" => switchTo current .ascii
  | "utf-16" => if current.width = 2 then .ok current else .error .malformed
  | "utf-16be" => if current = .utf16Big then .ok current else .error .malformed
  | "utf-16le" => if current = .utf16Little then .ok current else .error .malformed
  | _ => ofCharset name (Charset.find? name)

@[simp] theorem decode_nil (encoding : Encoding) : decode encoding [] = [] := by
  cases encoding <;> rfl

end Encoding

end ClassDiagram.Xml
