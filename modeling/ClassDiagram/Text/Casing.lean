import ClassDiagram.Text.CaseTable

/-!
# Letter case of texts

Lower and upper case follow the full mappings of Unicode: a character may
become several, and a capital sigma that ends a word becomes the final sigma.
`capitalize` and `decapitalize` change the first character alone.
-/

namespace ClassDiagram.Text

/-- Whether a character has the Uppercase property; title case does not count. -/
def isUppercase (c : Char) : Bool :=
  if c.toNat < 128 then c.isUpper else inBands CaseTable.uppercase c.toNat

/-- Whether a character is a letter with case that decides its neighbours' case. -/
def isCased (c : Char) : Bool :=
  if c.toNat < 128 then c.isAlpha else inBands CaseTable.cased c.toNat

def isCaseIgnorable (c : Char) : Bool :=
  if c.toNat < 128 then c ∈ ['\'', '.', ':', '^', '\x60']
  else inBands CaseTable.ignorable c.toNat

def mapCase (shifts : Chart Shift) (expansions : Chart (Nat × List Nat)) (c : Char) :
    List Char :=
  match (expansions.find? c.toNat).filter (·.1 = c.toNat) with
  | some (_, codes) => codes.map Char.ofNat
  | none =>
      match (shifts.find? c.toNat).filter (·.band.holds c.toNat) with
      | some shift => [shift.image c.toNat]
      | none => [c]

def lowerChar (c : Char) : List Char :=
  if c.toNat < 128 then [c.toLower]
  else mapCase CaseTable.lowerShifts CaseTable.lowerExpansions c

def upperChar (c : Char) : List Char :=
  if c.toNat < 128 then [c.toUpper]
  else mapCase CaseTable.upperShifts CaseTable.upperExpansions c

/-- Whether the nearest character that is not case-ignorable is cased. -/
def meetsCased (neighbours : List Char) : Bool :=
  match neighbours.dropWhile isCaseIgnorable with
  | [] => false
  | c :: _ => isCased c

/--
Lower case of the characters that follow `before`, which is read backwards
from them.  A capital sigma after a cased letter and not before one is final.
-/
def lowerAfter (before : List Char) : List Char → List Char
  | [] => []
  | c :: rest =>
      (if c = 'Σ' then
        if meetsCased before && !meetsCased rest then ['ς'] else ['σ']
      else lowerChar c) ++ lowerAfter (c :: before) rest

def lower (text : String) : String :=
  String.ofList (lowerAfter [] text.toList)

def upper (text : String) : String :=
  String.ofList (text.toList.flatMap upperChar)

def capitalize (text : String) : String :=
  match text.toList with
  | [] => ""
  | c :: rest => String.ofList (upperChar c ++ rest)

def decapitalize (text : String) : String :=
  match text.toList with
  | [] => ""
  | c :: rest => String.ofList (lowerChar c ++ rest)

def isCapitalized (text : String) : Bool :=
  match text.toList with
  | [] => false
  | c :: _ => isUppercase c

@[simp] theorem lowerAfter_nil (before : List Char) : lowerAfter before [] = [] := rfl

@[simp] theorem capitalize_empty : capitalize "" = "" := rfl

@[simp] theorem decapitalize_empty : decapitalize "" = "" := rfl

theorem toList_lower (text : String) : (lower text).toList = lowerAfter [] text.toList := by
  simp [lower]

end ClassDiagram.Text
