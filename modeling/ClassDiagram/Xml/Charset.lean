import ClassDiagram.Xml.Codepage.Table

/-!
# Charsets by name

The names of encodings are not told apart by case, nor by the signs between
their letters and digits, points excepted.  A name stands for a code page, or
for a way of writing that documents cannot come in.
-/

namespace ClassDiagram.Xml

inductive Charset where
  | codepage (page : Codepage)
  /-- One byte per character, and other bytes than ASCII has for markup. -/
  | foreign
  /-- Bytes and characters do not go together one by one. -/
  | multibyte
  /-- A transformation of bytes. -/
  | transform
  /-- A way of writing that gives up on bytes that it cannot read, for a reason of its own. -/
  | strict (reason : String)
  /-- A way of writing whose part after the last hyphen has to be ASCII. -/
  | hyphenated
  deriving DecidableEq, Repr

namespace Charset

def joinSigns : Bool → List Char → List Char
  | _, [] => []
  | pending, c :: rest =>
      if c.isAlphanum || c = '.' then
        if pending then '_' :: c.toLower :: joinSigns false rest
        else c.toLower :: joinSigns false rest
      else joinSigns true rest

def normalName (name : String) : String :=
  String.ofList (joinSigns false (name.toList.dropWhile fun c => !c.isAlphanum && c != '.'))

/-- Ways of writing that give up on bytes they cannot read, with their reasons. -/
def stricts : List (String × String) :=
  [("idna", "Unsupported error handling replace"), ("undefined", "undefined encoding")]

/-- The way of writing whose part after the last hyphen has to be ASCII. -/
def hyphenatedName : String := "punycode"

def find? (name : String) : Option Charset :=
  let name := normalName name
  match Codepage.pages.find? (·.1.contains name) with
  | some (_, page) => some (.codepage page)
  | none =>
      if Codepage.foreign.contains name then some .foreign
      else if Codepage.multibyte.contains name then some .multibyte
      else if Codepage.transforms.contains name then some .transform
      else if name = hyphenatedName then some .hyphenated
      else (stricts.lookup name).map .strict

@[simp] theorem joinSigns_nil (pending : Bool) : joinSigns pending [] = [] := rfl

end Charset

end ClassDiagram.Xml
