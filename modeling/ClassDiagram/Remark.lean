import ClassDiagram.Text.Quoted

/-!
# Remarks

A fault is told with remarks.  As a rule these are texts and numbers, but
whoever tells a fault may leave a remark out, or put a truth value or another
fault in its place.  A remark has a plain form, which messages are made of,
and a spelled form, which lists show.
-/

namespace ClassDiagram

inductive Remark where
  | absent
  | truth (value : Bool)
  | number (value : Int)
  | text (value : String)
  /-- Another fault, by its message and by its spelled form. -/
  | fault (message form : String)
  deriving DecidableEq, Repr, Inhabited

namespace Remark

def ofOption : Option String → Remark
  | some value => .text value
  | none => .absent

def plain : Remark → String
  | .absent => Text.absent
  | .truth value => Text.truthWord value
  | .number value => toString value
  | .text value => value
  | .fault message _ => message

/-- A remark as lists show it: texts stand between quotes, and faults tell their kind. -/
def spelled : Remark → String
  | .text value => Text.quoted value
  | .fault _ form => form
  | remark => remark.plain

def sort : Remark → String
  | .absent => "NoneType"
  | .truth _ => "bool"
  | .number _ => "int"
  | .text _ => "str"
  | .fault _ _ => "Exception"

/-- Whether a remark says anything: not if it is absent, false, zero or empty. -/
def isPresent : Remark → Bool
  | .absent => false
  | .truth value => value
  | .number value => value != 0
  | .text value => !value.isEmpty
  | .fault _ _ => true

def spelledAll (remarks : List Remark) : String := ", ".intercalate (remarks.map spelled)

/-- What several remarks say together: nothing, a single one as it is, or a list in brackets. -/
def saying : List Remark → String
  | [] => ""
  | [remark] => remark.plain
  | remarks => "(" ++ spelledAll remarks ++ ")"

@[simp] theorem ofOption_none : ofOption none = absent := rfl

@[simp] theorem ofOption_some (value : String) : ofOption (some value) = text value := rfl

@[simp] theorem plain_text (value : String) : (text value).plain = value := rfl

@[simp] theorem plain_ofOption (value : Option String) :
    (ofOption value).plain = Text.plain? value := by
  cases value <;> rfl

@[simp] theorem spelled_ofOption (value : Option String) :
    (ofOption value).spelled = Text.quoted? value := by
  cases value <;> rfl

@[simp] theorem isPresent_ofOption (value : Option String) :
    (ofOption value).isPresent = Text.isPresent value := by
  cases value <;> rfl

@[simp] theorem saying_single (remark : Remark) : saying [remark] = remark.plain := rfl

end Remark

end ClassDiagram
