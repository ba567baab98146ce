import ClassDiagram.Xml.Prolog.Token
import ClassDiagram.Xml.Prolog.Rules
import ClassDiagram.Xml.Refusal

/-!
# Declarations of entities and notations

A declaration of an entity makes the document refused as soon as its text is
met, or its end if the text stands elsewhere.  The five named characters may
be declared again, and declarations that do not count are checked only.
-/

namespace ClassDiagram.Xml.Prolog

/-- A public identifier with single spaces, if all its characters may stand in one. -/
def publicId? (chars : List Char) : Option String :=
  if chars.all isPublicIdChar then
    some (String.ofList (tokenized (chars.map fun c => if isSpace c then ' ' else c)))
  else none

def isEntityText (alphabet : Alphabet) : Nat → List Char → Bool
  | 0, _ => false
  | _ + 1, [] => true
  | fuel + 1, '&' :: rest =>
      match reference? alphabet rest with
      | some (_, rest) => isEntityText alphabet fuel rest
      | none => false
  | fuel + 1, c :: rest => c != '%' && isEntityText alphabet fuel rest

abbrev Reading := Except Refusal (Rules × List Token)

def closing (rules : Rules) : List Token → Reading
  | .closing :: rest => .ok (rules, rest)
  | _ => .error .malformed

def passing (rules : Rules) (literal : List Char) (tokens : List Token) : Reading :=
  if rules.passes literal then closing rules tokens else .error .malformed

/-- The end of an external entity; only general ones may name a notation. -/
def externalEntity (rules : Rules) (general : Bool) (name : Option String)
    (systemId : List Char) (publicId : Option String) (tokens : List Token) : Reading :=
  let refused := name.map fun name =>
    Refusal.entityDeclared name (some (String.ofList systemId)) publicId
  match tokens with
  | .closing :: rest =>
      match refused with
      | some refusal => .error refusal
      | none => passing rules systemId (.closing :: rest)
  | .word "NDATA" :: .word _ :: rest =>
      if general then
        match refused with
        | some refusal => .error refusal
        | none => passing rules systemId rest
      else .error .malformed
  | _ => .error .malformed

/-- The body of an entity declaration, which is recorded under a name if it counts. -/
def entityBody (rules : Rules) (general : Bool) (name : Option String) :
    List Token → Reading
  | .literal text :: rest =>
      match name with
      | some name => .error (.entityDeclared name none none)
      | none =>
          if rules.passes text &&
              (!rules.counting || isEntityText rules.alphabet (text.length + 1) text) then
            closing rules rest
          else .error .malformed
  | .word "SYSTEM" :: .literal systemId :: rest =>
      externalEntity rules general name systemId none rest
  | .word "PUBLIC" :: .literal publicId :: rest =>
      match publicId? publicId, rest with
      | some publicId, .literal systemId :: rest =>
          externalEntity rules general name systemId (some publicId) rest
      | _, _ => .error .malformed
  | _ => .error .malformed

/-- An entity declaration; the five named characters may be declared again. -/
def entity (rules : Rules) : List Token → Reading
  | .percent :: .word name :: rest =>
      entityBody rules false (if rules.counting then some name else none) rest
  | .word name :: rest =>
      let known := (namedChars.lookup name).isSome
      entityBody rules true (if rules.counting && !known then some name else none) rest
  | _ => .error .malformed

def notationDeclaration (rules : Rules) : List Token → Reading
  | .word _ :: .word "SYSTEM" :: .literal systemId :: rest => passing rules systemId rest
  | .word _ :: .word "PUBLIC" :: .literal publicId :: rest =>
      match publicId? publicId, rest with
      | some _, .literal systemId :: rest => passing rules systemId rest
      | some _, rest => closing rules rest
      | none, _ => .error .malformed
  | _ => .error .malformed

end ClassDiagram.Xml.Prolog
