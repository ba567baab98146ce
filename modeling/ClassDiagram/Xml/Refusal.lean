/-!
# Refusals

A document is refused when it is malformed, when it declares an entity, or
when it cannot be told which characters it holds: a text may hold surrogates,
and bytes may declare an encoding that cannot be followed.
-/

namespace ClassDiagram.Xml

inductive Refusal where
  | malformed
  | entityDeclared (name : String) (systemId publicId : Option String)
  | unknownEncoding (name : String)
  | multibyteEncoding
  | notAnEncoding (name : String)
  | undecodable (name reason : String)
  | beyondAscii (byte position : Nat)
  | surrogates (code position count : Nat)
  deriving DecidableEq, Repr

def orMalformed {α : Type} : Option α → Except Refusal α
  | some value => .ok value
  | none => .error .malformed

@[simp] theorem orMalformed_some {α : Type} (value : α) :
    orMalformed (some value) = .ok value := rfl

@[simp] theorem orMalformed_none {α : Type} :
    orMalformed (none : Option α) = .error .malformed := rfl

end ClassDiagram.Xml
