import ClassDiagram.Xml.Prolog.Content

/-!
# What comes before the root element

Before its root element a document may hold comments, instructions and one
document type, which may hold declarations between brackets.  What it sets up
are the rules for the attributes of the content.
-/

namespace ClassDiagram.Xml.Prolog

def declaration (rules : Rules) (keyword : String) (tokens : List Token) : Reading :=
  if keyword = "ENTITY" then entity rules tokens
  else if keyword = "ELEMENT" then elementDeclaration rules tokens
  else if keyword = "NOTATION" then notationDeclaration rules tokens
  else if keyword = "ATTLIST" then
    match tokens with
    | name :: rest =>
        match rawNameOf? name with
        | some name => attributeList name.text (rest.length + 1) rules rest
        | none => .error .malformed
    | [] => .error .malformed
  else .error .malformed

def subset : Nat → Rules → List Token → Reading
  | 0, _, _ => .error .malformed
  | _ + 1, rules, .closeBracket :: rest => closing rules rest
  | fuel + 1, rules, .aside :: rest => subset fuel rules rest
  | fuel + 1, rules, .reference _ :: rest => subset fuel rules.refer rest
  | fuel + 1, rules, .opening keyword :: rest => do
      let (rules, rest) ← declaration rules keyword rest
      subset fuel rules rest
  | _ + 1, _, _ => .error .malformed

def optionalSubset (rules : Rules) : List Token → Reading
  | .openBracket :: rest => subset (rest.length + 1) rules rest
  | tokens => closing rules tokens

def doctype (rules : Rules) : List Token → Reading
  | [] => .error .malformed
  | name :: rest =>
      if (rawNameOf? name).isNone then .error .malformed
      else
        match rest with
        | .word "SYSTEM" :: .literal systemId :: rest =>
            if rules.passes systemId then optionalSubset { rules with outside := true } rest
            else .error .malformed
        | .word "PUBLIC" :: .literal publicId :: .literal systemId :: rest =>
            if (publicId? publicId).isSome && rules.passes systemId then
              optionalSubset { rules with outside := true } rest
            else .error .malformed
        | rest => optionalSubset rules rest

def rulesOf (initial : Rules) (found : List Token) : Except Refusal Rules :=
  match found.dropWhile (· = .aside) with
  | [] => .ok initial
  | .opening keyword :: rest =>
      if keyword = "DOCTYPE" then do
        let (rules, rest) ← doctype initial rest
        if rest.all (· = .aside) then .ok rules else .error .malformed
      else .error .malformed
  | _ => .error .malformed

def read (alphabet : Alphabet) (pieced standalone : Bool) (chars : List Char) :
    Except Refusal (Rules × List Char) := do
  let (found, rest) := tokens alphabet (chars.length + 1) chars
  let rules ← rulesOf (.initial alphabet pieced standalone) found
  return (rules, rest)

end ClassDiagram.Xml.Prolog
