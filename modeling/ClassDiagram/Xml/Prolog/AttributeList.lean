import ClassDiagram.Xml.Prolog.Entity

/-!
# Declarations of attributes

A list of attributes tells for each one whether its value is plain text or a
run of tokens, and may give it a default.
-/

namespace ClassDiagram.Xml.Prolog

/-- The rest after the values of an enumeration, with or without colons in them. -/
def afterValues? (names : Bool) : List Token → Option (List Token)
  | token :: next :: rest =>
      let allowed :=
        match token with
        | .word _ => true
        | .label _ | .tokenWord _ => !names
        | _ => false
      if allowed then
        match next with
        | .closeGroup none => some rest
        | .bar => afterValues? names rest
        | _ => none
      else none
  | _ => none

/-- The kinds of attributes that are named by a word alone, except plain text. -/
def tokenKinds : List String :=
  ["ID", "IDREF", "IDREFS", "ENTITY", "ENTITIES", "NMTOKEN", "NMTOKENS"]

/-- The kind of an attribute: whether it is plain text, and the rest. -/
def attributeKind? : List Token → Option (Bool × List Token)
  | .word "NOTATION" :: .openGroup :: rest => (afterValues? true rest).map (false, ·)
  | .word kind :: rest =>
      if kind = "CDATA" then some (true, rest)
      else if kind ∈ tokenKinds then some (false, rest)
      else none
  | .openGroup :: rest => (afterValues? false rest).map (false, ·)
  | _ => none

def rawNameOf? : Token → Option RawName
  | .word text => some ⟨none, text⟩
  | .label text =>
      some ⟨some (String.ofList (text.toList.takeWhile (· ≠ ':'))),
        String.ofList ((text.toList.dropWhile (· ≠ ':')).drop 1)⟩
  | _ => none

/-- The rules with a default value, which has to pass and, if it counts, to be well formed. -/
def withDefault? (rules : Rules) (element : String) (name : RawName) (plain : Bool)
    (chars : List Char) : Option Rules :=
  if !rules.passes chars then none
  else if rules.counting then do
    let pieces ← literalPieces? rules.alphabet chars
    let text ← textOf? rules.lenient pieces
    let value := if plain then text else tokenized text
    return rules.add ⟨element, name, plain, some (String.ofList value)⟩
  else some rules

def attributeList (element : String) : Nat → Rules → List Token → Reading
  | 0, _, _ => .error .malformed
  | _ + 1, rules, .closing :: rest => .ok (rules, rest)
  | fuel + 1, rules, token :: rest =>
      match rawNameOf? token, attributeKind? rest with
      | some name, some (plain, rest) =>
          match rest with
          | .keyword "FIXED" :: .literal chars :: rest | .literal chars :: rest =>
              match withDefault? rules element name plain chars with
              | some rules => attributeList element fuel rules rest
              | none => .error .malformed
          | .keyword word :: rest =>
              if word = "IMPLIED" || word = "REQUIRED" then
                attributeList element fuel (rules.add ⟨element, name, plain, none⟩) rest
              else .error .malformed
          | _ => .error .malformed
      | _, _ => .error .malformed
  | _ + 1, _, [] => .error .malformed

end ClassDiagram.Xml.Prolog
