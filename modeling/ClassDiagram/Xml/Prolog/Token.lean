import ClassDiagram.Xml.Markup

/-!
# Tokens of the prolog

Everything before the root element is a run of tokens: openings of
declarations, words, literals and signs.  A word or a literal has to end
before a character that may follow it.
-/

namespace ClassDiagram.Xml.Prolog

inductive Mark where
  | optional
  | repeated
  | positive
  deriving DecidableEq, Repr

/--
A token of the prolog; white space leaves none.  A comment or an instruction
is an aside, which may stand between declarations and not inside them.
-/
inductive Token where
  | aside
  | opening (keyword : String)
  | closing
  | word (text : String)
  | label (text : String)
  | tokenWord (text : String)
  | marked (text : String) (mark : Mark)
  | keyword (text : String)
  | literal (chars : List Char)
  | openBracket
  | closeBracket
  | openGroup
  | closeGroup (mark : Option Mark)
  | comma
  | bar
  | percent
  | reference (name : String)
  deriving DecidableEq, Repr

def mark? (c : Char) : Option Mark :=
  if c = '?' then some .optional
  else if c = '*' then some .repeated
  else if c = '+' then some .positive
  else none

def endsWord (c : Char) : Bool := isSpace c || c ∈ ['>', ')', ',', '|', '[', '%']

def endsLiteral (c : Char) : Bool := isSpace c || c ∈ ['>', '%', '[']

def endsKeyword (c : Char) : Bool := isSpace c || c ∈ [')', '>', '%', '|']

def endsGroup (c : Char) : Bool := isSpace c || c ∈ ['>', ',', '|', ')']

def classify (alphabet : Alphabet) (chars : List Char) : Token :=
  let text := String.ofList chars
  if !chars.head?.any alphabet.isNameStart then .tokenWord text
  else
    match chars.dropWhile (· ≠ ':') with
    | [] => .word text
    | _ :: rest => if rest.isEmpty || rest.contains ':' then .tokenWord text else .label text

/-- Names with one colon after which a name might go on. -/
def isOpenLabel (alphabet : Alphabet) (chars : List Char) : Bool :=
  chars.getLast? == some ':' && chars.countP (· = ':') == 1 &&
    chars.head?.any alphabet.isNameStart

def word? (alphabet : Alphabet) (chars : List Char) : Option (Token × List Char) :=
  let inWord := fun c => alphabet.isNameChar c || c = ':'
  let found := chars.takeWhile inWord
  if found.isEmpty then none
  else
    match chars.dropWhile inWord with
    | [] => if isOpenLabel alphabet found then none else some (classify alphabet found, [])
    | c :: rest =>
        if endsWord c then some (classify alphabet found, c :: rest)
        else
          match mark? c, classify alphabet found with
          | some mark, .word text => some (.marked text mark, rest)
          | some mark, .label text => some (.marked text mark, rest)
          | _, _ => none

def literal? (quote : Char) (chars : List Char) : Option (Token × List Char) := do
  let (found, rest) ← until? [quote] chars
  match rest with
  | [] => return (.literal found, [])
  | c :: _ => if endsLiteral c then return (.literal found, rest) else none

def opening? (chars : List Char) : Option (Token × List Char) :=
  let inKeyword := fun (c : Char) => c.isAlpha || c = '_'
  let token := Token.opening (String.ofList (chars.takeWhile inKeyword))
  if chars.head?.any inKeyword then
    match chars.dropWhile inKeyword with
    | '%' :: c :: rest => if isSpace c || c = '%' then none else some (token, '%' :: c :: rest)
    | c :: rest => if isSpace c then some (token, c :: rest) else none
    | [] => none
  else none

def next? (alphabet : Alphabet) : List Char → Option (Option Token × List Char)
  | [] => none
  | '<' :: '!' :: '-' :: '-' :: rest => (afterComment? rest).map (some .aside, ·)
  | '<' :: '!' :: rest => (opening? rest).map fun (token, rest) => (some token, rest)
  | '<' :: '?' :: rest => (afterInstruction? alphabet rest).map (some .aside, ·)
  | '>' :: rest => some (some .closing, rest)
  | '[' :: rest => some (some .openBracket, rest)
  | ']' :: ']' :: '>' :: _ => none
  | ']' :: rest => some (some .closeBracket, rest)
  | '(' :: rest => some (some .openGroup, rest)
  | ')' :: rest =>
      match rest with
      | [] => some (some (.closeGroup none), [])
      | c :: after =>
          match mark? c with
          | some mark => some (some (.closeGroup (some mark)), after)
          | none => if endsGroup c then some (some (.closeGroup none), rest) else none
  | ',' :: rest => some (some .comma, rest)
  | '|' :: rest => some (some .bar, rest)
  | '%' :: rest =>
      match rest with
      | [] => none
      | c :: _ =>
          if isSpace c || c = '%' then some (some .percent, rest)
          else
            match name? alphabet rest with
            | some (name, ';' :: rest) => some (some (.reference (String.ofList name)), rest)
            | _ => none
  | '#' :: rest =>
      match name? alphabet rest with
      | some (name, rest) =>
          if rest.isEmpty || rest.head?.any endsKeyword then
            some (some (.keyword (String.ofList name)), rest)
          else none
      | none => none
  | '"' :: rest => (literal? '"' rest).map fun (token, rest) => (some token, rest)
  | '\'' :: rest => (literal? '\'' rest).map fun (token, rest) => (some token, rest)
  | c :: rest =>
      if isSpace c then some (none, rest)
      else (word? alphabet (c :: rest)).map fun (token, rest) => (some token, rest)

def startsRoot : List Char → Bool
  | '<' :: c :: _ => c ≠ '!' && c ≠ '?'
  | _ => false

/-- The tokens up to the root element or to the first place that holds none, and the rest. -/
def tokens (alphabet : Alphabet) : Nat → List Char → List Token × List Char
  | 0, chars => ([], chars)
  | fuel + 1, chars =>
      if startsRoot chars then ([], chars)
      else
        match next? alphabet chars with
        | some (some token, rest) =>
            let (more, rest) := tokens alphabet fuel rest
            (token :: more, rest)
        | some (none, rest) => tokens alphabet fuel rest
        | none => ([], chars)

end ClassDiagram.Xml.Prolog
