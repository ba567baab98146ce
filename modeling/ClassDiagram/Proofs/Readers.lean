import ClassDiagram.Proofs.Lookups
import ClassDiagram.Proofs.Trees
import ClassDiagram.Xml.Document

/-!
# Readers of documents

A document that is read gives a tree in which every name is closed.  It is
refused for what stands in it, unless its characters cannot be told: a text may
hold surrogates, and bytes may declare an encoding by a name that cannot be
followed.
-/

namespace ClassDiagram

namespace Xml

open Prolog (Reading Rules Token)

/-! ## Names in a tree -/

def Name.IsClosed (name : Name) : Prop := ∃ base, name.localPart? = some base

def Node.NamesClosed (node : Node) : Prop :=
  ∀ inner ∈ node.within, ∀ name, inner.name? = some name → name.IsClosed

structure Frame.NamesClosed (frame : Frame) : Prop where
  own : frame.name.IsClosed
  children : ∀ child ∈ frame.children, child.NamesClosed

def NamesStayClosed : Node ⊕ List Frame → Prop
  | .inl root => root.NamesClosed
  | .inr frames => ∀ frame ∈ frames, frame.NamesClosed

theorem elementName?_closed {scope : Scope} {name : RawName} {full : Name}
    (found : scope.elementName? name = some full) : full.IsClosed := by
  unfold Scope.elementName? at found
  split at found
  · obtain ⟨space, _, rfl⟩ := Option.map_eq_some_iff.mp found
    exact ⟨_, rfl⟩
  · split at found
    · cases found
      exact ⟨_, rfl⟩
    · exact ⟨_, Name.localPart?_of_bare found⟩

namespace Frame.NamesClosed

variable {frame : Frame} (closed : frame.NamesClosed)
include closed

theorem close : frame.close.NamesClosed := by
  intro inner inside name named
  unfold Frame.close at inside
  rw [Node.within, List.mem_cons, Node.withinAll_eq, List.mem_flatMap] at inside
  rcases inside with rfl | ⟨child, gathered, within⟩
  · cases named
    exact closed.own
  · exact closed.children child (List.mem_reverse.mp gathered) inner within name named

theorem addText (chars : List Char) : (frame.addText chars).NamesClosed := by
  unfold Frame.addText
  split
  · exact ⟨closed.own, closed.children⟩
  · exact closed

theorem addChild {child : Node} (inner : child.NamesClosed) :
    (frame.addChild child).NamesClosed where
  own := closed.own
  children other inside := by
    rcases List.mem_cons.mp inside with rfl | old
    · exact inner
    · exact closed.children other old

theorem closeFrame {outer : List Frame} (around : ∀ frame ∈ outer, frame.NamesClosed) :
    NamesStayClosed (closeFrame frame outer) := by
  cases outer with
  | nil => exact closed.close
  | cons next rest =>
      obtain ⟨first, others⟩ := List.forall_mem_cons.mp around
      exact List.forall_mem_cons.mpr ⟨first.addChild closed.close, others⟩

end Frame.NamesClosed

theorem openFrame?_closed {rules : Rules} {scope : Scope} {name : RawName}
    {written : List RawAttribute} {frame : Frame}
    (opened : openFrame? rules scope name written = some frame) : frame.NamesClosed := by
  obtain ⟨_, _, valued⟩ := Option.bind_eq_some_iff.mp opened
  obtain ⟨_, _, within⟩ := Option.bind_eq_some_iff.mp valued
  obtain ⟨_, _, attributed⟩ := Option.bind_eq_some_iff.mp within
  obtain ⟨_, _, apart⟩ := Option.bind_eq_some_iff.mp attributed
  obtain ⟨_, _, last⟩ := Option.bind_eq_some_iff.mp apart
  obtain ⟨full, named, rest⟩ := Option.bind_eq_some_iff.mp last
  cases rest
  exact ⟨elementName?_closed named, nofun⟩

theorem take?_closed {rules : Rules} {frames : List Frame} {markup : Markup}
    {taken : Node ⊕ List Frame} (closed : ∀ frame ∈ frames, frame.NamesClosed)
    (took : take? rules frames markup = some taken) : NamesStayClosed taken := by
  cases markup with
  | start name written selfClosed =>
      obtain ⟨frame, opened, rest⟩ := Option.bind_eq_some_iff.mp took
      have inner := openFrame?_closed opened
      split at rest <;> cases rest
      · exact inner.closeFrame closed
      · exact List.forall_mem_cons.mpr ⟨inner, closed⟩
  | stop name =>
      cases frames with
      | nil => cases took
      | cons frame outer =>
          obtain ⟨inner, around⟩ := List.forall_mem_cons.mp closed
          dsimp only [take?] at took
          split at took <;> cases took
          exact inner.closeFrame around
  | text chars =>
      cases frames with
      | nil => cases took
      | cons frame outer =>
          obtain ⟨inner, around⟩ := List.forall_mem_cons.mp closed
          cases took
          exact List.forall_mem_cons.mpr ⟨inner.addText chars, around⟩
  | aside =>
      cases took
      exact closed

/-- What is read from open elements with closed names is a tree with closed names. -/
theorem readTree?_closed {rules : Rules} {fuel : Nat} {frames : List Frame}
    {chars rest : List Char} {root : Node} (closed : ∀ frame ∈ frames, frame.NamesClosed)
    (read : readTree? rules fuel frames chars = some (root, rest)) : root.NamesClosed := by
  induction fuel generalizing frames chars with
  | zero => cases read
  | succ fuel ih =>
      obtain ⟨⟨markup, later⟩, _, next⟩ := Option.bind_eq_some_iff.mp read
      obtain ⟨taken, took, last⟩ := Option.bind_eq_some_iff.mp next
      have kept := take?_closed closed took
      cases taken with
      | inl found =>
          cases last
          exact kept
      | inr frames => exact ih kept last

theorem readRoot?_closed {rules : Rules} {chars : List Char} {root : Node}
    (read : readRoot? rules chars = some root) : root.NamesClosed := by
  unfold readRoot? at read
  dsimp only at read
  split at read
  · split at read
    · obtain ⟨⟨found, rest⟩, tree, last⟩ := Option.bind_eq_some_iff.mp read
      dsimp only at last
      split at last <;> cases last
      exact readTree?_closed (List.forall_mem_nil _) tree
    · cases read
  · cases read

/-! ## Why a document is refused -/

/-- Whether a document is refused for what stands in it, in whatever encoding it comes. -/
def Refusal.IsInherent : Refusal → Prop
  | .malformed | .entityDeclared _ _ _ => True
  | _ => False

/-- Whether bytes are refused for the encoding that they declare. -/
def Refusal.IsOfEncoding : Refusal → Prop
  | .unknownEncoding _ | .multibyteEncoding | .notAnEncoding _ | .undecodable _ _
  | .beyondAscii _ _ => True
  | _ => False

def FailsInherently {α : Type} : Except Refusal α → Prop
  | .ok _ => True
  | .error refusal => refusal.IsInherent

section

variable {α β : Type}

@[simp] theorem failsInherently_ok (value : α) : FailsInherently (.ok value) := trivial

@[simp] theorem failsInherently_malformed :
    FailsInherently (.error .malformed : Except Refusal α) :=
  trivial

@[simp] theorem failsInherently_entityDeclared (name : String) (systemId publicId : Option String) :
    FailsInherently (.error (.entityDeclared name systemId publicId) : Except Refusal α) :=
  trivial

theorem failsInherently_orMalformed (result : Option α) : FailsInherently (orMalformed result) := by
  cases result <;> simp

theorem failsInherently_bind_iff {first : Except Refusal α} {next : α → Except Refusal β}
    (rest : ∀ value, FailsInherently (next value)) :
    FailsInherently (first >>= next) ↔ FailsInherently first := by
  cases first with
  | ok value => exact iff_of_true (rest value) trivial
  | error refusal => exact Iff.rfl

theorem FailsInherently.bind {first : Except Refusal α} {next : α → Except Refusal β}
    (start : FailsInherently first) (rest : ∀ value, FailsInherently (next value)) :
    FailsInherently (first >>= next) :=
  (failsInherently_bind_iff rest).mpr start

end

/-! ### Reading the prolog -/

namespace Prolog

variable (rules : Rules)

theorem closing_inherent (tokens : List Token) : FailsInherently (closing rules tokens) := by
  unfold closing
  split <;> simp

theorem passing_inherent (literal : List Char) (tokens : List Token) :
    FailsInherently (passing rules literal tokens) := by
  unfold passing
  split
  · exact closing_inherent rules tokens
  · simp

theorem externalEntity_inherent (general : Bool) (name : Option String) (systemId : List Char)
    (publicId : Option String) (tokens : List Token) :
    FailsInherently (externalEntity rules general name systemId publicId tokens) := by
  cases name <;> unfold externalEntity <;> dsimp only [Option.map]
  · repeat' split
    all_goals simp [passing_inherent]
  · repeat' split
    all_goals simp

theorem entityBody_inherent (general : Bool) (name : Option String) (tokens : List Token) :
    FailsInherently (entityBody rules general name tokens) := by
  unfold entityBody
  repeat' split
  all_goals simp [closing_inherent, externalEntity_inherent]

theorem entity_inherent (tokens : List Token) : FailsInherently (entity rules tokens) := by
  unfold entity
  split <;> simp [entityBody_inherent]

theorem notationDeclaration_inherent (tokens : List Token) :
    FailsInherently (notationDeclaration rules tokens) := by
  unfold notationDeclaration
  repeat' split
  all_goals simp [closing_inherent, passing_inherent]

theorem elementDeclaration_inherent (tokens : List Token) :
    FailsInherently (elementDeclaration rules tokens) := by
  unfold elementDeclaration
  repeat' split
  all_goals simp [closing_inherent]

theorem attributeList_inherent (element : String) (fuel : Nat) (tokens : List Token) :
    FailsInherently (attributeList element fuel rules tokens) := by
  fun_induction attributeList element fuel rules tokens <;> simp_all

theorem declaration_inherent (keyword : String) (tokens : List Token) :
    FailsInherently (declaration rules keyword tokens) := by
  unfold declaration
  repeat' split
  all_goals
    simp [entity_inherent, elementDeclaration_inherent, notationDeclaration_inherent,
      attributeList_inherent]

theorem subset_inherent (fuel : Nat) (tokens : List Token) :
    FailsInherently (subset fuel rules tokens) := by
  fun_induction subset fuel rules tokens with
  | case1 => simp
  | case2 _ rules rest => exact closing_inherent rules rest
  | case3 _ _ _ ih => exact ih
  | case4 _ _ _ _ ih => exact ih
  | case5 _ rules keyword rest ih =>
      exact (declaration_inherent rules keyword rest).bind fun (rules, rest) => ih rules rest
  | case6 => simp

theorem optionalSubset_inherent (tokens : List Token) :
    FailsInherently (optionalSubset rules tokens) := by
  unfold optionalSubset
  split
  · exact subset_inherent rules _ _
  · exact closing_inherent rules _

theorem doctype_inherent (tokens : List Token) : FailsInherently (doctype rules tokens) := by
  unfold doctype
  repeat' split
  all_goals simp [optionalSubset_inherent]

theorem rulesOf_inherent (found : List Token) : FailsInherently (rulesOf rules found) := by
  unfold rulesOf
  split
  · simp
  · split
    · refine (doctype_inherent rules _).bind fun (rules, rest) => ?_
      dsimp only
      split <;> simp
    · simp
  · simp

theorem read_inherent (alphabet : Alphabet) (pieced standalone : Bool) (chars : List Char) :
    FailsInherently (read alphabet pieced standalone chars) :=
  (rulesOf_inherent _ _).bind fun _ => failsInherently_ok _

end Prolog

theorem readBody_inherent (encoding : Encoding) (standalone : Bool) (chars : List Char) :
    FailsInherently (readBody encoding standalone chars) :=
  (Prolog.read_inherent _ _ _ _).bind fun _ => failsInherently_orMalformed _

/-! ### Following the declaration -/

def familyNames : List String :=
  ["utf-8", "iso-8859-1", "us-ascii", "utf-16", "utf-16be", "utf-16le"]

def loweredName (name : String) : String := String.ofList (name.toList.map Char.toLower)

/--
Whether a name goes with no encoding, or with one in which characters are not
told byte by byte.
-/
def Unfollowable (name : String) : Prop :=
  loweredName name ∉ familyNames ∧
    (∀ page, Charset.find? name ≠ some (.codepage page)) ∧ Charset.find? name ≠ some .foreign

/-- The name of the encoding that bytes declare, if they start with a declaration. -/
def declaredEncoding? (content : List UInt8) : Option String :=
  let (encoding, bytes) := Encoding.detect content
  let chars := encoding.decode bytes
  if startsDeclaration chars then do
    let (written, _) ← declaration? chars
    let (name, _) ← Declaration.read? written
    name
  else none

theorem switchTo_inherent (current wanted : Encoding) :
    FailsInherently (current.switchTo wanted) := by
  unfold Encoding.switchTo
  split <;> simp

theorem ofCharset_inherent_iff (name : String) (charset : Option Charset) :
    FailsInherently (Encoding.ofCharset name charset) ↔
      (∃ page, charset = some (.codepage page)) ∨ charset = some .foreign := by
  unfold Encoding.ofCharset
  split <;> simp [FailsInherently, Refusal.IsInherent]

theorem follow_family_inherent {name : String} (current : Encoding)
    (family : loweredName name ∈ familyNames) : FailsInherently (current.follow name) := by
  unfold Encoding.follow
  split
  case h_7 => simp_all [loweredName, familyNames]
  case h_1 | h_2 | h_3 => exact switchTo_inherent _ _
  all_goals split <;> simp

theorem follow_charset {name : String} (current : Encoding)
    (other : loweredName name ∉ familyNames) :
    current.follow name = Encoding.ofCharset name (Charset.find? name) := by
  unfold Encoding.follow
  split <;> simp_all [loweredName, familyNames]

theorem follow_inherent {name : String} (current : Encoding) (followable : ¬ Unfollowable name) :
    FailsInherently (current.follow name) := by
  by_cases family : loweredName name ∈ familyNames
  · exact follow_family_inherent current family
  · rw [follow_charset current family, ofCharset_inherent_iff]
    by_cases page : ∃ page, Charset.find? name = some (.codepage page)
    · exact .inl page
    · by_cases foreign : Charset.find? name = some .foreign
      · exact .inr foreign
      · exact absurd ⟨family, not_exists.mp page, foreign⟩ followable

/-- A name that cannot be followed is refused as such. -/
theorem follow_unfollowable {name : String} (current : Encoding) (stray : Unfollowable name) :
    ∃ refusal, current.follow name = .error refusal ∧ refusal.IsOfEncoding := by
  obtain ⟨family, noPage, notForeign⟩ := stray
  rw [follow_charset current family]
  cases found : Charset.find? name with
  | none => exact ⟨_, rfl, trivial⟩
  | some charset =>
      cases charset with
      | codepage page => exact absurd found (noPage page)
      | foreign => exact absurd found notForeign
      | _ => exact ⟨_, rfl, trivial⟩

/-- Bytes are refused for what stands in them, unless the encoding that they declare is refused. -/
theorem readBytes_cases (source : Source) (content : List UInt8) :
    declaredEncoding? content = none ∧ FailsInherently (readBytes source content) ∨
      ∃ current name next, declaredEncoding? content = some name ∧
        readBytes source content = (source.follow current name >>= next) ∧
          ∀ chosen, FailsInherently (next chosen) := by
  unfold readBytes declaredEncoding?
  rcases Encoding.detect content with ⟨encoding, bytes⟩
  dsimp only
  split
  · cases begun : declaration? (encoding.decode bytes) with
    | none => exact .inl ⟨rfl, trivial⟩
    | some parts =>
        obtain ⟨text, rest⟩ := parts
        dsimp only
        cases told : Declaration.read? text with
        | none => exact .inl ⟨by simp [told], trivial⟩
        | some choice =>
            obtain ⟨_ | name, standalone⟩ := choice
            · exact .inl ⟨by simp [told], readBody_inherent _ _ _⟩
            · exact .inr ⟨encoding, name, _, by simp [told], rfl,
                fun chosen => readBody_inherent chosen _ _⟩
  · exact .inl ⟨rfl, readBody_inherent _ _ _⟩

/-- What a text declares does not matter: it keeps its encoding. -/
theorem readBytes_text_inherent (points : List CodePoint) (content : List UInt8) :
    FailsInherently (readBytes (.text points) content) := by
  obtain ⟨_, inherent⟩ | ⟨current, name, next, _, shape, inherent⟩ :=
    readBytes_cases (.text points) content
  · exact inherent
  · rw [shape]
    exact inherent current

/-! ### Reading to the end -/

theorem readBody_closed {encoding : Encoding} {standalone : Bool} {chars : List Char} {root : Node}
    (read : readBody encoding standalone chars = .ok root) : root.NamesClosed := by
  obtain ⟨⟨rules, rest⟩, _, last⟩ := Fault.bind_eq_ok.mp read
  dsimp only at last
  cases found : readRoot? rules rest with
  | none =>
      rw [found] at last
      cases last
  | some other =>
      rw [found] at last
      cases last
      exact readRoot?_closed found

theorem readBytes_closed {source : Source} {content : List UInt8} {root : Node}
    (read : readBytes source content = .ok root) : root.NamesClosed := by
  unfold readBytes at read
  rcases Encoding.detect content with ⟨encoding, bytes⟩
  dsimp only at read
  split at read
  · split at read
    · cases read
    · split at read
      · cases read
      · exact readBody_closed read
      · obtain ⟨chosen, _, rest⟩ := Fault.bind_eq_ok.mp read
        exact readBody_closed rest
  · exact readBody_closed read

/-! ## What readers are documented to do -/

section

variable (declared? : List UInt8 → Option String) (follows : String → Prop)

/--
Whether the characters of a document can be told: a text holds no surrogate,
and an encoding that bytes declare can be followed.
-/
def Source.IsDecodable : Source → Prop
  | .text content => ∀ point ∈ content, point.isSurrogate = false
  | .bytes content => ∀ name, declared? content = some name → follows name

/--
What a library is documented to do that reads XML, finds the encodings that
bytes declare and can follow some of them: in the trees that it gives all names
are closed, it refuses a document for what stands in it, and otherwise only
because the characters of this document cannot be told.
-/
structure Reader.IsDocumented (read : Reader) : Prop where
  closed : ∀ source root, read source = .ok root → root.NamesClosed
  inherent : ∀ source : Source, source.IsDecodable declared? follows → FailsInherently (read source)
  surrogates : ∀ content, ¬ (Source.text content).IsDecodable declared? follows →
    ∃ code position count, read (.text content) = .error (.surrogates code position count)
  unfollowed : ∀ content name, declared? content = some name → ¬ follows name →
    ∃ refusal, read (.bytes content) = .error refusal ∧ refusal.IsOfEncoding

end

theorem readDocument_text (points : List CodePoint) :
    readDocument (.text points) = (CodePoint.encode points >>= readBytes (.text points)) := rfl

theorem readDocument_bytes (content : List UInt8) :
    readDocument (.bytes content) = readBytes (.bytes content) content := rfl

/-- The reader does what readers are documented to do. -/
theorem isDocumented_readDocument :
    Reader.IsDocumented declaredEncoding? (fun name => ¬ Unfollowable name) readDocument where
  closed source root read := by
    obtain ⟨content, _, rest⟩ := Fault.bind_eq_ok.mp read
    exact readBytes_closed rest
  inherent source decodable := by
    cases source with
    | text points =>
        obtain ⟨content, encoded⟩ := CodePoint.exists_encode_iff.mpr decodable
        rw [readDocument_text, encoded]
        exact readBytes_text_inherent points content
    | bytes content =>
        rw [readDocument_bytes]
        obtain ⟨_, inherent⟩ | ⟨current, name, next, told, shape, inherent⟩ :=
          readBytes_cases (.bytes content) content
        · exact inherent
        · rw [shape]
          exact (follow_inherent current (decodable name told)).bind inherent
  surrogates points undecodable := by
    cases encoded : CodePoint.encode points with
    | ok content => exact absurd (CodePoint.exists_encode_iff.mp ⟨content, encoded⟩) undecodable
    | error refusal =>
        obtain ⟨code, position, count, rfl⟩ := CodePoint.encode_eq_error encoded
        exact ⟨code, position, count, by rw [readDocument_text, encoded]; rfl⟩
  unfollowed content name told stray := by
    rw [readDocument_bytes]
    obtain ⟨silent, _⟩ | ⟨current, other, next, toldAlso, shape, _⟩ :=
      readBytes_cases (.bytes content) content
    · cases silent.symm.trans told
    · cases told.symm.trans toldAlso
      obtain ⟨refusal, refused, ofEncoding⟩ :=
        follow_unfollowable current (Classical.not_not.mp stray)
      refine ⟨refusal, ?_, ofEncoding⟩
      rw [shape, Source.follow, refused]
      rfl

end Xml

end ClassDiagram
