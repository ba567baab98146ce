import ClassDiagram.Xml.Node
import ClassDiagram.Xml.Refusal

/-!
# Sources of documents

A document comes as text or as bytes.  A text is a row of code points, and
among these may be surrogates, for which no encoding has bytes.
-/

namespace ClassDiagram.Xml

/-- A code point: a character, or a surrogate by its place among these. -/
inductive CodePoint where
  | char (c : Char)
  | surrogate (place : Fin 0x800)
  deriving DecidableEq, Repr

namespace CodePoint

def ofText (text : String) : List CodePoint := text.toList.map .char

def char? : CodePoint → Option Char
  | .char c => some c
  | .surrogate _ => none

def isSurrogate : CodePoint → Bool
  | .char _ => false
  | .surrogate _ => true

def firstSurrogate : Nat := 0xD800

/-- The refusal of code points that hold surrogates, for the first of them and those right after. -/
def refusal? : Nat → List CodePoint → Option Refusal
  | _, [] => none
  | position, .char _ :: rest => refusal? (position + 1) rest
  | position, .surrogate place :: rest =>
      some (.surrogates (firstSurrogate + place) position
        ((rest.takeWhile isSurrogate).length + 1))

def encode (points : List CodePoint) : Except Refusal (List UInt8) :=
  match refusal? 0 points with
  | some refusal => .error refusal
  | none => .ok (String.ofList (points.filterMap char?)).toUTF8.data.toList

theorem refusal?_eq_none_iff {position : Nat} {points : List CodePoint} :
    refusal? position points = none ↔ ∀ point ∈ points, point.isSurrogate = false := by
  induction points generalizing position with
  | nil => exact iff_of_true rfl (List.forall_mem_nil _)
  | cons point rest ih =>
      rw [List.forall_mem_cons]
      cases point with
      | char c => exact ih.trans (and_iff_right rfl).symm
      | surrogate place => exact iff_of_false nofun fun none => nomatch none.1

theorem refusal?_eq_some {position : Nat} {points : List CodePoint} {refusal : Refusal}
    (refused : refusal? position points = some refusal) :
    ∃ code position count, refusal = .surrogates code position count := by
  induction points generalizing position with
  | nil => cases refused
  | cons point rest ih =>
      cases point with
      | char c => exact ih refused
      | surrogate place =>
          cases refused
          exact ⟨_, _, _, rfl⟩

/-- Code points have bytes if none of them is a surrogate. -/
theorem exists_encode_iff {points : List CodePoint} :
    (∃ content, encode points = .ok content) ↔ ∀ point ∈ points, point.isSurrogate = false := by
  rw [← @refusal?_eq_none_iff 0, encode]
  cases refusal? 0 points with
  | none => exact iff_of_true ⟨_, rfl⟩ rfl
  | some refusal => exact iff_of_false nofun nofun

theorem encode_eq_error {points : List CodePoint} {refusal : Refusal}
    (refused : encode points = .error refusal) :
    ∃ code position count, refusal = .surrogates code position count := by
  unfold encode at refused
  split at refused <;> cases refused
  rename_i found
  exact refusal?_eq_some found

end CodePoint

/-- A document as it comes: as text, or as bytes in some encoding. -/
inductive Source where
  | text (content : List CodePoint)
  | bytes (content : List UInt8)
  deriving DecidableEq, Repr

def Source.toBytes : Source → Except Refusal (List UInt8)
  | .text content => CodePoint.encode content
  | .bytes content => .ok content

/-- A library that reads documents: each has a root element, or it is refused. -/
abbrev Reader := Source → Except Refusal Node

end ClassDiagram.Xml
