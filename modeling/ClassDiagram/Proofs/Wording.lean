import ClassDiagram.Proofs.Blanks
import ClassDiagram.Proofs.Lookups

/-!
# What elements say

The name of an element and the comments on it, told from the texts of its
attributes and children alone, and that a look-up gives nothing else.
-/

namespace ClassDiagram

open Text (AllBlank IsBare IsPadded)
open Xml (Node)

/-! ## Names -/

structure Solid (text body : String) : Prop where
  padded : IsPadded body text
  bare : IsBare body.toList
  filled : body ≠ ""

theorem solid?_eq_some_iff {text body : String} : solid? text = some body ↔ Solid text body := by
  constructor
  · intro solid
    obtain ⟨rfl, filled⟩ := solid?_eq_some solid
    exact ⟨Text.isPadded_strip text, Text.isBare_strip text, filled⟩
  · rintro ⟨padded, bare, filled⟩
    unfold solid?
    rw [padded.strip_eq bare]
    exact if_neg (by simpa using filled)

theorem solid?_eq_none_iff {text : String} : solid? text = none ↔ AllBlank text.toList := by
  constructor
  · intro nothing
    obtain ⟨left, right, blankLeft, blankRight, shape⟩ := Text.isPadded_strip text
    have blank : Text.strip text = "" := by
      unfold solid? at nothing
      dsimp only at nothing
      split at nothing
      · rename_i empty
        simpa using empty
      · cases nothing
    rw [blank, String.toList_empty, List.append_nil] at shape
    intro c inside
    rw [shape] at inside
    exact (List.mem_append.mp inside).elim (blankLeft c) (blankRight c)
  · intro blank
    have padded : IsPadded "" text := ⟨text.toList, [], blank, fun _ => nofun, by simp⟩
    unfold solid?
    rw [padded.strip_eq ⟨nofun, nofun⟩]
    rfl

def IsTitled (node : Node) (title : String) : Prop :=
  ∃ text, node.plain? "name" = some text ∧ Solid text title

theorem title?_eq_some_iff {node : Node} {title : String} :
    title? node = some title ↔ IsTitled node title := by
  simp only [title?, Option.bind_eq_some_iff, solid?_eq_some_iff, IsTitled]

def IsLowered (written name : String) : Prop :=
  ∃ c rest, written.toList = c :: rest ∧ name.toList = Text.lowerChar c ++ rest

theorem isLowered_decapitalize {written : String} (filled : written ≠ "") :
    IsLowered written (Text.decapitalize written) := by
  unfold Text.decapitalize
  cases shape : written.toList with
  | nil => exact absurd (String.toList_eq_nil_iff.mp shape) filled
  | cons c rest => exact ⟨c, rest, shape, String.toList_ofList⟩

/-! ## Comments -/

def InnerText (comment : Node) (text : String) : Prop :=
  text ≠ "" ∧ ∃ body, (childrenNamed comment "body").head? = some body ∧ body.text? = some text

/--
What a comment says: the text in its first body child, or else what its body
attribute says, and nothing without either.
-/
inductive Remarks (comment : Node) : String → Prop where
  | inner {text : String} (inner : InnerText comment text) : Remarks comment text
  | attribute {text : String} (noInner : ∀ text, ¬ InnerText comment text)
      (written : comment.plain? "body" = some text) : Remarks comment text
  | nothing (noInner : ∀ text, ¬ InnerText comment text)
      (unwritten : comment.plain? "body" = none) : Remarks comment ""

/-- The lines that comments give in order: what each of them says, unless this is blank. -/
inductive Lines : List Node → List String → Prop where
  | nil : Lines [] []
  | blank {comment : Node} {rest : List Node} {text : String} {lines : List String}
      (remarks : Remarks comment text) (blank : AllBlank text.toList) (more : Lines rest lines) :
      Lines (comment :: rest) lines
  | line {comment : Node} {rest : List Node} {text line : String} {lines : List String}
      (remarks : Remarks comment text) (solid : Solid text line) (more : Lines rest lines) :
      Lines (comment :: rest) (line :: lines)

/-- The comment on an element: the lines of its comment children, one below the other. -/
def IsDocumented (node : Node) (comment : Option String) : Prop :=
  ∃ lines, Lines (childrenNamed node "ownedComment") lines ∧
    comment = if lines = [] then none else some ("\n".intercalate lines)

/-- The first selected child is the first of its name; none is selected only if there is none. -/
theorem head?_of_firstOf {node : Node} {tag : String} {child : Option Node}
    (first : firstOf (node.select tag) = .ok child) :
    child = (childrenNamed node tag).head? := by
  unfold firstOf at first
  split at first
  · rename_i found rest shape
    obtain ⟨later, whole⟩ := found_isPrefix node tag
    rw [shape] at whole
    cases first
    rw [← whole]
    rfl
  · rename_i shape
    split at first
    · cases first
    · rename_i uncut
      cases first
      rw [← found_select (by simpa using uncut), shape]
      rfl

theorem remarks_of_commentText {comment : Node} {text : String}
    (said : commentText comment = .ok text) : Remarks comment text := by
  obtain ⟨child, first, rest⟩ := Fault.bind_eq_ok.mp said
  have head := head?_of_firstOf first
  have inner_iff (text : String) : InnerText comment text ↔
      text ≠ "" ∧ child.bind Node.text? = some text := by
    rw [InnerText, head, Option.bind_eq_some_iff]
  dsimp only at rest
  cases inside : child.bind Node.text? with
  | none =>
      have noInner : ∀ text, ¬ InnerText comment text := by
        simp [inner_iff, inside]
      rw [inside] at rest
      cases written : comment.plain? "body" <;> rw [written] at rest <;> cases rest
      · exact .nothing noInner written
      · exact .attribute noInner written
  | some body =>
      by_cases filled : body = ""
      · have noInner : ∀ text, ¬ InnerText comment text := by
          simp [inner_iff, inside, filled]
        rw [inside, filled] at rest
        cases written : comment.plain? "body" <;> rw [written] at rest <;> cases rest
        · exact .nothing noInner written
        · exact .attribute noInner written
      · rw [inside, Text.isPresent_some, if_pos (by simpa using filled)] at rest
        cases rest
        exact .inner ((inner_iff _).mpr ⟨filled, inside⟩)

theorem lines_of_texts {comments : List Node} {texts : List String}
    (said : comments.mapM commentText = .ok texts) : Lines comments (texts.filterMap solid?) := by
  induction comments generalizing texts with
  | nil =>
      cases said
      exact .nil
  | cons comment rest ih =>
      rw [List.mapM_cons] at said
      obtain ⟨text, first, others⟩ := Fault.bind_eq_ok.mp said
      obtain ⟨more, read, last⟩ := Fault.bind_eq_ok.mp others
      cases last
      have remarks := remarks_of_commentText first
      cases solid : solid? text with
      | none =>
          rw [List.filterMap_cons_none solid]
          exact .blank remarks (solid?_eq_none_iff.mp solid) (ih read)
      | some line =>
          rw [List.filterMap_cons_some solid]
          exact .line remarks (solid?_eq_some_iff.mp solid) (ih read)

theorem isDocumented_of_documentation {node : Node} {comment : Option String}
    (documented : documentation node = .ok comment) : IsDocumented node comment := by
  obtain ⟨comments, all, rest⟩ := Fault.bind_eq_ok.mp documented
  obtain ⟨whole, rfl⟩ := allOf_eq_ok.mp all
  obtain ⟨texts, said, last⟩ := Fault.bind_eq_ok.mp rest
  have lines := lines_of_texts said
  rw [found_select whole] at lines
  refine ⟨_, lines, ?_⟩
  cases shape : texts.filterMap solid? with
  | nil =>
      simp only [shape] at last
      cases last
      rfl
  | cons line others =>
      simp only [shape] at last
      cases last
      rfl

end ClassDiagram
