import ClassDiagram.Proofs.Replacing
import Mathlib.Data.List.Range

/-!
# The positions of elements

An index sorts the packaged elements of a model by kind: every position belongs
to one kind or is skipped, and each list of positions ascends.  Strict rules
change nothing about an index, except that none is made where a position would
be skipped.
-/

namespace ClassDiagram

open Xml (Node)

/-- An element is of a kind if it declares exactly this kind. -/
theorem kind?_eq_some_iff {node : Node} {kind : ElementKind} :
    kind? node = some kind ↔ declaredKind? node = some kind.declared := by
  unfold kind?
  constructor
  · intro declares
    unfold ElementKind.ofDeclared? at declares
    split at declares <;> cases declares <;> assumption
  · intro declares
    rw [declares, ElementKind.ofDeclared?_declared]

/-! ## The positions of a kind -/

theorem mem_positionsOf_iff {kind : Option ElementKind} {nodes : List Node} {position : Nat} :
    position ∈ positionsOf kind nodes ↔
      ∃ node, nodes[position]? = some node ∧ kind? node = kind := by
  simp [positionsOf, List.mem_zipIdx_iff_getElem?]

/-- The positions of a kind ascend. -/
theorem pairwise_positionsOf (kind : Option ElementKind) (nodes : List Node) :
    (positionsOf kind nodes).Pairwise (· < ·) := by
  have among : (positionsOf kind nodes).Sublist (List.range' 0 nodes.length) := by
    rw [← List.zipIdx_map_snd]
    exact List.filter_sublist.map _
  exact (List.pairwise_lt_range' 1).sublist among

/-! ## Scans under both rules -/

/-- A scan only appends to what is filed. -/
theorem exists_of_scan {strict : Bool} {position : Nat} {nodes : List Node} {places last : Places}
    (scanned : scan strict position nodes places = .ok last) (kind : Option ElementKind) :
    ∃ later, last.of kind = places.of kind ++ later := by
  induction nodes generalizing position places with
  | nil =>
      cases scanned
      exact ⟨[], (List.append_nil _).symm⟩
  | cons node rest ih =>
      unfold scan at scanned
      split at scanned
      · split at scanned
        · cases scanned
        · obtain ⟨later, filed⟩ := ih scanned
          rw [filed, Places.of_skip, List.append_assoc]
          exact ⟨_, rfl⟩
      · obtain ⟨later, filed⟩ := ih scanned
        rw [filed, Places.of_file, List.append_assoc]
        exact ⟨_, rfl⟩

/--
A scan under strict rules files elements as a lenient one does, unless it comes
to a position that is skipped: the first of them is a fault.
-/
theorem scan_strict {front rest : List Node} {places last : Places} (none : places.skipped = [])
    (lenient : scan false front.length rest places = .ok last) :
    scan true front.length rest places = match last.skipped with
      | [] => .ok last
      | position :: _ => .error (.ingest (.unknownKind
          (.ofOption (((front ++ rest)[position]?).bind declaredKind?)) (.number position))) := by
  induction rest generalizing front places with
  | nil =>
      cases lenient
      rw [none, scan]
  | cons node rest ih =>
      have next : front.length + 1 = (front ++ [node]).length := by simp
      unfold scan at lenient ⊢
      cases known : kind? node with
      | none =>
          rw [known] at lenient
          obtain ⟨later, filed⟩ := exists_of_scan lenient Option.none
          have first : last.skipped = front.length :: later := by
            rw [show last.skipped = _ from filed, Places.of_skip]
            simp [Places.of, none]
          rw [first]
          simp [unknownKind]
      | some kind =>
          rw [known, next] at lenient
          dsimp only at lenient ⊢
          rw [next, ih ?_ lenient, ← List.append_cons]
          cases kind <;> exact none

namespace Index

variable (index : Index)

theorem mem_positions_iff {kind : ElementKind} {position : Nat} :
    position ∈ index.positions kind ↔
      ∃ node, index.elements[position]? = some node ∧ kind? node = some kind := by
  rw [positions, index.sort, mem_positionsOf_iff]

theorem mem_skipped_iff {position : Nat} :
    position ∈ index.skipped ↔
      ∃ node, index.elements[position]? = some node ∧ kind? node = none := by
  rw [skipped, index.sort, mem_positionsOf_iff]

theorem pairwise_positions (kind : ElementKind) : (index.positions kind).Pairwise (· < ·) := by
  rw [positions, index.sort]
  exact pairwise_positionsOf _ index.elements

theorem pairwise_skipped : index.skipped.Pairwise (· < ·) := by
  rw [skipped, index.sort]
  exact pairwise_positionsOf _ index.elements

/-! ## Indexes that sort elements -/

/--
An index sorts elements by kind: its lists of positions ascend and have no
position in common, together they hold every position, and each kind has the
positions of the elements that declare it.
-/
structure Sorts (elements : List Node) : Prop where
  elements_eq : index.elements = elements
  ascending : ∀ kind, (index.positions kind).Pairwise (· < ·)
  skipped_ascending : index.skipped.Pairwise (· < ·)
  apart : ∀ kind other, kind ≠ other → (index.positions kind).Disjoint (index.positions other)
  skipped_apart : ∀ kind, (index.positions kind).Disjoint index.skipped
  covers : ∀ position, position < elements.length ↔
    position ∈ index.skipped ∨ ∃ kind, position ∈ index.positions kind
  declared : ∀ kind position, position ∈ index.positions kind ↔
    ∃ node, elements[position]? = some node ∧ declaredKind? node = some kind.declared
  placed : ∀ kind, (index.positions kind).map (elements[·]?) = (index.elementsOf kind).map some
  selected : ∀ kind, index.elementsOf kind =
    elements.filter fun node => declaredKind? node = some kind.declared

theorem sorts_elements : index.Sorts index.elements where
  elements_eq := rfl
  ascending := index.pairwise_positions
  skipped_ascending := index.pairwise_skipped
  apart kind other differ position inside insideOther := by
    obtain ⟨node, there, known⟩ := index.mem_positions_iff.mp inside
    obtain ⟨same, thereAlso, knownAlso⟩ := index.mem_positions_iff.mp insideOther
    cases there.symm.trans thereAlso
    exact differ (Option.some.inj (known.symm.trans knownAlso))
  skipped_apart kind position inside skips := by
    obtain ⟨node, there, known⟩ := index.mem_positions_iff.mp inside
    obtain ⟨same, thereAlso, unknown⟩ := index.mem_skipped_iff.mp skips
    cases there.symm.trans thereAlso
    cases known.symm.trans unknown
  covers position := by
    simp only [mem_skipped_iff, mem_positions_iff]
    cases there : index.elements[position]? with
    | none =>
        have beyond := List.getElem?_eq_none_iff.mp there
        simp [beyond]
    | some node =>
        have within := (List.getElem?_eq_some_iff.mp there).1
        cases known : kind? node <;> simp [within, known]
  declared kind position := by
    simp only [mem_positions_iff, kind?_eq_some_iff]
  placed := index.map_positions
  selected kind := by
    simp only [elementsOf_eq, kind?_eq_some_iff]

/-! ## Strict rules -/

/--
An index under strict rules: the first position that it skips is a fault, which
tells the position and the kind that the element there declares.
-/
def strictly : Except Fault Index :=
  match index.skipped with
  | [] => .ok index
  | position :: _ =>
      .error (.ingest (.unknownKind
        (.ofOption ((index.elements[position]?).bind declaredKind?)) (.number position)))

/-- Strict rules make the same index of elements, or none. -/
theorem ofElements_strict {elements : List Node} (made : ofElements false elements = .ok index) :
    ofElements true elements = index.strictly := by
  obtain ⟨rfl, lenient⟩ := ofElements_eq_ok.mp made
  have strict := @scan_strict [] _ _ _ rfl lenient
  rw [List.length_nil, List.nil_append] at strict
  rw [strictly, skipped, Places.of]
  cases listed : index.places.skipped with
  | nil =>
      rw [listed] at strict
      exact ofElements_eq_ok.mpr ⟨rfl, strict⟩
  | cons position later =>
      rw [listed] at strict
      exact ofElements_eq_error.mpr strict

/--
Classifying sorts the packaged elements of a model, and strict rules add no
more than a fault for the first position of unknown kind.
-/
def Classifies (model : Node) : Prop :=
  ∃ index, ofModel false model = .ok index ∧
    index.Sorts (childrenNamed model "packagedElement") ∧ ofModel true model = index.strictly

/--
Classifying sorts the packaged elements of exactly those models in which no
child has a broken name.  Any other model is classified under neither rules.
-/
theorem classifies_iff (model : Node) :
    (Classifies model ↔ ¬ HasBrokenName model) ∧
      (HasBrokenName model ↔ ∀ strict, ofModel strict model = .error .brokenName) := by
  have broken (holds : HasBrokenName model) (strict : Bool) :
      ofModel strict model = .error .brokenName := ofModel_of_broken holds
  refine ⟨⟨?_, fun whole => ?_⟩, broken, fun refused => ?_⟩
  · rintro ⟨index, made, _⟩ holds
    cases made.symm.trans (broken holds false)
  · obtain ⟨index, made⟩ := ofModel_of_whole whole
    have again := made
    rw [ofModel_eq_ofElements whole] at again
    refine ⟨index, made, ?_, ?_⟩
    · rw [← elements_of_ofModel made]
      exact index.sorts_elements
    · rw [ofModel_eq_ofElements whole]
      exact index.ofElements_strict again
  · by_contra whole
    obtain ⟨index, made⟩ := ofModel_of_whole whole
    cases made.symm.trans (refused false)

/-- A model whose only child opens a namespace in its name and never closes it. -/
def notedModel : Node := umlElement "Model" [] [] [brokenElement]

/-- The model with a broken name is not classified. -/
theorem not_classifies_noted :
    ¬ Classifies notedModel ∧ ofModel false notedModel = .error .brokenName := by
  have refused : ofModel false notedModel = .error .brokenName := rfl
  refine ⟨?_, refused⟩
  rintro ⟨index, made, _⟩
  cases made.symm.trans refused

end Index

end ClassDiagram
