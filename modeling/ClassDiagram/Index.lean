import ClassDiagram.Journal
import ClassDiagram.Lookup

/-!
# The index of a model

The packaged elements of a model are classified once, by position, so that
entities can be built kind by kind whatever order the elements come in.  One
scan files every position with the kind of the element there.
-/

namespace ClassDiagram

open Xml (Node)

/-! ## The places of elements -/

structure Places where
  types : List Nat := []
  classes : List Nat := []
  associations : List Nat := []
  enumerations : List Nat := []
  skipped : List Nat := []
  deriving DecidableEq, Repr, Inhabited

namespace Places

def of (places : Places) : Option ElementKind → List Nat
  | some .scalarType => places.types
  | some .objectClass => places.classes
  | some .association => places.associations
  | some .enumeration => places.enumerations
  | none => places.skipped

def file (places : Places) (position : Nat) : ElementKind → Places
  | .scalarType => { places with types := places.types ++ [position] }
  | .objectClass => { places with classes := places.classes ++ [position] }
  | .association => { places with associations := places.associations ++ [position] }
  | .enumeration => { places with enumerations := places.enumerations ++ [position] }

def skip (places : Places) (position : Nat) : Places :=
  { places with skipped := places.skipped ++ [position] }

theorem of_file (places : Places) (position : Nat) (kind : ElementKind)
    (other : Option ElementKind) :
    (places.file position kind).of other =
      places.of other ++ if some kind = other then [position] else [] := by
  cases kind <;> rcases other with _ | ⟨⟨⟩⟩ <;> simp [file, of]

theorem of_skip (places : Places) (position : Nat) (other : Option ElementKind) :
    (places.skip position).of other =
      places.of other ++ if none = other then [position] else [] := by
  rcases other with _ | ⟨⟨⟩⟩ <;> simp [skip, of]

theorem eq_of_of {left right : Places} (agree : ∀ kind, left.of kind = right.of kind) :
    left = right := by
  obtain ⟨_, _, _, _, _⟩ := left
  obtain ⟨_, _, _, _, _⟩ := right
  cases agree (some .scalarType)
  cases agree (some .objectClass)
  cases agree (some .association)
  cases agree (some .enumeration)
  cases agree none
  rfl

end Places

def unknownKind (position : Nat) (node : Node) : Fault :=
  .ingest (.unknownKind (.ofOption (declaredKind? node)) (.number position))

/--
File the positions of elements by kind.  Elements of unknown kind are skipped;
under strict rules the first of them is a fault.
-/
def scan (strict : Bool) : Nat → List Node → Places → Except Fault Places
  | _, [], places => .ok places
  | position, node :: rest, places =>
      match kind? node with
      | none =>
          if strict then .error (unknownKind position node)
          else scan strict (position + 1) rest (places.skip position)
      | some kind => scan strict (position + 1) rest (places.file position kind)

/-! ## What a scan has filed -/

def positionsOf (kind : Option ElementKind) (nodes : List Node) : List Nat :=
  (nodes.zipIdx.filter fun entry => kind? entry.1 = kind).map Prod.snd

@[simp] theorem positionsOf_nil (kind : Option ElementKind) : positionsOf kind [] = [] := rfl

theorem positionsOf_concat (kind : Option ElementKind) (nodes : List Node) (node : Node) :
    positionsOf kind (nodes ++ [node]) =
      positionsOf kind nodes ++ if kind? node = kind then [nodes.length] else [] := by
  unfold positionsOf
  rw [List.zipIdx_append, List.filter_append, List.map_append, Nat.zero_add]
  by_cases fits : kind? node = kind <;> simp [fits]

def Places.Sort (places : Places) (nodes : List Node) : Prop :=
  ∀ kind, places.of kind = positionsOf kind nodes

namespace Places.Sort

variable {places : Places} {front : List Node} {node : Node}

theorem nil : Places.Sort {} [] := by
  rintro (_ | ⟨⟨⟩⟩) <;> rfl

theorem file (sort : places.Sort front) {kind : ElementKind} (known : kind? node = some kind) :
    (places.file front.length kind).Sort (front ++ [node]) := by
  intro other
  rw [of_file, positionsOf_concat, sort other, known]

theorem skip (sort : places.Sort front) (unknown : kind? node = none) :
    (places.skip front.length).Sort (front ++ [node]) := by
  intro other
  rw [of_skip, positionsOf_concat, sort other, unknown]

/-- The elements scanned so far are sorted all the time, and so are all of them in the end. -/
theorem scan {strict : Bool} {rest : List Node} {last : Places} (sort : places.Sort front)
    (scanned : scan strict front.length rest places = .ok last) : last.Sort (front ++ rest) := by
  induction rest generalizing places front with
  | nil =>
      cases scanned
      rwa [List.append_nil]
  | cons node rest ih =>
      have next : front.length + 1 = (front ++ [node]).length := by simp
      rw [List.append_cons]
      rw [ClassDiagram.scan, next] at scanned
      cases known : kind? node with
      | none =>
          rw [known] at scanned
          dsimp only at scanned
          split at scanned
          · cases scanned
          · exact ih (sort.skip known) scanned
      | some kind =>
          rw [known] at scanned
          exact ih (sort.file known) scanned

end Places.Sort

/-- Nothing is a fault unless the rules are strict and some kind is unknown. -/
theorem scan_eq_error {strict : Bool} {position : Nat} {nodes : List Node} {places : Places}
    {fault : Fault} (failed : scan strict position nodes places = .error fault) :
    strict = true ∧
      ∃ place, ∃ node ∈ nodes, kind? node = none ∧ fault = unknownKind place node := by
  induction nodes generalizing position places with
  | nil => cases failed
  | cons node rest ih =>
      have later {places : Places}
          (failed : scan strict (position + 1) rest places = .error fault) :
          strict = true ∧ ∃ place, ∃ other ∈ node :: rest, kind? other = none ∧
            fault = unknownKind place other := by
        obtain ⟨strictly, place, other, inside, found⟩ := ih failed
        exact ⟨strictly, place, other, List.mem_cons_of_mem _ inside, found⟩
      unfold scan at failed
      split at failed
      · rename_i unknown
        split at failed
        · rename_i strictly
          cases failed
          exact ⟨strictly, position, node, List.mem_cons_self, unknown, rfl⟩
        · exact later failed
      · exact later failed

theorem exists_scan_iff {strict : Bool} {position : Nat} {nodes : List Node} {places : Places} :
    (∃ last, scan strict position nodes places = .ok last) ↔
      (strict = true → ∀ node ∈ nodes, kind? node ≠ none) := by
  induction nodes generalizing position places with
  | nil => exact iff_of_true ⟨places, rfl⟩ fun _ => nofun
  | cons node rest ih =>
      unfold scan
      cases known : kind? node with
      | none =>
          cases strict with
          | true => exact iff_of_false nofun fun all => all rfl node List.mem_cons_self known
          | false => exact ih.trans ⟨fun _ => nofun, fun _ => nofun⟩
      | some kind => simp [ih, known]

/-! ## Indexes -/

structure Index where
  elements : List Node
  places : Places
  sort : places.Sort elements

namespace Index

instance : Inhabited Index := ⟨⟨[], {}, .nil⟩⟩

def positions (index : Index) (kind : ElementKind) : List Nat := index.places.of (some kind)

def skipped (index : Index) : List Nat := index.places.of none

def elementsOf (index : Index) (kind : ElementKind) : List Node :=
  (index.positions kind).filterMap (index.elements[·]?)

def enumerationIds (index : Index) : List (Option String) :=
  (index.elementsOf .enumeration).map id?

def tally (index : Index) : Tally :=
  ⟨index.elements.length, (index.positions .objectClass).length,
    (index.positions .scalarType).length, (index.positions .association).length,
    (index.positions .enumeration).length, index.skipped.length⟩

def events (index : Index) : List Event :=
  index.skipped.map (fun position =>
    .elementSkipped position ((index.elements[position]?).bind declaredKind?)) ++
      [.indexed index.tally]

def ofElements (strict : Bool) (elements : List Node) : Except Fault Index :=
  match scanned : scan strict 0 elements {} with
  | .ok places => .ok ⟨elements, places, Places.Sort.nil.scan scanned⟩
  | .error fault => .error fault

def ofModel (strict : Bool) (model : Node) : Except Fault Index := do
  ofElements strict (← allOf (model.select "packagedElement"))

/-- Elements have one index. -/
theorem eq_of_elements {left right : Index} (same : left.elements = right.elements) :
    left = right := by
  obtain ⟨elements, places, sort⟩ := left
  obtain ⟨_, others, sortAlso⟩ := right
  cases same
  have agree (kind : Option ElementKind) : places.of kind = others.of kind :=
    (sort kind).trans (sortAlso kind).symm
  cases Places.eq_of_of agree
  rfl

theorem ofElements_eq_ok {strict : Bool} {elements : List Node} {index : Index} :
    ofElements strict elements = .ok index ↔
      index.elements = elements ∧ scan strict 0 elements {} = .ok index.places := by
  unfold ofElements
  split
  · rename_i places scanned
    constructor
    · rintro ⟨⟩
      exact ⟨rfl, scanned⟩
    · rintro ⟨same, _⟩
      exact congrArg _ (eq_of_elements same.symm)
  · rename_i fault scanned
    refine iff_of_false nofun ?_
    rintro ⟨_, filed⟩
    cases scanned.symm.trans filed

theorem exists_ofElements_iff {strict : Bool} {elements : List Node} :
    (∃ index, ofElements strict elements = .ok index) ↔
      (strict = true → ∀ node ∈ elements, kind? node ≠ none) := by
  refine Iff.trans ⟨?_, ?_⟩ (@exists_scan_iff strict 0 elements {})
  · rintro ⟨index, made⟩
    exact ⟨index.places, (ofElements_eq_ok.mp made).2⟩
  · rintro ⟨places, scanned⟩
    exact ⟨⟨elements, places, Places.Sort.nil.scan scanned⟩,
      ofElements_eq_ok.mpr ⟨rfl, scanned⟩⟩

theorem ofElements_eq_error {strict : Bool} {elements : List Node} {fault : Fault} :
    ofElements strict elements = .error fault ↔ scan strict 0 elements {} = .error fault := by
  unfold ofElements
  split
  · rename_i places scanned
    refine iff_of_false nofun fun failed => ?_
    cases scanned.symm.trans failed
  · rename_i other scanned
    rw [scanned, Except.error.injEq, Except.error.injEq]

end Index

end ClassDiagram
