import ClassDiagram.Lookup
import ClassDiagram.Proofs.Tables
import ClassDiagram.Registry

/-!
# The theory of look-ups

What is found on an element that holds no broken name, and the faults that a
look-up can end in.
-/

namespace ClassDiagram

open Xml (Name Node)

/-! ## Results in sequence -/

namespace Fault

variable {ε α β : Type}

theorem bind_eq_ok {result : Except ε α} {next : α → Except ε β} {b : β} :
    (result >>= next) = .ok b ↔ ∃ a, result = .ok a ∧ next a = .ok b := by
  cases result with
  | error fault =>
      constructor
      · intro impossible
        cases impossible
      · rintro ⟨_, ⟨⟩, _⟩
  | ok a =>
      constructor
      · intro rest
        exact ⟨a, rfl, rest⟩
      · rintro ⟨_, ⟨⟩, rest⟩
        exact rest

theorem bind_eq_error {result : Except Fault α} {next : α → Except Fault β} {fault : Fault} :
    (result >>= next) = .error fault ↔
      result = .error fault ∨ ∃ a, result = .ok a ∧ next a = .error fault := by
  cases result with
  | error other =>
      constructor
      · intro failed
        cases failed
        exact Or.inl rfl
      · rintro (same | ⟨_, ⟨⟩, _⟩)
        cases same
        rfl
  | ok a =>
      constructor
      · intro rest
        exact Or.inr ⟨a, rfl, rest⟩
      · rintro (impossible | ⟨_, ⟨⟩, rest⟩)
        · cases impossible
        · exact rest

/-- A fault met on the way through a list is one of some item. -/
theorem mapM_eq_error {f : α → Except Fault β} {items : List α} {fault : Fault}
    (failed : items.mapM f = .error fault) : ∃ item ∈ items, f item = .error fault := by
  induction items with
  | nil => cases failed
  | cons item rest ih =>
      rw [List.mapM_cons] at failed
      rcases bind_eq_error.mp failed with here | ⟨_, _, later⟩
      · exact ⟨item, List.mem_cons_self, here⟩
      · rcases bind_eq_error.mp later with there | ⟨_, _, impossible⟩
        · obtain ⟨other, inRest, found⟩ := ih there
          exact ⟨other, List.mem_cons_of_mem _ inRest, found⟩
        · cases impossible

end Fault

/-! ## Children -/

def childrenNamed (node : Node) (tag : String) : List Node :=
  node.children.filter fun child => child.name?.bind Name.localPart? = some tag

theorem found_selectFrom {tag : String} {nodes : List Node}
    (whole : (Node.selectFrom tag nodes).cut = false) :
    (Node.selectFrom tag nodes).found =
      nodes.filter fun child => child.name?.bind Name.localPart? = some tag := by
  induction nodes with
  | nil => rfl
  | cons node rest ih =>
      cases node with
      | comment text => exact ih whole
      | element name attributes text children =>
          unfold Node.selectFrom at whole ⊢
          cases base : name.localPart? with
          | none =>
              rw [base] at whole
              cases whole
          | some base' =>
              simp only [base] at whole ⊢
              by_cases wanted : base' = tag
              · simp only [wanted, if_true, Node.cut_cons, Node.found_cons] at whole ⊢
                simp [Node.name?, base, wanted, ih whole]
              · simp only [Option.some.injEq, wanted, if_false] at whole ⊢
                simp [Node.name?, base, wanted, ih whole]

theorem found_select {node : Node} {tag : String} (whole : (node.select tag).cut = false) :
    (node.select tag).found = childrenNamed node tag :=
  found_selectFrom whole

/-- A child that a search for a local name passes over: a comment, or an element named otherwise. -/
def IsPassed (tag : String) (child : Node) : Prop :=
  ∀ name, child.name? = some name → ∃ base, name.localPart? = some base ∧ base ≠ tag

theorem selectFrom_of_passed {tag : String} {child : Node} (passed : IsPassed tag child)
    (rest : List Node) : Node.selectFrom tag (child :: rest) = Node.selectFrom tag rest := by
  cases child with
  | comment text => rfl
  | element name attributes text children =>
      obtain ⟨base, local_eq, differs⟩ := passed name rfl
      rw [Node.selectFrom, local_eq]
      exact if_neg fun same => differs (Option.some.inj same)

theorem selectFrom_of_named {tag : String} {child : Node}
    (named : child.name?.bind Name.localPart? = some tag) (rest : List Node) :
    Node.selectFrom tag (child :: rest) = (Node.selectFrom tag rest).cons child := by
  cases child with
  | comment text => cases named
  | element name attributes text children =>
      have local_eq : name.localPart? = some tag := named
      rw [Node.selectFrom, local_eq]
      exact if_pos rfl

theorem selectFrom_isPrefix (tag : String) (nodes : List Node) :
    (Node.selectFrom tag nodes).found <+:
      nodes.filter fun child => child.name?.bind Name.localPart? = some tag := by
  induction nodes with
  | nil => exact List.prefix_refl _
  | cons node rest ih =>
      cases node with
      | comment text => exact ih
      | element name attributes text children =>
          unfold Node.selectFrom
          cases base : name.localPart? with
          | none => exact List.nil_prefix
          | some base' =>
              by_cases wanted : base' = tag
              · simpa [Node.name?, base, wanted] using ih
              · simpa [Node.name?, base, wanted] using ih

/-- What is selected stands first among what has the local name that is looked for. -/
theorem found_isPrefix (node : Node) (tag : String) :
    (node.select tag).found <+: childrenNamed node tag :=
  selectFrom_isPrefix tag node.children

def elementsOfKind (model : Node) (kind : ElementKind) : List Node :=
  (childrenNamed model "packagedElement").filter fun node => kind? node = some kind

theorem allOf_eq_ok {selection : Node.Selection} {nodes : List Node} :
    allOf selection = .ok nodes ↔ selection.cut = false ∧ nodes = selection.found := by
  unfold allOf
  cases cut : selection.cut <;> simp [eq_comm]

theorem allOf_eq_error {selection : Node.Selection} {fault : Fault}
    (failed : allOf selection = .error fault) : fault = .brokenName := by
  unfold allOf at failed
  split at failed <;> cases failed
  rfl

theorem firstOf_eq_error {selection : Node.Selection} {fault : Fault}
    (failed : firstOf selection = .error fault) : fault = .brokenName := by
  unfold firstOf at failed
  split at failed
  · cases failed
  · split at failed <;> cases failed
    rfl

/-- The namespace that UML documents of the current version bind to XMI. -/
def xmiSpace : Xml.Space := ⟨"http://www.omg.org/spec/XMI/20131001", rfl⟩

/-- An element as UML documents write them, from its XMI attributes and its plain ones. -/
def umlElement (tag : String) (xmi plain : List (String × String)) (children : List Node) : Node :=
  .element (.ofText tag)
    (xmi.map (fun (key, value) => (.qualified xmiSpace key, value)) ++
      plain.map fun (key, value) => (.ofText key, value))
    none children

/-- An element whose name opens a namespace and never closes it. -/
def brokenElement : Node := .element (.unclosed ⟨"note", rfl⟩) [] none []

/-! ## What an element says about itself -/

theorem solid?_eq_some {text body : String} (solid : solid? text = some body) :
    Text.strip text = body ∧ body ≠ "" := by
  unfold solid? at solid
  dsimp only at solid
  split at solid <;> cases solid
  rename_i filled
  exact ⟨rfl, fun blank => filled (by rw [blank]; rfl)⟩

theorem title?_ne_empty {node : Node} {name : String} (named : title? node = some name) :
    name ≠ "" := by
  obtain ⟨text, _, solid⟩ := Option.bind_eq_some_iff.mp named
  exact (solid?_eq_some solid).2

theorem commentText_eq_error {node : Node} {fault : Fault}
    (failed : commentText node = .error fault) : fault = .brokenName := by
  rcases Fault.bind_eq_error.mp failed with broken | ⟨inside, _, rest⟩
  · exact firstOf_eq_error broken
  · dsimp only at rest
    split at rest <;> cases rest

theorem documentation_eq_error {node : Node} {fault : Fault}
    (failed : documentation node = .error fault) : fault = .brokenName := by
  rcases Fault.bind_eq_error.mp failed with broken | ⟨comments, _, rest⟩
  · exact allOf_eq_error broken
  · rcases Fault.bind_eq_error.mp rest with broken | ⟨texts, _, last⟩
    · obtain ⟨comment, _, broken⟩ := Fault.mapM_eq_error broken
      exact commentText_eq_error broken
    · split at last <;> cases last

theorem inlineType_eq_error {node : Node} {fault : Fault}
    (failed : inlineType node = .error fault) : fault = .brokenName := by
  rcases Fault.bind_eq_error.mp failed with broken | ⟨inside, _, rest⟩
  · exact firstOf_eq_error broken
  · split at rest <;> cases rest

theorem memberEnds_eq_error {node : Node} {fault : Fault}
    (failed : memberEnds node = .error fault) : fault = .brokenName := by
  unfold memberEnds at failed
  split at failed
  · cases failed
  · cases members : allOf (node.select "memberEnd") with
    | ok nodes =>
        rw [members] at failed
        cases failed
    | error other =>
        rw [members] at failed
        cases failed
        exact allOf_eq_error members

theorem upperBound_eq_error {node : Node} {fault : Fault}
    (failed : upperBound node = .error fault) : fault = .brokenName := by
  rcases Fault.bind_eq_error.mp failed with broken | ⟨upper, _, rest⟩
  · exact firstOf_eq_error broken
  · split at rest <;> cases rest

/-! ## Registries -/

/-- A canonical name is one that the registry files under some key. -/
theorem canonical_mem_values {registry : Registry} {name : Option String} {canonical : String}
    (known : registry.canonical name = .ok canonical) : canonical ∈ registry.types.values := by
  unfold Registry.canonical at known
  split at known
  · split at known
    · split at known
      · rename_i filed
        cases known
        exact (Table.mem_values_iff _ _).mpr ⟨_, filed⟩
      · cases known
    · cases known
  · cases known

end ClassDiagram
