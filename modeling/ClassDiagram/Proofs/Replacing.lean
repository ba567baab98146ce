import ClassDiagram.Proofs.Interleaving
import Mathlib.Data.List.Forall2

/-!
# Elements in place of others

An element may take the place of another one that is classified like it.  The
elements of every kind then stay where they are, and a model that can be
classified still can.
-/

namespace ClassDiagram

open Xml (Name Node)

/-! ## Places in a list -/

/-- What stands at a place of a list, and what the list becomes when it changes there. -/
theorem split_of_getElem? {α : Type} {items : List α} {place : Nat} {item : α}
    (there : items[place]? = some item) :
    ∃ front back, items = front ++ item :: back ∧
      (∀ other, items.set place other = front ++ other :: back) ∧
        items.eraseIdx place = front ++ back := by
  induction items generalizing place with
  | nil => cases there
  | cons first rest ih =>
      cases place with
      | zero =>
          cases there
          exact ⟨[], rest, rfl, fun _ => rfl, rfl⟩
      | succ place =>
          obtain ⟨front, back, shape, replaced, erased⟩ := ih there
          refine ⟨first :: front, back, ?_, fun other => ?_, ?_⟩
          · rw [shape, List.cons_append]
          · rw [List.set_cons_succ, replaced, List.cons_append]
          · rw [List.eraseIdx_cons_succ, erased, List.cons_append]

/-! ## Nodes with other children -/

namespace Xml.Node

def withChildren : Node → List Node → Node
  | .element name attributes text _, children => .element name attributes text children
  | .comment text, _ => .comment text

@[simp] theorem name?_withChildren (node : Node) (children : List Node) :
    (node.withChildren children).name? = node.name? := by
  cases node <;> rfl

@[simp] theorem attributes_withChildren (node : Node) (children : List Node) :
    (node.withChildren children).attributes = node.attributes := by
  cases node <;> rfl

theorem children_withChildren {node : Node} {name : Name} (named : node.name? = some name)
    (children : List Node) : (node.withChildren children).children = children := by
  cases node with
  | element _ _ _ _ => rfl
  | comment _ => cases named

/-- What has a child is an element. -/
theorem exists_name_of_mem {node child : Node} (inside : child ∈ node.children) :
    ∃ name, node.name? = some name := by
  cases node with
  | element name _ _ _ => exact ⟨name, rfl⟩
  | comment _ => cases inside

end Xml.Node

/-! ## What is read from attributes and from children -/

section

variable {left right : Node}

theorem plain?_congr (same : left.attributes = right.attributes) (key : String) :
    left.plain? key = right.plain? key := by
  unfold Node.plain? Node.attribute?
  rw [same]

theorem xmi?_congr (same : left.attributes = right.attributes) (key : Option String) :
    xmi? left key = xmi? right key := by
  unfold xmi?
  rw [same, plain?_congr same]

theorem title?_congr (same : left.attributes = right.attributes) : title? left = title? right := by
  unfold title?
  rw [plain?_congr same]

theorem lookup_filter_ne {key other : Name} (differ : key ≠ other)
    (entries : List (Name × String)) :
    (entries.filter (·.1 ≠ other)).lookup key = entries.lookup key := by
  induction entries with
  | nil => rfl
  | cons entry rest ih =>
      obtain ⟨name, value⟩ := entry
      by_cases same : name = other
      · have skipped : ¬ key = name := fun equal => differ (equal.trans same)
        rw [List.filter_cons_of_neg (by simpa using same), ih, List.lookup_cons,
          beq_eq_false_iff_ne.mpr skipped]
      · rw [List.filter_cons_of_pos (by simpa using same), List.lookup_cons, List.lookup_cons, ih]

/-- Where attributes differ in those of one name only, all other names have their values. -/
theorem plain?_of_filter {name : Name} {wanted : String}
    (same : left.attributes.filter (·.1 ≠ name) = right.attributes.filter (·.1 ≠ name))
    (other : .ofText wanted ≠ name) : left.plain? wanted = right.plain? wanted := by
  unfold Node.plain? Node.attribute?
  rw [← lookup_filter_ne other, same, lookup_filter_ne other]

theorem xmi?_of_filter {name : Name} {wanted : Option String}
    (same : left.attributes.filter (·.1 ≠ name) = right.attributes.filter (·.1 ≠ name))
    (unspaced : isXmiName wanted name = false)
    (other : .ofText ("xmi:" ++ Text.plain? wanted) ≠ name) :
    xmi? left wanted = xmi? right wanted := by
  have unmarked (node : Node) : node.attributes.find? (isXmiName wanted ·.1) =
      (node.attributes.filter (·.1 ≠ name)).find? (isXmiName wanted ·.1) := by
    rw [List.find?_filter]
    congr 1
    funext entry
    by_cases equal : entry.1 = name
    · simp [equal, unspaced]
    · simp [equal]
  unfold xmi?
  rw [unmarked, same, ← unmarked, plain?_of_filter same other]

/-- What is selected has the local name that is looked for, even if the scan is cut short. -/
theorem mem_childrenNamed_of_found {node child : Node} {tag : String}
    (found : child ∈ (node.select tag).found) : child ∈ childrenNamed node tag :=
  (found_isPrefix node tag).subset found

theorem documentation_congr (same : left.select "ownedComment" = right.select "ownedComment") :
    documentation left = documentation right := by
  unfold documentation
  rw [same]

theorem upperBound_congr (same : left.select "upperValue" = right.select "upperValue") :
    upperBound left = upperBound right := by
  unfold upperBound
  rw [same]

theorem memberEnds_congr (named : left.plain? "memberEnd" = right.plain? "memberEnd")
    (same : left.select "memberEnd" = right.select "memberEnd") :
    memberEnds left = memberEnds right := by
  unfold memberEnds
  rw [named, same]

end

/-! ## Children in place of others -/

/-- What is selected among children that are touched under one name alone. -/
theorem selectFrom_touched {touched : Node → Node → Prop} {key : String}
    (named : ∀ {child other}, touched child other → child.name? = other.name? ∧
      child.name?.bind Name.localPart? = some key) (tag : String) {members others : List Node}
    (related : List.Forall₂ (fun child other => child = other ∨ touched child other)
      members others) :
    (Node.selectFrom tag members).cut = (Node.selectFrom tag others).cut ∧
      List.Forall₂ (fun child other => child = other ∨ tag = key ∧ touched child other)
        (Node.selectFrom tag members).found (Node.selectFrom tag others).found := by
  induction related with
  | nil => exact ⟨rfl, .nil⟩
  | @cons child other _ _ here _ ih =>
      rcases here with rfl | here
      · cases child with
        | comment text => exact ih
        | element name attributes text children =>
            unfold Node.selectFrom
            cases name.localPart? with
            | none => exact ⟨rfl, .nil⟩
            | some base =>
                dsimp only
                split
                · exact ⟨ih.1, .cons (Or.inl rfl) ih.2⟩
                · exact ih
      · obtain ⟨same, base⟩ := named here
        cases child with
        | comment text => cases base
        | element name attributes text children =>
            cases other with
            | comment text => cases same
            | element name' attributes' text' children' =>
                cases same
                change name.localPart? = _ at base
                unfold Node.selectFrom
                rw [base]
                dsimp only
                split
                · rename_i wanted
                  exact ⟨ih.1, .cons (Or.inr ⟨(Option.some.inj wanted).symm, here⟩) ih.2⟩
                · exact ih

/-! ## One more child -/

/-- A node has the children of another one, and one more with a given local name. -/
structure OneMore (tag : String) (child less more : Node) : Prop where
  split : ∃ front back, less.children = front ++ back ∧ more.children = front ++ child :: back
  named : child.name?.bind Name.localPart? = some tag

namespace OneMore

variable {tag : String} {child less more : Node} (one : OneMore tag child less more)
include one

theorem hasBrokenName_iff : HasBrokenName more ↔ HasBrokenName less := by
  obtain ⟨front, back, fewer, longer⟩ := one.split
  unfold HasBrokenName
  rw [fewer, longer]
  constructor
  · rintro ⟨node, inside, name, found, broken⟩
    rcases List.mem_append.mp inside with before | rest
    · exact ⟨node, List.mem_append_left _ before, name, found, broken⟩
    · rcases List.mem_cons.mp rest with rfl | after
      · have named := one.named
        rw [found, Option.bind_some, broken] at named
        cases named
      · exact ⟨node, List.mem_append_right _ after, name, found, broken⟩
  · rintro ⟨node, inside, broken⟩
    refine ⟨node, ?_, broken⟩
    rcases List.mem_append.mp inside with before | after
    · exact List.mem_append_left _ before
    · exact List.mem_append_right _ (List.mem_cons_of_mem _ after)

theorem childrenNamed_of_ne {other : String} (differ : tag ≠ other) :
    childrenNamed more other = childrenNamed less other := by
  obtain ⟨front, back, fewer, longer⟩ := one.split
  have skipped : ¬ decide (child.name?.bind Name.localPart? = some other) = true := by
    rw [one.named]
    simpa using differ
  unfold childrenNamed
  rw [fewer, longer, List.filter_append, List.filter_append, List.filter_cons, if_neg skipped]

theorem childrenNamed_eq : ∃ front back, childrenNamed less tag = front ++ back ∧
    childrenNamed more tag = front ++ child :: back := by
  obtain ⟨front, back, fewer, longer⟩ := one.split
  have kept : decide (child.name?.bind Name.localPart? = some tag) = true :=
    decide_eq_true one.named
  unfold childrenNamed
  rw [fewer, longer, List.filter_append, List.filter_append, List.filter_cons, if_pos kept]
  exact ⟨_, _, rfl, rfl⟩

theorem select_of_ne {other : String} (whole : ¬ HasBrokenName less) (differ : tag ≠ other) :
    more.select other = less.select other := by
  rw [select_of_whole whole, select_of_whole fun broken => whole (one.hasBrokenName_iff.mp broken),
    one.childrenNamed_of_ne differ]

end OneMore

/-! ## Elements that are classified alike -/

structure SameHead (left right : Node) : Prop where
  name : left.name?.map Name.localPart? = right.name?.map Name.localPart?
  kind : kind? left = kind? right

namespace SameHead

theorem refl (node : Node) : SameHead node node := ⟨rfl, rfl⟩

theorem withChildren (node : Node) (children : List Node) :
    SameHead node (node.withChildren children) := by
  refine ⟨by rw [Node.name?_withChildren], ?_⟩
  unfold kind? declaredKind?
  rw [xmi?_congr (Node.attributes_withChildren node children)]

variable {left right : Node} (head : SameHead left right)
include head

theorem symm : SameHead right left := ⟨head.name.symm, head.kind.symm⟩

theorem bind_name : left.name?.bind Name.localPart? = right.name?.bind Name.localPart? := by
  have same := head.name
  cases leftName : left.name? <;> cases rightName : right.name? <;>
    simp_all

theorem isOfKind_eq (kind : ElementKind) : isOfKind kind left = isOfKind kind right := by
  unfold isOfKind
  rw [head.bind_name, head.kind]

theorem breaks (broken : ∃ name, left.name? = some name ∧ name.localPart? = none) :
    ∃ name, right.name? = some name ∧ name.localPart? = none := by
  obtain ⟨name, named, unclosed⟩ := broken
  have same := head.name
  rw [named, Option.map_some, unclosed] at same
  obtain ⟨other, found, last⟩ := Option.map_eq_some_iff.mp same.symm
  exact ⟨other, found, last⟩

end SameHead

/-- An element whose children are touched, those of one name alone. -/
structure Retouched (key : String) (touched : Node → Node → Prop) (left right : Node) : Prop where
  name : left.name? = right.name?
  attributes : left.attributes = right.attributes
  children : List.Forall₂ (fun child other => child = other ∨
    child.name? = other.name? ∧ child.name?.bind Name.localPart? = some key ∧ touched child other)
      left.children right.children

namespace Retouched

variable {key : String} {touched : Node → Node → Prop} {left right : Node}
  (retouched : Retouched key touched left right)
include retouched

theorem sameHead : SameHead left right where
  name := by rw [retouched.name]
  kind := by
    unfold kind? declaredKind?
    rw [xmi?_congr retouched.attributes]

theorem select_rel (tag : String) : (left.select tag).cut = (right.select tag).cut ∧
    List.Forall₂ (fun child other => child = other ∨ tag = key ∧ touched child other)
      (left.select tag).found (right.select tag).found := by
  obtain ⟨cut, found⟩ :=
    selectFrom_touched (fun same => ⟨same.1, same.2.1⟩) tag retouched.children
  exact ⟨cut, found.imp fun _ _ => Or.imp_right (And.imp_right fun same => same.2.2)⟩

theorem select_touched : (left.select key).cut = (right.select key).cut ∧
    List.Forall₂ (fun child other => child = other ∨ touched child other)
      (left.select key).found (right.select key).found := by
  obtain ⟨cut, found⟩ := retouched.select_rel key
  exact ⟨cut, found.imp fun _ _ => Or.imp_right And.right⟩

/-- What is selected by another name is the same. -/
theorem select_eq {tag : String} (other : tag ≠ key) : left.select tag = right.select tag := by
  obtain ⟨cut, found⟩ := retouched.select_rel tag
  have same := found.imp fun _ _ related => related.resolve_right fun wrong => other wrong.1
  rw [List.forall₂_eq_eq_eq] at same
  exact congrArg₂ Node.Selection.mk same cut

end Retouched

theorem exists_left_of_forall₂ {α β : Type} {relation : α → β → Prop} {items : List α}
    {others : List β} (related : List.Forall₂ relation items others) :
    ∀ other ∈ others, ∃ item ∈ items, relation item other := by
  induction related with
  | nil => exact nofun
  | cons here _ ih =>
      intro other inside
      rcases List.mem_cons.mp inside with rfl | later
      · exact ⟨_, List.mem_cons_self, here⟩
      · obtain ⟨item, there, related⟩ := ih other later
        exact ⟨item, List.mem_cons_of_mem _ there, related⟩

theorem exists_right_of_forall₂ {α β : Type} {relation : α → β → Prop} {items : List α}
    {others : List β} (related : List.Forall₂ relation items others) :
    ∀ item ∈ items, ∃ other ∈ others, relation item other :=
  fun item inside => exists_left_of_forall₂ (List.Forall₂.flip related) item inside

/-- A child that takes the place of another one is classified like it, and so are all others. -/
theorem forall₂_set {α : Type} {relation : α → α → Prop} (refl : ∀ item, relation item item)
    {items : List α} {place : Nat} {old new : α} (there : items[place]? = some old)
    (related : relation old new) : List.Forall₂ relation items (items.set place new) := by
  obtain ⟨front, back, shape, replaced, _⟩ := split_of_getElem? there
  have stays (rest : List α) : List.Forall₂ relation rest rest :=
    List.forall₂_same.mpr fun item _ => refl item
  rw [replaced, shape]
  exact List.rel_append (stays front) (.cons related (stays back))

/-! ## Models that can be classified -/

def Ingestion.withModel (ingestion : Ingestion) (model : Node) : Ingestion :=
  { ingestion with model }

namespace Index

/-- Children that take the places of others, classified alike, leave a model classifiable. -/
theorem ofModel_of_heads {strict : Bool} {left right : Node} {index : Index}
    (heads : List.Forall₂ SameHead left.children right.children)
    (made : ofModel strict left = .ok index) : ∃ other, ofModel strict right = .ok other := by
  obtain ⟨whole, known⟩ := exists_ofModel_iff.mp ⟨index, made⟩
  have counterpart := exists_left_of_forall₂ heads
  refine exists_ofModel_iff.mpr ⟨?_, fun strictly node inside => ?_⟩
  · rintro ⟨child, inside, broken⟩
    obtain ⟨other, there, head⟩ := counterpart child inside
    exact whole ⟨other, there, head.symm.breaks broken⟩
  · obtain ⟨packed, named⟩ := List.mem_filter.mp inside
    obtain ⟨other, there, head⟩ := counterpart node packed
    rw [← head.kind]
    refine known strictly other (List.mem_filter.mpr ⟨there, ?_⟩)
    rw [head.bind_name]
    exact named

theorem ofModel_set {strict : Bool} {model old new : Node} {place : Nat} {index : Index}
    (there : model.children[place]? = some old) (head : SameHead old new)
    (made : ofModel strict model = .ok index) :
    ∃ other, ofModel strict (model.withChildren (model.children.set place new)) = .ok other := by
  obtain ⟨name, named⟩ := Node.exists_name_of_mem (List.mem_of_getElem? there)
  refine ofModel_of_heads ?_ made
  rw [Node.children_withChildren named]
  exact forall₂_set SameHead.refl there head

/-- Models with the same elements of a kind have indexes with the same elements of this kind. -/
theorem elementsOf_congr {strict : Bool} {left right : Node} {index other : Index}
    (made : ofModel strict left = .ok index) (again : ofModel strict right = .ok other)
    {kind : ElementKind} (same : elementsOfKind right kind = elementsOfKind left kind) :
    other.elementsOf kind = index.elementsOf kind := by
  rw [elementsOf_of_ofModel again, elementsOf_of_ofModel made, same]

theorem enumerationIds_congr {index other : Index}
    (same : other.elementsOf .enumeration = index.elementsOf .enumeration) :
    other.enumerationIds = index.enumerationIds := by
  unfold enumerationIds
  rw [same]

end Index

/-! ## Elements of a kind -/

/-- Replacing an element replaces it among those of its kind, and leaves those of other kinds. -/
theorem elementsOfKind_set_cases {model old new : Node} {place : Nat}
    (there : model.children[place]? = some old) (head : SameHead old new) (kind : ElementKind) :
    isOfKind kind old = true ∧ (∃ front back, elementsOfKind model kind = front ++ old :: back ∧
      elementsOfKind (model.withChildren (model.children.set place new)) kind =
        front ++ new :: back) ∨
    isOfKind kind old = false ∧
      elementsOfKind (model.withChildren (model.children.set place new)) kind =
        elementsOfKind model kind := by
  obtain ⟨front, back, shape, replaced, _⟩ := split_of_getElem? there
  obtain ⟨name, named⟩ := Node.exists_name_of_mem (List.mem_of_getElem? there)
  rw [elementsOfKind_eq, elementsOfKind_eq, Node.children_withChildren named, replaced, shape,
    List.filter_append, List.filter_append]
  have same := head.isOfKind_eq kind
  cases fits : isOfKind kind old with
  | true =>
      rw [fits] at same
      rw [List.filter_cons_of_pos fits, List.filter_cons_of_pos same.symm]
      exact Or.inl ⟨rfl, _, _, rfl, rfl⟩
  | false =>
      rw [fits] at same
      rw [List.filter_cons_of_neg (by simp [fits]), List.filter_cons_of_neg (by simp [← same])]
      exact Or.inr ⟨rfl, rfl⟩

theorem elementsOfKind_set {model old new : Node} {place : Nat}
    (there : model.children[place]? = some old) (head : SameHead old new) {kind : ElementKind}
    (fits : isOfKind kind old = true) :
    ∃ front back, elementsOfKind model kind = front ++ old :: back ∧
      elementsOfKind (model.withChildren (model.children.set place new)) kind =
        front ++ new :: back := by
  rcases elementsOfKind_set_cases there head kind with ⟨_, replaced⟩ | ⟨other, _⟩
  · exact replaced
  · cases fits.symm.trans other

theorem elementsOfKind_set_of_ne {model old new : Node} {place : Nat}
    (there : model.children[place]? = some old) (head : SameHead old new) {kind : ElementKind}
    (other : isOfKind kind old = false) :
    elementsOfKind (model.withChildren (model.children.set place new)) kind =
      elementsOfKind model kind := by
  rcases elementsOfKind_set_cases there head kind with ⟨fits, _⟩ | ⟨_, same⟩
  · cases fits.symm.trans other
  · exact same

/-- An element is of one kind at most. -/
theorem isOfKind_eq_false {kind : ElementKind} {node : Node}
    (fits : isOfKind kind node = true) (other : ElementKind) (differ : kind ≠ other) :
    isOfKind other node = false := by
  unfold isOfKind at fits ⊢
  rw [Bool.and_eq_true, decide_eq_true_eq, decide_eq_true_eq] at fits
  rw [fits.2, Bool.and_eq_false_iff]
  exact Or.inr (decide_eq_false fun same => differ (Option.some.inj same))

/-- Where the children of two models are related in their places, so are the elements of a kind. -/
theorem elementsOfKind_rel {relation : Node → Node → Prop}
    (heads : ∀ {child other}, relation child other → SameHead child other) {left right : Node}
    (related : List.Forall₂ relation left.children right.children) (kind : ElementKind) :
    List.Forall₂ (fun child other => isOfKind kind child = true ∧ relation child other)
      (elementsOfKind left kind) (elementsOfKind right kind) := by
  rw [elementsOfKind_eq, elementsOfKind_eq]
  have chosen : List.Forall₂ relation (left.children.filter (isOfKind kind))
      (right.children.filter (isOfKind kind)) :=
    List.rel_filter (R := relation)
      (fun _ _ here => Bool.eq_iff_iff.mp ((heads here).isOfKind_eq kind)) related
  exact (List.forall₂_and_left _ _).mpr ⟨fun _ inside => (List.mem_filter.mp inside).2, chosen⟩

/-- The elements of a kind are the same where related children of that kind are. -/
theorem elementsOfKind_of_stays {relation : Node → Node → Prop}
    (heads : ∀ {child other}, relation child other → SameHead child other) {left right : Node}
    (related : List.Forall₂ relation left.children right.children) {kind : ElementKind}
    (stays : ∀ {child other}, isOfKind kind child = true → relation child other →
      child = other) :
    elementsOfKind right kind = elementsOfKind left kind := by
  have same := (elementsOfKind_rel heads related kind).imp fun _ _ both => stays both.1 both.2
  rw [List.forall₂_eq_eq_eq] at same
  exact same.symm

/-! ## Runs on another model -/

/--
A run on another model gives the same store if its types and enumerations are
the same, and its classes are read and its associations linked to the same end.
-/
theorem Ingestion.Course.first_run_of_links {ingestion : Ingestion} {q : Progress}
    (course : ingestion.Course .initial q) {model : Node} {other : Index}
    (made : Index.ofModel ingestion.strict model = .ok other)
    (scalarTypes : other.elementsOf .scalarType = course.index.elementsOf .scalarType)
    (enumerated : other.elementsOf .enumeration = course.index.elementsOf .enumeration)
    (linked : ∀ typed : Progress, typed.store = course.typed.store → ∃ classed journal,
      Classes.addAll ingestion.registry course.index.enumerationIds
        (other.elementsOf .objectClass) { typed with ends := .empty } = .ok () classed ∧
      Associations.link (other.elementsOf .association) classed =
        .ok () { classed with store := course.linked.store, journal }) :
    ((ingestion.withModel model).run.outcome .initial).1 = .ok q.store := by
  -- The types are declared before anything differs but the index.
  obtain ⟨typed, types, declared⟩ := course.declares_again scalarTypes []
  obtain ⟨classed, linksTold, classes, associations⟩ := linked typed declared
  obtain ⟨listsTold, enumerations⟩ := course.enumerations
  have linkedSame : Step.SameStore { course.linked with journal := listsTold }
      { classed with store := course.linked.store, journal := linksTold } := rfl
  obtain ⟨listed, enumerationsAlso, same⟩ :=
    (Enumerations.addAll_agree Step.shares_sameStore _).ok linkedSame enumerations
  have courseAlso : (ingestion.withModel model).Course .initial
      { listed with store := listed.store.freeze, index := some other } := {
    index := other
    typed := typed
    classed := classed
    linked := { classed with store := course.linked.store, journal := linksTold }
    listed := listed
    made := made
    indexed := rfl
    types := ⟨[], types⟩
    classes := ⟨typed.journal, by rw [Index.enumerationIds_congr enumerated]; exact classes⟩
    associations := ⟨classed.journal, associations⟩
    enumerations := ⟨linksTold, by rw [enumerated]; exact enumerationsAlso⟩
    ends := rfl
    store := rfl }
  rw [courseAlso.first_run, course.store, same]

end ClassDiagram
