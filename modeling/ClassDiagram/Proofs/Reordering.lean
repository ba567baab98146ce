import ClassDiagram.Proofs.FieldOrder
import ClassDiagram.Proofs.Integrity
import Mathlib.Data.List.Pairwise

/-!
# Classes in another order

The classes of a model may change places.  A run then keeps the same ends and
joins the same classes; whether it gives the fields the same types is decided
by the fields alone.
-/

namespace ClassDiagram

open Associations (EndsStay)
open Classes (assign)
open Step (bind_eq_ok)
open Typing (Declares reference?)
open Xml (Node)

/-! ## Models whose classes change places -/

/-- A child stays where it is, or is a class with another class in its place. -/
def StaysOrSwaps (left right : Node) : Prop :=
  left = right ∨ isOfKind .objectClass left = true ∧ isOfKind .objectClass right = true

/-- Two models differ in nothing but the order of their classes. -/
structure Reordered (left right : Node) : Prop where
  shell : ∃ children, right = left.withChildren children
  places : List.Forall₂ StaysOrSwaps left.children right.children
  classes : (elementsOfKind right .objectClass).Perm (elementsOfKind left .objectClass)

theorem StaysOrSwaps.sameHead {left right : Node} (related : StaysOrSwaps left right) :
    SameHead left right := by
  rcases related with rfl | ⟨isClass, isClassAlso⟩
  · exact .refl _
  · have headed {node : Node} (fits : isOfKind .objectClass node = true) :
        node.name?.map Xml.Name.localPart? = some (some "packagedElement") ∧
          kind? node = some .objectClass := by
      unfold isOfKind at fits
      rw [Bool.and_eq_true, decide_eq_true_eq, decide_eq_true_eq] at fits
      obtain ⟨name, named, packaged⟩ := Option.bind_eq_some_iff.mp fits.1
      rw [named, Option.map_some, packaged]
      exact ⟨rfl, fits.2⟩
    obtain ⟨name, kind⟩ := headed isClass
    obtain ⟨nameAlso, kindAlso⟩ := headed isClassAlso
    exact ⟨name.trans nameAlso.symm, kind.trans kindAlso.symm⟩

namespace Reordered

variable {left right : Node} (reordered : Reordered left right)
include reordered

theorem ofModel {strict : Bool} {index : Index} (made : Index.ofModel strict left = .ok index) :
    ∃ other, Index.ofModel strict right = .ok other :=
  Index.ofModel_of_heads (reordered.places.imp fun _ _ => StaysOrSwaps.sameHead) made

/-- Elements that are no classes stay in their places. -/
theorem elements_other (kind : ElementKind) (other : .objectClass ≠ kind) :
    elementsOfKind right kind = elementsOfKind left kind :=
  elementsOfKind_of_stays StaysOrSwaps.sameHead reordered.places fun fits related =>
    related.resolve_right fun swaps =>
      Bool.false_ne_true ((isOfKind_eq_false swaps.1 kind other).symm.trans fits)

end Reordered

/-- Other items can take the places of those that are chosen, one after another. -/
theorem exists_refilled {α : Type} {chosen : α → Bool} {items others : List α}
    (enough : others.length = (items.filter chosen).length)
    (fit : ∀ other ∈ others, chosen other = true) :
    ∃ result, List.Forall₂ (fun old new => old = new ∨ chosen old = true ∧ chosen new = true)
      items result ∧ result.filter chosen = others := by
  induction items generalizing others with
  | nil =>
      rw [List.filter_nil, List.length_nil, List.length_eq_zero_iff] at enough
      exact ⟨[], .nil, enough.symm⟩
  | cons item rest ih =>
      cases here : chosen item with
      | true =>
          rw [List.filter_cons_of_pos here, List.length_cons] at enough
          obtain ⟨other, more, rfl⟩ := List.exists_cons_of_length_eq_add_one enough
          obtain ⟨fits, fitting⟩ := List.forall_mem_cons.mp fit
          obtain ⟨result, places, kept⟩ := ih (Nat.succ.inj enough) fitting
          refine ⟨other :: result, .cons (Or.inr ⟨here, fits⟩) places, ?_⟩
          rw [List.filter_cons_of_pos fits, kept]
      | false =>
          rw [List.filter_cons_of_neg (by simp [here])] at enough
          obtain ⟨result, places, kept⟩ := ih enough fit
          refine ⟨item :: result, .cons (Or.inl rfl) places, ?_⟩
          rw [List.filter_cons_of_neg (by simp [here]), kept]

/-- The classes of a model can take each other's places in every order. -/
theorem exists_reordered {model : Node} {classes : List Node}
    (perm : classes.Perm (elementsOfKind model .objectClass)) :
    ∃ other, Reordered model other ∧ elementsOfKind other .objectClass = classes := by
  rw [elementsOfKind_eq] at perm
  obtain ⟨children, places, kept⟩ := exists_refilled perm.length_eq fun node inside =>
    (List.mem_filter.mp (perm.subset inside)).2
  have shape : (model.withChildren children).children = children := by
    cases model with
    | element _ _ _ _ => rfl
    | comment _ =>
        cases places
        rfl
  have moved : elementsOfKind (model.withChildren children) .objectClass = classes := by
    rw [elementsOfKind_eq, shape, kept]
  refine ⟨model.withChildren children, ⟨⟨children, rfl⟩, ?_, ?_⟩, moved⟩
  · rw [shape]
    exact places
  · rw [moved, elementsOfKind_eq]
    exact perm

/-! ## Scalar types that are declared -/

namespace Typing

variable {registry : Registry} {p q : Progress}

theorem Declares.unique {node : Node} {type other : ScalarType}
    (declares : Declares registry node type) (again : Declares registry node other) :
    type = other := by
  have name : type.name = other.name :=
    Except.ok.inj (declares.known.symm.trans again.known)
  have id : type.id = other.id := by rw [declares.id_eq, again.id_eq, name]
  cases type
  cases other
  cases name
  cases id
  rfl

/-- The scalar types that are there are those that type elements declare. -/
theorem declareAll_contains {nodes : List Node} (done : declareAll registry nodes p = .ok () q)
    (id : String) : q.store.types.contains id = true ↔ p.store.types.contains id = true ∨
      ∃ node ∈ nodes, ∃ type, Declares registry node type ∧ type.id = id := by
  rw [declareAll_eq_each] at done
  refine Step.each_invariant (fun front r => r.store.types.contains id = true ↔
    p.store.types.contains id = true ∨
      ∃ node ∈ front, ∃ type, Declares registry node type ∧ type.id = id) done ?_ ?_
  · simp
  · intro front node _ r _ _ before declared
    obtain ⟨type, _, declares, rfl⟩ := declare_eq_ok declared
    rw [Table.contains_insert, before]
    constructor
    · rintro (same | old | ⟨other, inside, found⟩)
      · exact Or.inr ⟨node, List.mem_append_cons_self, type, declares, same⟩
      · exact Or.inl old
      · exact Or.inr ⟨other, List.mem_append_left _ inside, found⟩
    · rintro (old | ⟨other, inside, found⟩)
      · exact Or.inr (Or.inl old)
      · rcases List.mem_append.mp inside with earlier | last
        · exact Or.inr (Or.inr ⟨other, earlier, found⟩)
        · cases List.mem_singleton.mp last
          obtain ⟨type', again, same⟩ := found
          cases declares.unique again
          exact Or.inl same

end Typing

/-! ## Ends that classes keep -/

def endsOf (node : Node) : List Node :=
  (childrenNamed node "ownedAttribute").filter Classes.isEnd

/-- Ends are filed under their identifiers, and under every identifier some end is filed. -/
structure Filed (sides : List Node) (ends : Table (Option String) ClassEnd) : Prop where
  listed : ∀ key found, ends.get? key = some found → found.node ∈ sides ∧ id? found.node = key
  present : ∀ side ∈ sides, ends.contains (id? side) = true

theorem Filed.insert {sides : List Node} {ends : Table (Option String) ClassEnd}
    (filed : Filed sides ends) (owner : String) (side : Node) :
    Filed (sides ++ [side]) (ends.insert (id? side) ⟨owner, side⟩) where
  listed key found at_key := by
    rcases Table.eq_or_get?_of_insert at_key with ⟨same, rfl⟩ | old
    · exact ⟨List.mem_append_cons_self, same⟩
    · exact (filed.listed key found old).imp_left (List.mem_append_left _)
  present other inside := by
    rcases List.mem_append.mp inside with before | last
    · exact Table.contains_insert_of_contains (filed.present other before) _ _
    · cases List.mem_singleton.mp last
      exact Table.contains_insert_self _ _ _

/-- Classes, their fields and their ends go by identifiers of their own. -/
structure Distinguished (nodes : List Node) : Prop where
  classes : (nodes.filterMap id?).Nodup
  fields : ((nodes.flatMap fieldsOf).filterMap id?).Nodup
  ends : ((nodes.flatMap endsOf).filterMap id?).Nodup

theorem Distinguished.perm {nodes others : List Node} (distinct : Distinguished nodes)
    (perm : others.Perm nodes) : Distinguished others where
  classes := (perm.filterMap id?).nodup_iff.mpr distinct.classes
  fields := ((perm.flatMap_right fieldsOf).filterMap id?).nodup_iff.mpr distinct.fields
  ends := ((perm.flatMap_right endsOf).filterMap id?).nodup_iff.mpr distinct.ends

theorem Distinguished.front {nodes others : List Node}
    (distinct : Distinguished (nodes ++ others)) : Distinguished nodes := by
  obtain ⟨classes, fields, ends⟩ := distinct
  rw [List.flatMap_append, List.filterMap_append] at fields ends
  rw [List.filterMap_append] at classes
  exact ⟨(List.nodup_append.mp classes).1, (List.nodup_append.mp fields).1,
    (List.nodup_append.mp ends).1⟩

theorem DistinctIds.distinguished {model : Node} (distinct : DistinctIds model) :
    Distinguished (elementsOfKind model .objectClass) where
  classes := distinct.elements _
  fields := distinct.members
    (fun node => List.filter_sublist.trans (childrenNamed_sublist node _)) _
  ends := distinct.members
    (fun node => List.filter_sublist.trans (childrenNamed_sublist node _)) _

namespace Classes

variable {registry : Registry} {enumerations : List (Option String)} {p q : Progress}

/-- Classes and fields are filed in document order. -/
theorem addAll_keys {nodes : List Node} (done : addAll registry enumerations nodes p = .ok () q)
    (distinct : Distinguished nodes) (noClasses : p.store.classes.entries = [])
    (noFields : p.store.fields.entries = []) :
    q.store.classes.keys = nodes.filterMap id? ∧
      q.store.fields.keys = (nodes.flatMap fieldsOf).filterMap id? := by
  obtain ⟨classes, fields⟩ :=
    addAll_reads done noClasses noFields distinct.classes distinct.fields
  refine ⟨keys_of_forall₂ ClassEntry.named classes, ?_⟩
  rw [← ids_placedFields]
  exact keys_of_forall₂ FieldEntry.named fields

theorem addAttribute_filed {owner : String} {sides : List Node} {child : Node}
    (done : addAttribute registry enumerations owner child p = .ok () q)
    (filed : Filed sides p.ends) : Filed (sides ++ [child].filter isEnd) q.ends := by
  rcases addAttribute_eq_ok done with ⟨kept, rfl⟩ | ⟨free, added⟩
  · rw [List.filter_cons_of_pos kept, List.filter_nil]
    exact filed.insert owner child
  · obtain ⟨_, _, _, _, _, _, _, rfl⟩ := addField_eq_ok added
    rw [List.filter_cons_of_neg (by simp [free]), List.filter_nil, List.append_nil]
    exact filed

/-- Reading classes files the ends among their attributes. -/
theorem addAll_filed {nodes : List Node} (done : addAll registry enumerations nodes p = .ok () q)
    (start : p.ends = .empty) : Filed (nodes.flatMap endsOf) q.ends := by
  rw [addAll_eq_each] at done
  refine Step.each_invariant (fun front r => Filed (front.flatMap endsOf) r.ends) done ?_ ?_
  · rw [start]
    exact ⟨nofun, nofun⟩
  · intro front node _ r _ _ filed taken
    obtain ⟨_, _, headed, whole, members⟩ := add_eq_ok taken
    obtain ⟨_, _, _, _, rfl⟩ := addClass_eq_ok headed
    rw [List.flatMap_append, List.flatMap_singleton, endsOf, ← found_select whole]
    refine Step.each_invariant
      (fun seen s => Filed (front.flatMap endsOf ++ seen.filter isEnd) s.ends) members ?_ ?_
    · rw [List.filter_nil, List.append_nil]
      exact filed
    · intro seen child _ s _ _ before added
      rw [List.filter_append, ← List.append_assoc]
      exact addAttribute_filed added before

end Classes

section

variable {sides others : List Node} {ends ends' : Table (Option String) ClassEnd}

/-- Of two items that go by the same name, where names differ, there is but one. -/
theorem eq_of_nodup_filterMap {ι : Type} {name : ι → Option String} {items : List ι}
    (distinct : (items.filterMap name).Nodup) {item other : ι} {id : String} (inside : item ∈ items)
    (there : other ∈ items) (named : name item = some id) (same : name other = some id) :
    item = other := by
  let Apart (left right : ι) : Prop := ∀ key, name left = some key → name right ≠ some key
  have apart : items.Pairwise Apart :=
    (List.pairwise_filterMap.mp distinct).imp fun unequal key first second =>
      unequal key first key second rfl
  have : Std.Symm Apart := ⟨fun _ _ unequal key first second => unequal key second first⟩
  by_contra differ
  exact apart.forall inside there differ id named same

/-- Where identifiers differ, it does not matter in which order ends have been filed. -/
theorem Filed.endsStay (filed : Filed sides ends) (filedAlso : Filed others ends')
    (same : others ⊆ sides) (back : sides ⊆ others) (distinct : (sides.filterMap id?).Nodup) :
    EndsStay ends ends' := by
  intro id kept at_id
  obtain ⟨listed, named⟩ := filed.listed _ kept at_id
  have present := filedAlso.present _ (back listed)
  rw [named] at present
  obtain ⟨other, there⟩ := (Table.contains_iff_exists _ _).mp present
  obtain ⟨listedAlso, namedAlso⟩ := filedAlso.listed _ other there
  refine ⟨other, there, ?_⟩
  rw [eq_of_nodup_filterMap distinct listed (same listedAlso) named namedAlso]
  exact .refl other.node

/-- Associations that are linked stay linked where ends and classes come in another order. -/
theorem Associations.link_reordered {nodes : List Node} {p q p' : Progress}
    (done : link nodes p = .ok () p') (filed : Filed sides p.ends) (filedAlso : Filed others q.ends)
    (perm : others.Perm sides) (distinct : (sides.filterMap id?).Nodup)
    (present : ∀ id, p.store.classes.contains id = true → q.store.classes.contains id = true)
    (opened : q.store.IsOpen) (bare : p.store.associations = q.store.associations) :
    ∃ journal, link nodes q = .ok () { q with
      store := { q.store with associations := p'.store.associations }, journal } := by
  have stay := filed.endsStay filedAlso perm.subset perm.symm.subset distinct
  refine stay.link present (fun key there => ?_) done opened bare
  obtain ⟨found, filedThere⟩ := (Table.contains_iff_exists _ _).mp there
  obtain ⟨inside, named⟩ := filedAlso.listed key found filedThere
  rw [← named]
  exact filed.present _ (perm.subset inside)

end

end ClassDiagram
