import ClassDiagram.Proofs.Lookups
import Mathlib.Data.List.Flatten

/-!
# Elements inside a tree

Where all identifiers of a tree differ, so do those of the packaged elements
of a kind, and those of children that are selected from them.
-/

namespace ClassDiagram

open Xml (Node)

namespace Xml.Node

mutual

def within : Node → List Node
  | .element name attributes text children =>
      .element name attributes text children :: withinAll children
  | .comment text => [.comment text]

def withinAll : List Node → List Node
  | [] => []
  | node :: rest => node.within ++ withinAll rest

end

theorem withinAll_eq (nodes : List Node) : withinAll nodes = nodes.flatMap within := by
  induction nodes with
  | nil => rw [withinAll, List.flatMap_nil]
  | cons node rest ih => rw [withinAll, ih, List.flatMap_cons]

theorem mem_within (node : Node) : [node].Sublist node.within := by
  cases node with
  | element name attributes text children =>
      unfold within
      exact List.Sublist.cons_cons _ (List.nil_sublist _)
  | comment text =>
      unfold within
      exact List.Sublist.refl _

theorem sublist_withinAll (nodes : List Node) : nodes.Sublist (withinAll nodes) := by
  induction nodes with
  | nil => exact List.nil_sublist _
  | cons node rest ih =>
      rw [withinAll]
      exact List.Sublist.append (mem_within node) ih

theorem children_sublist (node : Node) : (withinAll node.children).Sublist node.within := by
  cases node with
  | element name attributes text children =>
      rw [within]
      exact List.sublist_cons_self _ _
  | comment text =>
      rw [children, withinAll]
      exact List.nil_sublist _

/-- Children that are selected from nodes stand inside them in the same order. -/
theorem flatMap_sublist {select : Node → List Node}
    (selected : ∀ node, (select node).Sublist node.children) (nodes : List Node) :
    (nodes.flatMap select).Sublist (withinAll nodes) := by
  rw [withinAll_eq]
  apply List.Sublist.flatMap_right
  intro node _
  exact (selected node).trans ((sublist_withinAll _).trans (children_sublist node))

/-- The children of a child stand inside a node in the same order. -/
theorem grandchildren_sublist {node child : Node} (inside : child ∈ node.children) :
    child.children.Sublist node.within := by
  have nested : child.within.Sublist (withinAll node.children) := by
    rw [withinAll_eq]
    have alone := (List.singleton_sublist.mpr inside).flatMap within
    rw [List.flatMap_singleton] at alone
    exact alone
  exact (sublist_withinAll _).trans
    ((children_sublist child).trans (nested.trans (children_sublist node)))

end Xml.Node

open Xml.Node (children_sublist flatMap_sublist sublist_withinAll withinAll withinAll_eq)

theorem childrenNamed_sublist (node : Node) (tag : String) :
    (childrenNamed node tag).Sublist node.children :=
  List.filter_sublist

theorem elementsOfKind_sublist (model : Node) (kind : ElementKind) :
    (elementsOfKind model kind).Sublist model.children :=
  List.filter_sublist.trans (childrenNamed_sublist model _)

def DistinctIds (model : Node) : Prop := (model.within.filterMap id?).Nodup

instance (model : Node) : Decidable (DistinctIds model) :=
  inferInstanceAs (Decidable (List.Nodup _))

namespace DistinctIds

variable {model : Node} (distinct : DistinctIds model)
include distinct

theorem elements (kind : ElementKind) : ((elementsOfKind model kind).filterMap id?).Nodup := by
  have inside := (elementsOfKind_sublist model kind).trans
    ((sublist_withinAll _).trans (children_sublist model))
  exact List.Nodup.sublist (inside.filterMap id?) distinct

theorem members {select : Node → List Node}
    (selected : ∀ node, (select node).Sublist node.children) (kind : ElementKind) :
    (((elementsOfKind model kind).flatMap select).filterMap id?).Nodup := by
  have inside : (withinAll (elementsOfKind model kind)).Sublist (withinAll model.children) := by
    rw [withinAll_eq, withinAll_eq]
    exact (elementsOfKind_sublist model kind).flatMap _
  have nested := (flatMap_sublist selected _).trans (inside.trans (children_sublist model))
  exact List.Nodup.sublist (nested.filterMap id?) distinct

end DistinctIds

/-- A child of a packaged element stands inside the model. -/
theorem mem_within_of_child {model node child : Node} {kind : ElementKind}
    (packaged : node ∈ elementsOfKind model kind) (inside : child ∈ node.children) :
    child ∈ model.within := by
  have packed : node ∈ model.children := (elementsOfKind_sublist model kind).subset packaged
  have nested : child ∈ node.within :=
    ((sublist_withinAll _).trans (children_sublist node)).subset inside
  apply (children_sublist model).subset
  rw [withinAll_eq]
  exact List.mem_flatMap.mpr ⟨node, packed, nested⟩

end ClassDiagram
