import ClassDiagram.Associations
import ClassDiagram.Enumerations
import ClassDiagram.Proofs.Steps

/-!
# Reasoning about loops

Types, classes, attributes and enumerations are read by taking one step for
each element in order.  What a round keeps is kept by the loop, and what it
adds for its element is there for every element in the end.
-/

namespace ClassDiagram

open Step (Keeps bind_eq_ok)
open Xml (Node)

namespace Step

def each (step : Node → Step Unit) : List Node → Step Unit
  | [] => pure ()
  | node :: rest => do
      step node
      each step rest

variable {step : Node → Step Unit}

theorem Keeps.each {inv : Store → Prop} {tame : Fault → Prop}
    (round : ∀ node, Keeps inv tame (step node)) (nodes : List Node) :
    Keeps inv tame (Step.each step nodes) := by
  induction nodes with
  | nil => exact .pure ()
  | cons node rest ih => exact .bind (round node) fun _ => ih

/--
What holds of the elements passed so far before and after every round holds of
all elements in the end.
-/
theorem each_invariant (inv : List Node → Progress → Prop) {nodes : List Node} {p q : Progress}
    (done : each step nodes p = .ok () q) (start : inv [] p)
    (round : ∀ front node rest p q, nodes = front ++ node :: rest → inv front p →
      step node p = .ok () q → inv (front ++ [node]) q) : inv nodes q := by
  suffices passed : ∀ rest front p, nodes = front ++ rest → inv front p →
      each step rest p = .ok () q → inv nodes q from passed nodes [] p rfl start done
  intro rest
  induction rest with
  | nil =>
      intro front p shape holds last
      cases last
      rw [shape, List.append_nil]
      exact holds
  | cons node rest ih =>
      intro front p shape holds steps
      obtain ⟨_, r, first, others⟩ := bind_eq_ok.mp steps
      apply ih (front ++ [node]) r _ (round front node rest p r shape holds first) others
      rw [shape, List.append_assoc]
      rfl

/-- A loop succeeds if every round does after the rounds before it. -/
theorem each_succeeds (inv : List Node → Progress → Prop) {nodes : List Node} {p : Progress}
    (start : inv [] p)
    (round : ∀ front node rest p, nodes = front ++ node :: rest → inv front p →
      ∃ q, step node p = .ok () q ∧ inv (front ++ [node]) q) :
    ∃ q, each step nodes p = .ok () q ∧ inv nodes q := by
  suffices passed : ∀ rest front p, nodes = front ++ rest → inv front p →
      ∃ q, each step rest p = .ok () q ∧ inv nodes q from passed nodes [] p rfl start
  intro rest
  induction rest with
  | nil =>
      intro front p shape holds
      rw [shape, List.append_nil]
      exact ⟨p, rfl, holds⟩
  | cons node rest ih =>
      intro front p shape holds
      obtain ⟨q, taken, kept⟩ := round front node rest p shape holds
      have moved : nodes = front ++ [node] ++ rest := by
        rw [shape, List.append_assoc]
        rfl
      obtain ⟨r, others, ended⟩ := ih (front ++ [node]) q moved kept
      exact ⟨r, bind_eq_ok.mpr ⟨(), q, taken, others⟩, ended⟩

theorem each_append (front rest : List Node) :
    each step (front ++ rest) = each step front >>= fun _ => each step rest := by
  induction front with
  | nil => rfl
  | cons node front ih =>
      rw [List.cons_append, each, ih, each, bind_assoc]

/-- A loop that fails does so at one of its elements, after it has passed those before. -/
theorem each_eq_error {nodes : List Node} {p r : Progress} {fault : Fault}
    (failed : each step nodes p = .error fault r) :
    ∃ front node rest q, nodes = front ++ node :: rest ∧ each step front p = .ok () q ∧
      step node q = .error fault r := by
  induction nodes generalizing p with
  | nil => cases failed
  | cons node rest ih =>
      rcases bind_eq_error.mp failed with here | ⟨_, s, taken, later⟩
      · exact ⟨[], node, rest, p, rfl, rfl, here⟩
      · obtain ⟨front, other, after, q, shape, passed, falls⟩ := ih later
        exact ⟨node :: front, other, after, q, congrArg (node :: ·) shape,
          bind_eq_ok.mpr ⟨(), s, taken, passed⟩, falls⟩

/-- A loop that succeeds has succeeded for every element. -/
theorem each_mem {nodes : List Node} {p q : Progress} (done : each step nodes p = .ok () q) :
    ∀ node ∈ nodes, ∃ r s, step node r = .ok () s := by
  refine each_invariant (fun front _ => ∀ node ∈ front, ∃ r s, step node r = .ok () s)
    done (by simp) fun front node _ r s _ holds taken => ?_
  intro other inside
  rcases List.mem_append.mp inside with old | new
  · exact holds other old
  · cases List.mem_singleton.mp new
    exact ⟨r, s, taken⟩

/-- A loop ends in the fault of its first element if that one ends in a fault. -/
theorem each_of_first_error {node : Node} {rest : List Node} {p q : Progress} {fault : Fault}
    (failed : step node p = .error fault q) : each step (node :: rest) p = .error fault q := by
  change (step node >>= fun _ => each step rest) p = _
  rw [bind_apply, failed]

end Step

theorem Typing.declareAll_eq_each (registry : Registry) (nodes : List Node) :
    declareAll registry nodes = Step.each (declare registry) nodes := by
  induction nodes with
  | nil => rfl
  | cons node rest ih => rw [declareAll, ih, Step.each]

def Classes.addAttribute (registry : Registry) (enumerations : List (Option String))
    (owner : String) (node : Node) : Step Unit :=
  if isEnd node then keepEnd owner node else addField registry enumerations owner node

theorem Classes.addAttributes_eq_each (registry : Registry) (enumerations : List (Option String))
    (owner : String) (nodes : List Node) :
    addAttributes registry enumerations owner nodes =
      Step.each (addAttribute registry enumerations owner) nodes := by
  induction nodes with
  | nil => rfl
  | cons node rest ih =>
      rw [addAttributes, ih, Step.each, addAttribute]
      split <;> rfl

theorem Classes.addAll_eq_each (registry : Registry) (enumerations : List (Option String))
    (nodes : List Node) :
    addAll registry enumerations nodes = Step.each (add registry enumerations) nodes := by
  induction nodes with
  | nil => rfl
  | cons node rest ih => rw [addAll, ih, Step.each]

theorem Enumerations.addAll_eq_each (nodes : List Node) : addAll nodes = Step.each add nodes := by
  induction nodes with
  | nil => rfl
  | cons node rest ih => rw [addAll, ih, Step.each]

end ClassDiagram
