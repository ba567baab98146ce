import ClassDiagram.Proofs.Lookups
import ClassDiagram.Proofs.Loops
import ClassDiagram.Proofs.Stores

/-!
# What reading elements keeps

Every step that reads elements changes the store by fillings alone.  So an
invariant that fillings keep is kept by all of them, and their faults are
those of fillings, of the document, or stray ones.
-/

namespace ClassDiagram

open Store (Filling)
open Xml (Node)

/-- The faults of reading elements that are no faults of the document. -/
inductive Fault.IsStray : Fault → Prop where
  | invalidEntity (kind : EntityKind) (defects : List Defect) :
      IsStray (.invalidEntity kind defects)
  | unregistered (key : String) : IsStray (.unregistered key)
  | brokenName : IsStray .brokenName

/-- An invariant of stores that fillings keep, with the faults that reading elements may end in. -/
structure Lasting (inv : Store → Prop) (tame : Fault → Prop) : Prop where
  keeps : ∀ (filling : Filling) (store next : Store), inv store →
    filling.apply store = .ok () next → inv next
  refuses : ∀ (filling : Filling) (store next : Store) (fault : Fault), inv store →
    filling.apply store = .error fault next → tame fault
  document : ∀ cause, tame (.ingest cause)
  stray : ∀ fault, fault.IsStray → tame fault

/-- An open store stays open. -/
theorem lasting_isOpen :
    Lasting Store.IsOpen fun fault => fault.IsStray ∨ ∃ cause, fault = .ingest cause where
  keeps _ _ _ _ done := Filling.isOpen_apply done
  refuses _ _ _ _ opened refusal := by
    obtain ⟨⟨_, cause, _, same⟩, _⟩ := Filling.refusal_of_isOpen opened refusal
    exact Or.inr ⟨cause, same⟩
  document cause := Or.inr ⟨cause, rfl⟩
  stray _ strays := Or.inl strays

/-- A store that may not be changed stays as it is. -/
theorem lasting_of_closed {store : Store} {fault : Fault}
    (closed : store.checkWritable = .error fault) : Lasting (· = store) fun _ => True where
  keeps filling _ _ same done := by
    rw [same, filling.refused closed] at done
    cases done
  refuses _ _ _ _ _ _ := trivial
  document _ := trivial
  stray _ _ := trivial

section

open Step (Keeps)

variable {inv : Store → Prop} {tame : Fault → Prop} (lasting : Lasting inv tame)
include lasting

namespace Lasting

theorem change (filling : Filling) : Keeps inv tame (Step.change filling.apply) := by
  refine Keeps.change (lasting.keeps filling) fun store next fault start refusal => ⟨?_, ?_⟩
  · rw [Filling.unchanged refusal]
    exact start
  · exact lasting.refuses filling store next fault start refusal

theorem broken {α : Type} {result : Except Fault α}
    (only : ∀ fault, result = .error fault → fault = .brokenName) :
    Keeps inv tame (Step.lift result) := by
  apply Keeps.lift
  intro fault failed
  rw [only fault failed]
  exact lasting.stray _ .brokenName

theorem entity {α : Type} (kind : EntityKind) (check : Check α) :
    Keeps inv tame (Step.lift (check.orFault kind)) := by
  apply Keeps.lift
  intro fault failed
  cases check with
  | ok value => cases failed
  | error defects =>
      cases failed
      exact lasting.stray _ (.invalidEntity kind defects)

theorem canonical (registry : Registry) (name : Option String) :
    Keeps inv tame (Step.lift (registry.canonical name)) := by
  apply Keeps.lift
  intro fault failed
  unfold Registry.canonical at failed
  split at failed
  · split at failed
    · split at failed
      · cases failed
      · cases failed
        exact lasting.stray _ (.unregistered _)
    · cases failed
      exact lasting.document _
  · cases failed
    exact lasting.document _

end Lasting

namespace Typing

theorem canonicalName_keeps (registry : Registry) (name : Option String) :
    Keeps inv tame (canonicalName registry name) :=
  .ite (lasting.canonical registry name)
    (.bind (.tell _) fun _ => .refuse (lasting.document _))

theorem declare_keeps (registry : Registry) (node : Node) :
    Keeps inv tame (declare registry node) :=
  .bind (canonicalName_keeps lasting registry _) fun _ =>
    .bind (lasting.entity .scalarType _) fun type =>
      .bind (lasting.change (.addType type)) fun _ => .tell _

theorem declareAll_keeps (registry : Registry) (nodes : List Node) :
    Keeps inv tame (declareAll registry nodes) := by
  rw [declareAll_eq_each]
  exact .each (declare_keeps lasting registry) nodes

theorem infer_keeps (canonical : String) (field : Option String) :
    Keeps inv tame (infer canonical field) :=
  .bind .store fun _ =>
    .ite
      (.bind (lasting.entity .scalarType _) fun type =>
        .bind (lasting.change (.addType type)) fun _ => .tell _)
      (.pure _)

theorem resolve_keeps (registry : Registry) (enumerations : List (Option String))
    (owner : String) (field : Node) :
    Keeps inv tame (resolve registry enumerations owner field) := by
  refine .bind .store fun store => ?_
  cases referred? store enumerations field with
  | some reference => exact .pure reference
  | none =>
      refine .bind (lasting.broken fun _ => inlineType_eq_error) fun name => ?_
      refine .ite ?_ (.refuse (lasting.document _))
      exact .bind (lasting.canonical registry name) fun canonical =>
        .bind (infer_keeps lasting canonical _) fun _ => .pure canonical

end Typing

namespace Classes

theorem requireTitle_keeps (what : String) (node : Node) :
    Keeps inv tame (requireTitle what node) := by
  unfold requireTitle
  cases title? node with
  | some name => exact .pure name
  | none => exact .refuse (lasting.document _)

theorem addClass_keeps (node : Node) : Keeps inv tame (addClass node) :=
  .bind (requireTitle_keeps lasting _ node) fun _ =>
    .bind (lasting.broken fun _ => documentation_eq_error) fun _ =>
      .bind (lasting.entity .objectClass _) fun entity =>
        .bind (lasting.change (.addClass entity)) fun _ => .bind (.tell _) fun _ => .pure _

theorem addField_keeps (registry : Registry) (enumerations : List (Option String))
    (owner : String) (node : Node) :
    Keeps inv tame (addField registry enumerations owner node) :=
  .bind (requireTitle_keeps lasting _ node) fun _ =>
    .bind (Typing.resolve_keeps lasting registry enumerations owner node) fun _ =>
      .bind (lasting.broken fun _ => documentation_eq_error) fun _ =>
        .bind (lasting.entity .field _) fun field =>
          .bind (lasting.change (.addField field)) fun _ => .tell _

omit lasting in
theorem keepEnd_keeps (owner : String) (node : Node) : Keeps inv tame (keepEnd owner node) :=
  .modify fun _ => rfl

theorem addAttribute_keeps (registry : Registry) (enumerations : List (Option String))
    (owner : String) (node : Node) :
    Keeps inv tame (addAttribute registry enumerations owner node) :=
  .ite (keepEnd_keeps owner node) (addField_keeps lasting registry enumerations owner node)

theorem addMembers_keeps (registry : Registry) (enumerations : List (Option String))
    (owner : String) (attributes : Node.Selection) :
    Keeps inv tame (addMembers registry enumerations owner attributes) := by
  unfold addMembers
  rw [addAttributes_eq_each]
  exact .bind (.each (addAttribute_keeps lasting registry enumerations owner) _) fun _ =>
    .ite (.throw (lasting.stray _ .brokenName)) (.pure ())

theorem add_keeps (registry : Registry) (enumerations : List (Option String)) (node : Node) :
    Keeps inv tame (add registry enumerations node) :=
  .bind (addClass_keeps lasting node) fun owner =>
    .repairing (addMembers_keeps lasting registry enumerations owner _) fun _ =>
      lasting.change (.removeClass owner)

theorem addAll_keeps (registry : Registry) (enumerations : List (Option String))
    (nodes : List Node) : Keeps inv tame (addAll registry enumerations nodes) := by
  rw [addAll_eq_each]
  exact .each (add_keeps lasting registry enumerations) nodes

end Classes

namespace Associations

theorem pairOfEnds_keeps (association : Node) (ids : List String) :
    Keeps inv tame (pairOfEnds association ids) := by
  unfold pairOfEnds
  split
  · exact .pure _
  · exact .refuse (lasting.document _)

theorem findEnd_keeps (owned : Table (Option String) Node) (association : Option String)
    (id : String) : Keeps inv tame (findEnd owned association id) := by
  unfold findEnd
  cases owned.get? (some id) with
  | some node => exact .pure node
  | none =>
      refine .bind .get fun progress => ?_
      cases progress.ends.get? (some id) with
      | some found => exact .pure found.node
      | none => exact .refuse (lasting.document _)

theorem endClass_keeps (association : Option String) (side : Node) :
    Keeps inv tame (endClass association side) := by
  have failing (owner : Option String) :
      Keeps inv tame (endClass.fail association owner) :=
    .bind (.tell _) fun _ => .refuse (lasting.document _)
  unfold endClass
  dsimp only
  cases (side.plain? "type").filter (!·.isEmpty) with
  | some id => exact .bind .store fun _ => .ite (.pure id) (failing _)
  | none => exact failing _

theorem sideIsMany_keeps (side : Node) : Keeps inv tame (sideIsMany side) := by
  refine .bind (lasting.broken fun _ => upperBound_eq_error) fun bound => ?_
  cases bound with
  | unreadable text => exact .bind (.tell _) fun _ => .pure _
  | one => exact .bind (.pure _) fun _ => .pure _
  | many => exact .bind (.pure _) fun _ => .pure _

theorem cardinality_keeps (first second : Node) : Keeps inv tame (cardinality first second) :=
  .bind (sideIsMany_keeps lasting first) fun _ =>
    .bind (sideIsMany_keeps lasting second) fun _ => .pure _

theorem build_keeps (node : Node) (ids : List String) : Keeps inv tame (build node ids) := by
  refine .bind (pairOfEnds_keeps lasting node ids) fun ends => ?_
  refine .bind (lasting.broken fun _ => allOf_eq_error) fun owned => ?_
  refine .bind (findEnd_keeps lasting _ _ _) fun first => ?_
  refine .bind (findEnd_keeps lasting _ _ _) fun second => ?_
  refine .bind (endClass_keeps lasting _ second) fun source => ?_
  refine .bind (endClass_keeps lasting _ first) fun destination => ?_
  refine .bind (cardinality_keeps lasting first second) fun cardinality => ?_
  refine .bind (lasting.broken fun _ => documentation_eq_error) fun firstComment => ?_
  refine .bind (lasting.broken fun _ => documentation_eq_error) fun secondComment => ?_
  exact lasting.entity .association _

theorem add_keeps (node : Node) : Keeps inv tame (add node) :=
  .bind (lasting.broken fun _ => memberEnds_eq_error) fun ids =>
    .bind (build_keeps lasting node ids) fun association =>
      .bind (lasting.change (.addAssociation association)) fun _ =>
        .bind (.tell _) fun _ => .pure ids

theorem addAll_keeps (nodes : List Node) : Keeps inv tame (addAll nodes) := by
  induction nodes with
  | nil => exact .pure []
  | cons node rest ih =>
      exact .bind (add_keeps lasting node) fun _ => .bind ih fun _ => .pure _

theorem checkEnds_keeps (used : List String) (ends : List (Option String × ClassEnd)) :
    Keeps inv tame (checkEnds used ends) := by
  induction ends with
  | nil => exact .pure ()
  | cons entry rest ih =>
      exact .ite ih (.bind (.tell _) fun _ => .refuse (lasting.document _))

theorem link_keeps (nodes : List Node) : Keeps inv tame (link nodes) :=
  .bind (addAll_keeps lasting nodes) fun used =>
    .bind .get fun progress => checkEnds_keeps lasting used progress.ends.entries

end Associations

namespace Enumerations

theorem literalNames_keeps (enumeration : String) (nodes : List Node) :
    Keeps inv tame (literalNames enumeration nodes) := by
  induction nodes with
  | nil => exact .pure []
  | cons node rest ih =>
      unfold literalNames
      cases title? node with
      | some name => exact .bind ih fun _ => .pure _
      | none => exact .bind (.tell _) fun _ => .refuse (lasting.document _)

theorem values_keeps (enumeration : String) (literals : Node.Selection) :
    Keeps inv tame (values enumeration literals) :=
  .bind (literalNames_keeps lasting enumeration _) fun names =>
    .ite (.bind (.throw (lasting.stray _ .brokenName)) fun _ => .pure names) (.pure names)

theorem build_keeps (node : Node) : Keeps inv tame (build node) := by
  unfold build
  cases title? node with
  | some name =>
      exact .bind (values_keeps lasting name _) fun _ => lasting.entity .enumeration _
  | none => exact .bind (.tell _) fun _ => .refuse (lasting.document _)

theorem add_keeps (node : Node) : Keeps inv tame (add node) :=
  .bind (build_keeps lasting node) fun enumeration =>
    .bind (lasting.change (.addEnumeration enumeration)) fun _ => .tell _

theorem addAll_keeps (nodes : List Node) : Keeps inv tame (addAll nodes) := by
  rw [addAll_eq_each]
  exact .each (add_keeps lasting) nodes

end Enumerations

end

end ClassDiagram
