import ClassDiagram.Proofs.Contracts

/-!
# What builders tell

A builder tells of its work as it goes.  Before it ends in a fault of the
document it may tell an error of its own, and which faults it does this for
depends on the stage it works in.
-/

namespace ClassDiagram

open Store (Filling)
open Xml (Node)

/-! ## Events of builders -/

def Event.isCompletion : Event → Bool
  | .stageCompleted _ => true
  | _ => false

def Event.isRoutine (event : Event) : Bool := event.level ≠ .error && !event.isCompletion

/-- Whether the builders of a stage tell an error themselves before they end in a fault. -/
def Stage.warnsOf : Stage → IngestFault → Bool
  | .types, _ | .enumerations, _ => true
  | .associations, .unresolved _ kind _ => kind = .text "class" || kind = .text "association"
  | .index, _ | .classes, _ | .associations, _ => false

/-- The errors told before a fault: one for the faults that builders warn of, none otherwise. -/
inductive Warned (warns : IngestFault → Bool) : Fault → List Event → Prop where
  | told {cause : IngestFault} {event : Event} (warned : warns cause = true)
      (serious : event.level = .error) : Warned warns (.ingest cause) [event]
  | untold {cause : IngestFault} (unwarned : warns cause = false) :
      Warned warns (.ingest cause) []
  | stray {fault : Fault} (strays : fault.IsStray) : Warned warns fault []

def AllRoutine (events : List Event) : Prop := ∀ event ∈ events, event.isRoutine = true

theorem AllRoutine.append {events more : List Event} (routine : AllRoutine events)
    (routineAlso : AllRoutine more) : AllRoutine (events ++ more) :=
  List.forall_mem_append.mpr ⟨routine, routineAlso⟩

/-- From one progress to another some events have been told, and the store is still open. -/
structure Leads (events : List Event) (p q : Progress) : Prop where
  opened : q.store.IsOpen
  index : q.index = p.index
  journal : q.journal = p.journal ++ Journal.ofEvents events

theorem Leads.refl {p : Progress} (opened : p.store.IsOpen) : Leads [] p p :=
  ⟨opened, rfl, (List.append_nil _).symm⟩

theorem Leads.trans {events more : List Event} {p q r : Progress} (first : Leads events p q)
    (second : Leads more q r) : Leads (events ++ more) p r where
  opened := second.opened
  index := second.index.trans first.index
  journal := by
    rw [second.journal, first.journal, List.append_assoc, Journal.ofEvents, Journal.ofEvents,
      Journal.ofEvents, List.map_append]

/-! ## The contract of a builder -/

namespace Step

variable {α β : Type} {warns : IngestFault → Bool}

/--
From an open store the step tells nothing but routine, except that an error
comes last if the step ends in a fault it warns of.
-/
def Tells (warns : IngestFault → Bool) (step : Step α) : Prop :=
  ∀ p, p.store.IsOpen → match step p with
    | .ok _ q => ∃ events, AllRoutine events ∧ Leads events p q
    | .error fault q => ∃ events errors, AllRoutine events ∧ Warned warns fault errors ∧
        Leads (events ++ errors) p q

namespace Tells

theorem pure (a : α) : Tells warns (Pure.pure a : Step α) :=
  fun _ opened => ⟨[], fun _ => nofun, .refl opened⟩

theorem throw {fault : Fault} (strays : fault.IsStray) : Tells warns (throw fault : Step α) :=
  fun _ opened => ⟨[], [], fun _ => nofun, .stray strays, .refl opened⟩

theorem refuse {cause : IngestFault} (unwarned : warns cause = false) :
    Tells warns (Step.refuse cause : Step α) :=
  fun _ opened => ⟨[], [], fun _ => nofun, .untold unwarned, .refl opened⟩

/-- An error is told, and the step ends in the fault that it warns of. -/
theorem warn {event : Event} {cause : IngestFault} (serious : event.level = .error)
    (warned : warns cause = true) :
    Tells warns (Step.tell event >>= fun _ => Step.refuse cause : Step α) :=
  fun _ opened => ⟨[], [event], fun _ => nofun, .told warned serious, ⟨opened, rfl, rfl⟩⟩

theorem get : Tells warns (MonadState.get : Step Progress) :=
  fun _ opened => ⟨[], fun _ => nofun, .refl opened⟩

theorem store : Tells warns Step.store := fun _ opened => ⟨[], fun _ => nofun, .refl opened⟩

theorem tell {event : Event} (routine : event.isRoutine = true) :
    Tells warns (Step.tell event) := by
  intro p opened
  refine ⟨[event], fun other inside => ?_, ⟨opened, rfl, rfl⟩⟩
  cases List.mem_singleton.mp inside
  exact routine

theorem modify {f : Progress → Progress} (store : ∀ p, (f p).store = p.store)
    (index : ∀ p, (f p).index = p.index) (journal : ∀ p, (f p).journal = p.journal) :
    Tells warns (modify f : Step PUnit) := by
  intro p opened
  refine ⟨[], fun _ => nofun, ?_, index p, ?_⟩
  · rw [store]
    exact opened
  · rw [journal]
    exact (List.append_nil _).symm

theorem lift {result : Except Fault α}
    (untold : ∀ fault, result = .error fault → Warned warns fault []) :
    Tells warns (Step.lift result) := by
  intro p opened
  cases result with
  | ok a => exact ⟨[], fun _ => nofun, .refl opened⟩
  | error fault => exact ⟨[], [], fun _ => nofun, untold fault rfl, .refl opened⟩

/-- Where a builder warns of no fault, an open store may refuse what it likes. -/
theorem change (filling : Filling) (unwarned : ∀ cause, warns cause = false) :
    Tells warns (Step.change filling.apply) := by
  intro p opened
  rw [change_apply]
  cases done : filling.apply p.store with
  | ok _ store =>
      exact ⟨[], fun _ => nofun, Filling.isOpen_apply done, rfl, (List.append_nil _).symm⟩
  | error fault store =>
      obtain ⟨⟨_, cause, _, rfl⟩, rfl⟩ := Filling.refusal_of_isOpen opened done
      exact ⟨[], [], fun _ => nofun, .untold (unwarned cause), .refl opened⟩

theorem fill (filling : Filling) (other : ∀ field, filling ≠ .addField field) :
    Tells warns (Step.change filling.apply) := by
  intro p opened
  obtain ⟨next, done⟩ := Filling.accepted_of_isOpen opened other
  rw [change_apply, done]
  exact ⟨[], fun _ => nofun, Filling.isOpen_apply done, rfl, (List.append_nil _).symm⟩

theorem bind {step : Step α} {next : α → Step β} (first : Tells warns step)
    (rest : ∀ a, Tells warns (next a)) : Tells warns (step >>= next) := by
  intro p opened
  have result := first p opened
  rw [bind_apply]
  cases done : step p with
  | error fault q =>
      rw [done] at result
      exact result
  | ok a q =>
      rw [done] at result
      obtain ⟨events, routine, leads⟩ := result
      have later := rest a q leads.opened
      dsimp only
      cases taken : next a q with
      | ok b r =>
          rw [taken] at later
          obtain ⟨more, routineAlso, onward⟩ := later
          exact ⟨events ++ more, routine.append routineAlso, leads.trans onward⟩
      | error fault r =>
          rw [taken] at later
          obtain ⟨more, errors, routineAlso, warned, onward⟩ := later
          refine ⟨events ++ more, errors, routine.append routineAlso, warned, ?_⟩
          rw [List.append_assoc]
          exact leads.trans onward

theorem ite {condition : Prop} [Decidable condition] {left right : Step α}
    (yes : Tells warns left) (no : Tells warns right) :
    Tells warns (if condition then left else right) := by
  split
  · exact yes
  · exact no

theorem each {step : Node → Step Unit} (round : ∀ node, Tells warns (step node))
    (nodes : List Node) : Tells warns (Step.each step nodes) := by
  induction nodes with
  | nil => exact pure ()
  | cons node rest ih => exact bind (round node) fun _ => ih

theorem tellAll {events : List Event} (routine : AllRoutine events) :
    Tells warns (Step.tellAll events) := by
  induction events with
  | nil => exact pure ()
  | cons event rest ih =>
      exact bind (tell (routine event List.mem_cons_self)) fun _ =>
        ih fun other inside => routine other (List.mem_cons_of_mem _ inside)

/-- A repair that an open store does not refuse tells nothing, and the fault goes on. -/
theorem repairing {step : Step α} (filling : Filling) (first : Tells warns step)
    (other : ∀ field, filling ≠ .addField field) :
    Tells warns (Step.repairing step fun _ => Step.change filling.apply) := by
  intro p opened
  have result := first p opened
  rw [repairing_apply]
  cases done : step p with
  | ok a q =>
      rw [done] at result
      exact result
  | error fault q =>
      rw [done] at result
      obtain ⟨events, errors, routine, warned, leads⟩ := result
      cases fault with
      | ingest cause =>
          obtain ⟨next, applied⟩ := Filling.accepted_of_isOpen leads.opened other
          dsimp only
          rw [bind_of_ok (change_eq_ok.mpr ⟨next, applied, rfl⟩)]
          exact ⟨events, errors, routine, warned,
            ⟨Filling.isOpen_apply applied, leads.index, leads.journal⟩⟩
      | _ => exact ⟨events, errors, routine, warned, leads⟩

/-! ### What fails without a word -/

theorem broken {result : Except Fault α}
    (only : ∀ fault, result = .error fault → fault = .brokenName) :
    Tells warns (Step.lift result) := by
  apply lift
  intro fault failed
  rw [only fault failed]
  exact .stray .brokenName

theorem entity (kind : EntityKind) (check : Check α) :
    Tells warns (Step.lift (check.orFault kind)) := by
  apply lift
  intro fault failed
  cases check with
  | ok value => cases failed
  | error defects =>
      cases failed
      exact .stray (.invalidEntity kind defects)

/-- A name that a registry contains is not refused; at worst its canonical form is not filed. -/
theorem canonical {registry : Registry} {name : Option String}
    (known : registry.contains name = true) :
    Tells warns (Step.lift (registry.canonical name)) := by
  apply lift
  intro fault failed
  unfold Registry.canonical at failed
  split at failed
  · rw [if_pos known] at failed
    split at failed
    · cases failed
    · cases failed
      exact .stray (.unregistered _)
  · cases known

end Tells

end Step

open Step (Tells)

/-! ## Builders of types -/

namespace Typing

theorem canonicalName_tells (registry : Registry) (name : Option String) :
    Tells Stage.types.warnsOf (canonicalName registry name) := by
  unfold canonicalName
  split
  · rename_i known
    exact .canonical known
  · exact .warn rfl rfl

theorem declare_tells (registry : Registry) (node : Node) :
    Tells Stage.types.warnsOf (declare registry node) :=
  .bind (canonicalName_tells registry _) fun _ =>
    .bind (.entity .scalarType _) fun type =>
      .bind (.fill (.addType type) fun _ => nofun) fun _ => .tell rfl

theorem declareAll_tells (registry : Registry) (nodes : List Node) :
    Tells Stage.types.warnsOf (declareAll registry nodes) := by
  rw [declareAll_eq_each]
  exact .each (declare_tells registry) nodes

theorem infer_tells (canonical : String) (field : Option String) :
    Tells Stage.classes.warnsOf (infer canonical field) :=
  .bind .store fun _ =>
    .ite
      (.bind (.entity .scalarType _) fun type =>
        .bind (.change (.addType type) fun _ => rfl) fun _ => .tell rfl)
      (.pure _)

theorem resolve_tells (registry : Registry) (enumerations : List (Option String))
    (owner : String) (field : Node) :
    Tells Stage.classes.warnsOf (resolve registry enumerations owner field) := by
  refine .bind .store fun store => ?_
  cases referred? store enumerations field with
  | some reference => exact .pure reference
  | none =>
      refine .bind (.broken fun _ => inlineType_eq_error) fun name => ?_
      split
      · rename_i known
        exact .bind (.canonical known) fun canonical =>
          .bind (infer_tells canonical _) fun _ => .pure canonical
      · exact .refuse rfl

end Typing

/-! ## Builders of classes -/

namespace Classes

theorem requireTitle_tells (what : String) (node : Node) :
    Tells Stage.classes.warnsOf (requireTitle what node) := by
  unfold requireTitle
  cases title? node with
  | some name => exact .pure name
  | none => exact .refuse rfl

theorem addClass_tells (node : Node) : Tells Stage.classes.warnsOf (addClass node) :=
  .bind (requireTitle_tells _ node) fun _ =>
    .bind (.broken fun _ => documentation_eq_error) fun _ =>
      .bind (.entity .objectClass _) fun entity =>
        .bind (.change (.addClass entity) fun _ => rfl) fun _ => .bind (.tell rfl) fun _ => .pure _

theorem addField_tells (registry : Registry) (enumerations : List (Option String))
    (owner : String) (node : Node) :
    Tells Stage.classes.warnsOf (addField registry enumerations owner node) :=
  .bind (requireTitle_tells _ node) fun _ =>
    .bind (Typing.resolve_tells registry enumerations owner node) fun _ =>
      .bind (.broken fun _ => documentation_eq_error) fun _ =>
        .bind (.entity .field _) fun field =>
          .bind (.change (.addField field) fun _ => rfl) fun _ => .tell rfl

theorem addAttribute_tells (registry : Registry) (enumerations : List (Option String))
    (owner : String) (node : Node) :
    Tells Stage.classes.warnsOf (addAttribute registry enumerations owner node) :=
  .ite (.modify (fun _ => rfl) (fun _ => rfl) fun _ => rfl)
    (addField_tells registry enumerations owner node)

theorem addMembers_tells (registry : Registry) (enumerations : List (Option String))
    (owner : String) (attributes : Node.Selection) :
    Tells Stage.classes.warnsOf (addMembers registry enumerations owner attributes) := by
  unfold addMembers
  rw [addAttributes_eq_each]
  exact .bind (.each (addAttribute_tells registry enumerations owner) _) fun _ =>
    .ite (.throw .brokenName) (.pure ())

theorem add_tells (registry : Registry) (enumerations : List (Option String)) (node : Node) :
    Tells Stage.classes.warnsOf (add registry enumerations node) :=
  .bind (addClass_tells node) fun owner =>
    .repairing (.removeClass owner)
      (addMembers_tells registry enumerations owner _) fun _ => nofun

theorem addAll_tells (registry : Registry) (enumerations : List (Option String))
    (nodes : List Node) : Tells Stage.classes.warnsOf (addAll registry enumerations nodes) := by
  rw [addAll_eq_each]
  exact .each (add_tells registry enumerations) nodes

end Classes

/-! ## Builders of associations -/

namespace Associations

theorem pairOfEnds_tells (association : Node) (ids : List String) :
    Tells Stage.associations.warnsOf (pairOfEnds association ids) := by
  unfold pairOfEnds
  split
  · exact .pure _
  · exact .refuse rfl

theorem findEnd_tells (owned : Table (Option String) Node) (association : Option String)
    (id : String) : Tells Stage.associations.warnsOf (findEnd owned association id) := by
  unfold findEnd
  cases owned.get? (some id) with
  | some node => exact .pure node
  | none =>
      refine .bind .get fun progress => ?_
      cases progress.ends.get? (some id) with
      | some found => exact .pure found.node
      | none => exact .refuse rfl

theorem endClass_tells (association : Option String) (side : Node) :
    Tells Stage.associations.warnsOf (endClass association side) := by
  have failing (owner : Option String) :
      Tells Stage.associations.warnsOf (endClass.fail association owner) := .warn rfl rfl
  unfold endClass
  dsimp only
  cases (side.plain? "type").filter (!·.isEmpty) with
  | some id => exact .bind .store fun _ => .ite (.pure id) (failing _)
  | none => exact failing _

theorem sideIsMany_tells (side : Node) :
    Tells Stage.associations.warnsOf (sideIsMany side) := by
  refine .bind (.broken fun _ => upperBound_eq_error) fun bound => ?_
  cases bound with
  | unreadable text => exact .bind (.tell rfl) fun _ => .pure _
  | one => exact .bind (.pure _) fun _ => .pure _
  | many => exact .bind (.pure _) fun _ => .pure _

theorem cardinality_tells (first second : Node) :
    Tells Stage.associations.warnsOf (cardinality first second) :=
  .bind (sideIsMany_tells first) fun _ => .bind (sideIsMany_tells second) fun _ => .pure _

theorem build_tells (node : Node) (ids : List String) :
    Tells Stage.associations.warnsOf (build node ids) := by
  refine .bind (pairOfEnds_tells node ids) fun ends => ?_
  refine .bind (.broken fun _ => allOf_eq_error) fun owned => ?_
  refine .bind (findEnd_tells _ _ _) fun first => ?_
  refine .bind (findEnd_tells _ _ _) fun second => ?_
  refine .bind (endClass_tells _ second) fun source => ?_
  refine .bind (endClass_tells _ first) fun destination => ?_
  refine .bind (cardinality_tells first second) fun cardinality => ?_
  refine .bind (.broken fun _ => documentation_eq_error) fun firstComment => ?_
  refine .bind (.broken fun _ => documentation_eq_error) fun secondComment => ?_
  exact .entity .association _

theorem add_tells (node : Node) : Tells Stage.associations.warnsOf (add node) :=
  .bind (.broken fun _ => memberEnds_eq_error) fun ids =>
    .bind (build_tells node ids) fun association =>
      .bind (.fill (.addAssociation association) fun _ => nofun) fun _ =>
        .bind (.tell rfl) fun _ => .pure ids

theorem addAll_tells (nodes : List Node) : Tells Stage.associations.warnsOf (addAll nodes) := by
  induction nodes with
  | nil => exact .pure []
  | cons node rest ih => exact .bind (add_tells node) fun _ => .bind ih fun _ => .pure _

theorem checkEnds_tells (used : List String) (ends : List (Option String × ClassEnd)) :
    Tells Stage.associations.warnsOf (checkEnds used ends) := by
  induction ends with
  | nil => exact .pure ()
  | cons entry rest ih => exact .ite ih (.warn rfl rfl)

theorem link_tells (nodes : List Node) : Tells Stage.associations.warnsOf (link nodes) :=
  .bind (addAll_tells nodes) fun used =>
    .bind .get fun progress => checkEnds_tells used progress.ends.entries

end Associations

/-! ## Builders of enumerations -/

namespace Enumerations

theorem literalNames_tells (enumeration : String) (nodes : List Node) :
    Tells Stage.enumerations.warnsOf (literalNames enumeration nodes) := by
  induction nodes with
  | nil => exact .pure []
  | cons node rest ih =>
      unfold literalNames
      cases title? node with
      | some name => exact .bind ih fun _ => .pure _
      | none => exact .warn rfl rfl

theorem values_tells (enumeration : String) (literals : Node.Selection) :
    Tells Stage.enumerations.warnsOf (values enumeration literals) :=
  .bind (literalNames_tells enumeration _) fun names =>
    .ite (.bind (.throw .brokenName) fun _ => .pure names) (.pure names)

theorem build_tells (node : Node) : Tells Stage.enumerations.warnsOf (build node) := by
  unfold build
  cases title? node with
  | some name => exact .bind (values_tells name _) fun _ => .entity .enumeration _
  | none => exact .warn rfl rfl

theorem add_tells (node : Node) : Tells Stage.enumerations.warnsOf (add node) :=
  .bind (build_tells node) fun enumeration =>
    .bind (.fill (.addEnumeration enumeration) fun _ => nofun) fun _ => .tell rfl

theorem addAll_tells (nodes : List Node) : Tells Stage.enumerations.warnsOf (addAll nodes) := by
  rw [addAll_eq_each]
  exact .each add_tells nodes

end Enumerations

end ClassDiagram
