import ClassDiagram.Proofs.Building
import ClassDiagram.Proofs.Calls

/-!
# The course of a run that succeeds

A run that succeeds passes through its stages one after another, and every
stage changes its own part of the progress alone.
-/

namespace ClassDiagram

open Step (bind_eq_ok bind_eq_ok_of_reads lift_bind_eq_ok)
open Xml (Node)

/-! ## What a stage may change -/

variable {p q : Progress}

/-- Declaring types changes the types alone. -/
theorem Typing.declareAll_frame {registry : Registry} {nodes : List Node}
    (done : declareAll registry nodes p = .ok () q) :
    ∃ types journal, q = { p with store := { p.store with types }, journal } := by
  rw [declareAll_eq_each] at done
  refine Step.each_invariant
    (fun _ r => ∃ types journal, r = { p with store := { p.store with types }, journal })
    done ⟨_, _, rfl⟩ ?_
  rintro _ node _ _ r _ ⟨types, journal, rfl⟩ declared
  obtain ⟨_, _, _, rfl⟩ := declare_eq_ok declared
  exact ⟨_, _, rfl⟩

namespace Classes

variable {registry : Registry} {enumerations : List (Option String)}

/-- What reading classes may change: classes, fields, types and ends. -/
structure Frame (p q : Progress) : Prop where
  index : q.index = p.index
  associations : q.store.associations = p.store.associations
  enumerations : q.store.enumerations = p.store.enumerations

theorem addAttribute_frame {owner : String} {node : Node}
    (done : addAttribute registry enumerations owner node p = .ok () q) : Frame p q := by
  rcases addAttribute_eq_ok done with ⟨_, rfl⟩ | ⟨_, added⟩
  · exact ⟨rfl, rfl, rfl⟩
  · obtain ⟨_, _, _, _, _, _, _, rfl⟩ := addField_eq_ok added
    exact ⟨rfl, rfl, rfl⟩

theorem Frame.trans {r : Progress} (first : Frame p q) (second : Frame q r) : Frame p r :=
  ⟨second.index.trans first.index, second.associations.trans first.associations,
    second.enumerations.trans first.enumerations⟩

theorem add_frame {node : Node} (done : add registry enumerations node p = .ok () q) :
    Frame p q := by
  obtain ⟨id, r, headed, _, members⟩ := add_eq_ok done
  obtain ⟨_, _, _, _, rfl⟩ := addClass_eq_ok headed
  refine Step.each_invariant (fun _ r => Frame p r) members ⟨rfl, rfl, rfl⟩ ?_
  intro _ member _ r s _ before taken
  exact before.trans (addAttribute_frame taken)

theorem addAll_frame {nodes : List Node} (done : addAll registry enumerations nodes p = .ok () q) :
    Frame p q := by
  rw [addAll_eq_each] at done
  refine Step.each_invariant (fun _ r => Frame p r) done ⟨rfl, rfl, rfl⟩ ?_
  intro _ node _ r s _ before taken
  exact before.trans (add_frame taken)

end Classes

/-- Linking changes the associations alone. -/
theorem Associations.link_frame {nodes : List Node} (done : link nodes p = .ok () q) :
    ∃ associations journal, q = { p with store := { p.store with associations }, journal } := by
  obtain ⟨used, added, _⟩ := link_eq_ok.mp done
  refine Step.each_invariant (fun _ r => ∃ associations journal,
    r = { p with store := { p.store with associations }, journal })
    (each_of_addAll added) ⟨_, _, rfl⟩ ?_
  rintro _ node _ _ r _ ⟨associations, journal, rfl⟩ taken
  obtain ⟨ids, _, joined, last⟩ := bind_eq_ok.mp taken
  cases last
  obtain ⟨_, _, _, _, _, _, rfl⟩ := add_eq_ok joined
  exact ⟨_, _, rfl⟩

/-- Adding enumerations changes the enumerations alone. -/
theorem Enumerations.addAll_frame {nodes : List Node} (done : addAll nodes p = .ok () q) :
    ∃ enumerations journal, q = { p with store := { p.store with enumerations }, journal } := by
  rw [addAll_eq_each] at done
  refine Step.each_invariant (fun _ r => ∃ enumerations journal,
    r = { p with store := { p.store with enumerations }, journal }) done ⟨_, _, rfl⟩ ?_
  rintro _ node _ _ r _ ⟨enumerations, journal, rfl⟩ taken
  obtain ⟨_, _, _, rfl⟩ := add_eq_ok taken
  exact ⟨_, _, rfl⟩

/-! ## Stage by stage -/

theorem Step.tellAll_apply (events : List Event) (p : Progress) :
    ∃ journal, Step.tellAll events p = .ok () { p with journal } := by
  induction events generalizing p with
  | nil => exact ⟨p.journal, rfl⟩
  | cons event rest ih =>
      unfold Step.tellAll
      rw [Step.bind_apply, Step.tell_apply]
      exact ih _

namespace Ingestion

variable {ingestion : Ingestion}

/-- Classifying the elements of a model that can be classified keeps the index and nothing else. -/
theorem findElements_of_ofModel {index : Index}
    (made : Index.ofModel ingestion.strict ingestion.model = .ok index) (p : Progress) :
    ∃ journal, ingestion.findElements p = .ok index { p with index := some index, journal } := by
  obtain ⟨journal, told⟩ := Step.tellAll_apply index.events p
  refine ⟨_, bind_eq_ok.mpr ⟨index, _,
    ingestion.runStage_eq_ok.mpr ⟨{ p with journal }, ?_, rfl⟩, rfl⟩⟩
  exact lift_bind_eq_ok.mpr ⟨index, made, bind_eq_ok.mpr ⟨(), _, told, rfl⟩⟩

theorem ofModel_of_findElements {index : Index}
    (done : ingestion.findElements p = .ok index q) :
    Index.ofModel ingestion.strict ingestion.model = .ok index := by
  obtain ⟨found, r, staged, rest⟩ := bind_eq_ok.mp done
  obtain ⟨s, classified, _⟩ := ingestion.runStage_eq_ok.mp staged
  obtain ⟨index, made, told⟩ := lift_bind_eq_ok.mp classified
  obtain ⟨_, _, _, last⟩ := bind_eq_ok.mp told
  cases last
  cases rest
  exact made

variable {index : Index}

theorem index_apply (indexed : p.index = some index) : ingestion.index p = .ok index p := by
  unfold Ingestion.index
  rw [Step.bind_apply, Step.get_apply]
  dsimp only
  rw [indexed]
  rfl

theorem fillTypes_apply (indexed : p.index = some index) :
    ingestion.fillTypes p = ingestion.runStage .types (do
      Typing.declareAll ingestion.registry (index.elementsOf .scalarType)
      return (index.positions .scalarType).length) p :=
  Step.bind_of_ok (index_apply indexed) _

/-- The stage of types indexes the model first if that has not been done. -/
theorem fillTypes_of_ofModel
    (made : Index.ofModel ingestion.strict ingestion.model = .ok index)
    (fresh : p.index = none) :
    ∃ journal, ingestion.fillTypes p = ingestion.runStage .types (do
      Typing.declareAll ingestion.registry (index.elementsOf .scalarType)
      return (index.positions .scalarType).length)
        { p with index := some index, journal } := by
  obtain ⟨journal, classified⟩ := findElements_of_ofModel made p
  refine ⟨journal, Step.bind_of_ok ?_ _⟩
  unfold Ingestion.index
  rw [Step.bind_apply, Step.get_apply]
  dsimp only
  rw [fresh]
  exact classified

theorem fillClasses_apply (indexed : p.index = some index) :
    ingestion.fillClasses p = ingestion.runStage .classes (do
      Classes.addAll ingestion.registry index.enumerationIds (index.elementsOf .objectClass)
      return (index.positions .objectClass).length) { p with ends := .empty } :=
  Step.bind_of_ok (index_apply indexed) _

theorem fillAssociations_apply (indexed : p.index = some index) :
    ingestion.fillAssociations p = ingestion.runStage .associations (do
      Associations.link (index.elementsOf .association)
      return (index.positions .association).length) p :=
  Step.bind_of_ok (index_apply indexed) _

theorem fillEnumerations_apply (indexed : p.index = some index) :
    ingestion.fillEnumerations p = ingestion.runStage .enumerations (do
      Enumerations.addAll (index.elementsOf .enumeration)
      return (index.positions .enumeration).length) p :=
  Step.bind_of_ok (index_apply indexed) _

/-- A stage that succeeds has done its work, and told of it. -/
theorem runStage_work {stage : Stage} {work : Step Unit} {number given : Nat}
    (done : ingestion.runStage stage (work >>= fun _ => pure number) p = .ok given q) :
    ∃ r journal, work p = .ok () r ∧ q = { r with journal } := by
  obtain ⟨r, worked, rfl⟩ := ingestion.runStage_eq_ok.mp done
  obtain ⟨_, s, first, last⟩ := bind_eq_ok.mp worked
  cases last
  exact ⟨_, _, first, rfl⟩

/-- The progresses that a run of every stage passes through, stage by stage. -/
structure Course (ingestion : Ingestion) (p q : Progress) where
  index : Index
  typed : Progress
  classed : Progress
  linked : Progress
  listed : Progress
  made : Index.ofModel ingestion.strict ingestion.model = .ok index
  indexed : q.index = some index
  types : ∃ journal, Typing.declareAll ingestion.registry (index.elementsOf .scalarType)
    { p with index := some index, journal } = .ok () typed
  classes : ∃ journal, Classes.addAll ingestion.registry index.enumerationIds
    (index.elementsOf .objectClass) { typed with ends := .empty, journal } = .ok () classed
  associations : ∃ journal, Associations.link (index.elementsOf .association)
    { classed with journal } = .ok () linked
  enumerations : ∃ journal, Enumerations.addAll (index.elementsOf .enumeration)
    { linked with journal } = .ok () listed
  ends : q.ends = listed.ends
  store : q.store = listed.store.freeze

theorem runStages_eq_ok (done : ingestion.runStages p = .ok () q) :
    Nonempty (ingestion.Course p q) := by
  unfold runStages at done
  obtain ⟨_, _, told, rest⟩ := bind_eq_ok.mp done
  cases told
  obtain ⟨index, _, classified, rest⟩ := bind_eq_ok.mp rest
  have made := ofModel_of_findElements classified
  obtain ⟨_, again⟩ := findElements_of_ofModel made _
  cases again.symm.trans classified
  obtain ⟨_, _, staged, rest⟩ := bind_eq_ok.mp rest
  rw [fillTypes_apply rfl] at staged
  obtain ⟨typed, journal, types, rfl⟩ := runStage_work staged
  have indexed : typed.index = some index := by
    obtain ⟨_, _, rfl⟩ := Typing.declareAll_frame types
    rfl
  obtain ⟨_, _, staged, rest⟩ := bind_eq_ok.mp rest
  rw [fillClasses_apply (p := { typed with journal }) indexed] at staged
  obtain ⟨classed, journal, classes, rfl⟩ := runStage_work staged
  replace indexed : classed.index = some index :=
    (Classes.addAll_frame classes).index.trans indexed
  obtain ⟨_, _, staged, rest⟩ := bind_eq_ok.mp rest
  rw [fillAssociations_apply (p := { classed with journal }) indexed] at staged
  obtain ⟨linked, journal, associations, rfl⟩ := runStage_work staged
  replace indexed : linked.index = some index := by
    obtain ⟨_, _, rfl⟩ := Associations.link_frame associations
    exact indexed
  obtain ⟨_, _, staged, rest⟩ := bind_eq_ok.mp rest
  rw [fillEnumerations_apply (p := { linked with journal }) indexed] at staged
  obtain ⟨listed, _, enumerations, rfl⟩ := runStage_work staged
  replace indexed : listed.index = some index := by
    obtain ⟨_, _, rfl⟩ := Enumerations.addAll_frame enumerations
    exact indexed
  obtain ⟨_, _, frozen, rest⟩ := bind_eq_ok.mp rest
  cases frozen
  cases rest
  exact ⟨{ index, typed, classed, linked, listed, made, indexed
           types := ⟨_, types⟩
           classes := ⟨_, classes⟩
           associations := ⟨_, associations⟩
           enumerations := ⟨_, enumerations⟩
           ends := rfl
           store := rfl }⟩

/-- A run that succeeds on an open store has taken its course. -/
theorem course_of_run {store : Store} (opened : p.store.IsOpen)
    (done : ingestion.run p = .ok store q) : Nonempty (ingestion.Course p q) := by
  rw [ingestion.run_of_isOpen opened] at done
  obtain ⟨_, _, stages, last⟩ := bind_eq_ok.mp done
  cases last
  exact runStages_eq_ok stages

/-- A first run that succeeds gives the store at the end of its course, and that store is done. -/
theorem course_of_first_run {store : Store}
    (done : (ingestion.run.outcome .initial).1 = .ok store) :
    ∃ q, q.store = store ∧ store.IsDone ∧ Nonempty (ingestion.Course .initial q) := by
  have ran : ingestion.run .initial = .ok store (ingestion.run.outcome .initial).2 :=
    Step.outcome_eq_ok.mp (Prod.ext done rfl)
  have same := ingestion.run_eq_ok_store ran
  have finished := ingestion.run_meets.ok Store.isOpen_empty ran
  rw [same] at finished
  exact ⟨_, same, finished, course_of_run Store.isOpen_empty ran⟩

/-- A model with an entity of every kind, where a field names an enumeration that comes last. -/
def lectures : Ingestion where
  model := umlElement "Model" [] [] [
    umlElement "packagedElement" [("type", "uml:PrimitiveType"), ("id", "t")]
      [("name", "string")] [],
    umlElement "packagedElement" [("type", "uml:Class"), ("id", "c")] [("name", " Lecture ")] [
      umlElement "ownedComment" [] [("body", "Held once a week.")] [],
      umlElement "ownedAttribute" [("id", "f1")] [("name", "Title"), ("type", "t")] [],
      umlElement "ownedAttribute" [("id", "e0")]
        [("name", "reader"), ("association", "r"), ("type", "u")] [],
      umlElement "ownedAttribute" [("id", "f2")] [("name", "level"), ("type", "n")] [],
      umlElement "ownedComment" [] [("body", " ")] [
        .element (.plain "body") [] (some "\tIn the main hall. ") []]],
    umlElement "packagedElement" [("type", "uml:Class"), ("id", "u")] [("name", "User")] [
      umlElement "ownedAttribute" [("id", "f3")] [("name", "age"), ("type", "Integer")] []],
    umlElement "packagedElement" [("type", "uml:Association"), ("id", "r")]
      [("memberEnd", "e0 e1")] [
        umlElement "ownedEnd" [("id", "e1")] [("name", "lectures"), ("type", "c")] [
          umlElement "upperValue" [("id", "v")] [("value", "*")] []]],
    umlElement "packagedElement" [("type", "uml:Enumeration"), ("id", "n")] [("name", "Level")] [
      umlElement "ownedLiteral" [("id", "l1")] [("name", "Basic")] [],
      umlElement "ownedLiteral" [("id", "l2")] [("name", "Basic ")] []]]
  database := .sql
  registry := .ofDatabase .sql
  strict := true
  document := "lectures.xmi"

def lecturesStore : Store := (lectures.run.outcome .initial).2.store

theorem run_lectures : (lectures.run.outcome .initial).1 = .ok lecturesStore :=
  lectures.run_outcome_eq_ok (by decide +kernel)

end Ingestion

end ClassDiagram
