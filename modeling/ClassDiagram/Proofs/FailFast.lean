import ClassDiagram.Proofs.Interleaving

/-!
# The first fault decides

A run that ends in a fault while it handles an element has seen the elements
of the stages before, the elements of the same kind up to this one, and the
identifiers of the enumerations.  Whatever else stands in the model, it ends in
this fault, as long as the model can be classified at all.
-/

namespace ClassDiagram

instance decidableEqExcept {ε α : Type} [DecidableEq ε] [DecidableEq α] :
    DecidableEq (Except ε α)
  | .ok left, .ok right => decidable_of_iff (left = right) ⟨congrArg _, Except.ok.inj⟩
  | .error left, .error right => decidable_of_iff (left = right) ⟨congrArg _, Except.error.inj⟩
  | .ok _, .error _ | .error _, .ok _ => isFalse nofun

open Step (Agree Alike bind_eq_ok bind_of_error bind_of_ok keepsEnd_alike shares_alike)
open Xml (Node)

namespace Step

theorem each_of_error {step : Node → Step Unit} {front rest : List Node} {node : Node}
    {p q r : Progress} {fault : Fault} (passed : each step front p = .ok () q)
    (failed : step node q = .error fault r) :
    each step (front ++ node :: rest) p = .error fault r := by
  rw [each_append, bind_of_ok passed]
  exact each_of_first_error failed

end Step

/-- When the elements of a kind have their turn. -/
def ElementKind.turn : ElementKind → Nat
  | .scalarType => 0
  | .objectClass => 1
  | .association => 2
  | .enumeration => 3

namespace Associations

def addOne (node : Node) : Step Unit := do let _ ← add node

theorem addAll_of_error {front rest : List Node} {node : Node} {p q r : Progress} {fault : Fault}
    (passed : Step.each addOne front p = .ok () q) (failed : addOne node q = .error fault r) :
    addAll (front ++ node :: rest) p = .error fault r := by
  have fails : add node q = .error fault r := by
    unfold addOne at failed
    rw [Step.bind_apply] at failed
    cases added : add node q with
    | ok ids s =>
        rw [added] at failed
        cases failed
    | error other s =>
        rw [added] at failed
        cases failed
        rfl
  induction front generalizing p with
  | nil =>
      cases passed
      exact bind_of_error fails _
  | cons first front ih =>
      obtain ⟨_, s, taken, others⟩ := bind_eq_ok.mp passed
      obtain ⟨ids, t, added, last⟩ := bind_eq_ok.mp taken
      cases last
      rw [List.cons_append, addAll, bind_of_ok added]
      exact bind_of_error (ih others) _

end Associations

namespace Ingestion

def handle (ingestion : Ingestion) (index : Index) : ElementKind → Node → Step Unit
  | .scalarType => Typing.declare ingestion.registry
  | .objectClass => Classes.add ingestion.registry index.enumerationIds
  | .association => Associations.addOne
  | .enumeration => Enumerations.add

def leadUp (ingestion : Ingestion) : ElementKind → Step Unit
  | .scalarType => pure ()
  | .objectClass => do
      let _ ← ingestion.fillTypes
      modify fun progress => { progress with ends := .empty }
  | .association => do
      let _ ← ingestion.fillTypes
      let _ ← ingestion.fillClasses
  | .enumeration => do
      let _ ← ingestion.fillTypes
      let _ ← ingestion.fillClasses
      let _ ← ingestion.fillAssociations

/--
The first run ends in a fault while it handles the `k`-th element of a kind,
which has left the store as it is given here.
-/
def FailsAt (ingestion : Ingestion) (kind : ElementKind) (k : Nat) (fault : Fault)
    (store : Store) : Prop :=
  ∃ index indexed begun reached fallen front node rest,
    ingestion.findElements (ingestion.begin .initial) = .ok index indexed ∧
    ingestion.leadUp kind indexed = .ok () begun ∧
    index.elementsOf kind = front ++ node :: rest ∧ k = front.length + 1 ∧
    Step.each (ingestion.handle index kind) front begun = .ok () reached ∧
    ingestion.handle index kind node reached = .error fault fallen ∧ fallen.store = store

variable {ingestion left right : Ingestion} {i j : Index} {kind : ElementKind} {k : Nat}
  {fault : Fault} {store : Store}

/-! ## Up to an element -/

section

variable (registry : left.registry = right.registry)
  (announced : ∀ id : String, some id ∈ i.enumerationIds ↔ some id ∈ j.enumerationIds)
include registry announced

theorem leadUp_agree
    (earlier : ∀ other, other.turn < kind.turn → i.elementsOf other = j.elementsOf other) :
    Agree (Alike (some i) (some j)) (left.leadUp kind) (right.leadUp kind) := by
  cases kind with
  | scalarType => exact .pure ()
  | objectClass =>
      refine .bind (fillTypes_agree registry (earlier _ (by decide))) fun _ => ?_
      exact .modify fun _ _ start => ⟨start.store, rfl, start.index_left, start.index_right⟩
  | association =>
      refine .bind (fillTypes_agree registry (earlier _ (by decide))) fun _ => ?_
      exact .bind (fillClasses_agree registry announced (earlier _ (by decide))) fun _ => .pure ()
  | enumeration =>
      refine .bind (fillTypes_agree registry (earlier _ (by decide))) fun _ => ?_
      refine .bind (fillClasses_agree registry announced (earlier _ (by decide))) fun _ => ?_
      exact .bind (fillAssociations_agree (earlier _ (by decide))) fun _ => .pure ()

theorem handle_agree (node : Node) :
    Agree (Alike (some i) (some j)) (left.handle i kind node) (right.handle j kind node) := by
  have shares := shares_alike (some i) (some j)
  cases kind with
  | scalarType =>
      change Agree _ (Typing.declare left.registry node) (Typing.declare right.registry node)
      rw [registry]
      exact Typing.declare_agree shares _ node
  | objectClass =>
      change Agree _ (Classes.add left.registry i.enumerationIds node)
        (Classes.add right.registry j.enumerationIds node)
      rw [registry, Classes.add_congr announced]
      exact Classes.add_agree shares _ _ fun child _ => keepsEnd_alike _ _ child
  | association => exact .bind (Associations.add_agree shares Alike.ends node) fun _ => .pure ()
  | enumeration => exact Enumerations.add_agree shares node

end

/-- Handling earlier elements leaves the index where it is. -/
theorem index_of_leadUp {index : Index} {p q : Progress} (indexed : p.index = some index)
    (led : ingestion.leadUp kind p = .ok () q) : q.index = some index := by
  have self : Agree (Alike (some index) (some index)) (ingestion.leadUp kind)
      (ingestion.leadUp kind) := leadUp_agree rfl (fun _ => Iff.rfl) fun _ _ => rfl
  obtain ⟨_, _, ended⟩ := self.ok ⟨rfl, rfl, indexed, indexed⟩ led
  exact ended.index_left

/-! ## The end of the run -/

def work (ingestion : Ingestion) (index : Index) : ElementKind → Step Unit
  | .scalarType => Typing.declareAll ingestion.registry (index.elementsOf .scalarType)
  | .objectClass =>
      Classes.addAll ingestion.registry index.enumerationIds (index.elementsOf .objectClass)
  | .association => Associations.link (index.elementsOf .association)
  | .enumeration => Enumerations.addAll (index.elementsOf .enumeration)

/-- The work of a stage ends where the handling of an element does. -/
theorem work_of_element {index : Index} {p q r : Progress} {front rest : List Node} {node : Node}
    (shape : index.elementsOf kind = front ++ node :: rest)
    (passed : Step.each (ingestion.handle index kind) front p = .ok () q)
    (failed : ingestion.handle index kind node q = .error fault r) :
    ingestion.work index kind p = .error fault r := by
  have stops : Step.each (ingestion.handle index kind) (index.elementsOf kind) p =
      .error fault r := by
    rw [shape]
    exact Step.each_of_error passed failed
  cases kind with
  | scalarType =>
      unfold work
      rw [Typing.declareAll_eq_each]
      exact stops
  | objectClass =>
      unfold work
      rw [Classes.addAll_eq_each]
      exact stops
  | association =>
      refine bind_of_error ?_ _
      rw [shape]
      exact Associations.addAll_of_error passed failed
  | enumeration =>
      unfold work
      rw [Enumerations.addAll_eq_each]
      exact stops

/-- A stage that fails leaves what its work has left. -/
theorem runStage_of_work_error (ingestion : Ingestion) (stage : Stage) {work : Step Unit}
    {p q : Progress} (failed : work p = .error fault q) (number : Nat) :
    ∃ r, ingestion.runStage stage (work >>= fun _ => pure number) p = .error fault r ∧
      r.store = q.store.afterFault fault := by
  obtain ⟨_, stops⟩ := ingestion.runStage_of_error stage
    (bind_of_error failed fun _ => (pure number : Step Nat))
  exact ⟨_, stops, rfl⟩

/-- A run is over where the work of a stage fails. -/
theorem readElements_of_work {index : Index} {p begun fallen : Progress}
    (indexed : p.index = some index) (led : ingestion.leadUp kind p = .ok () begun)
    (failed : ingestion.work index kind begun = .error fault fallen) :
    ∃ q, ingestion.readElements p = .error fault q ∧
      q.store = fallen.store.afterFault fault := by
  have still := index_of_leadUp indexed led
  unfold readElements
  cases kind with
  | scalarType =>
      cases led
      obtain ⟨q, stops, left⟩ := ingestion.runStage_of_work_error .types failed _
      have filled := (fillTypes_apply still).trans stops
      exact ⟨q, bind_of_error filled _, left⟩
  | objectClass =>
      obtain ⟨_, r, typed, last⟩ := bind_eq_ok.mp led
      cases last
      obtain ⟨q, stops, left⟩ := ingestion.runStage_of_work_error .classes failed _
      have filled : ingestion.fillClasses r = .error fault q :=
        (fillClasses_apply (p := r) still).trans stops
      rw [bind_of_ok typed]
      exact ⟨q, bind_of_error filled _, left⟩
  | association =>
      obtain ⟨_, r, typed, more⟩ := bind_eq_ok.mp led
      obtain ⟨_, s, classed, last⟩ := bind_eq_ok.mp more
      cases last
      obtain ⟨q, stops, left⟩ := ingestion.runStage_of_work_error .associations failed _
      have filled := (fillAssociations_apply still).trans stops
      rw [bind_of_ok typed, bind_of_ok classed]
      exact ⟨q, bind_of_error filled _, left⟩
  | enumeration =>
      obtain ⟨_, r, typed, more⟩ := bind_eq_ok.mp led
      obtain ⟨_, s, classed, most⟩ := bind_eq_ok.mp more
      obtain ⟨_, t, linked, last⟩ := bind_eq_ok.mp most
      cases last
      obtain ⟨q, stops, left⟩ := ingestion.runStage_of_work_error .enumerations failed _
      have filled := (fillEnumerations_apply still).trans stops
      rw [bind_of_ok typed, bind_of_ok classed, bind_of_ok linked]
      exact ⟨q, bind_of_error filled _, left⟩

namespace FailsAt

/-- A run that fails at an element tells its fault, and leaves what the fault makes of the store. -/
theorem run (failed : ingestion.FailsAt kind k fault store) :
    (ingestion.run.outcome .initial).1 = .error fault ∧
      (ingestion.run.outcome .initial).2.store = store.afterFault fault := by
  obtain ⟨index, indexed, begun, reached, fallen, front, node, rest, classified, led, shape, _,
    passed, falls, rfl⟩ := failed
  have kept : indexed.index = some index := by
    obtain ⟨_, again⟩ := findElements_of_ofModel (ofModel_of_findElements classified)
      (ingestion.begin .initial)
    cases again.symm.trans classified
    rfl
  obtain ⟨q, stops, left⟩ := readElements_of_work kept led (work_of_element shape passed falls)
  have ran : ingestion.run .initial = .error fault q := by
    rw [ingestion.run_of_isOpen Store.isOpen_empty]
    refine bind_of_error ?_ _
    rw [runStages_apply, bind_of_ok classified]
    exact stops
  rw [Step.outcome_eq_error.mpr ran]
  exact ⟨rfl, left⟩

/-- Another run fails at the same element, if it comes to it through the same elements. -/
theorem transfer (failed : left.FailsAt kind k fault store)
    (registry : left.registry = right.registry) (lenient : right.strict = false)
    (earlier : ∀ other, other.turn < kind.turn →
      elementsOfKind left.model other = elementsOfKind right.model other)
    (first : (elementsOfKind left.model kind).take k = (elementsOfKind right.model kind).take k)
    (announced : ∀ id : String, some id ∈ (elementsOfKind left.model .enumeration).map id? ↔
      some id ∈ (elementsOfKind right.model .enumeration).map id?)
    (whole : ¬ HasBrokenName right.model) : right.FailsAt kind k fault store := by
  obtain ⟨i, indexed, begun, reached, fallen, front, node, rest, classified, led, shape, rfl,
    passed, falls, rfl⟩ := failed
  have made := ofModel_of_findElements classified
  obtain ⟨j, again⟩ := Index.ofModel_of_whole whole
  rw [← lenient] at again
  obtain ⟨told, found⟩ := findElements_of_ofModel made (left.begin .initial)
  cases found.symm.trans classified
  obtain ⟨other, classifies⟩ := findElements_of_ofModel again (right.begin .initial)
  have sorted : ∀ kind, i.elementsOf kind = elementsOfKind left.model kind :=
    Index.elementsOf_of_ofModel made
  have resorted : ∀ kind, j.elementsOf kind = elementsOfKind right.model kind :=
    Index.elementsOf_of_ofModel again
  have awaited (id : String) : some id ∈ i.enumerationIds ↔ some id ∈ j.enumerationIds := by
    unfold Index.enumerationIds
    rw [sorted, resorted]
    exact announced id
  have leads : Agree (Alike (some i) (some j)) (left.leadUp kind) (right.leadUp kind) :=
    leadUp_agree registry awaited fun other sooner => by
      rw [sorted, resorted, earlier other sooner]
  have start : Alike (some i) (some j) { left.begin .initial with index := some i, journal := told }
      { right.begin .initial with index := some j, journal := other } := ⟨rfl, rfl, rfl, rfl⟩
  obtain ⟨begins, ledToo, alike⟩ := leads.ok start led
  obtain ⟨reaches, passedToo, alike⟩ := (Agree.each fun node _ =>
    handle_agree registry awaited node).ok alike passed
  obtain ⟨falling, fallsToo, same⟩ := (handle_agree registry awaited node).error alike falls
  have reshaped : j.elementsOf kind =
      front ++ node :: (j.elementsOf kind).drop (front.length + 1) := by
    rw [← sorted, ← resorted, shape] at first
    have taken : (front ++ node :: rest).take (front.length + 1) = front ++ [node] :=
      List.take_length_add_append 1
    calc j.elementsOf kind
        = (j.elementsOf kind).take (front.length + 1) ++
            (j.elementsOf kind).drop (front.length + 1) := (List.take_append_drop _ _).symm
      _ = _ := by rw [← first, taken, List.append_assoc, List.singleton_append]
  exact ⟨j, _, begins, reaches, falling, front, node, _, classifies, ledToo, reshaped, rfl,
    passedToo, fallsToo, same.symm⟩

end FailsAt

/--
A run that ends in a fault at the `k`-th element of a kind ends alike for every
model that can be classified and has the same elements of the kinds before, the
same first `k` elements of this kind, and the same identifiers of enumerations.
-/
theorem endsLike_of_failsAt (left right : Ingestion) (kind : ElementKind) (k : Nat)
    {fault : Fault} {store : Store} (registry : left.registry = right.registry)
    (lenient : right.strict = false) (failed : left.FailsAt kind k fault store)
    (earlier : ∀ other, other.turn < kind.turn →
      elementsOfKind left.model other = elementsOfKind right.model other)
    (first : (elementsOfKind left.model kind).take k = (elementsOfKind right.model kind).take k)
    (announced : ∀ id : String, some id ∈ (elementsOfKind left.model .enumeration).map id? ↔
      some id ∈ (elementsOfKind right.model .enumeration).map id?)
    (whole : ¬ HasBrokenName right.model) :
    (left.run.outcome .initial).1 = .error fault ∧ left.EndsLike right := by
  have again := failed.transfer registry lenient earlier first announced whole
  unfold EndsLike
  rw [failed.run.1, failed.run.2, again.run.1, again.run.2]
  exact ⟨rfl, rfl, rfl⟩

def levelled : Node :=
  umlElement "packagedElement" [("type", "uml:Class"), ("id", "a")] [("name", "Course")] [
    umlElement "ownedAttribute" [("id", "f")] [("name", "level"), ("type", "l")] []]

def walled : Node :=
  umlElement "packagedElement" [("type", "uml:Class"), ("id", "b")] [("name", "Room")] [
    umlElement "ownedAttribute" [("id", "g")] [("name", "number"), ("type", "t")] [],
    umlElement "ownedAttribute" [("id", "h")] [("name", "walls"), ("type", "Paint")] []]

/-- A type, both classes, and the enumeration. -/
def painted : Ingestion where
  model := umlElement "Model" [] [] [
    umlElement "packagedElement" [("type", "uml:PrimitiveType"), ("id", "t")]
      [("name", "string")] [],
    levelled, walled,
    umlElement "packagedElement" [("type", "uml:Enumeration"), ("id", "l")] [("name", "Level")]
      []]
  database := .sql
  registry := .ofDatabase .sql
  strict := false
  document := "course.xmi"

/-- The same up to the second class, among other elements that cannot be read either. -/
def repainted : Ingestion :=
  { painted with
    model := umlElement "Model" [] [] [
      umlElement "packagedElement" [("type", "uml:Enumeration"), ("id", "l")] [] [],
      umlElement "packagedElement" [("type", "uml:Association")] [("memberEnd", "x")] [],
      levelled, walled,
      umlElement "packagedElement" [("type", "uml:Class")] [] [],
      umlElement "packagedElement" [("type", "uml:PrimitiveType"), ("id", "t")]
        [("name", "string")] []] }

def paintUnknown : Fault := .ingest (.wrongType (.text "Paint") (.text "h") (.text "b"))

def paintedIndex : Index := (Index.ofModel false painted.model).toOption.getD default

def paintedIndexed : Progress := (painted.findElements.outcome (painted.begin .initial)).2

def paintedBegun : Progress := ((painted.leadUp .objectClass).outcome paintedIndexed).2

def paintedReached : Progress :=
  ((Step.each (painted.handle paintedIndex .objectClass) [levelled]).outcome paintedBegun).2

def paintedFallen : Progress :=
  ((painted.handle paintedIndex .objectClass walled).outcome paintedReached).2

/-- The first run of `painted` ends at its second class. -/
theorem failsAt_painted :
    painted.FailsAt .objectClass 2 paintUnknown paintedFallen.store := by
  have led : ((painted.leadUp .objectClass).outcome paintedIndexed).1 = .ok () := by
    decide +kernel
  have passed : ((Step.each (painted.handle paintedIndex .objectClass) [levelled]).outcome
      paintedBegun).1 = .ok () := by decide +kernel
  have falls : ((painted.handle paintedIndex .objectClass walled).outcome paintedReached).1 =
      .error paintUnknown := by decide +kernel
  exact ⟨paintedIndex, paintedIndexed, paintedBegun, paintedReached, paintedFallen, [levelled],
    walled, [], Step.outcome_eq_ok.mp rfl, Step.outcome_eq_ok.mp (Prod.ext led rfl), rfl, rfl,
    Step.outcome_eq_ok.mp (Prod.ext passed rfl), Step.outcome_eq_error.mp (Prod.ext falls rfl), rfl⟩

/-- The elements after a class that cannot be completed do not matter. -/
theorem endsLike_of_failsAt_painted :
    painted.FailsAt .objectClass 2 paintUnknown paintedFallen.store ∧
      (painted.run.outcome .initial).1 = .error paintUnknown ∧ painted.EndsLike repainted ∧
      ¬ SameByKind painted.model repainted.model := by
  have earlier : ∀ other : ElementKind, other.turn < ElementKind.objectClass.turn →
      elementsOfKind painted.model other = elementsOfKind repainted.model other := by
    intro other sooner
    cases other with
    | scalarType => rfl
    | _ => exact absurd sooner (by decide)
  have whole : ¬ HasBrokenName repainted.model := by decide +kernel
  obtain ⟨told, alike⟩ := endsLike_of_failsAt painted repainted .objectClass 2 rfl rfl
    failsAt_painted earlier rfl (fun _ => Iff.rfl) whole
  refine ⟨failsAt_painted, told, alike, fun same => ?_⟩
  exact absurd (congrArg List.length (same .association)) (by decide +kernel)

def notedPainted : Ingestion :=
  { painted with
    model := umlElement "Model" [] [] (painted.model.children ++ [brokenElement]) }

/-- A child with a broken name is no element of any kind, and yet it decides how a run ends. -/
theorem not_endsLike_notedPainted :
    painted.FailsAt .objectClass 2 paintUnknown paintedFallen.store ∧
      painted.registry = notedPainted.registry ∧ painted.strict = false ∧
      notedPainted.strict = false ∧ SameByKind painted.model notedPainted.model ∧
      (painted.run.outcome .initial).1 = .error paintUnknown ∧
      (notedPainted.run.outcome .initial).1 = .error .brokenName ∧
      ¬ painted.EndsLike notedPainted := by
  have broken : HasBrokenName notedPainted.model := by decide +kernel
  have told := failsAt_painted.run.1
  have fails := congrArg Prod.fst (run_of_broken broken)
  have same : SameByKind painted.model notedPainted.model := by
    have other (kind : ElementKind) : isOfKind kind brokenElement = false := rfl
    have inserted := sameByKind_insert (.plain "Model") [] none painted.model.children [] other
    rw [List.append_nil] at inserted
    exact fun kind => (inserted kind).symm
  refine ⟨failsAt_painted, rfl, rfl, rfl, same, told, fails, fun alike => ?_⟩
  cases told.symm.trans (alike.1.trans fails)

end Ingestion

end ClassDiagram
