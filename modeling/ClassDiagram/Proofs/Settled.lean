import ClassDiagram.Proofs.Course

/-!
# What later calls do to a finished store

Once a run has succeeded, every stage that is called again stops at its first
entity, since the store is frozen.  Only the association stage may go wrong:
class elements that are read again have given up their ends, and an
association that needs one of them makes the finished store invalid.
-/

namespace ClassDiagram

open Step (bind_eq_ok bind_of_error bind_of_ok)
open Store (Filling)
open Xml (Node)

variable {p q : Progress}

/-! ## Stages on a finished store -/

/-- A step changes nothing but the journal, and is stopped by a frozen store if at all. -/
def Idle {α : Type} (step : Step α) (p : Progress) : Prop :=
  ∃ journal, (∃ a, step p = .ok a { p with journal }) ∨
    step p = .error .frozen { p with journal }

theorem change_of_isDone (filling : Filling) (done : p.store.IsDone) :
    Step.change filling.apply p = .error .frozen p := by
  rw [Step.change_apply, filling.refused done.checkWritable]

/-- A loop whose every round is stopped by the frozen store is idle. -/
theorem idle_each {step : Node → Step Unit} {nodes : List Node}
    (stopped : ∀ node ∈ nodes, step node p = .error .frozen p) : Idle (Step.each step nodes) p := by
  refine ⟨p.journal, ?_⟩
  cases nodes with
  | nil => exact Or.inl ⟨(), rfl⟩
  | cons node rest =>
      exact Or.inr (Step.each_of_first_error (stopped node List.mem_cons_self))

theorem Typing.declareAll_idle {registry : Registry} {nodes : List Node}
    (done : p.store.IsDone) (declared : ∀ node ∈ nodes, ∃ type, Declares registry node type) :
    Idle (declareAll registry nodes) p := by
  rw [declareAll_eq_each]
  refine idle_each fun node member => ?_
  obtain ⟨type, declares⟩ := declared node member
  rw [declares.declare_apply]
  exact bind_of_error (change_of_isDone (.addType type) done) _

theorem Classes.addAll_idle {registry : Registry} {enumerations : List (Option String)}
    {nodes : List Node} (done : p.store.IsDone)
    (headed : ∀ node ∈ nodes, ∃ entity, Heads node entity) :
    Idle (addAll registry enumerations nodes) p := by
  rw [addAll_eq_each]
  refine idle_each fun node member => ?_
  obtain ⟨entity, heads⟩ := headed node member
  apply bind_of_error
  rw [heads.addClass_apply]
  exact bind_of_error (change_of_isDone (.addClass entity) done) _

theorem Enumerations.addAll_idle {nodes : List Node} (done : p.store.IsDone)
    (listed : ∀ node ∈ nodes, ∃ enumeration, Lists node enumeration) :
    Idle (addAll nodes) p := by
  rw [addAll_eq_each]
  refine idle_each fun node member => ?_
  obtain ⟨enumeration, lists⟩ := listed node member
  unfold add
  rw [bind_of_ok (build_eq_ok.mpr ⟨lists, rfl⟩)]
  exact bind_of_error (change_of_isDone (.addEnumeration enumeration) done) _

namespace Associations

/-- An association is joined again from the same ends and classes. -/
theorem link_idle {node first second : Node} {rest : List Node} {ids : List String}
    {association : Association} (done : p.store.IsDone) (members : memberEnds node = .ok ids)
    (joins : Joins p.ends p.store.classes node ids first second association) :
    Idle (link (node :: rest)) p := by
  obtain ⟨journal, built⟩ := joins.build
  have stopped : add node p = .error .frozen { p with journal } := by
    unfold add
    rw [bind_of_ok (Step.lift_eq_ok.mpr ⟨members, rfl⟩), bind_of_ok built]
    exact bind_of_error
      (change_of_isDone (p := { p with journal }) (.addAssociation association) done) _
  exact ⟨journal, Or.inr (bind_of_error (bind_of_error stopped _) _)⟩

theorem link_nil_idle (empty : p.ends = .empty) : Idle (link []) p := by
  refine ⟨p.journal, Or.inl ⟨(), link_eq_ok.mpr ⟨[], rfl, ?_⟩⟩⟩
  intro entry inside
  change entry ∈ p.ends.entries at inside
  rw [empty] at inside
  cases inside

def HoldsItsEnds (node : Node) : Prop :=
  ∀ ids, memberEnds node = .ok ids →
    ∀ id ∈ ids, some id ∈ (childrenNamed node "ownedEnd").map id?

theorem contains_ownedEnds {node : Node} (whole : (node.select "ownedEnd").cut = false)
    (id : String) :
    (ownedEnds (node.select "ownedEnd").found).contains (some id) = true ↔
      some id ∈ (childrenNamed node "ownedEnd").map id? := by
  rw [ownedEnds, Table.contains_ofList, found_select whole, List.map_map]
  rfl

/-- An end that stands inside the association is found whatever ends the classes declare. -/
theorem endWith_of_inside {node : Node} {id : String}
    (whole : (node.select "ownedEnd").cut = false)
    (inside : some id ∈ (childrenNamed node "ownedEnd").map id?)
    (ends other : Table (Option String) ClassEnd) :
    endWith ends node id = endWith other node id := by
  obtain ⟨found, filed⟩ :=
    (Table.contains_iff_exists _ _).mp ((contains_ownedEnds whole id).mpr inside)
  rw [endWith, endWith, filed]
  rfl

theorem endWith_of_outside {node : Node} {id : String}
    (whole : (node.select "ownedEnd").cut = false)
    (outside : some id ∉ (childrenNamed node "ownedEnd").map id?) :
    endWith .empty node id = none := by
  rw [← contains_ownedEnds whole, Table.contains, Option.not_isSome_iff_eq_none] at outside
  rw [endWith, outside]
  rfl

/-- Ends that stand inside the association join it from any ends the classes declare. -/
theorem Joins.of_inside {ends other : Table (Option String) ClassEnd}
    {classes : Table String Class} {node first second : Node} {ids : List String}
    {association : Association} (joins : Joins ends classes node ids first second association)
    (inside : ∀ id ∈ ids, some id ∈ (childrenNamed node "ownedEnd").map id?) :
    Joins other classes node ids first second association := by
  obtain ⟨firstId, secondId, rfl, firstFound, secondFound⟩ := joins.pair
  refine { joins with pair := ⟨firstId, secondId, rfl, ?_, ?_⟩ }
  · rw [endWith_of_inside joins.whole (inside _ (by simp)) other ends]
    exact firstFound
  · rw [endWith_of_inside joins.whole (inside _ (by simp)) other ends]
    exact secondFound

/-- An association that needs an end of a class is refused while classes declare none. -/
theorem add_refused {ends : Table (Option String) ClassEnd} {classes : Table String Class}
    {node first second : Node} {ids : List String} {association : Association}
    (members : memberEnds node = .ok ids)
    (joins : Joins ends classes node ids first second association) (empty : p.ends = .empty)
    (outside : ¬ HoldsItsEnds node) : ∃ cause, add node p = .error (.ingest cause) p := by
  obtain ⟨firstId, secondId, rfl, _, _⟩ := joins.pair
  have missing : endWith p.ends node firstId = none ∨ endWith p.ends node secondId = none := by
    rw [empty]
    by_cases firstInside : some firstId ∈ (childrenNamed node "ownedEnd").map id?
    · refine Or.inr (endWith_of_outside joins.whole fun secondInside => outside ?_)
      intro ids again id member
      cases members.symm.trans again
      rcases List.mem_cons.mp member with rfl | other
      · exact firstInside
      · cases List.mem_singleton.mp other
        exact secondInside
    · exact Or.inl (endWith_of_outside joins.whole firstInside)
  obtain ⟨cause, refused⟩ := build_of_missing joins.whole missing
  refine ⟨cause, ?_⟩
  unfold add
  rw [bind_of_ok (Step.lift_eq_ok.mpr ⟨members, rfl⟩)]
  exact bind_of_error refused _

end Associations

/-! ## What a run has found -/

namespace Ingestion

variable {ingestion : Ingestion} {index : Index} {ends : Table (Option String) ClassEnd}
  {store : Store}

/--
What a run that has succeeded knows of the elements: each stands for an entity,
and the first association is joined from the ends that classes declare.
-/
structure Settled (ingestion : Ingestion) (index : Index)
    (ends : Table (Option String) ClassEnd) (store : Store) : Prop where
  made : Index.ofModel ingestion.strict ingestion.model = .ok index
  done : store.IsDone
  declared : ∀ node ∈ index.elementsOf .scalarType,
    ∃ type, Typing.Declares ingestion.registry node type
  headed : ∀ node ∈ index.elementsOf .objectClass, ∃ entity, Classes.Heads node entity
  joined : ∀ node rest, index.elementsOf .association = node :: rest →
    ∃ ids first second association, memberEnds node = .ok ids ∧
      Associations.Joins ends store.classes node ids first second association
  unlinked : index.elementsOf .association = [] → ends = .empty
  listed : ∀ node ∈ index.elementsOf .enumeration,
    ∃ enumeration, Enumerations.Lists node enumeration

structure Rests (index : Index) (ends : Table (Option String) ClassEnd) (store : Store)
    (p : Progress) : Prop where
  store : p.store = store
  index : p.index = some index
  ends : p.ends = ends ∨ p.ends = .empty

theorem Course.settled (course : ingestion.Course p q) (finished : q.store.IsDone) :
    ingestion.Settled course.index q.ends q.store := by
  obtain ⟨index, typed, classed, linked, listed, made, _, ⟨_, types⟩, ⟨_, classes⟩,
    ⟨_, associations⟩, ⟨_, enumerations⟩, ends, frozen⟩ := course
  have kept : q.ends = classed.ends ∧ q.ends = linked.ends ∧
      q.store.classes = classed.store.classes := by
    obtain ⟨_, _, rfl⟩ := Associations.link_frame associations
    obtain ⟨_, _, rfl⟩ := Enumerations.addAll_frame enumerations
    rw [ends, frozen]
    exact ⟨rfl, rfl, rfl⟩
  obtain ⟨used, added, inside⟩ := Associations.link_eq_ok.mp associations
  refine ⟨made, finished, ?_, ?_, ?_, ?_, ?_⟩
  · intro node member
    rw [Typing.declareAll_eq_each] at types
    obtain ⟨_, _, taken⟩ := Step.each_mem types node member
    obtain ⟨type, _, declares, _⟩ := Typing.declare_eq_ok taken
    exact ⟨type, declares⟩
  · intro node member
    rw [Classes.addAll_eq_each] at classes
    obtain ⟨_, _, taken⟩ := Step.each_mem classes node member
    obtain ⟨_, _, headed, _⟩ := Classes.add_eq_ok taken
    obtain ⟨entity, _, heads, _⟩ := Classes.addClass_eq_ok headed
    exact ⟨entity, heads⟩
  · intro node rest shape
    rw [shape] at added
    obtain ⟨ids, _, first, _⟩ := bind_eq_ok.mp added
    obtain ⟨left, right, association, _, members, joins, _⟩ := Associations.add_eq_ok first
    rw [kept.1, kept.2.2]
    exact ⟨ids, left, right, association, members, joins⟩
  · intro none
    rw [none] at added
    cases added
    rw [kept.1]
    apply Table.ext
    refine List.eq_nil_iff_forall_not_mem.mpr fun entry member => ?_
    have impossible := inside entry member
    cases key : entry.1 with
    | none =>
        rw [key] at impossible
        cases impossible
    | some id =>
        rw [key] at impossible
        cases impossible
  · intro node member
    rw [Enumerations.addAll_eq_each] at enumerations
    obtain ⟨_, _, taken⟩ := Step.each_mem enumerations node member
    obtain ⟨enumeration, _, lists, _⟩ := Enumerations.add_eq_ok taken
    exact ⟨enumeration, lists⟩

/-! ## Later calls -/

/-- The first association of the model, if there is one, holds all its ends. -/
def FirstHoldsItsEnds (ingestion : Ingestion) : Prop :=
  ∀ node ∈ (elementsOfKind ingestion.model .association).head?, Associations.HoldsItsEnds node

/-- A stage whose work is idle leaves everything as it is but the journal. -/
theorem runStage_of_idle (ingestion : Ingestion) (stage : Stage) {work : Step Unit}
    (idle : Idle work p) (number : Nat) :
    ∃ journal, ((ingestion.runStage stage (work >>= fun _ => pure number)).outcome p).2 =
      { p with journal } := by
  unfold Step.outcome
  rw [ingestion.runStage_apply]
  obtain ⟨journal, ⟨_, done⟩ | stopped⟩ := idle
  · rw [bind_of_ok done]
    exact ⟨_, rfl⟩
  · rw [bind_of_error stopped]
    exact ⟨journal, rfl⟩

namespace Rests

variable (rests : Rests index ends store p) (settled : ingestion.Settled index ends store)
include rests

theorem of_journal {journal : Journal} (same : q = { p with journal }) :
    Rests index ends store q := by
  rw [same]
  exact ⟨rests.store, rests.index, rests.ends⟩

include settled

theorem done : p.store.IsDone := by
  rw [rests.store]
  exact settled.done

theorem run : ∃ journal, ingestion.run p = .ok store { p with journal } := by
  rw [ingestion.run_of_isDone (rests.done settled), rests.store]
  exact ⟨_, rfl⟩

theorem findElements : Rests index ends store (ingestion.findElements.outcome p).2 := by
  obtain ⟨_, classified⟩ := findElements_of_ofModel settled.made p
  rw [Step.outcome_eq_ok.mpr classified]
  exact ⟨rests.store, rfl, rests.ends⟩

theorem fillTypes : Rests index ends store (ingestion.fillTypes.outcome p).2 := by
  have idle := Typing.declareAll_idle (rests.done settled) settled.declared
  obtain ⟨_, same⟩ := ingestion.runStage_of_idle .types idle _
  rw [Step.outcome_congr (fillTypes_apply rests.index)]
  exact rests.of_journal same

/-- Classes that are read again have given up their ends. -/
theorem fillClasses : Rests index ends store (ingestion.fillClasses.outcome p).2 ∧
    (ingestion.fillClasses.outcome p).2.ends = .empty := by
  have idle : Idle (Classes.addAll ingestion.registry index.enumerationIds
      (index.elementsOf .objectClass)) { p with ends := .empty } :=
    Classes.addAll_idle (rests.done settled) settled.headed
  obtain ⟨_, same⟩ := ingestion.runStage_of_idle .classes idle _
  rw [Step.outcome_congr (fillClasses_apply rests.index), same]
  exact ⟨⟨rests.store, rests.index, Or.inr rfl⟩, rfl⟩

theorem fillEnumerations : Rests index ends store (ingestion.fillEnumerations.outcome p).2 := by
  have idle := Enumerations.addAll_idle (rests.done settled) settled.listed
  obtain ⟨_, same⟩ := ingestion.runStage_of_idle .enumerations idle _
  rw [Step.outcome_congr (fillEnumerations_apply rests.index)]
  exact rests.of_journal same

/-- Associations that find their ends once more stop at the frozen store. -/
theorem fillAssociations (found : p.ends = ends ∨ ingestion.FirstHoldsItsEnds) :
    Rests index ends store (ingestion.fillAssociations.outcome p).2 := by
  have idle : Idle (Associations.link (index.elementsOf .association)) p := by
    cases shape : index.elementsOf .association with
    | nil =>
        apply Associations.link_nil_idle
        rcases rests.ends with same | empty
        · rw [same, settled.unlinked shape]
        · exact empty
    | cons node rest =>
        obtain ⟨ids, first, second, association, members, joins⟩ := settled.joined node rest shape
        rw [← rests.store] at joins
        rcases found with same | inside
        · rw [← same] at joins
          exact Associations.link_idle (rests.done settled) members joins
        · rw [Index.elementsOf_of_ofModel settled.made] at shape
          have holds : Associations.HoldsItsEnds node := by
            apply inside node
            rw [shape]
            rfl
          exact Associations.link_idle (rests.done settled) members
            (joins.of_inside (holds ids members))
  obtain ⟨_, same⟩ := ingestion.runStage_of_idle .associations idle _
  rw [Step.outcome_congr (fillAssociations_apply rests.index)]
  exact rests.of_journal same

/-- An association that misses an end of a class makes the finished store invalid. -/
theorem fillAssociations_refused (empty : p.ends = .empty)
    (outside : ¬ ingestion.FirstHoldsItsEnds) :
    ∃ cause, (ingestion.fillAssociations.outcome p).2.store.FailedWith cause := by
  unfold FirstHoldsItsEnds at outside
  rw [← Index.elementsOf_of_ofModel settled.made] at outside
  cases shape : index.elementsOf .association with
  | nil =>
      rw [shape] at outside
      exact absurd (fun _ impossible => by cases impossible) outside
  | cons node rest =>
      rw [shape] at outside
      have away : ¬ Associations.HoldsItsEnds node := by
        intro holds
        apply outside
        rintro _ ⟨⟩
        exact holds
      obtain ⟨ids, first, second, association, members, joins⟩ := settled.joined node rest shape
      obtain ⟨cause, refused⟩ := Associations.add_refused members joins empty away
      have failed : Associations.link (node :: rest) p = .error (.ingest cause) p :=
        bind_of_error (bind_of_error refused _) _
      refine ⟨cause, ?_⟩
      rw [Step.outcome_congr (fillAssociations_apply rests.index), shape]
      unfold Step.outcome
      rw [ingestion.runStage_apply, bind_of_error failed]
      exact Store.failedWith_invalidate (rests.done settled).unfailed cause

/-- A call leaves a finished store as it is, unless an association misses an end of a class. -/
theorem take (call : Call) :
    Rests index ends store (call.take ingestion p) ∨
      ¬ ingestion.FirstHoldsItsEnds ∧ ∃ cause, (call.take ingestion p).store.FailedWith cause := by
  cases call with
  | run =>
      obtain ⟨_, ran⟩ := rests.run settled
      exact Or.inl (rests.of_journal (congrArg Prod.snd (Step.outcome_eq_ok.mpr ran)))
  | findElements => exact Or.inl (rests.findElements settled)
  | index =>
      have found : ingestion.index p = .ok index p := index_apply rests.index
      exact Or.inl (rests.of_journal (congrArg Prod.snd (Step.outcome_eq_ok.mpr found)))
  | positions kind =>
      have found : (do return (← ingestion.index).positions kind : Step _) p =
          .ok (index.positions kind) p := bind_of_ok (index_apply rests.index) _
      exact Or.inl (rests.of_journal (congrArg Prod.snd (Step.outcome_eq_ok.mpr found)))
  | fillTypes => exact Or.inl (rests.fillTypes settled)
  | fillClasses => exact Or.inl (rests.fillClasses settled).1
  | fillAssociations =>
      by_cases inside : ingestion.FirstHoldsItsEnds
      · exact Or.inl (rests.fillAssociations settled (Or.inr inside))
      · rcases rests.ends with same | empty
        · exact Or.inl (rests.fillAssociations settled (Or.inl same))
        · exact Or.inr ⟨inside, rests.fillAssociations_refused settled empty inside⟩
  | fillEnumerations => exact Or.inl (rests.fillEnumerations settled)

end Rests

/-! ## Calls in any order -/

/-- Where calls in any order may lead: the store is open, invalid, or finished by a run. -/
inductive Reached (ingestion : Ingestion) (p : Progress) : Prop where
  | opened (opened : p.store.IsOpen)
  | failed (cause : IngestFault) (invalid : p.store.FailedWith cause)
  | settled (index : Index) (ends : Table (Option String) ClassEnd) (store : Store)
      (settled : ingestion.Settled index ends store) (rests : Rests index ends store p)

/-- A run that succeeds leaves the store finished, wherever it started. -/
theorem Reached.run_eq_ok (reached : ingestion.Reached p)
    (done : ingestion.run p = .ok store q) :
    ∃ index ends, ingestion.Settled index ends store ∧ Rests index ends store q := by
  have same := ingestion.run_eq_ok_store done
  cases reached with
  | opened opened =>
      obtain ⟨course⟩ := course_of_run opened done
      have settled := course.settled (ingestion.run_meets.ok opened done)
      rw [same] at settled
      exact ⟨course.index, q.ends, settled, same, course.indexed, Or.inl rfl⟩
  | failed cause invalid =>
      cases (ingestion.run_of_failedWith invalid).symm.trans done
  | settled index ends found settled rests =>
      obtain ⟨_, again⟩ := rests.run settled
      cases again.symm.trans done
      exact ⟨index, ends, settled, rests.of_journal rfl⟩

theorem Reached.take (reached : ingestion.Reached p) (call : Call) :
    ingestion.Reached (call.take ingestion p) := by
  cases reached with
  | opened opened =>
      by_cases ran : ∃ store q, call = .run ∧ ingestion.run p = .ok store q
      · obtain ⟨store, q, rfl, done⟩ := ran
        obtain ⟨index, ends, settled, rests⟩ := (Reached.opened opened).run_eq_ok done
        have after : Call.run.take ingestion p = q :=
          congrArg Prod.snd (Step.outcome_eq_ok.mpr done)
        rw [after]
        exact .settled index ends store settled rests
      · have ends : (call.take ingestion p).store.IsOpen ∨
            ∃ cause, (call.take ingestion p).store.FailedWith cause := by
          refine call.take_store staged_isOpen (fun _ => Or.inl)
            (fun _ _ => Collapsed.isOpen_or_failedWith) opened ?_
          rintro rfl
          have result := ingestion.run_meets p opened
          unfold Step.outcome
          cases done : ingestion.run p with
          | ok store q => exact absurd ⟨store, q, rfl, done⟩ ran
          | error fault q =>
              rw [done] at result
              exact Collapsed.isOpen_or_failedWith result
        rcases ends with opened | ⟨cause, invalid⟩
        · exact .opened opened
        · exact .failed cause invalid
  | failed cause invalid =>
      have same := ingestion.after_of_failedWith [call] invalid
      rw [← same] at invalid
      exact .failed cause invalid
  | settled index ends store settled rests =>
      rcases rests.take settled call with rests | ⟨_, cause, invalid⟩
      · exact .settled index ends store settled rests
      · exact .failed cause invalid

/-- The store stays valid, frozen and the same whatever is called, and every run gives it. -/
def Lasts (ingestion : Ingestion) (store : Store) (p : Progress) : Prop :=
  ∀ calls, (ingestion.after calls p).store = store ∧
    (ingestion.after calls p).store.isValid = true ∧
    (ingestion.after calls p).store.frozen = true ∧
    (ingestion.run.outcome (ingestion.after calls p)).1 = .ok store

theorem Rests.lasts (rests : Rests index ends store p)
    (settled : ingestion.Settled index ends store) (inside : ingestion.FirstHoldsItsEnds) :
    ingestion.Lasts store p := by
  intro calls
  have still := after_induction (Rests index ends store) (fun call q rests => by
    rcases rests.take settled call with rests | ⟨outside, _⟩
    · exact rests
    · exact absurd inside outside) calls rests
  have done := still.done settled
  obtain ⟨_, again⟩ := still.run settled
  exact ⟨still.store, Store.isValid_of_unfailed done.unfailed, done.frozen,
    congrArg Prod.fst (Step.outcome_eq_ok.mpr again)⟩

/-- Reading the classes and then the associations once more makes the store invalid. -/
theorem Rests.not_lasts (rests : Rests index ends store p)
    (settled : ingestion.Settled index ends store) (outside : ¬ ingestion.FirstHoldsItsEnds) :
    ¬ ingestion.Lasts store p := by
  intro lasts
  obtain ⟨again, empty⟩ := rests.fillClasses settled
  obtain ⟨cause, invalid⟩ := again.fillAssociations_refused settled empty outside
  obtain ⟨_, valid, _⟩ := lasts [.fillClasses, .fillAssociations]
  have failed : (ingestion.after [.fillClasses, .fillAssociations] p).store.isValid = false := by
    rw [Store.isValid]
    exact congrArg Option.isNone invalid.failed
  cases failed.symm.trans valid

/--
A store that a run has given, after calls in any order, lasts through all later
calls if and only if the first association of the model holds its own ends.
-/
theorem lasts_iff (ingestion : Ingestion) (earlier : List Call) {store : Store} {p : Progress}
    (done : ingestion.run.outcome (ingestion.after earlier .initial) = (.ok store, p)) :
    ingestion.Lasts store p ↔ ingestion.FirstHoldsItsEnds := by
  have reached := after_induction ingestion.Reached (fun call _ reached => reached.take call)
    earlier (p := .initial) (.opened Store.isOpen_empty)
  obtain ⟨index, ends, settled, rests⟩ := reached.run_eq_ok (Step.outcome_eq_ok.mp done)
  refine ⟨fun lasts => ?_, rests.lasts settled⟩
  by_cases inside : ingestion.FirstHoldsItsEnds
  · exact inside
  · exact absurd lasts (rests.not_lasts settled inside)

/-- Two classes and an association between them, one end of which the first class declares. -/
def crossed : Ingestion where
  model := umlElement "Model" [] [] [
    umlElement "packagedElement" [("type", "uml:Class"), ("id", "a")] [("name", "Course")] [
      umlElement "ownedAttribute" [("id", "e0")]
        [("name", "teacher"), ("association", "r"), ("type", "b")] []],
    umlElement "packagedElement" [("type", "uml:Class"), ("id", "b")] [("name", "Teacher")] [],
    umlElement "packagedElement" [("type", "uml:Association"), ("id", "r")]
      [("memberEnd", "e0 e1")] [
        umlElement "ownedEnd" [("id", "e1")] [("name", "courses"), ("type", "a")] []]]
  database := .sql
  registry := .ofDatabase .sql
  strict := false
  document := "course.xmi"

def crossedDone : Progress := (crossed.run.outcome .initial).2

/-- An early call of a stage does not change when the store lasts. -/
theorem lasts_iff_crossed :
    crossed.run.outcome (crossed.after [.fillTypes, .index] .initial) =
        (.ok (crossed.after [.fillTypes, .index, .run] .initial).store,
          crossed.after [.fillTypes, .index, .run] .initial) ∧
      (crossed.Lasts (crossed.after [.fillTypes, .index, .run] .initial).store
          (crossed.after [.fillTypes, .index, .run] .initial) ↔ crossed.FirstHoldsItsEnds) := by
  have done : crossed.run.outcome (crossed.after [.fillTypes, .index] .initial) =
      (.ok (crossed.after [.fillTypes, .index, .run] .initial).store,
        crossed.after [.fillTypes, .index, .run] .initial) := rfl
  exact ⟨done, lasts_iff crossed [.fillTypes, .index] done⟩

/-- The classes give up the end `e0` when they are read again, and then it is missing. -/
theorem not_lasts_crossed :
    crossed.run.outcome .initial = (.ok crossedDone.store, crossedDone) ∧
      (crossed.after [.fillClasses, .fillAssociations] crossedDone).store.failure =
        some (.unresolved (.text "e0") (.text "association end") (.text "r")) ∧
      ¬ crossed.Lasts crossedDone.store crossedDone := by
  refine ⟨rfl, rfl, fun lasts => ?_⟩
  obtain ⟨_, valid, _⟩ := lasts [.fillClasses, .fillAssociations]
  cases valid

end Ingestion

end ClassDiagram
