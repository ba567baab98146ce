import ClassDiagram.Proofs.Interleaving
import ClassDiagram.Proofs.Telling

/-!
# What a first run tells

A run tells when each of its stages is complete and when one of them fails.
It tells no error where it succeeds.  Where it fails, the stage tells the
failure, and the error that a builder has told before stands beside it.
-/

namespace ClassDiagram

open Step (bind_eq_error bind_eq_ok bind_of_error bind_of_ok outcome_eq_error outcome_eq_ok)

namespace Journal

def errors (journal : Journal) : List Entry :=
  journal.filter fun entry => entry.event.level = .error

def completions (journal : Journal) : List Entry :=
  journal.filter fun entry => entry.event.isCompletion

theorem errors_append (front back : Journal) :
    errors (front ++ back) = errors front ++ errors back :=
  List.filter_append ..

theorem completions_append (front back : Journal) :
    completions (front ++ back) = completions front ++ completions back :=
  List.filter_append ..

theorem errors_of_routine {events : List Event} (routine : AllRoutine events) :
    errors (ofEvents events) = [] := by
  refine List.filter_eq_nil_iff.mpr fun entry inside => ?_
  obtain ⟨event, listed, rfl⟩ := List.mem_map.mp inside
  have mild := routine event listed
  simp only [Event.isRoutine, Bool.and_eq_true, decide_eq_true_eq] at mild
  simpa using mild.1

theorem completions_of_routine {events : List Event} (routine : AllRoutine events) :
    completions (ofEvents events) = [] := by
  refine List.filter_eq_nil_iff.mpr fun entry inside => ?_
  obtain ⟨event, listed, rfl⟩ := List.mem_map.mp inside
  have mild := routine event listed
  simp only [Event.isRoutine, Bool.and_eq_true, Bool.not_eq_true'] at mild
  simp [mild.2]

end Journal

namespace Ingestion

variable (ingestion : Ingestion) {stage : Stage}

/-! ## One stage -/

def completion (ingestion : Ingestion) (stage : Stage) : Entry :=
  ⟨.stageCompleted stage, ingestion.place stage⟩

def failure (ingestion : Ingestion) (stage : Stage) (cause : IngestFault) : Entry :=
  ⟨.stageFailed stage cause, ingestion.place stage⟩

/--
What a stage has told when it ends: routine and its completion, with the index
that it leaves, or routine and its failure after the errors of its builders, or
routine alone if it ends in a stray fault.
-/
inductive Performed {α : Type} (ingestion : Ingestion) (stage : Stage) (index : Option Index)
    (before : Journal) : EStateM.Result Fault Progress α → Prop where
  | completed {a : α} {q : Progress} {events : List Event} (routine : AllRoutine events)
      (opened : q.store.IsOpen) (indexed : q.index = index)
      (journal : q.journal =
        before ++ (Journal.ofEvents events ++ [ingestion.completion stage])) :
      Performed ingestion stage index before (.ok a q)
  | failed {q : Progress} {cause : IngestFault} {events errors : List Event}
      (routine : AllRoutine events) (warned : Warned stage.warnsOf (.ingest cause) errors)
      (journal : q.journal = before ++
        (Journal.ofEvents (events ++ errors) ++ [ingestion.failure stage cause])) :
      Performed ingestion stage index before (.error (.ingest cause) q)
  | strayed {q : Progress} {fault : Fault} {events : List Event} (routine : AllRoutine events)
      (strays : fault.IsStray) (journal : q.journal = before ++ Journal.ofEvents events) :
      Performed ingestion stage index before (.error fault q)

theorem runStage_performed {α : Type} {action : Step α} {p : Progress}
    (tells : Step.Tells stage.warnsOf action) (opened : p.store.IsOpen) :
    Performed ingestion stage p.index p.journal (ingestion.runStage stage action p) := by
  have result := tells p opened
  rw [runStage_apply]
  cases done : action p with
  | ok a q =>
      rw [done] at result
      obtain ⟨events, routine, leads⟩ := result
      refine .completed routine leads.opened leads.index ?_
      rw [leads.journal, List.append_assoc]
      rfl
  | error fault q =>
      rw [done] at result
      obtain ⟨events, errors, routine, warned, leads⟩ := result
      cases fault with
      | ingest cause =>
          refine .failed routine warned ?_
          rw [leads.journal, List.append_assoc]
          rfl
      | _ =>
          cases warned with
          | stray strays =>
              refine .strayed routine strays ?_
              rw [leads.journal, List.append_nil]

def perform (ingestion : Ingestion) : Stage → Step Unit
  | .index => do let _ ← ingestion.findElements
  | .types => do let _ ← ingestion.fillTypes
  | .classes => do let _ ← ingestion.fillClasses
  | .associations => do let _ ← ingestion.fillAssociations
  | .enumerations => do let _ ← ingestion.fillEnumerations

/-- What a stage gives does not matter for what it has told. -/
theorem Performed.forget {ingestion : Ingestion} {α : Type} {index : Option Index}
    {before : Journal} {step : Step α} {p : Progress}
    (performed : Performed ingestion stage index before (step p)) :
    Performed ingestion stage index before ((step >>= fun _ => pure ()) p) := by
  rw [Step.bind_apply]
  revert performed
  generalize step p = result
  rintro (⟨routine, opened, indexed, journal⟩ | ⟨routine, warned, journal⟩ |
    ⟨routine, strays, journal⟩)
  · exact .completed routine opened indexed journal
  · exact .failed routine warned journal
  · exact .strayed routine strays journal

/-- Classifying the elements tells nothing but routine. -/
theorem classify_tells : Step.Tells Stage.index.warnsOf (do
    let index ← Step.lift (Index.ofModel ingestion.strict ingestion.model)
    Step.tellAll index.events
    return index) := by
  refine .bind (.lift fun fault failed => ?_) fun index => .bind (.tellAll ?_) fun _ => .pure index
  · rcases Index.ofModel_eq_error failed with rfl | ⟨cause, rfl⟩
    · exact .stray .brokenName
    · exact .untold rfl
  · intro event inside
    rcases List.mem_append.mp inside with skipped | indexed
    · obtain ⟨_, _, rfl⟩ := List.mem_map.mp skipped
      rfl
    · cases List.mem_singleton.mp indexed
      rfl

theorem findElements_performed {p : Progress} (opened : p.store.IsOpen) :
    ∃ index, Performed ingestion .index (some index) p.journal (ingestion.findElements p) := by
  have staged := ingestion.runStage_performed ingestion.classify_tells opened
  unfold findElements
  rw [Step.bind_apply]
  revert staged
  generalize ingestion.runStage .index _ p = result
  rintro (⟨routine, opened, _, journal⟩ | ⟨routine, warned, journal⟩ |
    ⟨routine, strays, journal⟩)
  · exact ⟨_, .completed routine opened rfl journal⟩
  -- Where the stage has failed no index is kept, so it does not matter which one is named.
  · exact ⟨default, .failed routine warned journal⟩
  · exact ⟨default, .strayed routine strays journal⟩

/-- Stages that may be performed next: the elements are classified first of all. -/
structure Ready (stages : List Stage) (p : Progress) : Prop where
  opened : p.store.IsOpen
  starts : p.index = none → ∀ stage ∈ stages.head?, stage = .index

theorem perform_performed {rest : List Stage} {p : Progress} (ready : Ready (stage :: rest) p) :
    ∃ index, Performed ingestion stage (some index) p.journal (ingestion.perform stage p) := by
  by_cases first : stage = .index
  · obtain ⟨index, classified⟩ := ingestion.findElements_performed ready.opened
    rw [first]
    exact ⟨index, classified.forget⟩
  · obtain ⟨index, indexed⟩ := Option.ne_none_iff_exists'.mp fun fresh =>
      first (ready.starts fresh stage rfl)
    refine ⟨index, ?_⟩
    rw [← indexed]
    cases stage with
    | index => exact absurd rfl first
    | types =>
        refine Performed.forget ?_
        rw [fillTypes_apply indexed]
        exact ingestion.runStage_performed
          (.bind (Typing.declareAll_tells _ _) fun _ => .pure _) ready.opened
    | classes =>
        refine Performed.forget ?_
        rw [fillClasses_apply indexed]
        have opened : { p with ends := .empty }.store.IsOpen := ready.opened
        exact ingestion.runStage_performed
          (.bind (Classes.addAll_tells _ _ _) fun _ => .pure _) opened
    | associations =>
        refine Performed.forget ?_
        rw [fillAssociations_apply indexed]
        exact ingestion.runStage_performed
          (.bind (Associations.link_tells _) fun _ => .pure _) ready.opened
    | enumerations =>
        refine Performed.forget ?_
        rw [fillEnumerations_apply indexed]
        exact ingestion.runStage_performed
          (.bind (Enumerations.addAll_tells _) fun _ => .pure _) ready.opened

/-! ## Stages in a row -/

def performAll (ingestion : Ingestion) : List Stage → Step Unit
  | [] => pure ()
  | stage :: rest => do
      ingestion.perform stage
      ingestion.performAll rest

/-- Entries that hold no error, and tell that stages are complete, just these and in order. -/
structure TellsStages (ingestion : Ingestion) (stages : List Stage) (told : Journal) : Prop where
  mild : Journal.errors told = []
  complete : Journal.completions told = stages.map ingestion.completion

theorem tellsStages_of_routine {events : List Event} (routine : AllRoutine events) :
    ingestion.TellsStages [] (Journal.ofEvents events) :=
  ⟨Journal.errors_of_routine routine, Journal.completions_of_routine routine⟩

theorem tellsStages_completion (stage : Stage) :
    ingestion.TellsStages [stage] [ingestion.completion stage] := ⟨rfl, rfl⟩

theorem TellsStages.append {ingestion : Ingestion} {stages more : List Stage}
    {told later : Journal} (first : ingestion.TellsStages stages told)
    (second : ingestion.TellsStages more later) :
    ingestion.TellsStages (stages ++ more) (told ++ later) where
  mild := by rw [Journal.errors_append, first.mild, second.mild, List.append_nil]
  complete := by rw [Journal.completions_append, first.complete, second.complete, List.map_append]

/-- Stages that have been performed have told that they are complete. -/
theorem performAll_eq_ok {stages rest : List Stage} {p q : Progress}
    (ready : Ready (stages ++ rest) p) (done : ingestion.performAll stages p = .ok () q) :
    Ready rest q ∧ ∃ told, q.journal = p.journal ++ told ∧ ingestion.TellsStages stages told := by
  induction stages generalizing p with
  | nil =>
      cases done
      exact ⟨ready, [], (List.append_nil _).symm, rfl, rfl⟩
  | cons stage stages ih =>
      obtain ⟨_, r, first, others⟩ := bind_eq_ok.mp done
      obtain ⟨index, performed⟩ := ingestion.perform_performed ready
      rw [first] at performed
      cases performed with
      | @completed _ _ events routine opened indexed journal =>
          have onward : Ready (stages ++ rest) r := by
            refine ⟨opened, fun fresh => ?_⟩
            rw [indexed] at fresh
            cases fresh
          obtain ⟨readyAlso, told, journalAlso, tells⟩ := ih onward others
          refine ⟨readyAlso, Journal.ofEvents events ++ [ingestion.completion stage] ++ told,
            ?_, ?_⟩
          · rw [journalAlso, journal, List.append_assoc]
          · have here := (ingestion.tellsStages_of_routine routine).append
              (ingestion.tellsStages_completion stage)
            exact here.append tells

/-- Stages fail in the first of them that fails, after those before it. -/
theorem performAll_eq_error {stages : List Stage} {p q : Progress} {fault : Fault}
    (failed : ingestion.performAll stages p = .error fault q) :
    ∃ before stage after r, stages = before ++ stage :: after ∧
      ingestion.performAll before p = .ok () r ∧ ingestion.perform stage r = .error fault q := by
  induction stages generalizing p with
  | nil => cases failed
  | cons stage stages ih =>
      rcases bind_eq_error.mp failed with here | ⟨_, s, first, later⟩
      · exact ⟨[], stage, stages, p, rfl, rfl, here⟩
      · obtain ⟨before, other, after, r, shape, passed, falls⟩ := ih later
        exact ⟨stage :: before, other, after, r, congrArg (stage :: ·) shape,
          bind_eq_ok.mpr ⟨(), s, first, passed⟩, falls⟩

theorem performAll_append (before after : List Stage) : ingestion.performAll (before ++ after) =
    ingestion.performAll before >>= fun _ => ingestion.performAll after := by
  induction before with
  | nil => rfl
  | cons stage before ih =>
      rw [List.cons_append, performAll, ih, performAll, bind_assoc]

/-! ## The whole run -/

def conclude (ingestion : Ingestion) : Step Store := do
  Step.change (modify Store.freeze)
  ingestion.tellFrom "parse" (.finished (← Step.store).summary)
  Step.store

theorem run_apply {p : Progress} (opened : p.store.IsOpen) :
    ingestion.run p =
      (ingestion.performAll Stage.all >>= fun _ => ingestion.conclude) (ingestion.begin p) := by
  have started : ingestion.tellFrom "parse" (.started ingestion.database) p =
      .ok () (ingestion.begin p) := rfl
  rw [ingestion.run_of_isOpen opened, runStages, bind_assoc, bind_of_ok started]
  simp only [Stage.all, performAll, perform, conclude, bind_assoc, pure_bind]

/-- The first run passes the stages `before`, and ends in a fault in the stage after them. -/
structure FailsIn (ingestion : Ingestion) (before : List Stage) (stage : Stage) (fault : Fault)
    (p : Progress) : Prop where
  order : ∃ after, Stage.all = before ++ stage :: after
  falls : ∃ r, ingestion.performAll before (ingestion.begin .initial) = .ok () r ∧
    ingestion.perform stage r = .error fault p

theorem ready_begin : Ready Stage.all (ingestion.begin .initial) := by
  refine ⟨Store.isOpen_empty, fun _ stage first => ?_⟩
  cases first
  rfl

variable {ingestion} {before : List Stage} {fault : Fault} {cause : IngestFault} {p : Progress}

theorem FailsIn.run_outcome (fails : ingestion.FailsIn before stage fault p) :
    ingestion.run.outcome .initial = (.error fault, p) := by
  obtain ⟨⟨after, order⟩, r, passed, falls⟩ := fails
  have stopped : ingestion.performAll Stage.all (ingestion.begin .initial) = .error fault p := by
    rw [order, performAll_append, bind_of_ok passed]
    exact bind_of_error falls _
  rw [outcome_eq_error, ingestion.run_apply Store.isOpen_empty]
  exact bind_of_error stopped _

/-- A first run fails in one of its stages. -/
theorem exists_failsIn (failed : ingestion.run.outcome .initial = (.error fault, p)) :
    ∃ before stage, ingestion.FailsIn before stage fault p := by
  have ran := outcome_eq_error.mp failed
  rw [ingestion.run_apply Store.isOpen_empty] at ran
  rcases bind_eq_error.mp ran with stopped | ⟨_, _, _, concluded⟩
  · obtain ⟨before, stage, after, r, order, passed, falls⟩ := ingestion.performAll_eq_error stopped
    exact ⟨before, stage, ⟨after, order⟩, r, passed, falls⟩
  · cases concluded

theorem tellsStages_begin (ingestion : Ingestion) :
    ingestion.TellsStages [] (ingestion.begin .initial).journal := ⟨rfl, rfl⟩

/-- Up to the stage that fails it is told that the stages before it are complete. -/
theorem FailsIn.performed (fails : ingestion.FailsIn before stage fault p) :
    ∃ earlier index, ingestion.TellsStages before earlier ∧
      Performed ingestion stage index earlier (.error fault p : EStateM.Result _ _ Unit) := by
  obtain ⟨⟨after, order⟩, r, passed, falls⟩ := fails
  have ready := ingestion.ready_begin
  rw [order] at ready
  obtain ⟨readyAlso, told, journal, tells⟩ := ingestion.performAll_eq_ok ready passed
  obtain ⟨index, performed⟩ := ingestion.perform_performed readyAlso
  rw [falls] at performed
  refine ⟨r.journal, some index, ?_, performed⟩
  rw [journal]
  exact ingestion.tellsStages_begin.append tells

/--
The failure of a stage comes last.  Before it stands the error of a builder, if
that warns of the fault, and before that it is told that the stages that have
been passed are complete.
-/
def TellsFailure (ingestion : Ingestion) (before : List Stage) (stage : Stage)
    (cause : IngestFault) (journal : Journal) : Prop :=
  ∃ earlier errors, Warned stage.warnsOf (.ingest cause) errors ∧
    journal = earlier ++ (Journal.ofEvents errors ++ [ingestion.failure stage cause]) ∧
    ingestion.TellsStages before earlier

theorem FailsIn.tellsFailure (fails : ingestion.FailsIn before stage (.ingest cause) p) :
    ingestion.TellsFailure before stage cause p.journal := by
  obtain ⟨earlier, index, tells, performed⟩ := fails.performed
  cases performed with
  | strayed _ strays => cases strays
  | @failed _ _ events errors routine warned journal =>
      refine ⟨earlier ++ Journal.ofEvents events, errors, warned, ?_, ?_⟩
      · rw [journal, Journal.ofEvents, List.map_append, List.append_assoc, List.append_assoc]
        rfl
      · have same := tells.append (ingestion.tellsStages_of_routine routine)
        rwa [List.append_nil] at same

def Accounts (ingestion : Ingestion) : Prop :=
  match ingestion.run.outcome .initial with
  | (.ok _, p) => ingestion.TellsStages Stage.all p.journal
  | (.error (.ingest cause), p) => ∃ before stage,
      ingestion.FailsIn before stage (.ingest cause) p ∧
        ingestion.TellsFailure before stage cause p.journal
  | (.error fault, p) => fault.IsStray ∧ Journal.errors p.journal = []

theorem errors_of_stray (strays : fault.IsStray)
    (failed : ingestion.run.outcome .initial = (.error fault, p)) :
    Journal.errors p.journal = [] := by
  obtain ⟨before, stage, fails⟩ := exists_failsIn failed
  obtain ⟨earlier, index, tells, performed⟩ := fails.performed
  cases performed with
  | failed => cases strays
  | strayed routine _ journal =>
      rw [journal]
      exact (tells.append (ingestion.tellsStages_of_routine routine)).mild

theorem accounts (ingestion : Ingestion) : ingestion.Accounts := by
  unfold Accounts
  cases ran : ingestion.run.outcome .initial with
  | mk result p =>
      cases result with
      | ok store =>
          have done := outcome_eq_ok.mp ran
          rw [ingestion.run_apply Store.isOpen_empty] at done
          obtain ⟨_, q, performed, concluded⟩ := bind_eq_ok.mp done
          have ready : Ready (Stage.all ++ []) (ingestion.begin .initial) := ingestion.ready_begin
          obtain ⟨_, told, journal, tells⟩ := ingestion.performAll_eq_ok ready performed
          cases concluded
          have finished : ingestion.TellsStages [] [⟨.finished q.store.freeze.summary,
              some ⟨ingestion.document, "parse"⟩⟩] := ⟨rfl, rfl⟩
          have whole := (ingestion.tellsStages_begin.append tells).append finished
          rw [← journal] at whole
          exact whole
      | error fault =>
          have collapsed : Collapsed fault p.store :=
            ingestion.run_meets.error Store.isOpen_empty (outcome_eq_error.mp ran)
          cases fault with
          | ingest cause =>
              obtain ⟨before, stage, fails⟩ := exists_failsIn ran
              exact ⟨before, stage, fails, fails.tellsFailure⟩
          | _ => exact ⟨collapsed.1, errors_of_stray collapsed.1 ran⟩

/--
A first run tells no error where it succeeds.  Where it fails it tells one, from
the stage that fails, and that the stages before that one are complete.
-/
def TellsOnce (ingestion : Ingestion) : Prop :=
  match ingestion.run.outcome .initial with
  | (.ok _, p) => Journal.errors p.journal = []
  | (.error (.ingest cause), p) => ∃ before stage front entry back,
      ingestion.FailsIn before stage (.ingest cause) p ∧
        p.journal = front ++ entry :: back ∧ Journal.errors p.journal = [entry] ∧
        entry.place = ingestion.place stage ∧
        Journal.completions front = before.map ingestion.completion
  | (.error _, _) => True

/-- A fault that a builder warns of is told twice. -/
theorem FailsIn.unwarned (fails : ingestion.FailsIn before stage (.ingest cause) p)
    (once : ingestion.TellsOnce) : stage.warnsOf cause = false := by
  obtain ⟨earlier, errors, warned, journal, tells⟩ := fails.tellsFailure
  unfold TellsOnce at once
  rw [fails.run_outcome] at once
  obtain ⟨_, _, _, entry, _, _, _, single, _⟩ := once
  cases warned with
  | stray strays => cases strays
  | untold unwarned => exact unwarned
  | @told _ event _ serious =>
      have first : Journal.errors (Journal.ofEvents [event]) = [⟨event, none⟩] :=
        List.filter_cons_of_pos (by simpa using serious)
      rw [journal, Journal.errors_append, tells.mild, Journal.errors_append, first] at single
      cases single

/-- A fault that no builder warns of is told by its stage alone. -/
theorem tellsOnce_of_unwarned (unwarned : ∀ before stage cause p,
    ingestion.FailsIn before stage (.ingest cause) p → stage.warnsOf cause = false) :
    ingestion.TellsOnce := by
  have told := ingestion.accounts
  unfold Accounts at told
  unfold TellsOnce
  cases ran : ingestion.run.outcome .initial with
  | mk result p =>
      rw [ran] at told
      cases result with
      | ok store => exact told.mild
      | error fault =>
          cases fault with
          | ingest cause =>
              obtain ⟨before, stage, fails, earlier, errors, warned, journal, tells⟩ := told
              have silent := unwarned before stage cause p fails
              cases warned with
              | stray strays => cases strays
              | told warned => exact absurd warned (by simp [silent])
              | untold =>
                  refine ⟨before, stage, earlier, ingestion.failure stage cause, [], fails,
                    journal, ?_, rfl, tells.complete⟩
                  rw [journal, Journal.errors_append, tells.mild]
                  rfl
          | _ => trivial

/--
A failure is told once unless it is one that a builder warns of, which is then
told twice.
-/
theorem tellsOnce_iff (ingestion : Ingestion) :
    (ingestion.TellsOnce ↔ ∀ before stage cause p,
      ingestion.FailsIn before stage (.ingest cause) p → stage.warnsOf cause = false) ∧
    ingestion.Accounts :=
  ⟨⟨fun once _ _ _ _ fails => fails.unwarned once, tellsOnce_of_unwarned⟩, ingestion.accounts⟩

/-- A model that declares a type its registry does not know. -/
def canvas : Ingestion where
  model := umlElement "Model" [] [] [
    umlElement "packagedElement" [("type", "uml:PrimitiveType"), ("id", "t")]
      [("name", "Paint")] []]
  database := .sql
  registry := .ofDatabase .sql
  strict := false
  document := "canvas.xmi"

def canvasFault : IngestFault := .wrongType (.text "Paint") .absent .absent

/-- Of an unknown type the builder tells first, without a place, and then the stage does. -/
theorem not_tellsOnce_canvas :
    ¬ canvas.TellsOnce ∧
      (canvas.run.outcome .initial).1 = .error (.ingest canvasFault) ∧
      Journal.errors (canvas.run.outcome .initial).2.journal =
        [⟨.typeUnsupported (some "Paint") .sql, none⟩, canvas.failure .types canvasFault] := by
  have ran : (canvas.run.outcome .initial).1 = .error (.ingest canvasFault) := by rfl
  have twice : Journal.errors (canvas.run.outcome .initial).2.journal =
      [⟨.typeUnsupported (some "Paint") .sql, none⟩, canvas.failure .types canvasFault] := by rfl
  refine ⟨fun once => ?_, ran, twice⟩
  have shape : canvas.run.outcome .initial =
      (.error (.ingest canvasFault), (canvas.run.outcome .initial).2) := Prod.ext ran rfl
  unfold TellsOnce at once
  rw [shape] at once
  obtain ⟨_, _, _, _, _, _, _, single, _⟩ := once
  rw [twice] at single
  cases single

end Ingestion

end ClassDiagram
