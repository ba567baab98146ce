import ClassDiagram.Proofs.Course
import Mathlib.Data.List.Forall2

/-!
# Steps that agree

Reading elements looks at the store and at the ends that classes declare, and
at nothing else of the progress.  So from two progresses that are alike a step
ends in the same result and in two progresses that are alike again, or in the
same fault and with the same store.
-/

namespace ClassDiagram

open Xml (Node)

namespace Step

/-- From related progresses two steps end alike. -/
def Agree {α : Type} (rel : Progress → Progress → Prop) (left right : Step α) : Prop :=
  ∀ p q, rel p q → match left p, right q with
    | .ok a p', .ok b q' => a = b ∧ rel p' q'
    | .error fault p', .error other q' => fault = other ∧ p'.store = q'.store
    | _, _ => False

/-- Related progresses have the same store, and stay related when it is changed alike. -/
structure Shares (rel : Progress → Progress → Prop) : Prop where
  same : ∀ {p q}, rel p q → p.store = q.store
  keeps : ∀ {p q}, rel p q → ∀ store journal other,
    rel { p with store, journal } { q with store, journal := other }

def SameStore (p q : Progress) : Prop := p.store = q.store

theorem shares_sameStore : Shares SameStore where
  same start := start
  keeps _ _ _ _ := rfl

/-- Two progresses have the same store and the same ends; each has an index of its own. -/
structure Alike (left right : Option Index) (p q : Progress) : Prop where
  store : p.store = q.store
  ends : p.ends = q.ends
  index_left : p.index = left
  index_right : q.index = right

theorem shares_alike (left right : Option Index) : Shares (Alike left right) where
  same start := start.store
  keeps start _ _ _ := ⟨rfl, start.ends, start.index_left, start.index_right⟩

/-- Related progresses stay related when the same end is kept in both. -/
def KeepsEnd (rel : Progress → Progress → Prop) (node : Node) : Prop :=
  ∀ {p q}, rel p q → ∀ owner,
    rel { p with ends := p.ends.insert (id? node) ⟨owner, node⟩ }
      { q with ends := q.ends.insert (id? node) ⟨owner, node⟩ }

theorem keepsEnd_alike (left right : Option Index) (node : Node) :
    KeepsEnd (Alike left right) node :=
  fun start owner => ⟨start.store, by rw [start.ends], start.index_left, start.index_right⟩

/-- Progresses that are alike under one index differ in their journals alone. -/
theorem Alike.eq_of_index {index : Option Index} {p q : Progress} (alike : Alike index index p q) :
    q = { p with journal := q.journal } := by
  obtain ⟨store, ends, left, right⟩ := alike
  cases p
  cases q
  simp_all

namespace Agree

variable {α β : Type} {rel : Progress → Progress → Prop}

theorem ok {left right : Step α} (agree : Agree rel left right) {p q p' : Progress} {a : α}
    (start : rel p q) (done : left p = .ok a p') : ∃ q', right q = .ok a q' ∧ rel p' q' := by
  have result := agree p q start
  rw [done] at result
  cases ran : right q with
  | ok b q' =>
      rw [ran] at result
      obtain ⟨rfl, ended⟩ := result
      exact ⟨q', rfl, ended⟩
  | error fault q' =>
      rw [ran] at result
      exact result.elim

theorem error {left right : Step α} (agree : Agree rel left right) {p q p' : Progress}
    {fault : Fault} (start : rel p q) (failed : left p = .error fault p') :
    ∃ q', right q = .error fault q' ∧ p'.store = q'.store := by
  have result := agree p q start
  rw [failed] at result
  cases ran : right q with
  | ok b q' =>
      rw [ran] at result
      exact result.elim
  | error other q' =>
      rw [ran] at result
      obtain ⟨rfl, ended⟩ := result
      exact ⟨q', rfl, ended⟩

theorem bind {left right : Step α} {next other : α → Step β} (first : Agree rel left right)
    (rest : ∀ a, Agree rel (next a) (other a)) : Agree rel (left >>= next) (right >>= other) := by
  intro p q start
  rw [bind_apply, bind_apply]
  cases ran : left p with
  | ok a p' =>
      obtain ⟨q', again, ended⟩ := first.ok start ran
      rw [again]
      exact rest a p' q' ended
  | error fault p' =>
      obtain ⟨q', again, ended⟩ := first.error start ran
      rw [again]
      exact ⟨rfl, ended⟩

theorem pure (a : α) : Agree rel (Pure.pure a) (Pure.pure a) := fun _ _ start => ⟨rfl, start⟩

theorem ite {condition : Prop} [Decidable condition] {left right left' right' : Step α}
    (yes : Agree rel left left') (no : Agree rel right right') :
    Agree rel (if condition then left else right) (if condition then left' else right') := by
  split
  · exact yes
  · exact no

theorem modify {f g : Progress → Progress} (kept : ∀ p q, rel p q → rel (f p) (g q)) :
    Agree rel (modify f : Step PUnit) (modify g) :=
  fun p q start => ⟨rfl, kept p q start⟩

/-- What is done with two related progresses ends alike. -/
theorem get_bind {next other : Progress → Step α}
    (rest : ∀ p q, rel p q → Agree rel (next p) (other q)) :
    Agree rel (get >>= next) (get >>= other) := by
  intro p q start
  rw [bind_apply, bind_apply, get_apply, get_apply]
  exact rest p q start p q start

/-- Steps that agree for nodes in the same places agree for the lists of them. -/
theorem each₂ {step other : Node → Step Unit} {nodes others : List Node}
    (round : List.Forall₂ (fun left right => Agree rel (step left) (other right)) nodes others) :
    Agree rel (Step.each step nodes) (Step.each other others) := by
  induction round with
  | nil => exact pure ()
  | cons here _ ih => exact bind here fun _ => ih

theorem each {step other : Node → Step Unit} {nodes : List Node}
    (round : ∀ node ∈ nodes, Agree rel (step node) (other node)) :
    Agree rel (Step.each step nodes) (Step.each other nodes) :=
  each₂ (List.forall₂_same.mpr round)

variable (shares : Shares rel)
include shares

theorem throw (fault : Fault) :
    Agree rel (throw fault : Step α) (MonadExcept.throw fault) :=
  fun _ _ start => ⟨rfl, shares.same start⟩

theorem refuse (cause : IngestFault) :
    Agree rel (Step.refuse cause : Step α) (Step.refuse cause) :=
  throw shares (.ingest cause)

theorem lift (result : Except Fault α) : Agree rel (Step.lift result) (Step.lift result) := by
  cases result with
  | ok a => exact pure a
  | error fault => exact throw shares fault

theorem tellFrom (place other : Option Place) (event : Event) :
    Agree rel (Step.tellFrom place event) (Step.tellFrom other event) := by
  refine modify fun p q start => ?_
  have kept := shares.keeps start p.store (p.journal ++ [⟨event, place⟩])
    (q.journal ++ [⟨event, other⟩])
  rw [shares.same start] at kept ⊢
  exact kept

theorem tell (event : Event) : Agree rel (Step.tell event) (Step.tell event) :=
  tellFrom shares none none event

theorem change (operation : Store.Change Unit) :
    Agree rel (Step.change operation) (Step.change operation) := by
  intro p q start
  rw [change_apply, change_apply, shares.same start]
  cases operation q.store with
  | ok _ store => exact ⟨rfl, shares.keeps start store p.journal q.journal⟩
  | error fault store => exact ⟨rfl, rfl⟩

theorem store : Agree rel Step.store Step.store := fun _ _ start => ⟨shares.same start, start⟩

/-- What is done with the store is done with the same store. -/
theorem store_bind {next other : Store → Step α}
    (rest : ∀ store, Agree rel (next store) (other store)) :
    Agree rel (Step.store >>= next) (Step.store >>= other) := by
  intro p q start
  rw [store_bind_apply, store_bind_apply, shares.same start]
  exact rest q.store p q start

/-- Steps that agree have the same outcome and leave the same store. -/
theorem outcome {left right : Step α} (agree : Agree rel left right) {p q : Progress}
    (start : rel p q) : (left.outcome p).1 = (right.outcome q).1 ∧
      (left.outcome p).2.store = (right.outcome q).2.store := by
  cases ran : left p with
  | ok a p' =>
      obtain ⟨q', again, ended⟩ := agree.ok start ran
      rw [outcome_eq_ok.mpr ran, outcome_eq_ok.mpr again]
      exact ⟨rfl, shares.same ended⟩
  | error fault p' =>
      obtain ⟨q', again, ended⟩ := agree.error start ran
      rw [outcome_eq_error.mpr ran, outcome_eq_error.mpr again]
      exact ⟨rfl, ended⟩

omit shares in
/-- Where two steps fall, their repairs see the same store and may see no more. -/
theorem repairing {left right : Step α} {repair other : IngestFault → Step Unit}
    (first : Agree rel left right)
    (repaired : ∀ cause, Agree SameStore (repair cause) (other cause)) :
    Agree rel (Step.repairing left repair) (Step.repairing right other) := by
  intro p q start
  rw [repairing_apply, repairing_apply]
  cases ran : left p with
  | ok a p' =>
      obtain ⟨q', again, ended⟩ := first.ok start ran
      rw [again]
      exact ⟨rfl, ended⟩
  | error fault p' =>
      obtain ⟨q', again, ended⟩ := first.error start ran
      rw [again]
      cases fault with
      | ingest cause =>
          dsimp only
          have told : Agree SameStore
              (repair cause >>= fun _ => (MonadExcept.throw (.ingest cause) : Step α))
              (other cause >>= fun _ => MonadExcept.throw (.ingest cause)) :=
            (repaired cause).bind fun _ => throw shares_sameStore _
          cases fell : (repair cause >>= fun _ => (MonadExcept.throw (.ingest cause) : Step α)) p'
            with
          | ok a r =>
              obtain ⟨_, _, _, impossible⟩ := bind_eq_ok.mp fell
              cases impossible
          | error fault r =>
              obtain ⟨s, also, same⟩ := told.error ended fell
              rw [also]
              exact ⟨rfl, same⟩
      | _ => exact ⟨rfl, ended⟩

end Agree

end Step

section

open Step (Agree Shares)

variable {rel : Progress → Progress → Prop} (shares : Shares rel)
include shares

namespace Typing

theorem canonicalName_agree (registry : Registry) (name : Option String) :
    Agree rel (canonicalName registry name) (canonicalName registry name) :=
  .ite (.lift shares _) (.bind (.tell shares _) fun _ => .refuse shares _)

theorem declare_agree (registry : Registry) (node : Node) :
    Agree rel (declare registry node) (declare registry node) :=
  .bind (canonicalName_agree shares registry _) fun _ =>
    .bind (.lift shares _) fun _ => .bind (.change shares _) fun _ => .tell shares _

theorem declareAll_agree (registry : Registry) (nodes : List Node) :
    Agree rel (declareAll registry nodes) (declareAll registry nodes) := by
  rw [declareAll_eq_each]
  exact .each fun node _ => declare_agree shares registry node

theorem infer_agree (canonical : String) (field : Option String) :
    Agree rel (infer canonical field) (infer canonical field) :=
  .store_bind shares fun _ =>
    .ite
      (.bind (.lift shares _) fun _ => .bind (.change shares _) fun _ => .tell shares _)
      (.pure _)

theorem resolve_agree (registry : Registry) (enumerations : List (Option String))
    (owner : String) (field : Node) :
    Agree rel (resolve registry enumerations owner field)
      (resolve registry enumerations owner field) := by
  refine .store_bind shares fun store => ?_
  cases referred? store enumerations field with
  | some reference => exact .pure reference
  | none =>
      refine .bind (.lift shares _) fun name => .ite ?_ (.refuse shares _)
      exact .bind (.lift shares _) fun canonical =>
        .bind (infer_agree shares canonical _) fun _ => .pure canonical

end Typing

namespace Classes

theorem requireTitle_agree (what : String) (node : Node) :
    Agree rel (requireTitle what node) (requireTitle what node) := by
  unfold requireTitle
  cases title? node with
  | some name => exact .pure name
  | none => exact .refuse shares _

theorem addClass_agree (node : Node) : Agree rel (addClass node) (addClass node) :=
  .bind (requireTitle_agree shares _ node) fun _ =>
    .bind (.lift shares _) fun _ => .bind (.lift shares _) fun _ =>
      .bind (.change shares _) fun _ => .bind (.tell shares _) fun _ => .pure _

theorem addField_agree (registry : Registry) (enumerations : List (Option String))
    (owner : String) (node : Node) :
    Agree rel (addField registry enumerations owner node)
      (addField registry enumerations owner node) :=
  .bind (requireTitle_agree shares _ node) fun _ =>
    .bind (Typing.resolve_agree shares registry enumerations owner node) fun _ =>
      .bind (.lift shares _) fun _ => .bind (.lift shares _) fun _ =>
        .bind (.change shares _) fun _ => .tell shares _

theorem addAttribute_agree (registry : Registry) (enumerations : List (Option String))
    (owner : String) {node : Node} (kept : Step.KeepsEnd rel node) :
    Agree rel (addAttribute registry enumerations owner node)
      (addAttribute registry enumerations owner node) :=
  .ite (.modify fun _ _ start => kept start owner)
    (addField_agree shares registry enumerations owner node)

theorem addMembers_agree (registry : Registry) (enumerations : List (Option String))
    (owner : String) {attributes : Node.Selection}
    (kept : ∀ node ∈ attributes.found, Step.KeepsEnd rel node) :
    Agree rel (addMembers registry enumerations owner attributes)
      (addMembers registry enumerations owner attributes) := by
  unfold addMembers
  rw [addAttributes_eq_each]
  refine .bind (.each fun node inside => ?_) fun _ => .ite (.throw shares _) (.pure ())
  exact addAttribute_agree shares registry enumerations owner (kept node inside)

theorem add_agree (registry : Registry) (enumerations : List (Option String)) {node : Node}
    (kept : ∀ child ∈ (node.select "ownedAttribute").found, Step.KeepsEnd rel child) :
    Agree rel (add registry enumerations node) (add registry enumerations node) :=
  .bind (addClass_agree shares node) fun owner =>
    .repairing (addMembers_agree shares registry enumerations owner kept) fun _ =>
      .change Step.shares_sameStore _

theorem addAll_agree (registry : Registry) (enumerations : List (Option String))
    {nodes : List Node} (kept : ∀ node ∈ nodes,
      ∀ child ∈ (node.select "ownedAttribute").found, Step.KeepsEnd rel child) :
    Agree rel (addAll registry enumerations nodes) (addAll registry enumerations nodes) := by
  rw [addAll_eq_each]
  exact .each fun node inside => add_agree shares registry enumerations (kept node inside)

end Classes

namespace Associations

theorem pairOfEnds_agree (association : Node) (ids : List String) :
    Agree rel (pairOfEnds association ids) (pairOfEnds association ids) := by
  unfold pairOfEnds
  split
  · exact .pure _
  · exact .refuse shares _

theorem endClass_agree (association : Option String) (side : Node) :
    Agree rel (endClass association side) (endClass association side) := by
  have failing (owner : Option String) :
      Agree rel (endClass.fail association owner) (endClass.fail association owner) :=
    .bind (.tell shares _) fun _ => .refuse shares _
  unfold endClass
  dsimp only
  cases (side.plain? "type").filter (!·.isEmpty) with
  | some id => exact .store_bind shares fun _ => .ite (.pure id) (failing _)
  | none => exact failing _

theorem sideIsMany_agree (side : Node) : Agree rel (sideIsMany side) (sideIsMany side) := by
  refine .bind (.lift shares _) fun bound => ?_
  cases bound with
  | unreadable text => exact .bind (.tell shares _) fun _ => .pure _
  | one => exact .bind (.pure _) fun _ => .pure _
  | many => exact .bind (.pure _) fun _ => .pure _

theorem cardinality_agree (first second : Node) :
    Agree rel (cardinality first second) (cardinality first second) :=
  .bind (sideIsMany_agree shares first) fun _ =>
    .bind (sideIsMany_agree shares second) fun _ => .pure _

variable (ends : ∀ {p q}, rel p q → p.ends = q.ends)
include ends

theorem findEnd_agree (owned : Table (Option String) Node) (association : Option String)
    (id : String) : Agree rel (findEnd owned association id) (findEnd owned association id) := by
  unfold findEnd
  cases owned.get? (some id) with
  | some node => exact .pure node
  | none =>
      refine .get_bind fun p q start => ?_
      rw [ends start]
      cases q.ends.get? (some id) with
      | some found => exact .pure found.node
      | none => exact .refuse shares _

theorem build_agree (node : Node) (ids : List String) :
    Agree rel (build node ids) (build node ids) := by
  refine .bind (pairOfEnds_agree shares node ids) fun pair => ?_
  refine .bind (.lift shares _) fun owned => ?_
  refine .bind (findEnd_agree shares ends _ _ _) fun first => ?_
  refine .bind (findEnd_agree shares ends _ _ _) fun second => ?_
  refine .bind (endClass_agree shares _ second) fun source => ?_
  refine .bind (endClass_agree shares _ first) fun destination => ?_
  refine .bind (cardinality_agree shares first second) fun cardinality => ?_
  refine .bind (.lift shares _) fun firstComment => ?_
  exact .bind (.lift shares _) fun secondComment => .lift shares _

theorem add_agree (node : Node) : Agree rel (add node) (add node) :=
  .bind (.lift shares _) fun ids => .bind (build_agree shares ends node ids) fun _ =>
    .bind (.change shares _) fun _ => .bind (.tell shares _) fun _ => .pure ids

theorem addAll_agree (nodes : List Node) : Agree rel (addAll nodes) (addAll nodes) := by
  induction nodes with
  | nil => exact .pure []
  | cons node rest ih =>
      exact .bind (add_agree shares ends node) fun _ => .bind ih fun _ => .pure _

omit ends in
theorem checkEnds_agree (used : List String) (entries : List (Option String × ClassEnd)) :
    Agree rel (checkEnds used entries) (checkEnds used entries) := by
  induction entries with
  | nil => exact .pure ()
  | cons entry rest ih =>
      exact .ite ih (.bind (.tell shares _) fun _ => .refuse shares _)

theorem link_agree (nodes : List Node) : Agree rel (link nodes) (link nodes) := by
  refine .bind (addAll_agree shares ends nodes) fun used => .get_bind fun p q start => ?_
  rw [ends start]
  exact checkEnds_agree shares used q.ends.entries

end Associations

namespace Enumerations

theorem literalNames_agree (enumeration : String) (nodes : List Node) :
    Agree rel (literalNames enumeration nodes) (literalNames enumeration nodes) := by
  induction nodes with
  | nil => exact .pure []
  | cons node rest ih =>
      unfold literalNames
      cases title? node with
      | some name => exact .bind ih fun _ => .pure _
      | none => exact .bind (.tell shares _) fun _ => .refuse shares _

theorem values_agree (enumeration : String) (literals : Node.Selection) :
    Agree rel (values enumeration literals) (values enumeration literals) :=
  .bind (literalNames_agree shares enumeration _) fun names =>
    .ite (.bind (.throw shares _) fun _ => .pure names) (.pure names)

theorem build_agree (node : Node) : Agree rel (build node) (build node) := by
  unfold build
  cases title? node with
  | some name => exact .bind (values_agree shares name _) fun _ => .lift shares _
  | none => exact .bind (.tell shares _) fun _ => .refuse shares _

theorem add_agree (node : Node) : Agree rel (add node) (add node) :=
  .bind (build_agree shares node) fun _ =>
    .bind (.change shares _) fun _ => .tell shares _

theorem addAll_agree (nodes : List Node) : Agree rel (addAll nodes) (addAll nodes) := by
  rw [addAll_eq_each]
  exact .each fun node _ => add_agree shares node

end Enumerations

/-- A stage of one ingestion agrees with the stage of another where their actions do. -/
theorem Ingestion.runStage_agree {α : Type} (ingestion other : Ingestion) (stage : Stage)
    {action reaction : Step α} (agree : Agree rel action reaction) :
    Agree rel (ingestion.runStage stage action) (other.runStage stage reaction) := by
  have repaired : Agree rel
      (Step.repairing action fun cause => do
        ingestion.tellFrom stage.name (.stageFailed stage cause)
        Step.change (modify (·.invalidate cause)))
      (Step.repairing reaction fun cause => do
        other.tellFrom stage.name (.stageFailed stage cause)
        Step.change (modify (·.invalidate cause))) :=
    agree.repairing fun cause => .bind (.tellFrom Step.shares_sameStore _ _ _) fun _ =>
      .change Step.shares_sameStore _
  exact .bind repaired fun result => .bind (.tellFrom shares _ _ _) fun _ => .pure result

end

/-! ## Steps that follow others -/

namespace Step

def Follows {α : Type} (rel : Progress → Progress → Prop) (left right : Step α) : Prop :=
  ∀ p q, rel p q → ∀ a p', left p = .ok a p' → ∃ q', right q = .ok a q' ∧ rel p' q'

variable {α β : Type} {rel : Progress → Progress → Prop}

theorem Agree.follows {left right : Step α} (agree : Agree rel left right) :
    Follows rel left right :=
  fun _ _ start _ _ done => agree.ok start done

namespace Follows

theorem bind {left right : Step α} {next other : α → Step β} (first : Follows rel left right)
    (rest : ∀ a, Follows rel (next a) (other a)) :
    Follows rel (left >>= next) (right >>= other) := by
  intro p q start b r done
  obtain ⟨a, p', here, later⟩ := bind_eq_ok.mp done
  obtain ⟨q', again, between⟩ := first p q start a p' here
  obtain ⟨s, ended, last⟩ := rest a p' q' between b r later
  exact ⟨s, bind_eq_ok.mpr ⟨a, q', again, ended⟩, last⟩

theorem each₂ {step other : Node → Step Unit} {nodes others : List Node}
    (round : List.Forall₂ (fun left right => Follows rel (step left) (other right)) nodes others) :
    Follows rel (Step.each step nodes) (Step.each other others) := by
  induction round with
  | nil => exact (Agree.pure ()).follows
  | cons here _ ih => exact bind here fun _ => ih

theorem repairing {left right : Step α} {repair other : IngestFault → Step Unit}
    (first : Follows rel left right) :
    Follows rel (Step.repairing left repair) (Step.repairing right other) := by
  intro p q start a p' done
  obtain ⟨q', again, ended⟩ := first p q start a p' (repairing_eq_ok.mp done)
  exact ⟨q', repairing_eq_ok.mpr again, ended⟩

end Follows

end Step

/-! ## Journals do not matter -/

/-- A step that agrees with itself takes the same course whatever has been told before it. -/
theorem Step.Agree.retell {α : Type} {step : Step α} {p q : Progress} {a : α}
    (agree : Agree (Alike p.index p.index) step step) (done : step p = .ok a q)
    (journal : Journal) : ∃ later, step { p with journal } = .ok a { q with journal := later } := by
  have start : Alike p.index p.index p { p with journal } := ⟨rfl, rfl, rfl, rfl⟩
  obtain ⟨r, again, ended⟩ := agree.ok start done
  refine ⟨r.journal, ?_⟩
  rw [again, ← ended.eq_of_index]

namespace Ingestion

open Step (Agree Alike bind_eq_ok bind_of_ok keepsEnd_alike shares_alike)

variable {ingestion : Ingestion} {p q : Progress}

/-- A stage whose work succeeds succeeds, whatever has been told before it. -/
theorem runStage_of_work (stage : Stage) {work : Step Unit}
    (agree : Agree (Alike p.index p.index) work work) {told : Journal}
    (done : work { p with journal := told } = .ok () q) (number : Nat) :
    ∃ later, ingestion.runStage stage (work >>= fun _ => pure number) p =
      .ok number { q with journal := later } := by
  obtain ⟨later, worked⟩ := Agree.retell (p := { p with journal := told }) agree done p.journal
  exact ⟨_, ingestion.runStage_eq_ok.mpr ⟨{ q with journal := later }, bind_of_ok worked _, rfl⟩⟩

/-- Stages that succeed one after another make a run, whatever has been told before each. -/
theorem Course.runStages_eq_ok (course : ingestion.Course p q) :
    ∃ r, ingestion.runStages p = .ok () r ∧ r.store = q.store := by
  obtain ⟨index, typed, classed, linked, listed, made, _, ⟨_, types⟩, ⟨_, classes⟩,
    ⟨_, associations⟩, ⟨_, enumerations⟩, _, frozen⟩ := course
  have indexed : typed.index = some index := by
    obtain ⟨_, _, rfl⟩ := Typing.declareAll_frame types
    rfl
  have classedIndex : classed.index = some index :=
    (Classes.addAll_frame classes).index.trans indexed
  have linkedIndex : linked.index = some index := by
    obtain ⟨_, _, rfl⟩ := Associations.link_frame associations
    exact classedIndex
  let begun : Progress := { p with
    journal := p.journal ++ [⟨.started ingestion.database, some ⟨ingestion.document, "parse"⟩⟩] }
  obtain ⟨found, classified⟩ := findElements_of_ofModel made begun
  obtain ⟨typesTold, typesFilled⟩ := ingestion.runStage_of_work .types
    (p := { begun with index := some index, journal := found })
    (Typing.declareAll_agree (shares_alike _ _) _ _) types (index.positions .scalarType).length
  obtain ⟨classesTold, classesFilled⟩ := ingestion.runStage_of_work .classes
    (p := { typed with ends := .empty, journal := typesTold })
    (Classes.addAll_agree (shares_alike _ _) _ _ fun _ _ child _ => keepsEnd_alike _ _ child)
    classes (index.positions .objectClass).length
  obtain ⟨associationsTold, associationsFilled⟩ := ingestion.runStage_of_work
    .associations (p := { classed with journal := classesTold })
    (Associations.link_agree (shares_alike _ _) Alike.ends _) associations
    (index.positions .association).length
  obtain ⟨enumerationsTold, enumerationsFilled⟩ := ingestion.runStage_of_work
    .enumerations (p := { linked with journal := associationsTold })
    (Enumerations.addAll_agree (shares_alike _ _) _) enumerations
    (index.positions .enumeration).length
  rw [← fillTypes_apply rfl] at typesFilled
  rw [← fillClasses_apply (p := { typed with journal := typesTold }) indexed] at classesFilled
  rw [← fillAssociations_apply (p := { classed with journal := classesTold }) classedIndex]
    at associationsFilled
  rw [← fillEnumerations_apply (p := { linked with journal := associationsTold }) linkedIndex]
    at enumerationsFilled
  refine ⟨{ listed with
    store := listed.store.freeze
    journal := enumerationsTold ++ [⟨.finished listed.store.freeze.summary,
      some ⟨ingestion.document, "parse"⟩⟩] }, ?_, frozen.symm⟩
  refine bind_eq_ok.mpr ⟨(), begun, rfl, ?_⟩
  refine bind_eq_ok.mpr ⟨_, _, classified, ?_⟩
  refine bind_eq_ok.mpr ⟨_, _, typesFilled, ?_⟩
  refine bind_eq_ok.mpr ⟨_, _, classesFilled, ?_⟩
  refine bind_eq_ok.mpr ⟨_, _, associationsFilled, ?_⟩
  exact bind_eq_ok.mpr ⟨_, _, enumerationsFilled, rfl⟩

/-- A first run gives the store at the end of a course. -/
theorem Course.first_run (course : ingestion.Course .initial q) :
    (ingestion.run.outcome .initial).1 = .ok q.store := by
  obtain ⟨r, stages, same⟩ := course.runStages_eq_ok
  have ran : ingestion.run .initial = .ok r.store r := by
    rw [ingestion.run_of_isOpen Store.isOpen_empty]
    exact bind_eq_ok.mpr ⟨(), r, stages, rfl⟩
  rw [Step.outcome_eq_ok.mpr ran, same]

/-- A run whose stages follow those of a run that succeeds gives the same store. -/
theorem Course.first_run_of_follows (course : ingestion.Course .initial q) {again : Ingestion}
    {other : Index}
    (made : Index.ofModel again.strict again.model = .ok other)
    (types : Step.Follows (Alike (some course.index) (some other))
      (Typing.declareAll ingestion.registry (course.index.elementsOf .scalarType))
      (Typing.declareAll again.registry (other.elementsOf .scalarType)))
    (classes : Step.Follows (Alike (some course.index) (some other))
      (Classes.addAll ingestion.registry course.index.enumerationIds
        (course.index.elementsOf .objectClass))
      (Classes.addAll again.registry other.enumerationIds (other.elementsOf .objectClass)))
    (associations : Step.Follows (Alike (some course.index) (some other))
      (Associations.link (course.index.elementsOf .association))
      (Associations.link (other.elementsOf .association)))
    (enumerations : Step.Follows (Alike (some course.index) (some other))
      (Enumerations.addAll (course.index.elementsOf .enumeration))
      (Enumerations.addAll (other.elementsOf .enumeration))) :
    (again.run.outcome .initial).1 = .ok q.store := by
  obtain ⟨typesTold, typesDone⟩ := course.types
  obtain ⟨classesTold, classesDone⟩ := course.classes
  obtain ⟨linksTold, associationsDone⟩ := course.associations
  obtain ⟨listsTold, enumerationsDone⟩ := course.enumerations
  obtain ⟨typed, typesAlso, alike⟩ := types
    { Progress.initial with index := some course.index, journal := typesTold }
    { Progress.initial with index := some other } ⟨rfl, rfl, rfl, rfl⟩ _ _ typesDone
  obtain ⟨classed, classesAlso, alike⟩ := classes
    { course.typed with ends := .empty, journal := classesTold } { typed with ends := .empty }
    ⟨alike.store, rfl, alike.index_left, alike.index_right⟩ _ _ classesDone
  obtain ⟨linked, associationsAlso, alike⟩ := associations
    { course.classed with journal := linksTold } classed
    ⟨alike.store, alike.ends, alike.index_left, alike.index_right⟩ _ _ associationsDone
  obtain ⟨listed, enumerationsAlso, alike⟩ := enumerations
    { course.linked with journal := listsTold } linked
    ⟨alike.store, alike.ends, alike.index_left, alike.index_right⟩ _ _ enumerationsDone
  have courseAlso : again.Course .initial { listed with store := listed.store.freeze } := {
    index := other
    typed := typed
    classed := classed
    linked := linked
    listed := listed
    made := made
    indexed := alike.index_right
    types := ⟨_, typesAlso⟩
    classes := ⟨_, classesAlso⟩
    associations := ⟨_, associationsAlso⟩
    enumerations := ⟨_, enumerationsAlso⟩
    ends := rfl
    store := rfl }
  rw [courseAlso.first_run, course.store, alike.store]

/-- Where the type elements are the same, they declare the same types under another index. -/
theorem Course.declares_again (course : ingestion.Course .initial q) {other : Index}
    (same : other.elementsOf .scalarType = course.index.elementsOf .scalarType)
    (journal : Journal) :
    ∃ typed, Typing.declareAll ingestion.registry (other.elementsOf .scalarType)
      { Progress.initial with index := some other, journal } = .ok () typed ∧
        typed.store = course.typed.store := by
  obtain ⟨told, types⟩ := course.types
  have begun : Step.Alike (some course.index) (some other)
      { Progress.initial with index := some course.index, journal := told }
      { Progress.initial with index := some other, journal } := ⟨rfl, rfl, rfl, rfl⟩
  obtain ⟨typed, declared, alike⟩ :=
    (Typing.declareAll_agree (Step.shares_alike _ _) _ _).ok begun types
  rw [same]
  exact ⟨typed, declared, alike.store.symm⟩

end Ingestion

end ClassDiagram
