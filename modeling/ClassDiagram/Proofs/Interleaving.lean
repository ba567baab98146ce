import ClassDiagram.Proofs.Agreement

/-!
# Elements of different kinds in any order

A run reads the elements kind by kind, so it does not matter how the elements
of one kind stand among those of another, or what else stands between them.
One child matters all the same: where its name opens a namespace that is never
closed, no model that holds it can be classified.
-/

namespace ClassDiagram

open Step (Agree Alike bind_of_error bind_of_ok keepsEnd_alike shares_alike)
open Xml (Name Node)

/-! ## Models with the same elements -/

def SameByKind (left right : Node) : Prop :=
  ∀ kind, elementsOfKind left kind = elementsOfKind right kind

/-- Some child of a node has a name that opens a namespace and never closes it. -/
def HasBrokenName (node : Node) : Prop :=
  ∃ child ∈ node.children, ∃ name, child.name? = some name ∧ name.localPart? = none

theorem cut_selectFrom_iff (tag : String) (nodes : List Node) :
    (Node.selectFrom tag nodes).cut = true ↔
      ∃ child ∈ nodes, ∃ name, child.name? = some name ∧ name.localPart? = none := by
  induction nodes with
  | nil => simp
  | cons node rest ih =>
      cases node with
      | comment text => simp [ih, Node.name?]
      | element name attributes text children =>
          unfold Node.selectFrom
          cases base : name.localPart? with
          | none => simp [Node.name?, base]
          | some base' =>
              by_cases wanted : some base' = some tag
              · simp [wanted, ih, Node.name?, base]
              · simp [wanted, ih, Node.name?, base]

theorem cut_select_iff (node : Node) (tag : String) :
    (node.select tag).cut = true ↔ HasBrokenName node :=
  cut_selectFrom_iff tag node.children

instance (node : Node) : Decidable (HasBrokenName node) :=
  decidable_of_iff _ (cut_select_iff node "ownedComment")

theorem uncut_select_iff (node : Node) (tag : String) :
    (node.select tag).cut = false ↔ ¬ HasBrokenName node := by
  rw [← cut_select_iff node tag, Bool.not_eq_true]

theorem select_of_whole {node : Node} (whole : ¬ HasBrokenName node) (tag : String) :
    node.select tag = ⟨childrenNamed node tag, false⟩ := by
  have uncut := (uncut_select_iff node tag).mpr whole
  rw [← found_select uncut, ← uncut]

/-- Whether a node becomes an entity of a kind when it stands in a model. -/
def isOfKind (kind : ElementKind) (node : Node) : Bool :=
  node.name?.bind Name.localPart? = some "packagedElement" && kind? node = some kind

theorem elementsOfKind_eq (model : Node) (kind : ElementKind) :
    elementsOfKind model kind = model.children.filter (isOfKind kind) := by
  unfold elementsOfKind childrenNamed isOfKind
  rw [List.filter_filter]
  exact List.filter_congr fun _ _ => Bool.and_comm _ _

/-- What becomes no entity may stand anywhere in a model, and may be left out. -/
theorem sameByKind_insert (name : Name) (attributes : List (Name × String))
    (text : Option String) (front back : List Node) {child : Node}
    (other : ∀ kind, isOfKind kind child = false) :
    SameByKind (.element name attributes text (front ++ child :: back))
      (.element name attributes text (front ++ back)) := by
  intro kind
  have skipped : ¬ isOfKind kind child = true := by simp [other kind]
  rw [elementsOfKind_eq, elementsOfKind_eq]
  change (front ++ child :: back).filter _ = (front ++ back).filter _
  rw [List.filter_append, List.filter_append, List.filter_cons_of_neg skipped]

/-! ## Classifying -/

namespace Index

theorem ofModel_of_broken {strict : Bool} {model : Node} (broken : HasBrokenName model) :
    ofModel strict model = .error .brokenName := by
  unfold ofModel allOf
  rw [(cut_select_iff model "packagedElement").mpr broken]
  rfl

theorem ofModel_eq_ofElements {model : Node} (whole : ¬ HasBrokenName model) (strict : Bool) :
    ofModel strict model = ofElements strict (childrenNamed model "packagedElement") := by
  unfold ofModel
  rw [select_of_whole whole]
  rfl

/-- A model can be classified if no name is broken and, under strict rules, all kinds are known. -/
theorem exists_ofModel_iff {strict : Bool} {model : Node} :
    (∃ index, ofModel strict model = .ok index) ↔ ¬ HasBrokenName model ∧
      (strict = true → ∀ node ∈ childrenNamed model "packagedElement", kind? node ≠ none) := by
  by_cases broken : HasBrokenName model
  · rw [ofModel_of_broken broken]
    exact iff_of_false nofun fun fits => fits.1 broken
  · rw [ofModel_eq_ofElements broken, exists_ofElements_iff]
    exact ⟨fun known => ⟨broken, known⟩, And.right⟩

theorem ofModel_of_whole {model : Node} (whole : ¬ HasBrokenName model) :
    ∃ index, ofModel false model = .ok index :=
  exists_ofModel_iff.mpr ⟨whole, nofun⟩

end Index

namespace Ingestion

def readElements (ingestion : Ingestion) : Step Unit := do
  let _ ← ingestion.fillTypes
  let _ ← ingestion.fillClasses
  let _ ← ingestion.fillAssociations
  let _ ← ingestion.fillEnumerations
  Step.change (modify Store.freeze)
  ingestion.tellFrom "parse" (.finished (← Step.store).summary)

variable {ingestion : Ingestion}

def begin (ingestion : Ingestion) (p : Progress) : Progress :=
  { p with
    journal := p.journal ++ [⟨.started ingestion.database, some ⟨ingestion.document, "parse"⟩⟩] }

theorem runStages_apply (p : Progress) :
    ingestion.runStages p =
      (ingestion.findElements >>= fun _ => ingestion.readElements) (ingestion.begin p) := by
  have started : ingestion.tellFrom "parse" (.started ingestion.database) p =
      .ok () (ingestion.begin p) := rfl
  unfold runStages
  rw [bind_of_ok started]
  rfl

/-- The elements of a model that can be classified are read under its index. -/
theorem runStages_of_ofModel {index : Index}
    (made : Index.ofModel ingestion.strict ingestion.model = .ok index) (p : Progress) :
    ∃ journal, ingestion.runStages p =
      ingestion.readElements { p with index := some index, journal } := by
  obtain ⟨journal, classified⟩ := findElements_of_ofModel made (ingestion.begin p)
  refine ⟨journal, ?_⟩
  rw [runStages_apply, bind_of_ok classified]
  rfl

/-- A model with a broken name among its children cannot be classified, and nothing is read. -/
theorem runStages_of_broken (broken : HasBrokenName ingestion.model) (p : Progress) :
    ingestion.runStages p = .error .brokenName (ingestion.begin p) := by
  have stage : ingestion.findElements (ingestion.begin p) =
      .error .brokenName (ingestion.begin p) := by
    unfold findElements
    refine bind_of_error ?_ _
    rw [runStage_apply, Index.ofModel_of_broken broken]
    rfl
  rw [runStages_apply, bind_of_error stage]

end Ingestion

/-! ## Enumerations that fields refer to -/

section

variable {enumerations others : List (Option String)}
  (same : ∀ id : String, some id ∈ enumerations ↔ some id ∈ others)
include same

theorem Typing.referred?_congr (store : Store) (field : Node) :
    referred? store enumerations field = referred? store others field := by
  unfold referred?
  refine congrArg (fun test => Option.filter test (field.plain? "type")) (funext fun id => ?_)
  rw [Bool.eq_iff_iff, Bool.and_eq_true, Bool.and_eq_true, Bool.or_eq_true, Bool.or_eq_true,
    List.contains_iff_mem, List.contains_iff_mem, same]

theorem Classes.addAttribute_congr (registry : Registry) (owner : String) (node : Node) :
    addAttribute registry enumerations owner node = addAttribute registry others owner node := by
  unfold addAttribute addField Typing.resolve
  simp only [Typing.referred?_congr same]

/-- Reading a class asks for the identifiers of enumerations, and not for their order. -/
theorem Classes.add_congr (registry : Registry) (node : Node) :
    add registry enumerations node = add registry others node := by
  unfold add addMembers
  simp only [addAttributes_eq_each, funext (addAttribute_congr same registry _)]

theorem Classes.addAll_congr (registry : Registry) (nodes : List Node) :
    addAll registry enumerations nodes = addAll registry others nodes := by
  rw [addAll_eq_each, addAll_eq_each, funext (add_congr same registry)]

end

/-! ## Runs of two models -/

def Index.Matches (left right : Index) : Prop :=
  ∀ kind, left.elementsOf kind = right.elementsOf kind

namespace Index.Matches

variable {left right : Index} (same : left.Matches right)
include same

theorem announced (id : String) :
    some id ∈ left.enumerationIds ↔ some id ∈ right.enumerationIds := by
  unfold Index.enumerationIds
  rw [same]

end Index.Matches

namespace Ingestion

/-- Two first runs end alike: in equal stores, or in the same fault and with equal stores. -/
def EndsLike (left right : Ingestion) : Prop :=
  (left.run.outcome .initial).1 = (right.run.outcome .initial).1 ∧
    (left.run.outcome .initial).2.store = (right.run.outcome .initial).2.store

variable {left right : Ingestion} {i j : Index}

/-- What is done with the index of two ingestions that have one is done with these two. -/
theorem index_bind_agree {α : Type} {next other : Index → Step α}
    (rest : Agree (Alike (some i) (some j)) (next i) (other j)) :
    Agree (Alike (some i) (some j)) (left.index >>= next) (right.index >>= other) := by
  intro p q start
  rw [bind_of_ok (index_apply start.index_left), bind_of_ok (index_apply start.index_right)]
  exact rest p q start

section

variable (registry : left.registry = right.registry)
include registry

theorem fillTypes_agree (types : i.elementsOf .scalarType = j.elementsOf .scalarType) :
    Agree (Alike (some i) (some j)) left.fillTypes right.fillTypes := by
  have shares := shares_alike (some i) (some j)
  refine index_bind_agree (runStage_agree shares left right .types ?_)
  rw [i.length_positions, j.length_positions, types, registry]
  exact .bind (Typing.declareAll_agree shares _ _) fun _ => .pure _

/-- Of the enumerations, classes need to know which identifiers they have. -/
theorem fillClasses_agree
    (announced : ∀ id : String, some id ∈ i.enumerationIds ↔ some id ∈ j.enumerationIds)
    (classes : i.elementsOf .objectClass = j.elementsOf .objectClass) :
    Agree (Alike (some i) (some j)) left.fillClasses right.fillClasses := by
  have shares := shares_alike (some i) (some j)
  refine index_bind_agree (.bind (.modify fun p q start => ?_) fun _ =>
    runStage_agree shares left right .classes ?_)
  · exact ⟨start.store, rfl, start.index_left, start.index_right⟩
  · rw [i.length_positions, j.length_positions, classes, registry,
      Classes.addAll_congr announced]
    exact .bind (Classes.addAll_agree shares _ _ fun _ _ child _ => keepsEnd_alike _ _ child)
      fun _ => .pure _

omit registry in
theorem fillAssociations_agree
    (associations : i.elementsOf .association = j.elementsOf .association) :
    Agree (Alike (some i) (some j)) left.fillAssociations right.fillAssociations := by
  have shares := shares_alike (some i) (some j)
  refine index_bind_agree (runStage_agree shares left right .associations ?_)
  rw [i.length_positions, j.length_positions, associations]
  exact .bind (Associations.link_agree shares Alike.ends _) fun _ => .pure _

omit registry in
theorem fillEnumerations_agree
    (enumerations : i.elementsOf .enumeration = j.elementsOf .enumeration) :
    Agree (Alike (some i) (some j)) left.fillEnumerations right.fillEnumerations := by
  have shares := shares_alike (some i) (some j)
  refine index_bind_agree (runStage_agree shares left right .enumerations ?_)
  rw [i.length_positions, j.length_positions, enumerations]
  exact .bind (Enumerations.addAll_agree shares _) fun _ => .pure _

variable (same : i.Matches j)
include same

/-- Under indexes that match, the elements of two models are read alike. -/
theorem readElements_agree :
    Agree (Alike (some i) (some j)) left.readElements right.readElements := by
  have shares := shares_alike (some i) (some j)
  refine .bind (fillTypes_agree registry (same _)) fun _ => ?_
  refine .bind (fillClasses_agree registry same.announced (same _)) fun _ => ?_
  refine .bind (fillAssociations_agree (same _)) fun _ => ?_
  refine .bind (fillEnumerations_agree (same _)) fun _ => .bind (.change shares _) fun _ => ?_
  exact .store_bind shares fun store => .tellFrom shares _ _ _

theorem endsLike_of_ofModel (made : Index.ofModel left.strict left.model = .ok i)
    (again : Index.ofModel right.strict right.model = .ok j) : left.EndsLike right := by
  obtain ⟨leftJournal, leftStages⟩ := runStages_of_ofModel made .initial
  obtain ⟨rightJournal, rightStages⟩ := runStages_of_ofModel again .initial
  let p : Progress := { Progress.initial with index := some i, journal := leftJournal }
  let q : Progress := { Progress.initial with index := some j, journal := rightJournal }
  have leftRun : left.run .initial = (left.readElements >>= fun _ => Step.store) p := by
    rw [left.run_of_isOpen Store.isOpen_empty, Step.bind_apply, leftStages, Step.bind_apply]
  have rightRun : right.run .initial = (right.readElements >>= fun _ => Step.store) q := by
    rw [right.run_of_isOpen Store.isOpen_empty, Step.bind_apply, rightStages, Step.bind_apply]
  have shares := shares_alike (some i) (some j)
  have start : Alike (some i) (some j) p q := ⟨rfl, rfl, rfl, rfl⟩
  unfold EndsLike
  rw [Step.outcome_congr leftRun, Step.outcome_congr rightRun]
  exact Agree.outcome shares
    ((readElements_agree registry same).bind fun _ => .store shares) start

end

theorem run_of_broken {ingestion : Ingestion} (broken : HasBrokenName ingestion.model) :
    ingestion.run.outcome .initial = (.error .brokenName, ingestion.begin .initial) := by
  refine Step.outcome_eq_error.mpr ?_
  rw [ingestion.run_of_isOpen Store.isOpen_empty]
  exact bind_of_error (runStages_of_broken broken .initial) _

/--
Lenient first runs of two models that have the same elements of every kind end
alike, provided that a child with a broken name stands in both models or in
neither.
-/
theorem run_interleaved (left right : Ingestion) (registry : left.registry = right.registry)
    (leftLenient : left.strict = false) (rightLenient : right.strict = false)
    (same : SameByKind left.model right.model)
    (broken : HasBrokenName left.model ↔ HasBrokenName right.model) : left.EndsLike right := by
  by_cases cut : HasBrokenName left.model
  · unfold EndsLike
    rw [run_of_broken cut, run_of_broken (broken.mp cut)]
    exact ⟨rfl, rfl⟩
  · obtain ⟨i, made⟩ := Index.ofModel_of_whole cut
    obtain ⟨j, again⟩ := Index.ofModel_of_whole fun other => cut (broken.mpr other)
    have sorted : i.Matches j := fun kind =>
      (Index.elementsOf_of_ofModel made kind).trans
        ((same kind).trans (Index.elementsOf_of_ofModel again kind).symm)
    rw [← leftLenient] at made
    rw [← rightLenient] at again
    exact endsLike_of_ofModel registry sorted made again

def syllabus : Ingestion where
  model := umlElement "Model" [] [] [
    umlElement "packagedElement" [("type", "uml:PrimitiveType"), ("id", "t")]
      [("name", "string")] [],
    umlElement "packagedElement" [("type", "uml:Class"), ("id", "c")] [("name", "Course")] [
      umlElement "ownedAttribute" [("id", "f")] [("name", "title"), ("type", "t")] []]]
  database := .sql
  registry := .ofDatabase .sql
  strict := false
  document := "syllabus.xmi"

/-- The same class and the same type in turn, with something unknown and a comment between. -/
def shuffledSyllabus : Ingestion :=
  { syllabus with
    model := umlElement "Model" [] [] [
      umlElement "packagedElement" [("type", "uml:Class"), ("id", "c")] [("name", "Course")] [
        umlElement "ownedAttribute" [("id", "f")] [("name", "title"), ("type", "t")] []],
      umlElement "packagedElement" [("type", "uml:Package"), ("id", "p")] [] [],
      .comment "Types come last.",
      umlElement "packagedElement" [("type", "uml:PrimitiveType"), ("id", "t")]
        [("name", "string")] []] }

/-- The elements of a model are read alike wherever its classes stand among its types. -/
theorem run_interleaved_syllabus :
    SameByKind syllabus.model shuffledSyllabus.model ∧ syllabus.EndsLike shuffledSyllabus ∧
      (shuffledSyllabus.run.outcome .initial).2.store.fields.keys = ["f"] := by
  have same : SameByKind syllabus.model shuffledSyllabus.model := by
    intro kind
    cases kind <;> rfl
  have whole : ¬ HasBrokenName syllabus.model ∧ ¬ HasBrokenName shuffledSyllabus.model := by
    decide +kernel
  have broken : HasBrokenName syllabus.model ↔ HasBrokenName shuffledSyllabus.model :=
    iff_of_false whole.1 whole.2
  exact ⟨same, run_interleaved syllabus shuffledSyllabus rfl rfl rfl same broken,
    by decide +kernel⟩

/-- A child whose name is broken, after the elements of a model. -/
def notedSyllabus : Ingestion :=
  { syllabus with
    model := umlElement "Model" [] [] (syllabus.model.children ++ [brokenElement]) }

/-- A child with a broken name becomes no entity, and yet it ends the run. -/
theorem not_endsLike_notedSyllabus :
    syllabus.registry = notedSyllabus.registry ∧ syllabus.strict = false ∧
      notedSyllabus.strict = false ∧ SameByKind syllabus.model notedSyllabus.model ∧
      ¬ syllabus.EndsLike notedSyllabus ∧
      (notedSyllabus.run.outcome .initial).1 = .error .brokenName := by
  have broken : HasBrokenName notedSyllabus.model := by decide +kernel
  have fails := congrArg Prod.fst (run_of_broken broken)
  have gives : (syllabus.run.outcome .initial).1.isOk = true := by decide +kernel
  have same : SameByKind syllabus.model notedSyllabus.model := by
    have other (kind : ElementKind) : isOfKind kind brokenElement = false := rfl
    have inserted := sameByKind_insert (.plain "Model") [] none syllabus.model.children [] other
    rw [List.append_nil] at inserted
    exact fun kind => (inserted kind).symm
  refine ⟨rfl, rfl, rfl, same, ?_, fails⟩
  intro alike
  rw [alike.1, fails] at gives
  cases gives

end Ingestion

end ClassDiagram
