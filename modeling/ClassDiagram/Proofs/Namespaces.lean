import ClassDiagram.Proofs.Mirroring

/-!
# Models in other namespaces

A tree is respelled when each of its elements gets another name and other
attributes, whatever stands around it.  The readers of a model ask for local
names and for attributes in namespaces of XMI; so a model in other namespaces
is read as the model itself, if the namespaces of XMI remain such.
-/

namespace ClassDiagram

open Xml (Name Node Space)

namespace Xml.Node

/-! ## Trees respelled -/

section

variable (name : Name → Name) (entry : Name → Name × String → Name × String)

mutual

/-- A tree with other names and attributes; an attribute may depend on the name of its element. -/
def respelled : Node → Node
  | .element tag attributes text children =>
      .element (name tag) (attributes.map (entry tag)) text (respelledAll children)
  | .comment text => .comment text

def respelledAll : List Node → List Node
  | [] => []
  | node :: rest => respelled node :: respelledAll rest

end

theorem respelledAll_eq (nodes : List Node) :
    respelledAll name entry nodes = nodes.map (respelled name entry) := by
  induction nodes with
  | nil => rfl
  | cons node rest ih => rw [respelledAll, ih, List.map_cons]

theorem text?_respelled (node : Node) : (respelled name entry node).text? = node.text? := by
  cases node <;> rfl

variable {name} (keeps : ∀ tag, (name tag).localPart? = tag.localPart?)
include keeps

theorem selectFrom_respelled (wanted : Option String) (nodes : List Node) :
    selectFrom wanted (nodes.map (respelled name entry)) =
      (selectFrom wanted nodes).map (respelled name entry) := by
  induction nodes with
  | nil => rfl
  | cons node rest ih =>
      cases node with
      | comment text => exact ih
      | element tag attributes text children =>
          rw [List.map_cons]
          unfold respelled selectFrom
          rw [keeps, ih]
          cases tag.localPart? with
          | none => rfl
          | some base =>
              dsimp only
              by_cases same : some base = wanted
              · rw [if_pos same, if_pos same]
                rfl
              · rw [if_neg same, if_neg same]

theorem select_respelled (node : Node) (wanted : Option String) :
    (respelled name entry node).select wanted =
      (node.select wanted).map (respelled name entry) := by
  unfold select
  rw [← selectFrom_respelled entry keeps]
  cases node with
  | element tag attributes text children =>
      exact congrArg (selectFrom wanted) (respelledAll_eq name entry children)
  | comment text => rfl

omit keeps

/-! ## Attributes respelled -/

def valueOf (test : Name → Bool) (node : Node) : Option String :=
  (node.attributes.find? (test ·.1)).map Prod.snd

theorem plain?_eq_valueOf (node : Node) (key : String) :
    node.plain? key = node.valueOf (Name.ofText key == ·) := by
  unfold plain? attribute? valueOf
  induction node.attributes with
  | nil => rfl
  | cons first rest ih =>
      rw [List.find?_cons, List.lookup_cons, ih]
      dsimp only
      cases Name.ofText key == first.1 <;> rfl

theorem xmi?_eq_valueOf (node : Node) (wanted : Option String) :
    xmi? node wanted = (node.valueOf (isXmiName wanted)).or
      (node.plain? ("xmi:" ++ Text.plain? wanted)) := by
  unfold xmi? valueOf
  cases node.attributes.find? (isXmiName wanted ·.1) <;> rfl

/-- Attributes pass a test of their names as before, and where they do their values change so. -/
structure Respells (entry : Name × String → Name × String) (test : Name → Bool)
    (value : String → String) : Prop where
  key : ∀ old, test (entry old).1 = test old.1
  value : ∀ old, test old.1 = true → (entry old).2 = value old.2

theorem valueOf_respelled (name : Name → Name) {test : Name → Bool} {value : String → String}
    {node : Node} (respells : ∀ tag, node.name? = some tag → Respells (entry tag) test value) :
    (respelled name entry node).valueOf test = (node.valueOf test).map value := by
  cases node with
  | comment text => rfl
  | element tag attributes text children =>
      change ((attributes.map (entry tag)).find? (test ·.1)).map Prod.snd =
        ((attributes.find? (test ·.1)).map Prod.snd).map value
      replace respells := respells tag rfl
      induction attributes with
      | nil => rfl
      | cons first rest ih =>
          rw [List.map_cons, List.find?_cons, List.find?_cons, respells.key]
          cases passes : test first.1 with
          | true => exact congrArg some (respells.value first passes)
          | false => exact ih

/-- Respelled elements have an XMI attribute that changes as its two forms do. -/
theorem xmi?_respelled (name : Name → Name) {wanted : Option String} {value : String → String}
    {node : Node} (spaced : ∀ tag, node.name? = some tag →
      Respells (entry tag) (isXmiName wanted) value)
    (labelled : ∀ tag, node.name? = some tag →
      Respells (entry tag) (Name.ofText ("xmi:" ++ Text.plain? wanted) == ·) value) :
    xmi? (respelled name entry node) wanted = (xmi? node wanted).map value := by
  rw [xmi?_eq_valueOf, xmi?_eq_valueOf, plain?_eq_valueOf, plain?_eq_valueOf,
    valueOf_respelled entry name spaced, valueOf_respelled entry name labelled, Option.map_or]

end

/-! ## Other namespaces -/

end Xml.Node

/-- A name whose namespace, if it has one, is exchanged for another one. -/
def Xml.Name.respaced (space : Space → Space) : Name → Name
  | .qualified old base => .qualified (space old) base
  | name => name

def Xml.Node.respaced (space : Space → Space) : Node → Node :=
  Node.respelled (Name.respaced space) fun _ old => (old.1.respaced space, old.2)

section

variable {space : Space → Space}

theorem Xml.Name.localPart?_respaced (name : Name) :
    (name.respaced space).localPart? = name.localPart? := by
  cases name <;> rfl

/-- A name without namespace stays apart from those in one. -/
theorem respells_plain {key : String} (bare : Xml.isBare key = true) :
    Node.Respells (fun old => (old.1.respaced space, old.2)) (Name.ofText key == ·) id := by
  refine ⟨fun old => ?_, fun _ _ => rfl⟩
  obtain ⟨name, value⟩ := old
  rw [Name.ofText_of_bare bare]
  cases name <;> rfl

theorem plain?_respaced (node : Node) {key : String} (bare : Xml.isBare key = true) :
    (node.respaced space).plain? key = node.plain? key := by
  rw [Node.respaced, Node.plain?_eq_valueOf, Node.plain?_eq_valueOf,
    Node.valueOf_respelled _ _ fun _ _ => respells_plain bare, Option.map_id]
  rfl

theorem select_respaced (node : Node) (wanted : Option String) :
    (node.respaced space).select wanted = (node.select wanted).map (Node.respaced space) :=
  Node.select_respelled _ Name.localPart?_respaced node wanted

variable (same : ∀ old, isXmiSpace (space old) = isXmiSpace old)
include same

theorem respells_xmi (wanted : Option String) :
    Node.Respells (fun old => (old.1.respaced space, old.2)) (isXmiName wanted) id := by
  refine ⟨fun old => ?_, fun _ _ => rfl⟩
  obtain ⟨name, value⟩ := old
  cases name with
  | qualified old base => exact congrArg (some base = wanted && ·) (same old)
  | _ => rfl

theorem xmi?_respaced (node : Node) (wanted : Option String) :
    xmi? (node.respaced space) wanted = xmi? node wanted := by
  rw [Node.respaced, Node.xmi?_respelled _ _ (fun _ _ => respells_xmi same wanted)
    (fun _ _ => respells_plain (Xml.isBare_labelled _)), Option.map_id]
  rfl

theorem memberEnds_respaced (node : Node) :
    memberEnds (node.respaced space) = memberEnds node := by
  have references (members : List Node) :
      memberReferences (members.map (Node.respaced space)) = memberReferences members := by
    unfold memberReferences
    rw [List.filterMap_map]
    exact List.filterMap_congr fun member _ => by
      rw [Function.comp_apply, xmi?_respaced same]
  unfold memberEnds
  rw [plain?_respaced node (by decide), select_respaced, allOf_map]
  cases allOf (node.select "memberEnd") with
  | error fault => rfl
  | ok members =>
      simp only [Except.map, references]

end

theorem isBare_of_textual : ∀ key ∈ textual, Xml.isBare key = true := by decide

def Recasting.respaced (registry : Registry) (space : Space → Space)
    (same : ∀ old, isXmiSpace (space old) = isXmiSpace old) : Recasting registry where
  rename := .refl String
  recast := Node.respaced space
  select node tag := select_respaced node tag
  text node := Node.text?_respelled _ _ node
  plain node key inside := plain?_respaced node (isBare_of_textual key inside)
  declared node := xmi?_respaced same node "type"
  identified node := by
    rw [Function.Embedding.coe_refl, Option.map_id]
    exact xmi?_respaced same node "id"
  typed node _ := by
    rw [Function.Embedding.coe_refl, Option.map_id]
    exact plain?_respaced node (by decide)
  listed node := by
    rw [Function.Embedding.coe_refl, List.map_id_fun, memberEnds_respaced same]
    cases memberEnds node <;> rfl
  empty := rfl
  known _ _ := rfl
  unknown _ outside := outside
  canonical _ _ _ := rfl

namespace Ingestion

/--
A first run does not depend on the namespaces of its model, as long as those
of XMI are exchanged for such, and others for others.
-/
theorem run_respaced (ingestion : Ingestion) (space : Space → Space)
    (same : ∀ old, isXmiSpace (space old) = isXmiSpace old) :
    ingestion.EndsLike (ingestion.withModel (ingestion.model.respaced space)) :=
  ingestion.endsLike_recast (.respaced ingestion.registry space same) rfl

/-- The namespace of XMI with its letters small, in place of that of the current version. -/
def smallSpace (space : Space) : Space :=
  if space = xmiSpace then ⟨"http://www.omg.org/spec/xmi/20131001", rfl⟩ else space

/-- A model that writes the namespace of XMI in small letters gives the same entities. -/
theorem run_respaced_lectures :
    (∀ old, isXmiSpace (smallSpace old) = isXmiSpace old) ∧
      lectures.EndsLike (lectures.withModel (lectures.model.respaced smallSpace)) ∧
      ((lectures.withModel (lectures.model.respaced smallSpace)).run.outcome .initial).1 =
        .ok lecturesStore ∧
      (lectures.model.respaced smallSpace).children.flatMap Node.attributes ≠
        lectures.model.children.flatMap Node.attributes := by
  have same : ∀ old, isXmiSpace (smallSpace old) = isXmiSpace old := by
    intro old
    unfold smallSpace
    split
    · rename_i current
      rw [current]
      decide +kernel
    · rfl
  have alike := lectures.run_respaced smallSpace same
  exact ⟨same, alike, alike.1.symm.trans run_lectures, by decide +kernel⟩

end Ingestion

end ClassDiagram
