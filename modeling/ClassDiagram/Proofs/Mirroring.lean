import ClassDiagram.Proofs.FailWhole
import ClassDiagram.Proofs.Recasting

/-!
# Runs that mirror each other

Every step of a run takes recast elements as it takes the elements themselves:
it ends in the same result under other identifiers, or in a fault that echoes
the fault it ends in before.
-/

namespace ClassDiagram

open Step (bind_apply change_apply lift_apply repairing_apply store_bind_apply)
open Xml (Node)

namespace Recasting

variable {registry : Registry} (cast : Recasting registry) {α β γ δ : Type}

/-! ## Progresses and steps -/

def classEnd (found : ClassEnd) : ClassEnd := ⟨cast.rename found.owner, cast.recast found.node⟩

/-- A progress that has come as far with recast elements as another one with the elements. -/
structure Reflects (left right : Progress) : Prop where
  store : left.store.Mirrors cast.rename right.store
  ends : right.ends = left.ends.mapped cast.rename.optionMap cast.classEnd
  sides : ∀ id found, left.ends.get? id = some found → IsSide found.node
  index : right.index = left.index.map cast.index

/-- Two steps end alike: with results that are alike, or in a fault and its echo. -/
inductive Ends (like : α → β → Prop) :
    EStateM.Result Fault Progress α → EStateM.Result Fault Progress β → Prop where
  | ok {a : α} {b : β} {p q : Progress} (same : like a b) (ended : cast.Reflects p q) :
      Ends like (.ok a p) (.ok b q)
  | error {fault fault' : Fault} {p q : Progress} (echoes : fault.Echoes cast.rename fault')
      (ended : cast.Reflects p q) : Ends like (.error fault p) (.error fault' q)

/-- A step that takes recast elements as another one takes the elements. -/
def Mirrors (like : α → β → Prop) (left : Step α) (right : Step β) : Prop :=
  ∀ p q, cast.Reflects p q → cast.Ends like (left p) (right q)

namespace Mirrors

variable {cast} {like : α → β → Prop} {like' : γ → δ → Prop}

theorem bind {left : Step α} {right : Step β} {next : α → Step γ} {other : β → Step δ}
    (first : cast.Mirrors like left right)
    (rest : ∀ a b, like a b → cast.Mirrors like' (next a) (other b)) :
    cast.Mirrors like' (left >>= next) (right >>= other) := by
  intro p q start
  have ends := first p q start
  rw [bind_apply, bind_apply]
  generalize left p = result, right q = result' at ends
  cases ends with
  | ok same ended => exact rest _ _ same _ _ ended
  | error echoes ended => exact .error echoes ended

theorem bind_eq {left right : Step α} {next : α → Step γ} {other : α → Step δ}
    (first : cast.Mirrors Eq left right) (rest : ∀ a, cast.Mirrors like' (next a) (other a)) :
    cast.Mirrors like' (left >>= next) (right >>= other) :=
  first.bind fun a _ same => same ▸ rest a

theorem bind_map {f : α → β} {left : Step α} {right : Step β} {next : α → Step γ}
    {other : β → Step δ} (first : cast.Mirrors (fun a b => b = f a) left right)
    (rest : ∀ a, cast.Mirrors like' (next a) (other (f a))) :
    cast.Mirrors like' (left >>= next) (right >>= other) :=
  first.bind fun a _ same => same ▸ rest a

theorem pure {a : α} {b : β} (same : like a b) :
    cast.Mirrors like (Pure.pure a) (Pure.pure b) := fun _ _ start => .ok same start

theorem unit : cast.Mirrors Eq (Pure.pure () : Step Unit) (Pure.pure ()) := pure rfl

theorem throw {fault fault' : Fault} (echoes : fault.Echoes cast.rename fault') :
    cast.Mirrors like (throw fault) (MonadExcept.throw fault') :=
  fun _ _ start => .error echoes start

theorem refuse {cause cause' : IngestFault} (echoes : cause.Echoes cast.rename cause') :
    cast.Mirrors like (Step.refuse cause) (Step.refuse cause') := throw (.ingest echoes)

theorem lift_parallel {result : Except Fault α} {other : Except Fault β}
    (parallel : Parallel cast.rename like result other) :
    cast.Mirrors like (Step.lift result) (Step.lift other) := by
  cases parallel with
  | ok same => exact pure same
  | error echoes => exact throw echoes

/-- The same result is alike to itself where it is a value at all. -/
theorem lift {like : α → α → Prop} {result : Except Fault α}
    (same : ∀ a, result = .ok a → like a a) :
    cast.Mirrors like (Step.lift result) (Step.lift result) := lift_parallel (.refl same)

theorem lift_eq (result : Except Fault α) :
    cast.Mirrors Eq (Step.lift result) (Step.lift result) := lift fun _ _ => rfl

/-- A result under other identifiers. -/
theorem lift_map {f : α → β} {result : Except Fault α} {other : Except Fault β}
    (mapped : other = result.map f) :
    cast.Mirrors (fun a b => b = f a) (Step.lift result) (Step.lift other) := by
  rw [mapped]
  exact lift_parallel (.map f result)

theorem modify {f g : Progress → Progress}
    (kept : ∀ p q, cast.Reflects p q → cast.Reflects (f p) (g q)) :
    cast.Mirrors Eq (modify f : Step PUnit) (modify g) :=
  fun p q start => .ok rfl (kept p q start)

theorem tellFrom (place other : Option Place) (event event' : Event) :
    cast.Mirrors Eq (Step.tellFrom place event) (Step.tellFrom other event') :=
  modify fun _ _ start => ⟨start.store, start.ends, start.sides, start.index⟩

theorem tell (event event' : Event) : cast.Mirrors Eq (Step.tell event) (Step.tell event') :=
  tellFrom none none event event'

/-- Steps that read the progress mirror each other if they do so for what they read. -/
theorem get_bind {next : Progress → Step α} {other : Progress → Step β}
    (rest : ∀ p q, cast.Reflects p q → cast.Mirrors like (next p) (other q)) :
    cast.Mirrors like (get >>= next) (get >>= other) :=
  fun p q start => rest p q start p q start

theorem store_bind {next : Store → Step α} {other : Store → Step β}
    (rest : ∀ left right : Store, left.Mirrors cast.rename right →
      cast.Mirrors like (next left) (other right)) :
    cast.Mirrors like (Step.store >>= next) (Step.store >>= other) :=
  fun p q start => rest _ _ start.store p q start

theorem change {operation operation' : Store.Change Unit}
    (twin : ∀ left right : Store, left.Mirrors cast.rename right →
      Store.Twin cast.rename (Store.Mirrors cast.rename) (operation left) (operation' right)) :
    cast.Mirrors Eq (Step.change operation) (Step.change operation') := by
  intro p q start
  have both := twin _ _ start.store
  rw [change_apply, change_apply]
  generalize operation p.store = result, operation' q.store = result' at both
  cases both with
  | ok mirrors => exact .ok rfl ⟨mirrors, start.ends, start.sides, start.index⟩
  | error echoes mirrors =>
      exact .error echoes ⟨mirrors, start.ends, start.sides, start.index⟩

/-- A filling with other identifiers is made where the filling is made. -/
theorem fill (filling : Store.Filling) :
    cast.Mirrors Eq (Step.change filling.apply)
      (Step.change (filling.renamed cast.rename).apply) :=
  change fun _ _ mirrors => mirrors.apply filling

theorem each {step other : Node → Step Unit} {nodes : List Node}
    (round : ∀ node ∈ nodes, cast.Mirrors Eq (step node) (other (cast.recast node))) :
    cast.Mirrors Eq (Step.each step nodes) (Step.each other (nodes.map cast.recast)) := by
  induction nodes with
  | nil => exact unit
  | cons node rest ih =>
      have others := ih fun next inside => round next (List.mem_cons_of_mem _ inside)
      exact bind_eq (round node List.mem_cons_self) fun _ => others

theorem repairing {left : Step α} {right : Step β} {repair other : IngestFault → Step Unit}
    (first : cast.Mirrors like left right)
    (repaired : ∀ cause cause', cause.Echoes cast.rename cause' →
      cast.Mirrors Eq (repair cause) (other cause')) :
    cast.Mirrors like (Step.repairing left repair) (Step.repairing right other) := by
  intro p q start
  have ends := first p q start
  rw [repairing_apply, repairing_apply]
  generalize left p = result, right q = result' at ends
  have falls {cause cause' : IngestFault} (inner : cause.Echoes cast.rename cause') :
      cast.Mirrors like (repair cause >>= fun _ => MonadExcept.throw (.ingest cause))
        (other cause' >>= fun _ => MonadExcept.throw (.ingest cause')) :=
    (repaired cause cause' inner).bind fun _ _ _ => throw (.ingest inner)
  cases ends with
  | ok same ended => exact .ok same ended
  | @error fault fault' p' q' echoes ended =>
      cases echoes with
      | ingest inner => exact falls inner p' q' ended
      | same =>
          cases fault with
          | ingest cause => exact falls (.same cause) p' q' ended
          | _ => exact .error (.same _) ended

/-- Steps that mirror each other have outcomes that run parallel. -/
theorem outcome {left : Step α} {right : Step β} (mirrors : cast.Mirrors like left right)
    {p q : Progress} (start : cast.Reflects p q) :
    Parallel cast.rename like (left.outcome p).1 (right.outcome q).1 ∧
      cast.Reflects (left.outcome p).2 (right.outcome q).2 := by
  have ends := mirrors p q start
  unfold Step.outcome
  generalize left p = result, right q = result' at ends
  cases ends with
  | ok same ended => exact ⟨.ok same, ended⟩
  | error echoes ended => exact ⟨.error echoes, ended⟩

end Mirrors

/-! ## Scalar types -/

variable {cast}

/-- The canonical form of a name is its own image. -/
theorem canonical_mirrors (name : Option String) :
    cast.Mirrors (fun a b => b = a ∧ cast.rename a = a) (Step.lift (registry.canonical name))
      (Step.lift (registry.canonical name)) :=
  .lift fun canonical known => ⟨rfl, cast.canonical name canonical known⟩

theorem canonicalName_mirrors (name : Option String) :
    cast.Mirrors (fun a b => b = a ∧ cast.rename a = a) (Typing.canonicalName registry name)
      (Typing.canonicalName registry name) := by
  unfold Typing.canonicalName
  split
  · exact canonical_mirrors name
  · exact .bind_eq (.tell _ _) fun _ => .refuse (.same _)

theorem declare_mirrors (node : Node) :
    cast.Mirrors Eq (Typing.declare registry node)
      (Typing.declare registry (cast.recast node)) := by
  unfold Typing.declare
  rw [cast.plain node "name" (by decide)]
  refine .bind (canonicalName_mirrors _) fun canonical _ same => ?_
  obtain ⟨rfl, fixed⟩ := same
  rw [cast.declaredId_recast node fixed]
  refine .bind_map (.lift_map (f := ScalarType.renamed cast.rename) ?_) fun type => ?_
  · rw [ScalarType.ofDraft_renamed, orFault_map]
  · exact .bind_eq (.fill (.addType type)) fun _ => .tell _ _

theorem declareAll_mirrors (nodes : List Node) :
    cast.Mirrors Eq (Typing.declareAll registry nodes)
      (Typing.declareAll registry (nodes.map cast.recast)) := by
  rw [Typing.declareAll_eq_each, Typing.declareAll_eq_each]
  exact .each fun node _ => declare_mirrors node

theorem infer_mirrors {canonical : String} (fixed : cast.rename canonical = canonical)
    (field field' : Option String) :
    cast.Mirrors Eq (Typing.infer canonical field) (Typing.infer canonical field') := by
  refine .store_bind fun left right mirrors => ?_
  have known : right.hasType canonical = left.hasType canonical := by
    conv_lhs => rw [← fixed]
    exact mirrors.hasType canonical
  rw [known]
  split
  · refine .bind_map (.lift_map (f := ScalarType.renamed cast.rename) ?_) fun type => ?_
    · rw [← orFault_map, ← ScalarType.ofDraft_renamed, fixed]
    · exact .bind_eq (.fill (.addType type)) fun _ => .tell _ _
  · exact .unit

/-- The type name of a recast field is the same, or the same under other identifiers. -/
theorem inlineType_mirrors {field : Node} (side : IsSide field) :
    cast.Mirrors (fun a b => b = a ∨ b = a.map cast.rename) (Step.lift (inlineType field))
      (Step.lift (inlineType (cast.recast field))) := by
  rcases cast.inlineType_recast side with same | mapped
  · rw [same]
    exact .lift fun _ _ => Or.inl rfl
  · rw [mapped]
    cases inlineType field with
    | ok name => exact .pure (Or.inr rfl)
    | error fault => exact .throw (.same fault)

theorem resolve_mirrors (enumerations : List (Option String)) (owner : String) {field : Node}
    (side : IsSide field) :
    cast.Mirrors (fun a b => b = cast.rename a)
      (Typing.resolve registry enumerations owner field)
      (Typing.resolve registry (enumerations.map (Option.map cast.rename)) (cast.rename owner)
        (cast.recast field)) := by
  refine .store_bind fun left right mirrors => ?_
  rw [cast.referred?_recast mirrors enumerations side]
  cases Typing.referred? left enumerations field with
  | some reference => exact .pure rfl
  | none =>
      refine .bind (inlineType_mirrors side) fun name name' same => ?_
      have contains : registry.contains name' = registry.contains name := by
        rcases same with rfl | rfl
        · rfl
        · exact cast.contains_rename name
      rw [contains]
      cases known : registry.contains name with
      | true =>
          have named : name' = name := by
            rcases same with rfl | rfl
            · rfl
            · exact cast.map_rename_of_contains known
          rw [named, if_pos rfl, if_pos rfl]
          refine .bind (canonical_mirrors name) fun canonical _ same => ?_
          obtain ⟨rfl, fixed⟩ := same
          exact .bind_eq (infer_mirrors fixed _ _) fun _ => .pure fixed.symm
      | false =>
          rw [if_neg Bool.false_ne_true, if_neg Bool.false_ne_true, cast.identified]
          refine .refuse (.wrongType ?_ (.ofOption _) (.text owner))
          rcases same with rfl | rfl
          · exact .same _
          · exact .ofOption name

/-! ## Classes -/

theorem requireTitle_mirrors (what : String) (node : Node) :
    cast.Mirrors (fun a b => b = a ∧ a ≠ "") (Classes.requireTitle what node)
      (Classes.requireTitle what (cast.recast node)) := by
  unfold Classes.requireTitle
  rw [cast.title?_recast, cast.identified]
  cases titled : title? node with
  | some name => exact .pure ⟨rfl, title?_ne_empty titled⟩
  | none => exact .refuse (.nameMissing _ (.ofOption _))

theorem addClass_mirrors (node : Node) :
    cast.Mirrors (fun a b => b = cast.rename a) (Classes.addClass node)
      (Classes.addClass (cast.recast node)) := by
  unfold Classes.addClass
  rw [cast.documentation_recast, cast.identified]
  refine .bind (requireTitle_mirrors "class" node) fun name _ same => ?_
  obtain ⟨rfl, _⟩ := same
  refine .bind_eq (.lift_eq _) fun comment => ?_
  refine .bind_map (.lift_map (f := Class.renamed cast.rename) ?_) fun entity => ?_
  · rw [Class.ofDraft_renamed, orFault_map]
  · exact .bind_eq (.fill (.addClass entity)) fun _ => .bind_eq (.tell _ _) fun _ => .pure rfl

section

variable (enumerations : List (Option String)) (owner : String)

theorem addField_mirrors {node : Node} (side : IsSide node) :
    cast.Mirrors Eq (Classes.addField registry enumerations owner node)
      (Classes.addField registry (enumerations.map (Option.map cast.rename)) (cast.rename owner)
        (cast.recast node)) := by
  unfold Classes.addField
  rw [cast.documentation_recast, cast.identified]
  refine .bind (requireTitle_mirrors "field" node) fun name _ same => ?_
  obtain ⟨rfl, filled⟩ := same
  refine .bind_map (resolve_mirrors enumerations owner side) fun typeId => ?_
  refine .bind_eq (.lift_eq _) fun comment => ?_
  refine .bind_map (.lift_map (f := Field.renamed cast.rename) ?_) fun field => ?_
  · rw [Field.ofDraft_renamed _ _ _ _ _ filled, orFault_map]
  · exact .bind_eq (.fill (.addField field)) fun _ => .tell _ _

theorem keepEnd_mirrors {node : Node} (side : IsSide node) :
    cast.Mirrors Eq (Classes.keepEnd owner node)
      (Classes.keepEnd (cast.rename owner) (cast.recast node)) := by
  refine .modify fun p q start => ⟨start.store, ?_, fun id found filed => ?_, start.index⟩
  · rw [start.ends, cast.identified]
    exact Table.insert_mapped cast.rename.optionMap cast.classEnd p.ends (id? node) ⟨owner, node⟩
  · rcases Table.eq_or_get?_of_insert filed with ⟨_, rfl⟩ | before
    · exact side
    · exact start.sides id found before

theorem addAttribute_mirrors {node : Node} (side : IsSide node) :
    cast.Mirrors Eq (Classes.addAttribute registry enumerations owner node)
      (Classes.addAttribute registry (enumerations.map (Option.map cast.rename))
        (cast.rename owner) (cast.recast node)) := by
  unfold Classes.addAttribute
  rw [cast.isEnd_recast]
  split
  · exact keepEnd_mirrors owner side
  · exact addField_mirrors enumerations owner side

theorem addMembers_mirrors (node : Node) :
    cast.Mirrors Eq
      (Classes.addMembers registry enumerations owner (node.select "ownedAttribute"))
      (Classes.addMembers registry (enumerations.map (Option.map cast.rename))
        (cast.rename owner) ((cast.recast node).select "ownedAttribute")) := by
  unfold Classes.addMembers
  rw [cast.select, Classes.addAttributes_eq_each, Classes.addAttributes_eq_each]
  refine .bind_eq (.each fun child found => ?_) fun _ => ?_
  · exact addAttribute_mirrors enumerations owner (Or.inl (name_of_found found))
  · change cast.Mirrors Eq (if (node.select "ownedAttribute").cut then _ else _)
      (if (node.select "ownedAttribute").cut then _ else _)
    split
    · exact .throw (.same _)
    · exact .unit

end

theorem add_mirrors (enumerations : List (Option String)) (node : Node) :
    cast.Mirrors Eq (Classes.add registry enumerations node)
      (Classes.add registry (enumerations.map (Option.map cast.rename)) (cast.recast node)) := by
  refine .bind_map (addClass_mirrors node) fun owner => ?_
  exact .repairing (addMembers_mirrors enumerations owner node) fun _ _ _ =>
    .fill (.removeClass (some owner))

theorem addAll_mirrors (enumerations : List (Option String)) (nodes : List Node) :
    cast.Mirrors Eq (Classes.addAll registry enumerations nodes)
      (Classes.addAll registry (enumerations.map (Option.map cast.rename))
        (nodes.map cast.recast)) := by
  rw [Classes.addAll_eq_each, Classes.addAll_eq_each]
  exact .each fun node _ => add_mirrors enumerations node

/-! ## Associations -/

theorem pairOfEnds_mirrors (association : Node) (ids : List String) :
    cast.Mirrors (fun a b => b = (cast.rename a.1, cast.rename a.2))
      (Associations.pairOfEnds association ids)
      (Associations.pairOfEnds (cast.recast association) (ids.map cast.rename)) := by
  have missed : Remark.Echoes cast.rename
      (.ofOption (if ids.isEmpty then none else some (" ".intercalate ids)))
      (.ofOption (if (ids.map cast.rename).isEmpty then none
        else some (" ".intercalate (ids.map cast.rename)))) := by
    rw [List.isEmpty_map]
    split
    · exact .same _
    · exact .renamed ids
  have refused : cast.Mirrors (fun a b => b = (cast.rename a.1, cast.rename a.2))
      (Step.refuse _ : Step (String × String)) (Step.refuse _) :=
    .refuse (.unresolved (.text "pair of association ends") missed (.ofOption (id? association)))
  rw [← cast.identified] at refused
  match ids with
  | [] => exact refused
  | [_] => exact refused
  | [_, _] => exact .pure rfl
  | _ :: _ :: _ :: _ => exact refused

theorem findEnd_mirrors (cast : Recasting registry) {owned : Table (Option String) Node}
    (sides : ∀ id node, owned.get? id = some node → IsSide node) (association : Option String)
    (id : String) :
    cast.Mirrors (fun a b => b = cast.recast a ∧ IsSide a)
      (Associations.findEnd owned association id)
      (Associations.findEnd (owned.mapped cast.rename.optionMap cast.recast)
        (association.map cast.rename) (cast.rename id)) := by
  have inside : (owned.mapped cast.rename.optionMap cast.recast).get? (some (cast.rename id)) =
      (owned.get? (some id)).map cast.recast :=
    Table.get?_mapped cast.rename.optionMap cast.recast owned (some id)
  unfold Associations.findEnd
  rw [inside]
  cases found : owned.get? (some id) with
  | some node => exact .pure ⟨rfl, sides _ node found⟩
  | none =>
      refine .get_bind fun p q start => ?_
      have outside : q.ends.get? (some (cast.rename id)) =
          (p.ends.get? (some id)).map cast.classEnd := by
        rw [start.ends]
        exact Table.get?_mapped cast.rename.optionMap cast.classEnd p.ends (some id)
      rw [outside]
      cases declared : p.ends.get? (some id) with
      | some found => exact .pure ⟨rfl, start.sides _ found declared⟩
      | none => exact .refuse (.unresolved _ (.text id) (.ofOption association))

theorem endClass_mirrors (association : Option String) {side : Node} (sided : IsSide side) :
    cast.Mirrors (fun a b => b = cast.rename a) (Associations.endClass association side)
      (Associations.endClass (association.map cast.rename) (cast.recast side)) := by
  have failing (owner : Option String) :
      cast.Mirrors (fun a b => b = cast.rename a)
        (Associations.endClass.fail association owner)
        (Associations.endClass.fail (association.map cast.rename) (owner.map cast.rename)) :=
    .bind_eq (.tell _ _) fun _ =>
      .refuse (.unresolved _ (.ofOption owner) (.ofOption association))
  unfold Associations.endClass
  dsimp only
  rw [cast.typed side sided, filter_rename cast.empty]
  cases (side.plain? "type").filter (!·.isEmpty) with
  | none => exact failing _
  | some id =>
      refine .store_bind fun left right mirrors => ?_
      rw [mirrors.hasClass]
      split
      · exact .pure rfl
      · exact failing _

theorem sideIsMany_mirrors (side : Node) :
    cast.Mirrors Eq (Associations.sideIsMany side)
      (Associations.sideIsMany (cast.recast side)) := by
  unfold Associations.sideIsMany
  rw [cast.upperBound_recast]
  refine .bind_eq (.lift_eq _) fun bound => ?_
  cases bound with
  | unreadable text => exact .bind_eq (.tell _ _) fun _ => .pure rfl
  | one => exact .bind_eq .unit fun _ => .pure rfl
  | many => exact .bind_eq .unit fun _ => .pure rfl

theorem cardinality_mirrors (first second : Node) :
    cast.Mirrors Eq (Associations.cardinality first second)
      (Associations.cardinality (cast.recast first) (cast.recast second)) := by
  refine .bind_eq (sideIsMany_mirrors first) fun manyDestinations => ?_
  refine .bind_eq (sideIsMany_mirrors second) fun manySources => ?_
  exact .pure rfl

/-- The ends that stand inside an association are found recast. -/
theorem ownedEnds_mirrors (node : Node) :
    cast.Mirrors (fun a b => b = a.map cast.recast ∧ ∀ side ∈ a, IsSide side)
      (Step.lift (allOf (node.select "ownedEnd")))
      (Step.lift (allOf ((cast.recast node).select "ownedEnd"))) := by
  rw [cast.select, allOf_map]
  unfold allOf
  split
  · exact .throw (.same _)
  · exact .pure ⟨rfl, fun side inside => Or.inr (name_of_found inside)⟩

theorem isSide_of_ownedEnds {ends : List Node} (sides : ∀ side ∈ ends, IsSide side)
    (id : Option String) (node : Node)
    (found : (Associations.ownedEnds ends).get? id = some node) : IsSide node := by
  obtain ⟨side, inside, same⟩ := List.mem_map.mp (Table.mem_of_get?_ofList found)
  cases same
  exact sides node inside

theorem build_mirrors (node : Node) (ids : List String) :
    cast.Mirrors (fun a b => b = Association.renamed cast.rename a)
      (Associations.build node ids)
      (Associations.build (cast.recast node) (ids.map cast.rename)) := by
  unfold Associations.build
  rw [cast.identified, cast.title?_recast]
  refine .bind_map (pairOfEnds_mirrors node ids) fun pair => ?_
  refine .bind (ownedEnds_mirrors node) fun owned _ same => ?_
  obtain ⟨rfl, sides⟩ := same
  rw [cast.ownedEnds_recast]
  have found := findEnd_mirrors cast (isSide_of_ownedEnds sides) (id? node)
  refine .bind (found pair.1) fun first _ same => ?_
  obtain ⟨rfl, firstSide⟩ := same
  refine .bind (found pair.2) fun second _ same => ?_
  obtain ⟨rfl, secondSide⟩ := same
  refine .bind_map (endClass_mirrors _ secondSide) fun source => ?_
  refine .bind_map (endClass_mirrors _ firstSide) fun destination => ?_
  refine .bind_eq (cardinality_mirrors first second) fun cardinality => ?_
  rw [cast.documentation_recast, cast.documentation_recast, cast.title?_recast,
    cast.title?_recast]
  refine .bind_eq (.lift_eq _) fun firstComment => ?_
  refine .bind_eq (.lift_eq _) fun secondComment => ?_
  exact .lift_map (by rw [Association.ofDraft_renamed, orFault_map])

theorem addAssociation_mirrors (node : Node) :
    cast.Mirrors (fun a b => b = a.map cast.rename) (Associations.add node)
      (Associations.add (cast.recast node)) := by
  refine .bind_map (.lift_map (cast.listed node)) fun ids => ?_
  refine .bind_map (build_mirrors node ids) fun association => ?_
  exact .bind_eq (.fill (.addAssociation association)) fun _ =>
    .bind_eq (.tell _ _) fun _ => .pure rfl

theorem addAllAssociations_mirrors (nodes : List Node) :
    cast.Mirrors (fun a b => b = a.map cast.rename) (Associations.addAll nodes)
      (Associations.addAll (nodes.map cast.recast)) := by
  induction nodes with
  | nil => exact .pure rfl
  | cons node rest ih =>
      refine .bind_map (addAssociation_mirrors node) fun ids => ?_
      refine .bind_map ih fun others => ?_
      exact .pure List.map_append.symm

theorem checkEnds_mirrors (used : List String) (entries : List (Option String × ClassEnd)) :
    cast.Mirrors Eq (Associations.checkEnds used entries)
      (Associations.checkEnds (used.map cast.rename)
        (entries.map (Prod.map cast.rename.optionMap cast.classEnd))) := by
  induction entries with
  | nil => exact .unit
  | cons entry rest ih =>
      obtain ⟨id, found⟩ := entry
      have listed : (id.map cast.rename).any (used.map cast.rename).contains =
          id.any used.contains := by
        cases id with
        | none => rfl
        | some id =>
            rw [Option.map_some, Option.any_some, Option.any_some, Bool.eq_iff_iff,
              List.contains_iff_mem, List.contains_iff_mem]
            exact List.mem_map_of_injective cast.rename.injective
      change cast.Mirrors Eq (if id.any used.contains then _ else _)
        (if (id.map cast.rename).any (used.map cast.rename).contains then _ else _)
      rw [listed]
      split
      · exact ih
      · have named : (cast.classEnd found).node.plain? "association" =
            found.node.plain? "association" := cast.plain found.node _ (by decide)
        rw [named]
        exact .bind_eq (.tell _ _) fun _ =>
          .refuse (.unresolved _ (.same _) (.text found.owner))

theorem link_mirrors (nodes : List Node) :
    cast.Mirrors Eq (Associations.link nodes) (Associations.link (nodes.map cast.recast)) := by
  refine .bind (addAllAssociations_mirrors nodes) fun used _ same => .get_bind fun p q start => ?_
  rw [same, start.ends]
  exact checkEnds_mirrors used p.ends.entries

/-! ## Enumerations -/

theorem literalNames_mirrors (enumeration : String) (nodes : List Node) :
    cast.Mirrors Eq (Enumerations.literalNames enumeration nodes)
      (Enumerations.literalNames enumeration (nodes.map cast.recast)) := by
  induction nodes with
  | nil => exact .pure rfl
  | cons node rest ih =>
      rw [List.map_cons]
      unfold Enumerations.literalNames
      rw [cast.title?_recast, cast.identified]
      cases title? node with
      | some name =>
          refine .bind_eq ih fun others => ?_
          exact .pure rfl
      | none => exact .bind_eq (.tell _ _) fun _ => .refuse (.nameMissing _ (.ofOption _))

theorem values_mirrors (enumeration : String) (node : Node) :
    cast.Mirrors Eq (Enumerations.values enumeration (node.select "ownedLiteral"))
      (Enumerations.values enumeration ((cast.recast node).select "ownedLiteral")) := by
  rw [cast.select]
  refine .bind_eq (literalNames_mirrors enumeration _) fun names => ?_
  change cast.Mirrors Eq (if (node.select "ownedLiteral").cut then _ else _)
    (if (node.select "ownedLiteral").cut then _ else _)
  split
  · have thrown : cast.Mirrors Eq (throw .brokenName : Step Unit) (throw .brokenName) :=
      .throw (.same _)
    exact thrown.bind_eq fun _ => .pure rfl
  · exact .pure rfl

theorem buildEnumeration_mirrors (node : Node) :
    cast.Mirrors (fun a b => b = Enumeration.renamed cast.rename a) (Enumerations.build node)
      (Enumerations.build (cast.recast node)) := by
  unfold Enumerations.build
  rw [cast.title?_recast, cast.identified]
  cases title? node with
  | some name =>
      refine .bind_eq (values_mirrors name node) fun values => ?_
      exact .lift_map (by rw [Enumeration.ofDraft_renamed, orFault_map])
  | none => exact .bind_eq (.tell _ _) fun _ => .refuse (.nameMissing _ (.ofOption _))

theorem addEnumeration_mirrors (node : Node) :
    cast.Mirrors Eq (Enumerations.add node) (Enumerations.add (cast.recast node)) := by
  refine .bind_map (buildEnumeration_mirrors node) fun enumeration => ?_
  exact .bind_eq (.fill (.addEnumeration enumeration)) fun _ => .tell _ _

theorem addAllEnumerations_mirrors (nodes : List Node) :
    cast.Mirrors Eq (Enumerations.addAll nodes)
      (Enumerations.addAll (nodes.map cast.recast)) := by
  rw [Enumerations.addAll_eq_each, Enumerations.addAll_eq_each]
  exact .each fun node _ => addEnumeration_mirrors node

/-! ## Stages -/

section

variable (left right : Ingestion)

theorem runStage_mirrors {like : α → β → Prop} (stage : Stage) {action : Step α}
    {reaction : Step β} (mirrors : cast.Mirrors like action reaction) :
    cast.Mirrors like (left.runStage stage action) (right.runStage stage reaction) := by
  have repaired : cast.Mirrors like
      (Step.repairing action fun cause => do
        left.tellFrom stage.name (.stageFailed stage cause)
        Step.change (modify (·.invalidate cause)))
      (Step.repairing reaction fun cause => do
        right.tellFrom stage.name (.stageFailed stage cause)
        Step.change (modify (·.invalidate cause))) :=
    mirrors.repairing fun cause cause' echoes => .bind_eq (.tellFrom _ _ _ _) fun _ =>
      .change fun _ _ stores => .ok (stores.invalidate echoes)
  exact .bind repaired fun _ _ same => .bind_eq (.tellFrom _ _ _ _) fun _ => .pure same

theorem tellAll_mirrors (events events' : List Event) :
    cast.Mirrors Eq (Step.tellAll events) (Step.tellAll events') := by
  intro p q start
  obtain ⟨journal, told⟩ := Step.tellAll_apply events p
  obtain ⟨journal', toldToo⟩ := Step.tellAll_apply events' q
  rw [told, toldToo]
  exact .ok rfl ⟨start.store, start.ends, start.sides, start.index⟩

variable {left right} (strict : left.strict = right.strict)
  (model : right.model = cast.recast left.model)
include strict model

theorem findElements_mirrors :
    cast.Mirrors (fun i j => j = cast.index i) left.findElements right.findElements := by
  have made : Index.ofModel right.strict right.model =
      (Index.ofModel left.strict left.model).map cast.index := by
    rw [← strict, model]
    exact cast.ofModel_recast left.strict left.model
  have classified : cast.Mirrors (fun i j => j = cast.index i)
      (do
        let index ← Step.lift (Index.ofModel left.strict left.model)
        Step.tellAll index.events
        return index)
      (do
        let index ← Step.lift (Index.ofModel right.strict right.model)
        Step.tellAll index.events
        return index) :=
    .bind (.lift_map made) fun _ _ same => .bind_eq (tellAll_mirrors _ _) fun _ => .pure same
  refine .bind_map (runStage_mirrors left right .index classified) fun index => ?_
  refine .bind_eq (.modify fun p q start => ?_) fun _ => .pure rfl
  exact ⟨start.store, start.ends, start.sides, rfl⟩

theorem index_mirrors : cast.Mirrors (fun i j => j = cast.index i) left.index right.index := by
  refine .get_bind fun p q start => ?_
  rw [start.index]
  cases p.index with
  | some index => exact .pure rfl
  | none => exact findElements_mirrors strict model

variable (sameLeft : left.registry = registry) (sameRight : right.registry = registry)
include sameLeft sameRight

theorem fillTypes_mirrors : cast.Mirrors Eq left.fillTypes right.fillTypes := by
  refine .bind_map (index_mirrors strict model) fun index => ?_
  rw [cast.elementsOf_index, cast.positions_index, sameLeft, sameRight]
  exact runStage_mirrors left right .types
    (.bind_eq (declareAll_mirrors _) fun _ => .pure rfl)

theorem fillClasses_mirrors : cast.Mirrors Eq left.fillClasses right.fillClasses := by
  refine .bind_map (index_mirrors strict model) fun index => ?_
  rw [cast.elementsOf_index, cast.positions_index, cast.enumerationIds_index, sameLeft,
    sameRight]
  refine .bind_eq (.modify fun p q start => ?_) fun _ =>
    runStage_mirrors left right .classes (.bind_eq (addAll_mirrors _ _) fun _ => .pure rfl)
  exact ⟨start.store, rfl, nofun, start.index⟩

omit sameLeft sameRight in
theorem fillAssociations_mirrors :
    cast.Mirrors Eq left.fillAssociations right.fillAssociations := by
  refine .bind_map (index_mirrors strict model) fun index => ?_
  rw [cast.elementsOf_index, cast.positions_index]
  exact runStage_mirrors left right .associations
    (.bind_eq (link_mirrors _) fun _ => .pure rfl)

omit sameLeft sameRight in
theorem fillEnumerations_mirrors :
    cast.Mirrors Eq left.fillEnumerations right.fillEnumerations := by
  refine .bind_map (index_mirrors strict model) fun index => ?_
  rw [cast.elementsOf_index, cast.positions_index]
  exact runStage_mirrors left right .enumerations
    (.bind_eq (addAllEnumerations_mirrors _) fun _ => .pure rfl)

theorem runStages_mirrors : cast.Mirrors Eq left.runStages right.runStages := by
  refine .bind_eq (.tellFrom _ _ _ _) fun _ => ?_
  refine .bind_map (findElements_mirrors strict model) fun _ => ?_
  refine .bind_eq (fillTypes_mirrors strict model sameLeft sameRight) fun _ => ?_
  refine .bind_eq (fillClasses_mirrors strict model sameLeft sameRight) fun _ => ?_
  refine .bind_eq (fillAssociations_mirrors strict model) fun _ => ?_
  refine .bind_eq (fillEnumerations_mirrors strict model) fun _ => ?_
  refine .bind_eq (.change fun _ _ stores => .ok stores.freeze) fun _ => ?_
  exact .store_bind fun _ _ _ => .tellFrom _ _ _ _

/-- A run of a recast model mirrors the run of the model. -/
theorem run_mirrors : cast.Mirrors (Store.Mirrors cast.rename) left.run right.run := by
  refine .store_bind fun _ _ stores => ?_
  refine .bind (.lift_parallel stores.checkValid) fun _ _ _ => ?_
  refine .store_bind fun _ _ stores => ?_
  have given : cast.Mirrors (Store.Mirrors cast.rename) Step.store Step.store :=
    .store_bind fun _ _ stores => .pure stores
  rw [stores.frozen]
  split
  · exact .bind_eq (.tellFrom _ _ _ _) fun _ => given
  · exact .bind_eq (runStages_mirrors strict model sameLeft sameRight) fun _ => given

end

theorem reflects_initial : cast.Reflects .initial .initial :=
  ⟨.empty, rfl, nofun, rfl⟩

end Recasting

namespace Ingestion

variable (ingestion : Ingestion) (cast : Recasting ingestion.registry)

theorem run_recast :
    Parallel cast.rename (Store.Mirrors cast.rename) (ingestion.run.outcome .initial).1
        ((ingestion.withModel (cast.recast ingestion.model)).run.outcome .initial).1 ∧
      (ingestion.run.outcome .initial).2.store.Mirrors cast.rename
        ((ingestion.withModel (cast.recast ingestion.model)).run.outcome .initial).2.store := by
  have mirrors : cast.Mirrors (Store.Mirrors cast.rename) ingestion.run
      (ingestion.withModel (cast.recast ingestion.model)).run :=
    Recasting.run_mirrors rfl rfl rfl rfl
  obtain ⟨parallel, ended⟩ := mirrors.outcome Recasting.reflects_initial
  exact ⟨parallel, ended.store⟩

/-- Where elements are recast and keep their identifiers, first runs end alike. -/
theorem endsLike_recast (same : cast.rename = .refl String) :
    ingestion.EndsLike (ingestion.withModel (cast.recast ingestion.model)) := by
  obtain ⟨parallel, stores⟩ := ingestion.run_recast cast
  rw [same] at parallel stores
  refine ⟨?_, stores.eq_of_refl.symm⟩
  generalize (ingestion.run.outcome .initial).1 = result,
    ((ingestion.withModel _).run.outcome .initial).1 = result' at parallel
  cases parallel with
  | ok mirrors => rw [mirrors.eq_of_refl]
  | error echoes => rw [echoes.eq_of_id]

/--
Where elements are recast, a first run gives the store it has given before
under other identifiers, or it ends in a fault of the same sort.
-/
theorem run_recast_eq :
    ((ingestion.withModel (cast.recast ingestion.model)).run.outcome .initial).1.mapError
        Fault.sort =
      ((ingestion.run.outcome .initial).1.map (Store.renamed cast.rename)).mapError
        Fault.sort := by
  have parallel := (ingestion.run_recast cast).1
  cases ran : ingestion.run.outcome .initial with
  | mk result p =>
      rw [ran] at parallel
      generalize ((ingestion.withModel _).run.outcome .initial).1 = result' at parallel
      cases parallel with
      | ok mirrors =>
          rw [mirrors.eq_of_unfailed (isDone_of_first_run ran).2.unfailed]
          rfl
      | error echoes => exact congrArg Except.error echoes.sort_eq

end Ingestion

end ClassDiagram
