import ClassDiagram.Proofs.Replacing
import ClassDiagram.Proofs.Transfer
import ClassDiagram.Proofs.Trees

/-!
# Ends in associations and in classes

An end of an association may stand inside the association or among the
attributes of any class.  Where nothing else goes by its identifier, a run
gives the same store whether it stands here or there.
-/

namespace ClassDiagram

open Associations (EndsStay JoinsAlso SameEnd endWith offered ownedEnds typed?)
open Step (Agree KeepsEnd Shares bind_eq_ok bind_of_ok)
open Xml (Name Node)

/-! ## An end as an attribute -/

def associationName : Name := .plain "association"

/-- An end, written as an attribute of a class that belongs to an association. -/
structure AsAttribute (side member : Node) : Prop where
  named : member.name?.bind Name.localPart? = some "ownedAttribute"
  attributes : member.attributes.filter (·.1 ≠ associationName) =
    side.attributes.filter (·.1 ≠ associationName)
  children : member.children = side.children
  linked : Classes.isEnd member = true

namespace AsAttribute

variable {side member : Node} (written : AsAttribute side member)
include written

theorem plain?_eq {key : String} (other : .ofText key ≠ associationName) :
    member.plain? key = side.plain? key :=
  plain?_of_filter written.attributes other

theorem xmi?_eq {key : Option String}
    (other : .ofText ("xmi:" ++ Text.plain? key) ≠ associationName) :
    xmi? member key = xmi? side key :=
  xmi?_of_filter written.attributes rfl other

theorem id?_eq : id? member = id? side := written.xmi?_eq (by decide)

theorem select_eq (tag : String) : side.select tag = member.select tag := by
  unfold Node.select
  rw [written.children]

/-- An end says the same wherever it stands. -/
theorem sameEnd : SameEnd side member where
  typed := by
    unfold typed?
    rw [written.plain?_eq (by decide)]
  titled := by
    unfold title?
    rw [written.plain?_eq (by decide)]
  documented := documentation_congr (written.select_eq "ownedComment")
  bounded := by
    unfold isMany
    rw [upperBound_congr (written.select_eq "upperValue")]

end AsAttribute

/-! ## Moving an end -/

/-- An end that stands inside an association of a model, and a place for it in a class. -/
structure Move (model : Node) where
  association : Node
  objectClass : Node
  side : Node
  /-- The end as it is written in the class. -/
  member : Node
  associationPlace : Nat
  classPlace : Nat
  sidePlace : Nat
  memberPlace : Nat
  association_at : model.children[associationPlace]? = some association
  isAssociation : isOfKind .association association = true
  class_at : model.children[classPlace]? = some objectClass
  isClass : isOfKind .objectClass objectClass = true
  side_at : association.children[sidePlace]? = some side
  isSide : side.name?.bind Name.localPart? = some "ownedEnd"
  written : AsAttribute side member

/-- Whether a node may be the end with an identifier, in an association or in a class. -/
def mayBe (id : String) (node : Node) : Bool :=
  (node.name?.bind Name.localPart? = some "ownedEnd" ||
    node.name?.bind Name.localPart? = some "ownedAttribute") && id? node = some id

namespace Move

variable {model : Node} (move : Move model)

def relieved : Node :=
  move.association.withChildren (move.association.children.eraseIdx move.sidePlace)

def enriched : Node :=
  move.objectClass.withChildren (move.objectClass.children.take move.memberPlace ++
    move.member :: move.objectClass.children.drop move.memberPlace)

def result : Node :=
  model.withChildren ((model.children.set move.associationPlace move.relieved).set
    move.classPlace move.enriched)

/-- The association lists its end, whose identifier no other node has that may be an end. -/
structure Sound (id : String) : Prop where
  named : id? move.side = some id
  listed : ∃ ids, memberEnds move.association = .ok ids ∧ id ∈ ids
  alone : model.within.filter (mayBe id) = [move.side]

/-! ### The elements of both models -/

def between : Node := model.withChildren (model.children.set move.associationPlace move.relieved)

theorem places_ne : move.associationPlace ≠ move.classPlace := by
  intro same
  have both := move.association_at
  rw [same, move.class_at] at both
  have isClass := isOfKind_eq_false move.isClass .association nofun
  rw [Option.some.inj both, move.isAssociation] at isClass
  cases isClass

theorem children_between : move.between.children =
    model.children.set move.associationPlace move.relieved := by
  obtain ⟨name, named⟩ := Node.exists_name_of_mem (List.mem_of_getElem? move.association_at)
  exact Node.children_withChildren named _

theorem result_eq : move.result =
    move.between.withChildren (move.between.children.set move.classPlace move.enriched) := by
  rw [children_between]
  unfold result between
  cases model <;> rfl

theorem class_between : move.between.children[move.classPlace]? = some move.objectClass := by
  rw [children_between, List.getElem?_set_ne move.places_ne]
  exact move.class_at

theorem head_relieved : SameHead move.association move.relieved := SameHead.withChildren _ _

theorem head_enriched : SameHead move.objectClass move.enriched := SameHead.withChildren _ _

theorem more_in_class :
    OneMore "ownedAttribute" move.member move.objectClass move.enriched := by
  refine ⟨⟨move.objectClass.children.take move.memberPlace,
    move.objectClass.children.drop move.memberPlace, (List.take_append_drop _ _).symm, ?_⟩,
    move.written.named⟩
  obtain ⟨name, named⟩ : ∃ name, move.objectClass.name? = some name := by
    have isClass := move.isClass
    unfold isOfKind at isClass
    rw [Bool.and_eq_true, decide_eq_true_eq] at isClass
    exact (Option.bind_eq_some_iff.mp isClass.1).imp fun _ found => found.1
  exact Node.children_withChildren named _

theorem more_in_association :
    OneMore "ownedEnd" move.side move.relieved move.association := by
  obtain ⟨front, back, shape, _, erased⟩ := split_of_getElem? move.side_at
  obtain ⟨name, named⟩ := Node.exists_name_of_mem (List.mem_of_getElem? move.side_at)
  refine ⟨⟨front, back, ?_, shape⟩, move.isSide⟩
  unfold relieved
  rw [Node.children_withChildren named, erased]

theorem ofModel_result {strict : Bool} {index : Index}
    (made : Index.ofModel strict model = .ok index) :
    ∃ other, Index.ofModel strict move.result = .ok other := by
  obtain ⟨_, between⟩ := Index.ofModel_set move.association_at move.head_relieved made
  rw [result_eq]
  exact Index.ofModel_set move.class_between move.head_enriched between

theorem elements_association : ∃ front back,
    elementsOfKind model .association = front ++ move.association :: back ∧
      elementsOfKind move.result .association = front ++ move.relieved :: back := by
  have kept := elementsOfKind_set_of_ne move.class_between move.head_enriched
    (isOfKind_eq_false move.isClass .association nofun)
  rw [← result_eq] at kept
  rw [kept]
  exact elementsOfKind_set move.association_at move.head_relieved move.isAssociation

theorem elements_class : ∃ front back,
    elementsOfKind model .objectClass = front ++ move.objectClass :: back ∧
      elementsOfKind move.result .objectClass = front ++ move.enriched :: back := by
  have kept := elementsOfKind_set_of_ne move.association_at move.head_relieved
    (isOfKind_eq_false move.isAssociation .objectClass nofun)
  rw [result_eq, ← kept]
  exact elementsOfKind_set move.class_between move.head_enriched move.isClass

theorem elements_other (kind : ElementKind) (noAssociation : .association ≠ kind)
    (noClass : .objectClass ≠ kind) :
    elementsOfKind move.result kind = elementsOfKind model kind := by
  have first := elementsOfKind_set_of_ne move.association_at move.head_relieved
    (isOfKind_eq_false move.isAssociation kind noAssociation)
  have second := elementsOfKind_set_of_ne move.class_between move.head_enriched
    (isOfKind_eq_false move.isClass kind noClass)
  rw [result_eq]
  exact second.trans first

variable {move} {id : String} (sound : move.Sound id)
include sound

/-- No other child of the association may be the end. -/
theorem Sound.alone_inside {node : Node} (inside : node ∈ move.relieved.children) :
    mayBe id node = false := by
  by_contra another
  obtain ⟨front, back, fewer, shape⟩ := move.more_in_association.split
  rw [fewer] at inside
  have fits : mayBe id node = true := eq_true_of_ne_false another
  have sideFits : mayBe id move.side = true := by simp [mayBe, move.isSide, sound.named]
  have nested := (Node.grandchildren_sublist (List.mem_of_getElem? move.association_at)).filter
    (mayBe id)
  rw [sound.alone, shape, List.filter_append, List.filter_cons_of_pos sideFits] at nested
  have few := nested.length_le
  rw [List.length_append, List.length_cons, List.length_singleton] at few
  rcases List.mem_append.mp inside with before | after
  · have found := List.length_pos_of_mem (List.mem_filter.mpr ⟨before, fits⟩)
    omega
  · have found := List.length_pos_of_mem (List.mem_filter.mpr ⟨after, fits⟩)
    omega

/-- No attribute of a class is the end. -/
theorem Sound.not_in_class {node child : Node} (packaged : node ∈ elementsOfKind model .objectClass)
    (inside : child ∈ childrenNamed node "ownedAttribute") : id? child ≠ some id := by
  intro named
  obtain ⟨nested, tagged⟩ := List.mem_filter.mp inside
  rw [decide_eq_true_eq] at tagged
  have fits : mayBe id child = true := by simp [mayBe, tagged, named]
  have found := List.mem_filter.mpr ⟨mem_within_of_child packaged nested, fits⟩
  rw [sound.alone, List.mem_singleton] at found
  have side := move.isSide
  rw [← found, tagged] at side
  exact absurd (Option.some.inj side) (by decide)

end Move

/-! ## Reading the classes -/

/-- Two progresses with the same store, and with the same ends but for one identifier. -/
structure Beside (id : String) (extra : Option Node) (p q : Progress) : Prop where
  store : p.store = q.store
  absent : p.ends.get? (some id) = none
  extra : (q.ends.get? (some id)).map ClassEnd.node = extra
  others : ∀ key, key ≠ some id → q.ends.get? key = p.ends.get? key

section

variable {id : String} {extra : Option Node}

theorem shares_beside : Shares (Beside id extra) where
  same start := start.store
  keeps start _ _ _ := ⟨rfl, start.absent, start.extra, start.others⟩

/-- An end that goes by another identifier is kept alike. -/
theorem keepsEnd_beside {node : Node} (other : id? node ≠ some id) :
    KeepsEnd (Beside id extra) node := by
  intro p q start owner
  refine ⟨start.store, ?_, ?_, fun key differs => ?_⟩
  · rw [Table.get?_insert, if_neg other]
    exact start.absent
  · rw [Table.get?_insert, if_neg other]
    exact start.extra
  · rw [Table.get?_insert, Table.get?_insert, start.others key differs]

theorem Beside.keep {p q : Progress} (start : Beside id extra p q) (owner : String) (node : Node) :
    Beside id (some node) p { q with ends := q.ends.insert (some id) ⟨owner, node⟩ } := by
  refine ⟨start.store, start.absent, ?_, fun key differs => ?_⟩
  · rw [Table.get?_insert_self]
    rfl
  · rw [Table.get?_insert, if_neg fun same => differs same.symm]
    exact start.others key differs

end

namespace Classes

variable {registry : Registry} {enumerations : List (Option String)} {id : String}
  {p q p' : Progress}

/-- Elements that say the same about themselves become the same class. -/
theorem addClass_congr {left right : Node} (named : id? left = id? right)
    (titled : title? left = title? right) (documented : documentation left = documentation right) :
    addClass left = addClass right := by
  unfold addClass requireTitle
  rw [named, titled, documented]

/-- An attribute that is kept as an end in one class alone. -/
theorem addAttributes_beside {owner : String} {front back : List Node} {member : Node}
    (named : id? member = some id) (linked : isEnd member = true)
    (others : ∀ child ∈ front ++ back, id? child ≠ some id)
    (done : Step.each (addAttribute registry enumerations owner) (front ++ back) p = .ok () p')
    (start : Beside id none p q) :
    ∃ q', Step.each (addAttribute registry enumerations owner) (front ++ member :: back) q =
      .ok () q' ∧ Beside id (some member) p' q' := by
  have agree {extra : Option Node} {children : List Node}
      (inside : ∀ child ∈ children, child ∈ front ++ back) :
      Agree (Beside id extra) (Step.each (addAttribute registry enumerations owner) children)
        (Step.each (addAttribute registry enumerations owner) children) :=
    .each fun child there => addAttribute_agree shares_beside registry enumerations owner
      (keepsEnd_beside (others child (inside child there)))
  rw [Step.each_append] at done ⊢
  obtain ⟨_, r, first, rest⟩ := bind_eq_ok.mp done
  obtain ⟨s, firstAlso, middle⟩ :=
    (agree fun child there => List.mem_append_left _ there).ok start first
  have kept : addAttribute registry enumerations owner member s =
      .ok () { s with ends := s.ends.insert (some id) ⟨owner, member⟩ } := by
    unfold addAttribute
    rw [linked, ← named]
    rfl
  obtain ⟨q', restAlso, ended⟩ :=
    (agree fun child there => List.mem_append_right _ there).ok (middle.keep owner member) rest
  exact ⟨q', bind_eq_ok.mpr ⟨(), s, firstAlso, bind_eq_ok.mpr ⟨(), _, kept, restAlso⟩⟩, ended⟩

end Classes

namespace Move

open Classes (Frame add addAll addAttribute addClass)

variable {model : Node} {move : Move model} {id : String} (sound : move.Sound id)
include sound

variable {registry : Registry} {enumerations : List (Option String)} {p q p' : Progress}

theorem Sound.id?_member : id? move.member = some id := move.written.id?_eq.trans sound.named

/-- The class with the end becomes the same class, and keeps the end. -/
theorem Sound.add_enriched (packaged : move.objectClass ∈ elementsOfKind model .objectClass)
    (done : add registry enumerations move.objectClass p = .ok () p')
    (start : Beside id none p q) :
    ∃ q', add registry enumerations move.enriched q = .ok () q' ∧
      Beside id (some move.member) p' q' := by
  have more := move.more_in_class
  have attributes := Node.attributes_withChildren move.objectClass
    (move.objectClass.children.take move.memberPlace ++
      move.member :: move.objectClass.children.drop move.memberPlace)
  obtain ⟨owner, r, headed, uncut, members⟩ := Classes.add_eq_ok done
  have whole := (uncut_select_iff move.objectClass "ownedAttribute").mp uncut
  have enrichedWhole := fun broken => whole (more.hasBrokenName_iff.mp broken)
  obtain ⟨front, back, fewer, longer⟩ := more.childrenNamed_eq
  rw [select_of_whole whole, fewer] at members
  have others : ∀ child ∈ front ++ back, id? child ≠ some id := by
    rw [← fewer]
    exact fun child inside => sound.not_in_class packaged inside
  have same : addClass move.enriched = addClass move.objectClass :=
    Classes.addClass_congr (xmi?_congr attributes _) (title?_congr attributes)
      (documentation_congr (more.select_of_ne whole (by decide)))
  obtain ⟨s, headedAlso, middle⟩ :=
    (Classes.addClass_agree shares_beside move.objectClass).ok start headed
  rw [← same] at headedAlso
  obtain ⟨q', membersAlso, ended⟩ := Classes.addAttributes_beside sound.id?_member
    move.written.linked others members middle
  have selected := select_of_whole enrichedWhole "ownedAttribute"
  rw [longer] at selected
  refine ⟨q', Classes.add_of_members headedAlso ?_ ?_, ended⟩
  · rw [selected]
  · rw [selected]
    exact membersAlso

/-- The classes of both models are read alike, but for the end that one class keeps. -/
theorem Sound.addAll_result
    (done : addAll registry enumerations (elementsOfKind model .objectClass) p = .ok () p')
    (start : Beside id none p q) :
    ∃ q', addAll registry enumerations (elementsOfKind move.result .objectClass) q = .ok () q' ∧
      Beside id (some move.member) p' q' := by
  obtain ⟨front, back, shape, moved⟩ := move.elements_class
  have agree {extra : Option Node} {nodes : List Node}
      (inside : ∀ node ∈ nodes, node ∈ elementsOfKind model .objectClass) :
      Agree (Beside id extra) (Step.each (add registry enumerations) nodes)
        (Step.each (add registry enumerations) nodes) :=
    .each fun node there => Classes.add_agree shares_beside registry enumerations
      fun child found => keepsEnd_beside
        (sound.not_in_class (inside node there) (mem_childrenNamed_of_found found))
  rw [Classes.addAll_eq_each, shape, Step.each_append] at done
  rw [Classes.addAll_eq_each, moved, Step.each_append]
  rw [shape] at agree
  obtain ⟨_, r, first, rest⟩ := bind_eq_ok.mp done
  obtain ⟨_, s, here, later⟩ := bind_eq_ok.mp rest
  obtain ⟨r', firstAlso, before⟩ :=
    (agree fun node there => List.mem_append_left _ there).ok start first
  obtain ⟨s', hereAlso, after⟩ := sound.add_enriched
    (by rw [shape]; exact List.mem_append_cons_self) here before
  obtain ⟨q', laterAlso, ended⟩ :=
    (agree fun node there => List.mem_append_right _ (List.mem_cons_of_mem _ there)).ok after later
  exact ⟨q', bind_eq_ok.mpr ⟨(), r', firstAlso, bind_eq_ok.mpr ⟨(), s', hereAlso, laterAlso⟩⟩,
    ended⟩

end Move

/-! ## Joining the classes -/

namespace Associations

variable {front back : List Node} {side : Node}

/-- An end that stands alone under its identifier is found under it. -/
theorem get?_ownedEnds_self {id : String} (named : id? side = some id)
    (alone : ∀ node ∈ back, id? node ≠ some id) :
    (ownedEnds (front ++ side :: back)).get? (some id) = some side := by
  have later : some id ∉ ((back.map fun node => (id? node, node)).reverse).map Prod.fst := by
    rw [List.map_reverse, List.mem_reverse, List.map_map]
    intro inside
    obtain ⟨node, there, same⟩ := List.mem_map.mp inside
    exact alone node there same
  unfold ownedEnds
  rw [Table.get?_ofList, List.map_append, List.map_cons, List.reverse_append, List.reverse_cons,
    Table.lookup_append, Table.lookup_append, Table.lookup_eq_none later, named]
  simp [Table.lookup]

/-- Without an end, whatever goes by other identifiers is found as before. -/
theorem get?_ownedEnds_of_ne {key : Option String} (other : id? side ≠ key) :
    (ownedEnds (front ++ side :: back)).get? key = (ownedEnds (front ++ back)).get? key := by
  unfold ownedEnds
  rw [Table.get?_ofList, Table.get?_ofList, List.map_append, List.map_append, List.map_cons,
    List.reverse_append, List.reverse_append, List.reverse_cons, Table.lookup_append,
    Table.lookup_append, Table.lookup_append]
  simp [Table.lookup, other]

end Associations

section

variable {id : String} {member : Node} {p q : Progress}

theorem Beside.endsStay (beside : Beside id (some member) p q) : EndsStay p.ends q.ends := by
  intro wanted kept at_wanted
  by_cases same : wanted = id
  · rw [same, beside.absent] at at_wanted
    cases at_wanted
  · refine ⟨kept, ?_, .refl kept.node⟩
    rw [beside.others _ fun equal => same (Option.some.inj equal)]
    exact at_wanted

end

namespace Move

open Associations (get?_ownedEnds_of_ne get?_ownedEnds_self)

variable {model : Node} {move : Move model} {id : String} (sound : move.Sound id)
include sound

variable {p q p' : Progress}

/-- Without its end the association finds the end among those of classes. -/
theorem Sound.endWith_relieved (beside : Beside id (some move.member) p q)
    (whole : ¬ HasBrokenName move.relieved) {wanted : String} {side : Node}
    (found : endWith p.ends move.association wanted = some side) :
    ∃ other, endWith q.ends move.relieved wanted = some other ∧ SameEnd side other := by
  have more := move.more_in_association
  obtain ⟨front, back, fewer, longer⟩ := more.childrenNamed_eq
  have others : ∀ node ∈ front ++ back, id? node ≠ some id := by
    rw [← fewer]
    intro node inside named
    obtain ⟨nested, tagged⟩ := List.mem_filter.mp inside
    rw [decide_eq_true_eq] at tagged
    have another := sound.alone_inside nested
    simp [mayBe, tagged, named] at another
  unfold endWith at found ⊢
  rw [select_of_whole fun broken => whole (more.hasBrokenName_iff.mp broken), longer] at found
  rw [select_of_whole whole, fewer]
  by_cases same : wanted = id
  · rw [same, get?_ownedEnds_self sound.named fun node there =>
      others node (List.mem_append_right _ there)] at found
    cases found
    have absent : (ownedEnds (front ++ back)).get? (some id) = none := by
      unfold ownedEnds
      rw [Table.get?_ofList]
      refine Table.lookup_eq_none fun inside => ?_
      rw [List.map_reverse, List.mem_reverse, List.map_map] at inside
      obtain ⟨node, there, named⟩ := List.mem_map.mp inside
      exact others node there named
    refine ⟨move.member, ?_, move.written.sameEnd⟩
    rw [same, absent, Option.none_or, beside.extra]
  · have differs : some wanted ≠ some id := fun equal => same (Option.some.inj equal)
    have away : id? move.side ≠ some wanted := by
      rw [sound.named]
      exact differs.symm
    rw [get?_ownedEnds_of_ne away] at found
    rw [beside.others _ differs]
    exact ⟨side, found, .refl side⟩

/-- Both models join the same classes in the same way. -/
theorem Sound.joinsAlso (beside : Beside id (some move.member) p q)
    (whole : ¬ HasBrokenName move.association) :
    List.Forall₂ (JoinsAlso (offered p) (offered q)) (elementsOfKind model .association)
      (elementsOfKind move.result .association) := by
  have more := move.more_in_association
  have relievedWhole := fun broken => whole (more.hasBrokenName_iff.mpr broken)
  have attributes := Node.attributes_withChildren move.association
    (move.association.children.eraseIdx move.sidePlace)
  have present (key : String) (there : (offered p).classes.contains key = true) :
      (offered q).classes.contains key = true := by
    change q.store.classes.contains key = true
    rw [← beside.store]
    exact there
  have stays (nodes : List Node) :
      List.Forall₂ (JoinsAlso (offered p) (offered q)) nodes nodes :=
    List.forall₂_same.mpr fun node _ => beside.endsStay.joinsAlso present node
  have relieved : JoinsAlso (offered p) (offered q) move.association move.relieved := by
    refine ⟨memberEnds_congr (plain?_congr attributes _) ?_, fun _ _ _ _ joins => ?_⟩
    · exact (more.select_of_ne relievedWhole (by decide)).symm
    · refine joins.transfer ?_ (xmi?_congr attributes _) (title?_congr attributes)
        (fun _ _ found => sound.endWith_relieved beside relievedWhole found) present
      rw [select_of_whole relievedWhole]
  obtain ⟨front, back, shape, moved⟩ := move.elements_association
  rw [shape, moved]
  exact List.rel_append (stays front) (.cons relieved (stays back))

/-- Associations that are linked in one model are linked in the other. -/
theorem Sound.link_result (beside : Beside id (some move.member) p q) (opened : q.store.IsOpen)
    (done : Associations.link (elementsOfKind model .association) p = .ok () p') :
    ∃ journal, Associations.link (elementsOfKind move.result .association) q =
      .ok () { q with store := p'.store, journal } := by
  obtain ⟨used, added, _⟩ := Associations.link_eq_ok.mp done
  obtain ⟨front, back, shape, _⟩ := move.elements_association
  have inside : move.association ∈ elementsOfKind model .association :=
    List.mem_iff_append.mpr ⟨_, _, shape⟩
  have whole : ¬ HasBrokenName move.association := by
    obtain ⟨r, s, joined⟩ := Step.each_mem (Associations.each_of_addAll added) _ inside
    obtain ⟨_, _, joined, _⟩ := bind_eq_ok.mp joined
    obtain ⟨_, _, _, _, _, joins, _⟩ := Associations.add_eq_ok joined
    exact (uncut_select_iff _ "ownedEnd").mp joins.whole
  obtain ⟨ids, members, ours⟩ := sound.listed
  obtain ⟨journal, again⟩ := Associations.link_transfer (sound.joinsAlso beside whole) done opened
    (by rw [beside.store]) fun key there => by
      by_cases same : key = some id
      · exact Or.inr ⟨_, inside, ids, id, members, ours, same⟩
      · unfold Table.contains at there ⊢
        rw [beside.others _ same] at there
        exact Or.inl there
  obtain ⟨associations, told, rfl⟩ := Associations.link_frame done
  exact ⟨journal, by rw [again, ← beside.store]⟩

end Move

namespace Ingestion

/--
Where an end of an association goes by an identifier of its own, a first run
gives the same store whether the end stands in the association or in a class.
-/
theorem run_moved (ingestion : Ingestion) (move : Move ingestion.model) {id : String}
    (sound : move.Sound id) {store : Store}
    (done : (ingestion.run.outcome .initial).1 = .ok store) :
    ((ingestion.withModel move.result).run.outcome .initial).1 = .ok store := by
  obtain ⟨q, rfl, _, ⟨course⟩⟩ := course_of_first_run done
  obtain ⟨other, made⟩ := move.ofModel_result course.made
  have scalarTypes :=
    Index.elementsOf_congr course.made made (move.elements_other .scalarType nofun nofun)
  have enumerated :=
    Index.elementsOf_congr course.made made (move.elements_other .enumeration nofun nofun)
  have sorted := Index.elementsOf_of_ofModel course.made
  refine course.first_run_of_links made scalarTypes enumerated fun typed declared => ?_
  obtain ⟨classesTold, classes⟩ := course.classes
  obtain ⟨linksTold, associations⟩ := course.associations
  rw [sorted] at classes associations
  rw [Index.elementsOf_of_ofModel made, Index.elementsOf_of_ofModel made]
  have start : Beside id none { course.typed with ends := .empty, journal := classesTold }
      { typed with ends := .empty } := ⟨declared.symm, rfl, rfl, fun _ _ => rfl⟩
  obtain ⟨classed, classesAlso, beside⟩ := sound.addAll_result classes start
  have opened : classed.store.IsOpen := by
    rw [← beside.store]
    exact course.isOpen_classed
  obtain ⟨journal, associationsAlso⟩ := sound.link_result
    (p := { course.classed with journal := linksTold }) (q := classed)
    ⟨beside.store, beside.absent, beside.extra, beside.others⟩ opened associations
  exact ⟨classed, journal, classesAlso, associationsAlso⟩

def lecturesMove : Move lectures.model where
  association := umlElement "packagedElement" [("type", "uml:Association"), ("id", "r")]
    [("memberEnd", "e0 e1")] [
      umlElement "ownedEnd" [("id", "e1")] [("name", "lectures"), ("type", "c")] [
        umlElement "upperValue" [("id", "v")] [("value", "*")] []]]
  objectClass := umlElement "packagedElement" [("type", "uml:Class"), ("id", "u")]
    [("name", "User")] [
      umlElement "ownedAttribute" [("id", "f3")] [("name", "age"), ("type", "Integer")] []]
  side := umlElement "ownedEnd" [("id", "e1")] [("name", "lectures"), ("type", "c")] [
    umlElement "upperValue" [("id", "v")] [("value", "*")] []]
  member := umlElement "ownedAttribute" [("id", "e1")]
    [("name", "lectures"), ("type", "c"), ("association", "r")] [
      umlElement "upperValue" [("id", "v")] [("value", "*")] []]
  associationPlace := 3
  classPlace := 2
  sidePlace := 0
  memberPlace := 1
  association_at := rfl
  isAssociation := rfl
  class_at := rfl
  isClass := rfl
  side_at := rfl
  isSide := rfl
  written := ⟨rfl, rfl, rfl, rfl⟩

/-- The store of `lectures` does not tell where its second end stands. -/
theorem run_moved_lectures :
    lecturesMove.Sound "e1" ∧ (lectures.run.outcome .initial).1 = .ok lecturesStore ∧
      ((lectures.withModel lecturesMove.result).run.outcome .initial).1 = .ok lecturesStore := by
  have sound : lecturesMove.Sound "e1" := ⟨rfl, ⟨["e0", "e1"], rfl, by decide⟩, rfl⟩
  exact ⟨sound, run_lectures, run_moved lectures lecturesMove sound run_lectures⟩

end Ingestion

end ClassDiagram
