import ClassDiagram.Proofs.Replacing

/-!
# Associations seen from their other end

An association is built from its first end and its second end.  Where the two
are listed the other way round, what is built is the same association, seen
from its other class.
-/

namespace ClassDiagram

open Step (bind_eq_ok lift_bind_eq_ok)
open Text (words)
open Xml (Name Node)

def Association.converse (association : Association) : Association where
  id := association.id
  name := association.name
  sourceId := association.destinationId
  destinationId := association.sourceId
  cardinality := association.cardinality.converse
  fieldInSource := association.fieldInDestination
  fieldInDestination := association.fieldInSource
  commentInSource := association.commentInDestination
  commentInDestination := association.commentInSource

@[simp] theorem Association.converse_converse (association : Association) :
    association.converse.converse = association := by
  simp [Association.converse]

/-! ## Member ends the other way round -/

structure RefersTo (member : Node) (id : String) : Prop where
  named : member.name?.bind Name.localPart? = some "memberEnd"
  refers : (xmi? member "idref").filter (!·.isEmpty) = some id

/-- Two association elements that differ in the order of their two member ends. -/
inductive Swapped : Node → Node → Prop where
  /-- The ends are listed in an attribute. -/
  | inAttribute (before after : List (Name × String)) {name : Name} {text : Option String}
      {children : List Node} {value value' firstId secondId : String}
      (unlisted : before.lookup (.plain "memberEnd") = none)
      (listed : words value = [firstId, secondId])
      (swapped : words value' = [secondId, firstId]) :
      Swapped (.element name (before ++ (.plain "memberEnd", value) :: after) text children)
        (.element name (before ++ (.plain "memberEnd", value') :: after) text children)
  /-- The ends are listed in children, since no attribute lists any. -/
  | inChildren (front middle back : List Node) {name : Name} {attributes : List (Name × String)}
      {text : Option String} {first second : Node} {firstId secondId : String}
      (unlisted : (attributes.lookup (.plain "memberEnd")).filter (!·.isEmpty) = none)
      (firstRefers : RefersTo first firstId) (secondRefers : RefersTo second secondId) :
      Swapped (.element name attributes text (front ++ first :: (middle ++ second :: back)))
        (.element name attributes text (front ++ second :: (middle ++ first :: back)))

/-- The first attribute of a plain name gives its value. -/
theorem plain?_append_cons {name : Name} {before after : List (Name × String)}
    {text : Option String} {children : List Node} {key value : String}
    {bare : Xml.isBare key = true} (absent : before.lookup (.plain key bare) = none) :
    (Node.element name (before ++ (.plain key bare, value) :: after) text children).plain? key =
      some value := by
  unfold Node.plain? Node.attribute? Node.attributes
  rw [Name.ofText_of_bare bare, List.lookup_append, absent, Option.none_or, List.lookup_cons_self]

theorem memberEnds_of_listed {node : Node} {value id : String} {rest : List String}
    (written : node.plain? "memberEnd" = some value) (listed : words value = id :: rest) :
    memberEnds node = .ok (id :: rest) := by
  have filled : value.isEmpty = false := by
    rw [Bool.eq_false_iff]
    intro blank
    rw [String.isEmpty_iff.mp blank, Text.words_empty] at listed
    cases listed
  unfold memberEnds
  rw [written, Option.filter_some_pos (by simp [filled]), ← listed]

theorem memberEnds_of_unlisted {node : Node} (sound : ¬ HasBrokenName node)
    (unlisted : (node.plain? "memberEnd").filter (!·.isEmpty) = none) :
    memberEnds node = .ok (memberReferences (childrenNamed node "memberEnd")) := by
  unfold memberEnds
  rw [unlisted, select_of_whole sound]
  rfl

/-- Of children in a row, those that refer to ends do so in the same order. -/
theorem memberReferences_append (front back : List Node) :
    memberReferences (front ++ back) = memberReferences front ++ memberReferences back :=
  List.filterMap_append

theorem RefersTo.memberReferences_cons {member : Node} {id : String}
    (refers : RefersTo member id) (rest : List Node) :
    memberReferences (member :: rest) = id :: memberReferences rest :=
  List.filterMap_cons_some refers.refers

/-- If two among several are all there are, nothing stands before, between or after them. -/
theorem eq_nil_of_two {α : Type} {front middle back : List α} {a b first second : α}
    (two : front ++ a :: (middle ++ b :: back) = [first, second]) :
    front = [] ∧ middle = [] ∧ back = [] ∧ a = first ∧ b = second := by
  have size := congrArg List.length two
  simp only [List.length_append, List.length_cons, List.length_nil] at size
  obtain rfl : front = [] := List.eq_nil_of_length_eq_zero (by omega)
  obtain rfl : middle = [] := List.eq_nil_of_length_eq_zero (by omega)
  obtain rfl : back = [] := List.eq_nil_of_length_eq_zero (by omega)
  cases two
  exact ⟨rfl, rfl, rfl, rfl, rfl⟩

theorem childrenNamed_split {name : Name} {attributes : List (Name × String)}
    {text : Option String} (front middle back : List Node) {first second : Node} {tag : String}
    (firstNamed : first.name?.bind Name.localPart? = some tag)
    (secondNamed : second.name?.bind Name.localPart? = some tag) :
    ∃ earlier between later,
      childrenNamed (.element name attributes text
        (front ++ first :: (middle ++ second :: back))) tag =
          earlier ++ first :: (between ++ second :: later) ∧
      childrenNamed (.element name attributes text
        (front ++ second :: (middle ++ first :: back))) tag =
          earlier ++ second :: (between ++ first :: later) := by
  let wanted := fun child : Node => decide (child.name?.bind Name.localPart? = some tag)
  refine ⟨front.filter wanted, middle.filter wanted, back.filter wanted, ?_, ?_⟩
  all_goals simp [childrenNamed, Node.children, wanted, firstNamed, secondNamed]

theorem childrenNamed_of_ne {name : Name} {attributes : List (Name × String)}
    {text : Option String} (front middle back : List Node) {first second : Node}
    {tag other : String} (differ : tag ≠ other)
    (firstNamed : first.name?.bind Name.localPart? = some tag)
    (secondNamed : second.name?.bind Name.localPart? = some tag) :
    childrenNamed (.element name attributes text
      (front ++ second :: (middle ++ first :: back))) other =
    childrenNamed (.element name attributes text
      (front ++ first :: (middle ++ second :: back))) other := by
  simp [childrenNamed, Node.children, firstNamed, secondNamed, differ]

namespace Swapped

variable {node other : Node} (swapped : Swapped node other)
include swapped

theorem hasBrokenName_iff : HasBrokenName other ↔ HasBrokenName node := by
  cases swapped with
  | inAttribute => exact Iff.rfl
  | inChildren =>
      unfold HasBrokenName
      simp only [Node.children, List.mem_append, List.mem_cons]
      grind

theorem filter_attributes : other.attributes.filter (·.1 ≠ .plain "memberEnd") =
    node.attributes.filter (·.1 ≠ .plain "memberEnd") := by
  cases swapped with
  | inAttribute => simp [Node.attributes]
  | inChildren => rfl

theorem id?_eq : id? other = id? node := xmi?_of_filter swapped.filter_attributes rfl (by decide)

theorem title?_eq : title? other = title? node := by
  unfold title?
  rw [plain?_of_filter swapped.filter_attributes (by decide)]

theorem select_ownedEnd (sound : ¬ HasBrokenName node) :
    other.select "ownedEnd" = node.select "ownedEnd" := by
  rw [select_of_whole sound, select_of_whole (swapped.hasBrokenName_iff.not.mpr sound)]
  cases swapped with
  | inAttribute => rfl
  | inChildren _ _ _ _ firstRefers secondRefers =>
      rw [childrenNamed_of_ne _ _ _ (by decide) firstRefers.named secondRefers.named]

/-- Two ends are listed the other way round. -/
theorem memberEnds {firstId secondId : String} (sound : ¬ HasBrokenName node)
    (listed : memberEnds node = .ok [firstId, secondId]) :
    ClassDiagram.memberEnds other = .ok [secondId, firstId] := by
  have soundAlso := swapped.hasBrokenName_iff.not.mpr sound
  cases swapped with
  | inAttribute _ _ unlisted words words' =>
      rw [memberEnds_of_listed (plain?_append_cons unlisted) words] at listed
      cases listed
      exact memberEnds_of_listed (plain?_append_cons unlisted) words'
  | inChildren front middle back unlisted firstRefers secondRefers =>
      obtain ⟨earlier, between, later, inOrder, exchanged⟩ :=
        childrenNamed_split front middle back firstRefers.named secondRefers.named
      rw [memberEnds_of_unlisted sound unlisted, inOrder, memberReferences_append,
        firstRefers.memberReferences_cons, memberReferences_append,
        secondRefers.memberReferences_cons] at listed
      obtain ⟨noneBefore, noneBetween, noneAfter, rfl, rfl⟩ := eq_nil_of_two (Except.ok.inj listed)
      rw [memberEnds_of_unlisted soundAlso unlisted, exchanged, memberReferences_append,
        secondRefers.memberReferences_cons, memberReferences_append,
        firstRefers.memberReferences_cons, noneBefore, noneBetween, noneAfter]
      rfl

end Swapped

/-! ## Converse associations -/

theorem cardinalityBetween_swap {first second : Node} {cardinality : Cardinality}
    (related : cardinalityBetween first second = .ok cardinality) :
    cardinalityBetween second first = .ok cardinality.converse := by
  unfold cardinalityBetween at related ⊢
  obtain ⟨manyDestinations, bounded, rest⟩ := Fault.bind_eq_ok.mp related
  obtain ⟨manySources, boundedAlso, last⟩ := Fault.bind_eq_ok.mp rest
  cases last
  rw [boundedAlso, bounded, ← Cardinality.ofSides_swap]
  rfl

namespace Associations

variable {p q : Progress}

def ofElement (node : Node) : Step Association := Step.lift (memberEnds node) >>= build node

/-- An element adds the association that it stands for. -/
theorem add_eq (node : Node) : add node = (do
    let ids ← Step.lift (memberEnds node)
    let association ← ofElement node
    Step.change (Store.addAssociation association)
    Step.tell (.associationAdded association)
    return ids) := by
  unfold add ofElement
  cases memberEnds node <;> rfl

/-- Ends that an association joins are joined the other way round by its converse. -/
theorem Joins.converse {ends : Table (Option String) ClassEnd} {classes : Table String Class}
    {node other first second : Node} {firstId secondId : String} {association : Association}
    (joins : Joins ends classes node [firstId, secondId] first second association)
    (swapped : Swapped node other) :
    Joins ends classes other [secondId, firstId] second first association.converse := by
  have selected := swapped.select_ownedEnd ((uncut_select_iff _ _).mp joins.whole)
  have sameEnd : endWith ends other = endWith ends node := by
    funext id
    unfold endWith
    rw [selected]
  obtain ⟨_, _, ⟨⟩, firstFound, secondFound⟩ := joins.pair
  exact {
    whole := by rw [selected, joins.whole]
    pair := ⟨secondId, firstId, rfl, by rw [sameEnd, secondFound], by rw [sameEnd, firstFound]⟩
    source := joins.destination
    source_mem := joins.destination_mem
    destination := joins.source
    destination_mem := joins.source_mem
    related := cardinalityBetween_swap joins.related
    firstDocumented := joins.secondDocumented
    secondDocumented := joins.firstDocumented
    id_eq := swapped.id?_eq.trans joins.id_eq
    name_eq := joins.name_eq.trans swapped.title?_eq.symm
    first_eq := joins.second_eq
    second_eq := joins.first_eq }

/--
If an element stands for an association, then the element that lists the two
ends the other way round stands for its converse, from the same store and ends.
-/
theorem ofElement_swapped {node other : Node} {association : Association}
    (swapped : Swapped node other) (done : ofElement node p = .ok association q) :
    ∃ journal, ofElement other p = .ok association.converse { p with journal } := by
  obtain ⟨ids, listed, built⟩ := lift_bind_eq_ok.mp done
  obtain ⟨first, second, joins, _⟩ := build_eq_ok built
  obtain ⟨firstId, secondId, rfl, _⟩ := joins.pair
  have sound := (uncut_select_iff _ _).mp joins.whole
  obtain ⟨journal, builtAlso⟩ := (joins.converse swapped).build
  exact ⟨journal, lift_bind_eq_ok.mpr ⟨_, swapped.memberEnds sound listed, builtAlso⟩⟩

def teaching : Progress where
  store := { Store.empty with
    classes := .ofList [("a", ⟨"a", "Course", none, []⟩), ("b", ⟨"b", "Teacher", none, []⟩)] }
  index := none
  ends := .ofList [(some "e0", ⟨"a", umlElement "ownedAttribute" [("id", "e0")]
    [("name", "teacher"), ("association", "r"), ("type", "b")]
    [umlElement "ownedComment" [] [("body", "in charge")] []]⟩)]
  journal := []

/-- An association element that lists ends as its children, and holds one of them. -/
def teachingElement (ids : List String) : Node :=
  umlElement "packagedElement" [("type", "uml:Association"), ("id", "r")] [("name", "teaches")]
    (umlElement "ownedEnd" [("id", "e1")] [("name", "courses"), ("type", "a")]
        [umlElement "upperValue" [] [("value", "*")] [],
          umlElement "ownedComment" [] [("body", "given every year")] []] ::
      ids.map fun id => umlElement "memberEnd" [("idref", id)] [] [])

def taughtBy : Association where
  id := "r"
  name := some "teaches"
  sourceId := "a"
  destinationId := "b"
  cardinality := .manyToOne
  fieldInSource := some "teacher"
  fieldInDestination := some "courses"
  commentInSource := some "in charge"
  commentInDestination := some "given every year"

/-- Where many courses have one teacher, one teacher has many courses. -/
theorem ofElement_swapped_teaching :
    Swapped (teachingElement ["e0", "e1"]) (teachingElement ["e1", "e0"]) ∧
      ofElement (teachingElement ["e0", "e1"]) teaching = .ok taughtBy teaching ∧
      taughtBy.converse.cardinality = .oneToMany ∧
      taughtBy.converse.commentInSource = some "given every year" ∧
      ∃ journal, ofElement (teachingElement ["e1", "e0"]) teaching =
        .ok taughtBy.converse { teaching with journal } := by
  have swapped : Swapped (teachingElement ["e0", "e1"]) (teachingElement ["e1", "e0"]) :=
    .inChildren [_] [] [] rfl ⟨rfl, rfl⟩ ⟨rfl, rfl⟩
  have done : ofElement (teachingElement ["e0", "e1"]) teaching = .ok taughtBy teaching := rfl
  exact ⟨swapped, done, rfl, rfl, ofElement_swapped swapped done⟩

end Associations

end ClassDiagram
