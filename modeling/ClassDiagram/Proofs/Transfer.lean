import ClassDiagram.Proofs.Course
import Mathlib.Data.List.Forall2

/-!
# Stages that succeed again

Linking associations looks at the ends and at the identifiers of classes, and
adding enumerations looks at nothing.  So where these stages have succeeded
they succeed again from every progress that offers the same.
-/

namespace ClassDiagram

open Step (bind_eq_ok bind_of_ok)
open Xml (Node)

/-- A class element whose class is added and whose attributes are read is read. -/
theorem Classes.add_of_members {registry : Registry} {enumerations : List (Option String)}
    {node : Node} {id : String} {p q r : Progress} (headed : addClass node p = .ok id q)
    (whole : (node.select "ownedAttribute").cut = false)
    (members : Step.each (addAttribute registry enumerations id)
      (node.select "ownedAttribute").found q = .ok () r) :
    add registry enumerations node p = .ok () r := by
  refine bind_eq_ok.mpr ⟨id, q, headed, Step.repairing_eq_ok.mpr ?_⟩
  unfold addMembers
  rw [addAttributes_eq_each, whole]
  exact bind_eq_ok.mpr ⟨(), r, members, rfl⟩

namespace Associations

variable {p q p' : Progress}

structure SameEnd (left right : Node) : Prop where
  typed : typed? left = typed? right
  titled : title? left = title? right
  documented : documentation left = documentation right
  bounded : isMany left = isMany right

theorem SameEnd.refl (side : Node) : SameEnd side side := ⟨rfl, rfl, rfl, rfl⟩

/-- What an element joins, another one joins that finds ends which say the same. -/
theorem Joins.transfer {ends others : Table (Option String) ClassEnd}
    {classes classes' : Table String Class} {node other first second : Node} {ids : List String}
    {association : Association}
    (joins : Joins ends classes node ids first second association)
    (whole : (other.select "ownedEnd").cut = false) (id_eq : id? other = id? node)
    (titled : title? other = title? node)
    (found : ∀ id side, endWith ends node id = some side →
      ∃ side', endWith others other id = some side' ∧ SameEnd side side')
    (present : ∀ id, classes.contains id = true → classes'.contains id = true) :
    ∃ first' second', Joins others classes' other ids first' second' association := by
  obtain ⟨firstId, secondId, paired, firstFound, secondFound⟩ := joins.pair
  obtain ⟨first', firstAlso, sameFirst⟩ := found firstId first firstFound
  obtain ⟨second', secondAlso, sameSecond⟩ := found secondId second secondFound
  have related := joins.related
  unfold cardinalityBetween at related
  rw [sameFirst.bounded, sameSecond.bounded] at related
  exact ⟨first', second', {
    whole := whole
    pair := ⟨firstId, secondId, paired, firstAlso, secondAlso⟩
    source := sameSecond.typed.symm.trans joins.source
    source_mem := present _ joins.source_mem
    destination := sameFirst.typed.symm.trans joins.destination
    destination_mem := present _ joins.destination_mem
    related := related
    firstDocumented := sameFirst.documented.symm.trans joins.firstDocumented
    secondDocumented := sameSecond.documented.symm.trans joins.secondDocumented
    id_eq := id_eq.trans joins.id_eq
    name_eq := joins.name_eq.trans titled.symm
    first_eq := joins.first_eq.trans sameFirst.titled
    second_eq := joins.second_eq.trans sameSecond.titled }⟩

/-- An element that joins two classes adds its association to an open store. -/
theorem Joins.add {node first second : Node} {ids : List String} {association : Association}
    (joins : Joins p.ends p.store.classes node ids first second association)
    (listed : memberEnds node = .ok ids) (opened : p.store.IsOpen) :
    ∃ journal, add node p = .ok ids { p with
      store := { p.store with
        associations := p.store.associations.insert association.id association }
      journal } := by
  obtain ⟨journal, built⟩ := joins.build
  have taken := Store.addAssociation_eq_ok.mpr
    ⟨opened, rfl (a := { p.store with
      associations := p.store.associations.insert association.id association })⟩
  have changed : Step.change (Store.addAssociation association) { p with journal } =
      .ok () { p with
        store := { p.store with
          associations := p.store.associations.insert association.id association }
        journal } := Step.change_eq_ok.mpr ⟨_, taken, rfl⟩
  refine ⟨journal ++ [⟨.associationAdded association, none⟩], ?_⟩
  refine Step.lift_bind_eq_ok.mpr ⟨ids, listed, ?_⟩
  refine bind_eq_ok.mpr ⟨association, _, built, ?_⟩
  exact bind_eq_ok.mpr ⟨(), _, changed, rfl⟩

/-- What associations are joined from: the ends that classes declare, and the classes. -/
structure Offer where
  ends : Table (Option String) ClassEnd
  classes : Table String Class

def offered (p : Progress) : Offer := ⟨p.ends, p.store.classes⟩

structure JoinsAlso (before after : Offer) (node other : Node) : Prop where
  listed : memberEnds other = memberEnds node
  joins : ∀ ids first second association,
    Joins before.ends before.classes node ids first second association →
      ∃ first' second', Joins after.ends after.classes other ids first' second' association

/-- Ends that classes declare stay declared under their identifiers, and say the same. -/
def EndsStay (ends others : Table (Option String) ClassEnd) : Prop :=
  ∀ id kept, ends.get? (some id) = some kept →
    ∃ keptAlso, others.get? (some id) = some keptAlso ∧ SameEnd kept.node keptAlso.node

theorem EndsStay.endWith {ends others : Table (Option String) ClassEnd}
    (stay : EndsStay ends others) {node side : Node} {id : String}
    (found : endWith ends node id = some side) :
    ∃ side', endWith others node id = some side' ∧ SameEnd side side' := by
  unfold Associations.endWith at found ⊢
  rcases Option.or_eq_some_iff.mp found with owned | ⟨absent, declared⟩
  · rw [owned]
    exact ⟨side, rfl, .refl side⟩
  · rw [absent, Option.none_or]
    obtain ⟨kept, at_id, rfl⟩ := Option.map_eq_some_iff.mp declared
    obtain ⟨keptAlso, there, same⟩ := stay id kept at_id
    rw [there]
    exact ⟨keptAlso.node, rfl, same⟩

/-- An element joins again what it has joined if ends and classes stay. -/
theorem EndsStay.joinsAlso {before after : Offer} (stay : EndsStay before.ends after.ends)
    (present : ∀ id, before.classes.contains id = true → after.classes.contains id = true)
    (node : Node) : JoinsAlso before after node node where
  listed := rfl
  joins _ _ _ _ joins := joins.transfer joins.whole rfl rfl (fun _ _ => stay.endWith) present

/-- Elements that join what others have joined add the same associations. -/
theorem addAll_transfer {before after : Offer} {nodes others : List Node} {used : List String}
    (related : List.Forall₂ (JoinsAlso before after) nodes others)
    (done : addAll nodes p = .ok used p') (offers : offered p = before)
    (offersAlso : offered q = after) (opened : q.store.IsOpen)
    (same : p.store.associations = q.store.associations) :
    ∃ journal, addAll others q = .ok used { q with
      store := { q.store with associations := p'.store.associations }, journal } := by
  induction related generalizing p q used with
  | nil =>
      cases done
      refine ⟨q.journal, ?_⟩
      rw [same]
      rfl
  | cons here _ ih =>
      obtain ⟨ids, _, first, rest⟩ := bind_eq_ok.mp done
      obtain ⟨more, _, later, last⟩ := bind_eq_ok.mp rest
      cases last
      obtain ⟨_, _, association, _, listed, joins, rfl⟩ := add_eq_ok first
      subst offers offersAlso
      obtain ⟨_, _, again⟩ := here.joins _ _ _ _ joins
      obtain ⟨journal, added⟩ := again.add (here.listed.trans listed) opened
      obtain ⟨journal', others⟩ := ih (q := { q with
        store := { q.store with
          associations := q.store.associations.insert association.id association }
        journal }) later rfl rfl ⟨opened.unfailed, opened.unfrozen⟩ (by rw [same])
      exact ⟨journal', bind_eq_ok.mpr ⟨ids, _, added, bind_eq_ok.mpr ⟨more, _, others, rfl⟩⟩⟩

/-- The ends that an association lists are among those that all associations list. -/
theorem subset_used {nodes : List Node} {used : List String} (done : addAll nodes p = .ok used q)
    {node : Node} (inside : node ∈ nodes) {ids : List String} (listed : memberEnds node = .ok ids) :
    ids ⊆ used := by
  induction nodes generalizing p used with
  | nil => cases inside
  | cons first rest ih =>
      obtain ⟨found, _, here, rest⟩ := bind_eq_ok.mp done
      obtain ⟨more, _, later, last⟩ := bind_eq_ok.mp rest
      cases last
      obtain ⟨_, _, _, _, members, _, _⟩ := add_eq_ok here
      rcases List.mem_cons.mp inside with rfl | later'
      · cases listed.symm.trans members
        exact List.subset_append_left _ _
      · exact List.Subset.trans (ih later later') (List.subset_append_right _ _)

/--
Associations that have been linked are linked where others join what they have
joined, if every end there is one of the ends here or is listed by an association.
-/
theorem link_transfer {nodes others : List Node}
    (related : List.Forall₂ (JoinsAlso (offered p) (offered q)) nodes others)
    (done : link nodes p = .ok () p') (opened : q.store.IsOpen)
    (same : p.store.associations = q.store.associations)
    (listed : ∀ key, q.ends.contains key = true → p.ends.contains key = true ∨
      ∃ node ∈ nodes, ∃ ids id, memberEnds node = .ok ids ∧ id ∈ ids ∧ key = some id) :
    ∃ journal, link others q = .ok () { q with
      store := { q.store with associations := p'.store.associations }, journal } := by
  obtain ⟨used, added, checked⟩ := link_eq_ok.mp done
  obtain ⟨associations, told, rfl⟩ := link_frame done
  obtain ⟨journal, again⟩ := addAll_transfer related added rfl rfl opened same
  refine ⟨journal, link_eq_ok.mpr ⟨used, again, fun entry there => ?_⟩⟩
  have present := Table.contains_of_get? ((Table.get?_eq_some_iff _ _ _).mpr there)
  rcases listed entry.1 present with before | ⟨node, inside, ids, id, members, ours, key⟩
  · obtain ⟨kept, found⟩ := (Table.contains_iff_exists _ _).mp before
    exact checked (entry.1, kept) ((Table.get?_eq_some_iff _ _ _).mp found)
  · rw [key]
    simpa using subset_used added inside members ours

/-- The same elements are linked again if ends and classes stay and no end is added. -/
theorem EndsStay.link {nodes : List Node} (stay : EndsStay p.ends q.ends)
    (present : ∀ id, p.store.classes.contains id = true → q.store.classes.contains id = true)
    (listed : ∀ key, q.ends.contains key = true → p.ends.contains key = true)
    (done : link nodes p = .ok () p') (opened : q.store.IsOpen)
    (same : p.store.associations = q.store.associations) :
    ∃ journal, link nodes q = .ok () { q with
      store := { q.store with associations := p'.store.associations }, journal } := by
  have again : List.Forall₂ (JoinsAlso (offered p) (offered q)) nodes nodes :=
    List.forall₂_same.mpr fun node _ => stay.joinsAlso present node
  exact link_transfer again done opened same fun key there => Or.inl (listed key there)

end Associations

namespace Enumerations

variable {p q p' : Progress}

/-- An element that lists names adds its enumeration to an open store. -/
theorem Lists.add {node : Node} {enumeration : Enumeration} (lists : Lists node enumeration)
    (opened : p.store.IsOpen) :
    ∃ journal, add node p = .ok () { p with
      store := { p.store with
        enumerations := p.store.enumerations.insert enumeration.id enumeration }
      journal } := by
  have taken := Store.addEnumeration_eq_ok.mpr
    ⟨opened, rfl (a := { p.store with
      enumerations := p.store.enumerations.insert enumeration.id enumeration })⟩
  exact ⟨_, bind_eq_ok.mpr ⟨enumeration, p, build_eq_ok.mpr ⟨lists, rfl⟩,
    Step.change_tell_eq_ok.mpr ⟨_, taken, rfl⟩⟩⟩

/-- Enumerations that have been added once are added to every open store. -/
theorem addAll_transfer {nodes : List Node} (done : addAll nodes p = .ok () p')
    (opened : q.store.IsOpen) (same : p.store.enumerations = q.store.enumerations) :
    ∃ journal, addAll nodes q = .ok () { q with
      store := { q.store with enumerations := p'.store.enumerations }, journal } := by
  induction nodes generalizing p q with
  | nil =>
      cases done
      refine ⟨q.journal, ?_⟩
      rw [same]
      rfl
  | cons node rest ih =>
      obtain ⟨_, _, first, later⟩ := bind_eq_ok.mp done
      obtain ⟨enumeration, _, lists, rfl⟩ := add_eq_ok first
      obtain ⟨journal, added⟩ := lists.add opened
      obtain ⟨journal', others⟩ := ih (q := { q with
        store := { q.store with
          enumerations := q.store.enumerations.insert enumeration.id enumeration }
        journal }) later ⟨opened.unfailed, opened.unfrozen⟩ (by rw [same])
      exact ⟨journal', bind_eq_ok.mpr ⟨(), _, added, others⟩⟩

end Enumerations

/-- The store is open when the classes have been read. -/
theorem Ingestion.Course.isOpen_classed {ingestion : Ingestion} {q : Progress}
    (course : ingestion.Course .initial q) : course.classed.store.IsOpen := by
  obtain ⟨_, types⟩ := course.types
  obtain ⟨told, classes⟩ := course.classes
  have typed : course.typed.store.IsOpen :=
    (Typing.declareAll_keeps lasting_isOpen _ _).ok Store.isOpen_empty types
  exact (Classes.addAll_keeps lasting_isOpen _ _ _).ok
    (p := { course.typed with ends := .empty, journal := told }) typed classes

end ClassDiagram
