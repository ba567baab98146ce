import ClassDiagram.Proofs.Linking
import ClassDiagram.Proofs.Moving
import ClassDiagram.Proofs.Settled

/-!
# The associations that ends of classes name

An attribute of a class that names an association is an end, and some
association has to list it.  Which association it names plays no role: ends
that name other associations give the same store.
-/

namespace ClassDiagram

open Associations (SameEnd)
open Step (Agree KeepsEnd Shares bind_eq_ok)
open Xml (Name Node)

/-! ## Models that differ in what their ends name -/

structure Redirects (left right : Node) : Prop where
  name : left.name? = right.name?
  linked : Classes.isEnd left = true
  written : AsAttribute left right

/-- A child of a class is the same, or an end that names another association. -/
def StaysOrRedirects (left right : Node) : Prop := left = right ∨ Redirects left right

/-- Two class elements differ in nothing but the associations that their ends name. -/
structure RedirectsEnds (left right : Node) : Prop where
  name : left.name? = right.name?
  attributes : left.attributes = right.attributes
  members : List.Forall₂ StaysOrRedirects left.children right.children

/-- Two models differ in nothing but the associations that the ends of their classes name. -/
def Redirected (left right : Node) : Prop :=
  List.Forall₂ (fun child other =>
    child = other ∨ isOfKind .objectClass child = true ∧ RedirectsEnds child other)
    left.children right.children

section

variable {left right : Node}

namespace RedirectsEnds

theorem refl (node : Node) : RedirectsEnds node node :=
  ⟨rfl, rfl, List.forall₂_same.mpr fun _ _ => Or.inl rfl⟩

variable (redirects : RedirectsEnds left right)
include redirects

theorem retouched : Retouched "ownedAttribute" Redirects left right where
  name := redirects.name
  attributes := redirects.attributes
  children := redirects.members.imp fun _ _ => Or.imp_right fun here =>
    ⟨here.name, by rw [here.name]; exact here.written.named, here⟩

theorem documentation_eq : documentation left = documentation right :=
  documentation_congr (redirects.retouched.select_eq (by decide))

theorem addClass_eq : Classes.addClass left = Classes.addClass right :=
  Classes.addClass_congr (xmi?_congr redirects.attributes "id")
    (title?_congr redirects.attributes) redirects.documentation_eq

end RedirectsEnds

end

theorem sameHead_of_redirects {left right : Node}
    (related : left = right ∨ isOfKind .objectClass left = true ∧ RedirectsEnds left right) :
    SameHead left right := by
  rcases related with rfl | ⟨_, redirects⟩
  · exact .refl left
  · exact redirects.retouched.sameHead

namespace Redirected

variable {left right : Node} (redirected : Redirected left right)
include redirected

theorem heads : List.Forall₂ SameHead left.children right.children :=
  redirected.imp fun _ _ => sameHead_of_redirects

theorem classes : List.Forall₂ RedirectsEnds (elementsOfKind left .objectClass)
    (elementsOfKind right .objectClass) :=
  (elementsOfKind_rel sameHead_of_redirects redirected .objectClass).imp fun child _ both => by
    rcases both.2 with rfl | ⟨_, redirects⟩
    · exact .refl child
    · exact redirects

/-- Elements that are no classes are the same. -/
theorem elements_other (kind : ElementKind) (other : kind ≠ .objectClass) :
    elementsOfKind right kind = elementsOfKind left kind :=
  elementsOfKind_of_stays sameHead_of_redirects redirected fun fits related =>
    related.resolve_right fun wrong =>
      Bool.false_ne_true ((isOfKind_eq_false fits _ other).symm.trans wrong.1)

end Redirected

/-! ## Reading the classes -/

structure Reworded (p q : Progress) : Prop where
  store : p.store = q.store
  ends : ∀ key, Option.Rel (fun found other => SameEnd found.node other.node)
    (p.ends.get? key) (q.ends.get? key)

theorem shares_reworded : Shares Reworded where
  same start := start.store
  keeps start _ _ _ := ⟨rfl, start.ends⟩

theorem Reworded.insert {p q : Progress} (start : Reworded p q) (key : Option String)
    (owner : String) {left right : Node} (same : SameEnd left right) :
    Reworded { p with ends := p.ends.insert key ⟨owner, left⟩ }
      { q with ends := q.ends.insert key ⟨owner, right⟩ } := by
  refine ⟨start.store, fun other => ?_⟩
  rw [Table.get?_insert, Table.get?_insert]
  split
  · exact .some same
  · exact start.ends other

theorem keepsEnd_reworded (node : Node) : KeepsEnd Reworded node :=
  fun start owner => start.insert (id? node) owner (.refl node)

namespace Classes

variable {registry : Registry} {enumerations : List (Option String)} {left right : Node}

theorem addAttribute_reworded (registry : Registry) (enumerations : List (Option String))
    (owner : String) (related : StaysOrRedirects left right) :
    Agree Reworded (addAttribute registry enumerations owner left)
      (addAttribute registry enumerations owner right) := by
  rcases related with rfl | redirects
  · exact addAttribute_agree shares_reworded registry enumerations owner (keepsEnd_reworded left)
  · unfold addAttribute
    rw [redirects.linked, redirects.written.linked]
    refine .modify fun _ _ start => ?_
    rw [redirects.written.id?_eq]
    exact start.insert (id? left) owner redirects.written.sameEnd

theorem add_reworded (redirects : RedirectsEnds left right) :
    Agree Reworded (add registry enumerations left) (add registry enumerations right) := by
  unfold add
  rw [redirects.addClass_eq]
  refine .bind (addClass_agree shares_reworded right) fun owner => ?_
  refine .repairing ?_ fun _ => .change Step.shares_sameStore _
  obtain ⟨cut, found⟩ := redirects.retouched.select_touched
  unfold addMembers
  rw [addAttributes_eq_each, addAttributes_eq_each, cut]
  have members := found.imp fun _ _ => addAttribute_reworded registry enumerations owner
  refine .bind (.each₂ members) fun _ => ?_
  exact .ite (.throw shares_reworded _) (.pure ())

theorem addAll_reworded {nodes others : List Node}
    (related : List.Forall₂ RedirectsEnds nodes others) :
    Agree Reworded (addAll registry enumerations nodes) (addAll registry enumerations others) := by
  rw [addAll_eq_each, addAll_eq_each]
  exact .each₂ (related.imp fun _ _ => add_reworded)

end Classes

namespace Associations

variable {p q p' : Progress}

theorem endsStay_reworded (start : Reworded p q) : EndsStay p.ends q.ends := by
  intro id kept at_id
  have related := start.ends (some id)
  rw [at_id] at related
  cases other : q.ends.get? (some id) with
  | none =>
      rw [other] at related
      cases related
  | some keptAlso =>
      rw [other] at related
      cases related with
      | some same => exact ⟨keptAlso, rfl, same⟩

/-- Associations are linked alike whatever associations their ends name. -/
theorem link_reworded {nodes : List Node} (start : Reworded p q)
    (done : link nodes p = .ok () p') (opened : q.store.IsOpen) :
    ∃ journal, link nodes q = .ok () { q with
      store := { q.store with associations := p'.store.associations }, journal } := by
  have present (key : String) (there : p.store.classes.contains key = true) :
      q.store.classes.contains key = true := by
    rw [← start.store]
    exact there
  refine (endsStay_reworded start).link present (fun key there => ?_) done opened
    (by rw [start.store])
  have related := start.ends key
  unfold Table.contains at there ⊢
  cases found : p.ends.get? key with
  | some kept => rfl
  | none =>
      rw [found] at related
      cases other : q.ends.get? key with
      | none =>
          rw [other] at there
          cases there
      | some keptAlso =>
          rw [other] at related
          cases related

/-- The ends that are listed while associations are added are those that the elements list. -/
theorem used_eq {nodes : List Node} {used : List String} (done : addAll nodes p = .ok used q) :
    used = nodes.flatMap memberIds := by
  induction nodes generalizing p used with
  | nil =>
      cases done
      rfl
  | cons node rest ih =>
      obtain ⟨ids, _, here, others⟩ := bind_eq_ok.mp done
      obtain ⟨more, _, later, last⟩ := bind_eq_ok.mp others
      cases last
      obtain ⟨_, _, _, _, listed, _, _⟩ := add_eq_ok here
      rw [List.flatMap_cons, ← ih later, memberIds, listed]
      rfl

end Associations

namespace Ingestion

variable {ingestion : Ingestion}

/-- Where a run succeeds, some association lists every end that stands in a class. -/
theorem Course.lists {q : Progress} (course : ingestion.Course .initial q) :
    ∀ place ∈ placedEnds (elementsOfKind ingestion.model .objectClass),
      ingestion.Lists place := by
  intro place inside
  obtain ⟨_, classes⟩ := course.classes
  obtain ⟨_, associations⟩ := course.associations
  rw [Index.elementsOf_of_ofModel course.made] at classes associations
  have placed := Classes.addAll_placed classes rfl
  obtain ⟨used, added, checked⟩ := Associations.link_eq_ok.mp associations
  obtain ⟨_, _, frame⟩ := Associations.link_frame associations
  have kept : course.linked.ends = course.classed.ends := by rw [frame]
  have filed : course.linked.ends.contains (id? place.2) = true := by
    rw [kept, placed, Table.contains_ofList, List.map_map]
    exact List.mem_map.mpr ⟨place, inside, rfl⟩
  obtain ⟨found, at_id⟩ := (Table.contains_iff_exists _ _).mp filed
  have listed := checked (id? place.2, found) ((Table.get?_eq_some_iff _ _ _).mp at_id)
  rw [Associations.used_eq added] at listed
  exact Associations.claimed_iff.mpr listed

/--
Where a first run succeeds, some association lists every end that stands in a
class, and the run gives the same store whichever associations these ends name.
-/
theorem run_redirected (ingestion : Ingestion) (model : Node)
    (redirected : Redirected ingestion.model model) {store : Store}
    (done : (ingestion.run.outcome .initial).1 = .ok store) :
    (∀ place ∈ placedEnds (elementsOfKind ingestion.model .objectClass),
        ingestion.Lists place) ∧
      ((ingestion.withModel model).run.outcome .initial).1 = .ok store := by
  obtain ⟨q, rfl, _, ⟨course⟩⟩ := course_of_first_run done
  refine ⟨course.lists, ?_⟩
  obtain ⟨other, made⟩ := Index.ofModel_of_heads redirected.heads course.made
  have sameElements (kind : ElementKind) (differ : kind ≠ .objectClass) :
      other.elementsOf kind = course.index.elementsOf kind :=
    Index.elementsOf_congr course.made made (redirected.elements_other kind differ)
  have classElements := redirected.classes
  rw [← Index.elementsOf_of_ofModel course.made, ← Index.elementsOf_of_ofModel made]
    at classElements
  refine course.first_run_of_links made (sameElements .scalarType nofun)
    (sameElements .enumeration nofun) fun typed declared => ?_
  obtain ⟨classesTold, classes⟩ := course.classes
  obtain ⟨linksTold, associations⟩ := course.associations
  have start : Reworded { course.typed with ends := .empty, journal := classesTold }
      { typed with ends := .empty } := ⟨declared.symm, fun _ => .none⟩
  obtain ⟨classed, classesAlso, reworded⟩ :=
    (Classes.addAll_reworded classElements).ok start classes
  have opened : classed.store.IsOpen := by
    rw [← reworded.store]
    exact course.isOpen_classed
  obtain ⟨journal, associationsAlso⟩ := Associations.link_reworded
    (p := { course.classed with journal := linksTold }) (q := classed)
    ⟨reworded.store, reworded.ends⟩ associations opened
  obtain ⟨_, _, frame⟩ := Associations.link_frame associations
  have linkedStore : { classed.store with associations := course.linked.store.associations } =
      course.linked.store := by
    rw [frame, ← reworded.store]
  rw [linkedStore] at associationsAlso
  rw [sameElements .association nofun]
  exact ⟨classed, journal, classesAlso, associationsAlso⟩

/-- The model of `crossed`, where the end of a class names an association that is nowhere. -/
def strayedModel : Node :=
  umlElement "Model" [] [] [
    umlElement "packagedElement" [("type", "uml:Class"), ("id", "a")] [("name", "Course")] [
      umlElement "ownedAttribute" [("id", "e0")]
        [("name", "teacher"), ("association", "s"), ("type", "b")] []],
    umlElement "packagedElement" [("type", "uml:Class"), ("id", "b")] [("name", "Teacher")] [],
    umlElement "packagedElement" [("type", "uml:Association"), ("id", "r")]
      [("memberEnd", "e0 e1")] [
        umlElement "ownedEnd" [("id", "e1")] [("name", "courses"), ("type", "a")] []]]

theorem redirected_strayed : Redirected crossed.model strayedModel := by
  have redirects : Redirects
      (umlElement "ownedAttribute" [("id", "e0")]
        [("name", "teacher"), ("association", "r"), ("type", "b")] [])
      (umlElement "ownedAttribute" [("id", "e0")]
        [("name", "teacher"), ("association", "s"), ("type", "b")] []) :=
    ⟨rfl, rfl, rfl, rfl, rfl, rfl⟩
  exact .cons (Or.inr ⟨rfl, rfl, rfl, .cons (Or.inr redirects) .nil⟩)
    (.cons (Or.inl rfl) (.cons (Or.inl rfl) .nil))

/-- The store of `crossed` does not tell which association the end of its first class names. -/
theorem run_redirected_crossed :
    Redirected crossed.model strayedModel ∧
      (crossed.run.outcome .initial).1 = .ok crossedDone.store ∧
      ((crossed.withModel strayedModel).run.outcome .initial).1 = .ok crossedDone.store := by
  have done : (crossed.run.outcome .initial).1 = .ok crossedDone.store := rfl
  exact ⟨redirected_strayed, done,
    (run_redirected crossed strayedModel redirected_strayed done).2⟩

/-- Every end of a class names an association of the model, and this association lists it. -/
def EndsAgree (model : Node) : Prop :=
  ∀ place ∈ placedEnds (elementsOfKind model .objectClass),
    ∃ node ∈ elementsOfKind model .association, id? node = place.2.plain? "association" ∧
      ∃ id, id? place.2 = some id ∧ id ∈ memberIds node

/-- A run succeeds although the end of a class names an association that is nowhere. -/
theorem not_endsAgree_strayed :
    ((crossed.withModel strayedModel).run.outcome .initial).1.isOk = true ∧
      ¬ EndsAgree strayedModel := by
  refine ⟨rfl, fun agree => ?_⟩
  have nowhere : ∀ node ∈ elementsOfKind strayedModel .association, id? node ≠ some "s" := by
    decide +kernel
  obtain ⟨node, inside, named, _⟩ := agree _ (.head _)
  exact nowhere node inside named

end Ingestion

end ClassDiagram
