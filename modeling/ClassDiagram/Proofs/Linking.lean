import ClassDiagram.Proofs.FailFast
import ClassDiagram.Proofs.Reordering

/-!
# Which associations are linked

Whether associations can be linked is read off the elements: every association
has an identifier and two ends that are found and typed by classes, and every
end of a class is listed by an association.  Where this fails, the first
association that falls short decides, and after them the first end that no
association lists.
-/

namespace ClassDiagram

open Step (bind_eq_ok bind_of_error bind_of_ok lift_eq_ok)
open Xml (Node)

/-! ## Elements that can be read -/

/-- No name is broken among the children of an element and of its comments. -/
structure Legible (side : Node) : Prop where
  children : ¬ HasBrokenName side
  comments : ∀ comment ∈ childrenNamed side "ownedComment", ¬ HasBrokenName comment

instance (side : Node) : Decidable (Legible side) :=
  decidable_of_iff (¬ HasBrokenName side ∧
    ∀ comment ∈ childrenNamed side "ownedComment", ¬ HasBrokenName comment)
    ⟨fun both => ⟨both.1, both.2⟩, fun legible => ⟨legible.children, legible.comments⟩⟩

theorem firstOf_of_sound {node : Node} (sound : ¬ HasBrokenName node) (tag : String) :
    ∃ found, firstOf (node.select tag) = .ok found := by
  unfold firstOf
  rw [(uncut_select_iff node tag).mpr sound]
  cases (node.select tag).found <;> exact ⟨_, rfl⟩

theorem commentText_of_sound {comment : Node} (sound : ¬ HasBrokenName comment) :
    ∃ text, commentText comment = .ok text := by
  obtain ⟨body, found⟩ := firstOf_of_sound sound "body"
  unfold commentText
  rw [found]
  change ∃ text, (if Text.isPresent (body.bind Node.text?) = true then _ else _) = _
  split <;> exact ⟨_, rfl⟩

theorem Legible.documentation {side : Node} (legible : Legible side) :
    ∃ comment, documentation side = .ok comment := by
  cases documented : ClassDiagram.documentation side with
  | ok comment => exact ⟨comment, rfl⟩
  | error fault =>
      rcases Fault.bind_eq_error.mp documented with broken | ⟨comments, found, rest⟩
      · rw [allOf, (uncut_select_iff _ _).mpr legible.children] at broken
        cases broken
      · obtain ⟨_, rfl⟩ := allOf_eq_ok.mp found
        rcases Fault.bind_eq_error.mp rest with broken | ⟨texts, _, last⟩
        · obtain ⟨comment, inside, unread⟩ := Fault.mapM_eq_error broken
          rw [found_select ((uncut_select_iff _ _).mpr legible.children)] at inside
          obtain ⟨text, read⟩ := commentText_of_sound (legible.comments comment inside)
          cases read.symm.trans unread
        · split at last <;> cases last

theorem isMany_of_sound {side : Node} (sound : ¬ HasBrokenName side) :
    ∃ many, isMany side = .ok many := by
  obtain ⟨upper, found⟩ := firstOf_of_sound sound "upperValue"
  unfold isMany upperBound
  rw [found]
  cases upper <;> exact ⟨_, rfl⟩

theorem cardinalityBetween_of_sound {first second : Node} (sound : ¬ HasBrokenName first)
    (soundAlso : ¬ HasBrokenName second) :
    ∃ cardinality, cardinalityBetween first second = .ok cardinality := by
  obtain ⟨many, bounded⟩ := isMany_of_sound sound
  obtain ⟨manyAlso, boundedAlso⟩ := isMany_of_sound soundAlso
  unfold cardinalityBetween
  rw [bounded, boundedAlso]
  exact ⟨_, rfl⟩

def memberIds (association : Node) : List String := (memberEnds association).toOption.getD []

theorem memberEnds_of_sound {association : Node} (sound : ¬ HasBrokenName association) :
    memberEnds association = .ok (memberIds association) := by
  unfold memberIds
  cases listed : memberEnds association with
  | ok ids => rfl
  | error fault =>
      unfold memberEnds at listed
      split at listed
      · cases listed
      · rw [allOf, (uncut_select_iff _ _).mpr sound] at listed
        cases listed

/-! ## Ends of the document -/

def lastWith (nodes : List Node) (id : String) : Option Node :=
  nodes.reverse.find? fun node => id? node = some id

/-- The attributes of classes that belong to an association, each with its class. -/
def placedEnds (classes : List Node) : List (Node × Node) :=
  classes.flatMap fun owner => (endsOf owner).map fun side => (owner, side)

/--
The end of an association with an identifier: an end that stands inside it, or
else an attribute of a class.  Of several with one identifier the last counts.
-/
def sideNamed? (classes : List Node) (association : Node) (id : String) : Option Node :=
  (lastWith (childrenNamed association "ownedEnd") id).or
    (lastWith ((placedEnds classes).map Prod.snd) id)

def endEntry (place : Node × Node) : Option String × ClassEnd :=
  (id? place.2, ⟨(id? place.1).getD "", place.2⟩)

namespace Classes

variable {registry : Registry} {enumerations : List (Option String)} {p q : Progress}

theorem addAttribute_placed {node child : Node} {owner : String} {sides : List (Node × Node)}
    (named : id? node = some owner)
    (done : addAttribute registry enumerations owner child p = .ok () q)
    (start : p.ends = .ofList (sides.map endEntry)) :
    q.ends = .ofList ((sides ++ ([child].filter isEnd).map fun side => (node, side)).map
      endEntry) := by
  rcases addAttribute_eq_ok done with ⟨kept, rfl⟩ | ⟨free, added⟩
  · rw [List.filter_cons_of_pos kept, List.filter_nil, List.map_append, List.map_singleton,
      List.map_singleton, Table.ofList_concat, start, endEntry, named]
    rfl
  · obtain ⟨_, _, _, _, _, _, _, rfl⟩ := addField_eq_ok added
    rw [List.filter_cons_of_neg (by simp [free]), List.filter_nil, List.map_nil,
      List.append_nil]
    exact start

/-- Reading classes files the ends among their attributes, each after those before it. -/
theorem addAll_placed {nodes : List Node} (done : addAll registry enumerations nodes p = .ok () q)
    (start : p.ends = .empty) : q.ends = .ofList ((placedEnds nodes).map endEntry) := by
  rw [addAll_eq_each] at done
  refine Step.each_invariant
    (fun front r => r.ends = .ofList ((placedEnds front).map endEntry)) done start ?_
  intro front node _ r _ _ placed taken
  obtain ⟨owner, _, headed, whole, members⟩ := add_eq_ok taken
  obtain ⟨_, _, heads, rfl, rfl⟩ := addClass_eq_ok headed
  rw [placedEnds, List.flatMap_append, List.flatMap_singleton, endsOf, ← found_select whole]
  refine Step.each_invariant (fun seen s => s.ends =
    .ofList ((placedEnds front ++ (seen.filter isEnd).map fun side => (node, side)).map endEntry))
    members ?_ ?_
  · rw [List.filter_nil, List.map_nil, List.append_nil]
    exact placed
  · intro seen child _ s _ _ before added
    have longer := addAttribute_placed heads.id_eq added before
    rwa [List.append_assoc, ← List.map_append, ← List.filter_append] at longer

theorem id?_of_addAll {nodes : List Node} (done : addAll registry enumerations nodes p = .ok () q)
    {node : Node} (inside : node ∈ nodes) : ∃ id, id? node = some id := by
  rw [addAll_eq_each] at done
  obtain ⟨_, _, taken⟩ := Step.each_mem done node inside
  obtain ⟨_, _, headed, _, _⟩ := add_eq_ok taken
  obtain ⟨_, _, heads, _, _⟩ := addClass_eq_ok headed
  exact ⟨_, heads.id_eq⟩

end Classes

namespace Associations

variable {p q : Progress}

/-- Where ends are filed in document order, what an association finds stands in the document. -/
theorem endWith_placed (classes : List Node) {node : Node} (sound : ¬ HasBrokenName node) :
    endWith (.ofList ((placedEnds classes).map endEntry)) node = sideNamed? classes node := by
  funext id
  have owned := Table.get?_ofList_items id? (fun side => side)
    (node.select "ownedEnd").found (some id)
  have declared := Table.get?_ofList_items (fun place : Node × Node => id? place.2)
    (fun place => ClassEnd.mk ((id? place.1).getD "") place.2) (placedEnds classes) (some id)
  unfold endWith sideNamed? lastWith ownedEnds endEntry
  rw [owned, declared, found_select ((uncut_select_iff _ _).mpr sound),
    Option.map_id', Option.map_map, ← List.map_reverse, List.find?_map]
  rfl

/-! ## One association -/

def Leads (find : String → Option Node) (classes : Table String Class) (id : String) : Prop :=
  ∃ side owner, find id = some side ∧ typed? side = some owner ∧ classes.contains owner = true

instance (find : String → Option Node) (classes : Table String Class) (id : String) :
    Decidable (Leads find classes id) :=
  decidable_of_iff (((find id).bind typed?).any classes.contains = true) <| by
    simp only [Leads, Option.any_eq_true, Option.bind_eq_some_iff]
    grind

def Joinable (find : String → Option Node) (classes : Table String Class) (ids : List String) :
    Prop :=
  ∃ firstId secondId, ids = [firstId, secondId] ∧ Leads find classes firstId ∧
    Leads find classes secondId

instance (find : String → Option Node) (classes : Table String Class) (ids : List String) :
    Decidable (Joinable find classes ids) :=
  match ids with
  | [firstId, secondId] =>
      decidable_of_iff (Leads find classes firstId ∧ Leads find classes secondId)
        ⟨fun both => ⟨firstId, secondId, rfl, both⟩, fun ⟨_, _, same, both⟩ => by
          cases same
          exact both⟩
  | [] | [_] | _ :: _ :: _ :: _ => isFalse fun ⟨_, _, same, _⟩ => nomatch same

structure FallsShort (joinable : Prop) (node : Node) (fault : Fault) : Prop where
  unnamed : joinable → fault = .invalidEntity .association [⟨"id", none, .notText⟩]
  unresolved : ¬ joinable →
    ∃ reference kind, fault = .ingest (.unresolved reference kind (.ofOption (id? node)))

theorem endClass_of_unknown {side : Node} (association : Option String)
    (unknown : ¬ ∃ owner, typed? side = some owner ∧ p.store.classes.contains owner = true) :
    ∃ reference q, endClass association side p =
      .error (.ingest (.unresolved reference (.text "class") (.ofOption association))) q := by
  unfold endClass
  cases typed : (side.plain? "type").filter (!·.isEmpty) with
  | none => exact ⟨_, _, rfl⟩
  | some owner =>
      change ∃ _ _, (if p.store.classes.contains owner = true then _ else _ : Step String) p = _
      rw [if_neg fun present => unknown ⟨owner, typed, present⟩]
      exact ⟨_, _, rfl⟩

/-- An association whose ends do not lead to two classes is refused by its identifier. -/
theorem build_of_not_joinable {node : Node} {ids : List String}
    (whole : (node.select "ownedEnd").cut = false)
    (apart : ¬ Joinable (endWith p.ends node) p.store.classes ids) :
    ∃ reference kind q, build node ids p =
      .error (.ingest (.unresolved reference kind (.ofOption (id? node)))) q := by
  by_cases paired : ∃ pair : String × String, ids = [pair.1, pair.2]
  · obtain ⟨⟨firstId, secondId⟩, rfl⟩ := paired
    have pair : pairOfEnds node [firstId, secondId] p = .ok (firstId, secondId) p := rfl
    unfold build
    rw [bind_of_ok pair]
    dsimp only
    rw [bind_of_ok (lift_eq_ok.mpr ⟨allOf_eq_ok.mpr ⟨whole, rfl⟩, rfl⟩)]
    cases firstFound : endWith p.ends node firstId with
    | none => exact ⟨_, _, _, bind_of_error (findEnd_of_missing firstFound _) _⟩
    | some first =>
      rw [bind_of_ok (findEnd_eq_ok.mpr ⟨firstFound, rfl⟩)]
      cases secondFound : endWith p.ends node secondId with
      | none => exact ⟨_, _, _, bind_of_error (findEnd_of_missing secondFound _) _⟩
      | some second =>
        rw [bind_of_ok (findEnd_eq_ok.mpr ⟨secondFound, rfl⟩)]
        by_cases sourced : ∃ owner, typed? second = some owner ∧
            p.store.classes.contains owner = true
        · obtain ⟨source, sourced⟩ := sourced
          rw [bind_of_ok (endClass_eq_ok.mpr ⟨sourced, rfl⟩)]
          have destined : ¬ ∃ owner, typed? first = some owner ∧
              p.store.classes.contains owner = true := fun ⟨destination, destined⟩ =>
            apart ⟨firstId, secondId, rfl, ⟨first, destination, firstFound, destined⟩,
              ⟨second, source, secondFound, sourced⟩⟩
          obtain ⟨_, _, failed⟩ := endClass_of_unknown (id? node) destined
          exact ⟨_, _, _, bind_of_error failed _⟩
        · obtain ⟨_, _, failed⟩ := endClass_of_unknown (id? node) sourced
          exact ⟨_, _, _, bind_of_error failed _⟩
  · have refused : ∃ reference, pairOfEnds node ids p = .error (.ingest (.unresolved reference
        (.text "pair of association ends") (.ofOption (id? node)))) p := by
      unfold pairOfEnds
      split
      · rename_i first second
        exact absurd ⟨(first, second), rfl⟩ paired
      · exact ⟨_, rfl⟩
    obtain ⟨_, failed⟩ := refused
    exact ⟨_, _, _, bind_of_error failed _⟩

/--
An association whose ends lead to two classes and can be read is added if it
has an identifier, and invalid otherwise.
-/
theorem add_of_joinable {node : Node} (sound : ¬ HasBrokenName node)
    (legible : ∀ id side, endWith p.ends node id = some side → Legible side)
    (joinable : Joinable (endWith p.ends node) p.store.classes (memberIds node))
    (opened : p.store.IsOpen) :
    (∀ id, id? node = some id → ∃ association journal, add node p = .ok (memberIds node) { p with
      store := { p.store with
        associations := p.store.associations.insert association.id association }
      journal }) ∧
    (id? node = none → ∃ q,
      add node p = .error (.invalidEntity .association [⟨"id", none, .notText⟩]) q) := by
  obtain ⟨firstId, secondId, paired, ⟨first, destination, firstFound, destined⟩,
    ⟨second, source, secondFound, sourced⟩⟩ := joinable
  have firstLegible := legible firstId first firstFound
  have secondLegible := legible secondId second secondFound
  obtain ⟨cardinality, related⟩ :=
    cardinalityBetween_of_sound firstLegible.children secondLegible.children
  obtain ⟨firstComment, firstDocumented⟩ := firstLegible.documentation
  obtain ⟨secondComment, secondDocumented⟩ := secondLegible.documentation
  have whole := (uncut_select_iff node "ownedEnd").mpr sound
  have listed := memberEnds_of_sound sound
  constructor
  · intro id named
    have joins : Joins p.ends p.store.classes node (memberIds node) first second
        ⟨id, title? node, source, destination, cardinality, title? first, title? second,
          firstComment, secondComment⟩ := {
      whole
      pair := ⟨firstId, secondId, paired, firstFound, secondFound⟩
      source := sourced.1
      source_mem := sourced.2
      destination := destined.1
      destination_mem := destined.2
      related
      firstDocumented
      secondDocumented
      id_eq := named
      name_eq := rfl
      first_eq := rfl
      second_eq := rfl }
    exact ⟨_, joins.add listed opened⟩
  · intro unnamed
    obtain ⟨journal, built⟩ := build_of_sides whole firstFound secondFound sourced destined
      related firstDocumented secondDocumented
    rw [unnamed, Association.ofDraft_eq] at built
    refine ⟨{ p with journal }, ?_⟩
    unfold add
    rw [bind_of_ok (lift_eq_ok.mpr ⟨listed, rfl⟩), paired]
    exact bind_of_error built _

/-! ## All associations -/

structure WellLinked (classes : Table String Class) (owners : List Node) (node : Node) : Prop where
  named : ∃ id, id? node = some id
  joinable : Joinable (sideNamed? owners node) classes (memberIds node)

instance (classes : Table String Class) (owners : List Node) (node : Node) :
    Decidable (WellLinked classes owners node) :=
  decidable_of_iff ((id? node).isSome = true ∧
    Joinable (sideNamed? owners node) classes (memberIds node))
    ⟨fun both => ⟨Option.isSome_iff_exists.mp both.1, both.2⟩,
      fun linked => ⟨Option.isSome_iff_exists.mpr linked.named, linked.joinable⟩⟩

def Claimed (associations : List Node) (side : Node) : Prop :=
  ∃ id, id? side = some id ∧ ∃ node ∈ associations, id ∈ memberIds node

theorem claimed_iff {associations : List Node} {side : Node} : Claimed associations side ↔
    (id? side).any (associations.flatMap memberIds).contains = true := by
  unfold Claimed
  simp [Option.any_eq_true, List.mem_flatMap]

instance (associations : List Node) (side : Node) : Decidable (Claimed associations side) :=
  decidable_of_iff _ claimed_iff.symm

structure LegibleLink (node : Node) : Prop where
  sound : ¬ HasBrokenName node
  ends : ∀ side ∈ childrenNamed node "ownedEnd", Legible side

instance (node : Node) : Decidable (LegibleLink node) :=
  decidable_of_iff (¬ HasBrokenName node ∧
    ∀ side ∈ childrenNamed node "ownedEnd", Legible side)
    ⟨fun both => ⟨both.1, both.2⟩, fun link => ⟨link.sound, link.ends⟩⟩

/-- An open store, and the ends of classes filed in document order. -/
structure Offers (owners : List Node) (p : Progress) : Prop where
  opened : p.store.IsOpen
  ends : p.ends = .ofList ((placedEnds owners).map endEntry)
  legible : ∀ place ∈ placedEnds owners, Legible place.2

variable {owners nodes front rest : List Node} {node : Node}

theorem Offers.legible_of_found (offers : Offers owners p) (link : LegibleLink node) {id : String}
    {side : Node} (found : endWith p.ends node id = some side) : Legible side := by
  rw [offers.ends, endWith_placed owners link.sound] at found
  rcases Option.or_eq_some_iff.mp found with owned | ⟨_, declared⟩
  · exact link.ends side (List.mem_reverse.mp (List.mem_of_find?_eq_some owned))
  · obtain ⟨place, inside, rfl⟩ := List.mem_map.mp
      (List.mem_reverse.mp (List.mem_of_find?_eq_some declared))
    exact offers.legible place inside

theorem Offers.add (offers : Offers owners p) (link : LegibleLink node)
    (linked : WellLinked p.store.classes owners node) :
    ∃ q, add node p = .ok (memberIds node) q ∧ Offers owners q ∧
      q.store.classes = p.store.classes := by
  obtain ⟨id, named⟩ := linked.named
  have joinable := linked.joinable
  rw [← endWith_placed owners link.sound, ← offers.ends] at joinable
  obtain ⟨association, journal, added⟩ := (add_of_joinable link.sound
    (fun _ _ => offers.legible_of_found link) joinable offers.opened).1 id named
  exact ⟨_, added, ⟨⟨offers.opened.unfailed, offers.opened.unfrozen⟩, offers.ends,
    offers.legible⟩, rfl⟩

/-- Associations that are linked well are all added, and list all their ends. -/
theorem Offers.addAll (offers : Offers owners p) (links : ∀ node ∈ nodes, LegibleLink node)
    (linked : ∀ node ∈ nodes, WellLinked p.store.classes owners node) :
    ∃ q, addAll nodes p = .ok (nodes.flatMap memberIds) q ∧ Offers owners q ∧
      q.store.classes = p.store.classes := by
  induction nodes generalizing p with
  | nil => exact ⟨p, rfl, offers, rfl⟩
  | cons node rest ih =>
      obtain ⟨q, added, offersAlso, same⟩ :=
        offers.add (links node List.mem_cons_self) (linked node List.mem_cons_self)
      obtain ⟨r, others, offersLast, sameAlso⟩ := ih offersAlso
        (fun other inside => links other (List.mem_cons_of_mem _ inside))
        (fun other inside => by
          rw [same]
          exact linked other (List.mem_cons_of_mem _ inside))
      exact ⟨r, bind_eq_ok.mpr ⟨_, q, added, bind_eq_ok.mpr ⟨_, r, others, rfl⟩⟩, offersLast,
        sameAlso.trans same⟩

/-- An association that is not linked well ends in the fault of what it lacks. -/
theorem Offers.add_of_faulty (offers : Offers owners p) (link : LegibleLink node)
    (faulty : ¬ WellLinked p.store.classes owners node) :
    ∃ fault q, Associations.add node p = .error fault q ∧
      FallsShort (Joinable (sideNamed? owners node) p.store.classes (memberIds node)) node
        fault := by
  have listed := memberEnds_of_sound link.sound
  have same := endWith_placed owners link.sound
  rw [← offers.ends] at same
  by_cases joinable : Joinable (sideNamed? owners node) p.store.classes (memberIds node)
  · have unnamed : id? node = none :=
      Option.eq_none_iff_forall_ne_some.mpr fun id named => faulty ⟨⟨id, named⟩, joinable⟩
    have apart := joinable
    rw [← same] at apart
    obtain ⟨q, failed⟩ := (add_of_joinable link.sound
      (fun _ _ => offers.legible_of_found link) apart offers.opened).2 unnamed
    exact ⟨_, q, failed, fun _ => rfl, fun impossible => absurd joinable impossible⟩
  · have apart := joinable
    rw [← same] at apart
    obtain ⟨reference, kind, q, failed⟩ :=
      build_of_not_joinable ((uncut_select_iff _ _).mpr link.sound) apart
    refine ⟨_, q, ?_, fun impossible => absurd impossible joinable,
      fun _ => ⟨reference, kind, rfl⟩⟩
    unfold Associations.add
    rw [bind_of_ok (lift_eq_ok.mpr ⟨listed, rfl⟩)]
    exact bind_of_error failed _

/-- The first association that is not linked well decides. -/
theorem Offers.link_of_faulty (offers : Offers owners p)
    (links : ∀ other ∈ front ++ node :: rest, LegibleLink other)
    (linked : ∀ other ∈ front, WellLinked p.store.classes owners other)
    (faulty : ¬ WellLinked p.store.classes owners node) :
    ∃ fault q, link (front ++ node :: rest) p = .error fault q ∧
      FallsShort (Joinable (sideNamed? owners node) p.store.classes (memberIds node)) node
        fault := by
  obtain ⟨q, added, offersAlso, same⟩ := offers.addAll
    (fun other inside => links other (List.mem_append_left _ inside)) linked
  rw [← same] at faulty ⊢
  obtain ⟨fault, r, failed, short⟩ := offersAlso.add_of_faulty
    (links node List.mem_append_cons_self) faulty
  exact ⟨fault, r, bind_of_error (addAll_of_error (each_of_addAll added)
    (bind_of_error failed _)) _, short⟩

/-! ## Ends that no association lists -/

/-- The first entry whose end no association lists is the one that is refused. -/
theorem checkEnds_of_unlisted {used : List String} {entries : List (Option String × ClassEnd)}
    {entry : Option String × ClassEnd}
    (first : entries.find? (fun entry => !entry.1.any used.contains) = some entry) :
    ∃ q, checkEnds used entries p = .error (.ingest (.unresolved
      (.ofOption (entry.2.node.plain? "association")) (.text "association")
        (.text entry.2.owner))) q := by
  induction entries with
  | nil => cases first
  | cons head rest ih =>
      obtain ⟨id, found⟩ := head
      rw [List.find?_cons] at first
      unfold checkEnds
      cases inside : id.any used.contains with
      | true =>
          rw [inside] at first
          exact ih first
      | false =>
          rw [inside] at first
          cases first
          exact ⟨_, rfl⟩

/-- Where all associations are linked well, ends that are all listed leave nothing to refuse. -/
theorem Offers.link_of_claimed (offers : Offers owners p)
    (links : ∀ node ∈ nodes, LegibleLink node)
    (linked : ∀ node ∈ nodes, WellLinked p.store.classes owners node)
    (claimed : ∀ place ∈ placedEnds owners, Claimed nodes place.2) :
    ∃ q, link nodes p = .ok () q := by
  obtain ⟨q, added, offersAlso, _⟩ := offers.addAll links linked
  refine ⟨q, link_eq_ok.mpr ⟨_, added, fun entry there => ?_⟩⟩
  have present := Table.contains_of_get? ((Table.get?_eq_some_iff _ _ _).mpr there)
  rw [offersAlso.ends, Table.contains_ofList, List.map_map] at present
  obtain ⟨place, inside, same⟩ := List.mem_map.mp present
  rw [← same]
  exact claimed_iff.mp (claimed place inside)

/--
Where all associations are linked well, the first identifier that no
association lists is refused, with the last end that goes by it.
-/
theorem Offers.link_of_unclaimed (offers : Offers owners p)
    (links : ∀ node ∈ nodes, LegibleLink node)
    (linked : ∀ node ∈ nodes, WellLinked p.store.classes owners node)
    {before after : List (Node × Node)} {place : Node × Node}
    (split : placedEnds owners = before ++ place :: after)
    (claimed : ∀ other ∈ before, Claimed nodes other.2) (unclaimed : ¬ Claimed nodes place.2) :
    ∃ last q, (placedEnds owners).reverse.find?
        (fun other => id? other.2 = id? place.2) = some last ∧
      link nodes p = .error (.ingest (.unresolved
        (.ofOption (last.2.plain? "association")) (.text "association")
          (.text ((id? last.1).getD "")))) q := by
  obtain ⟨q, added, offersAlso, _⟩ := offers.addAll links linked
  let unlisted (key : Option String) : Bool := !key.any (nodes.flatMap memberIds).contains
  have firstKey : q.ends.keys.find? unlisted = some (id? place.2) := by
    rw [offersAlso.ends, Table.find?_keys_ofList, List.map_map, split, List.map_append,
      List.find?_append, List.map_cons]
    have none : (before.map (Prod.fst ∘ endEntry)).find? unlisted = none := by
      rw [List.find?_eq_none]
      intro key inside
      obtain ⟨other, there, rfl⟩ := List.mem_map.mp inside
      simp [unlisted, endEntry, claimed_iff.mp (claimed other there)]
    have here : unlisted (id? place.2) = true := by
      rw [claimed_iff, Bool.not_eq_true] at unclaimed
      simp [unlisted, unclaimed]
    rw [none, Option.none_or, Function.comp_apply, List.find?_cons]
    change (match unlisted (id? place.2) with | true => _ | false => _) = _
    rw [here]
    rfl
  rw [Table.keys, List.find?_map] at firstKey
  obtain ⟨entry, first, key⟩ := Option.map_eq_some_iff.mp firstKey
  obtain ⟨r, refused⟩ := checkEnds_of_unlisted (p := q) first
  have filed := (Table.get?_eq_some_iff q.ends entry.1 entry.2).mpr
    (List.mem_of_find?_eq_some first)
  have answers := Table.get?_ofList_items (fun place : Node × Node => id? place.2)
    (fun place => ClassEnd.mk ((id? place.1).getD "") place.2) (placedEnds owners) entry.1
  rw [offersAlso.ends] at filed
  obtain ⟨last, found, same⟩ := Option.map_eq_some_iff.mp (answers.symm.trans filed)
  rw [key] at found
  refine ⟨last, r, found, ?_⟩
  rw [← same] at refused
  exact (bind_of_ok added _).trans refused

end Associations

namespace Ingestion

variable {ingestion : Ingestion} {p q r : Progress}

def prepare (ingestion : Ingestion) : Step Unit := do
  let _ ← ingestion.findElements
  let _ ← ingestion.fillTypes
  let _ ← ingestion.fillClasses

/-- No broken name keeps the associations of a model and the ends of its classes from being read. -/
structure LegibleLinks (model : Node) : Prop where
  associations : ∀ node ∈ elementsOfKind model .association, Associations.LegibleLink node
  ends : ∀ place ∈ placedEnds (elementsOfKind model .objectClass), Legible place.2

instance (model : Node) : Decidable (LegibleLinks model) :=
  decidable_of_iff ((∀ node ∈ elementsOfKind model .association, Associations.LegibleLink node) ∧
    ∀ place ∈ placedEnds (elementsOfKind model .objectClass), Legible place.2)
    ⟨fun both => ⟨both.1, both.2⟩, fun links => ⟨links.associations, links.ends⟩⟩

/-- What an ingestion that has read its classes offers to associations. -/
theorem offers_of_prepare (prepared : ingestion.prepare .initial = .ok () r)
    (legible : LegibleLinks ingestion.model) :
    (∃ index, Index.ofModel ingestion.strict ingestion.model = .ok index ∧
      r.index = some index) ∧
    Associations.Offers (elementsOfKind ingestion.model .objectClass) r ∧
    ∀ owner ∈ elementsOfKind ingestion.model .objectClass, ∃ id, id? owner = some id := by
  obtain ⟨index, p, found, rest⟩ := bind_eq_ok.mp prepared
  obtain ⟨types, q, typed, rest⟩ := bind_eq_ok.mp rest
  obtain ⟨classes, _, classed, last⟩ := bind_eq_ok.mp rest
  cases last
  have openFound := staged_isOpen.findElements.ok Store.isOpen_empty found
  have openTyped := staged_isOpen.fillTypes.ok openFound typed
  have openClassed := staged_isOpen.fillClasses.ok openTyped classed
  have made := ofModel_of_findElements found
  obtain ⟨_, again⟩ := findElements_of_ofModel made .initial
  cases again.symm.trans found
  rw [fillTypes_apply rfl] at typed
  obtain ⟨s, journal, declared, rfl⟩ := runStage_work typed
  obtain ⟨_, _, rfl⟩ := Typing.declareAll_frame declared
  rw [fillClasses_apply rfl] at classed
  obtain ⟨t, journal', added, rfl⟩ := runStage_work classed
  rw [Index.elementsOf_of_ofModel made] at added
  have placed := Classes.addAll_placed added rfl
  have frame := Classes.addAll_frame added
  exact ⟨⟨index, made, frame.index⟩, ⟨openClassed, placed, legible.ends⟩,
    fun _ => Classes.id?_of_addAll added⟩

def LinksWell (ingestion : Ingestion) (r : Progress) (node : Node) : Prop :=
  Associations.WellLinked r.store.classes (elementsOfKind ingestion.model .objectClass) node

def Lists (ingestion : Ingestion) (place : Node × Node) : Prop :=
  Associations.Claimed (elementsOfKind ingestion.model .association) place.2

instance (ingestion : Ingestion) (r : Progress) (node : Node) :
    Decidable (ingestion.LinksWell r node) :=
  inferInstanceAs (Decidable (Associations.WellLinked _ _ _))

instance (ingestion : Ingestion) (place : Node × Node) : Decidable (ingestion.Lists place) :=
  inferInstanceAs (Decidable (Associations.Claimed _ _))

def FaultOf (ingestion : Ingestion) (r : Progress) (node : Node) (fault : Fault) : Prop :=
  Associations.FallsShort (Associations.Joinable
    (sideNamed? (elementsOfKind ingestion.model .objectClass) node) r.store.classes
    (memberIds node)) node fault

def unlistedFault (owner : String) (side : Node) : Fault :=
  .ingest (.unresolved (.ofOption (side.plain? "association")) (.text "association")
    (.text owner))

/--
Associations of an ingestion that has read its classes are linked exactly where
every association is linked well and every end of a class is listed.  Otherwise
the first association that is not linked well decides, and where there is none
the first identifier of an end that is not listed, with the last end that goes
by it.
-/
structure LinksExactly (ingestion : Ingestion) (r : Progress) : Prop where
  returns_iff : (∃ number q, ingestion.fillAssociations r = .ok number q) ↔
    (∀ node ∈ elementsOfKind ingestion.model .association, ingestion.LinksWell r node) ∧
      ∀ place ∈ placedEnds (elementsOfKind ingestion.model .objectClass), ingestion.Lists place
  first_fault : ∀ front node rest,
    elementsOfKind ingestion.model .association = front ++ node :: rest →
    (∀ other ∈ front, ingestion.LinksWell r other) → ¬ ingestion.LinksWell r node →
    ∃ fault q, ingestion.fillAssociations r = .error fault q ∧ ingestion.FaultOf r node fault
  first_unlisted :
    (∀ node ∈ elementsOfKind ingestion.model .association, ingestion.LinksWell r node) →
    ∀ before place after,
    placedEnds (elementsOfKind ingestion.model .objectClass) = before ++ place :: after →
    (∀ other ∈ before, ingestion.Lists other) → ¬ ingestion.Lists place →
    ∃ last owner q, (placedEnds (elementsOfKind ingestion.model .objectClass)).reverse.find?
        (fun other => id? other.2 = id? place.2) = some last ∧
      id? last.1 = some owner ∧
      ingestion.fillAssociations r = .error (unlistedFault owner last.2) q

/-- Of the items of a list either all hold, or there is a first that does not. -/
theorem all_or_first {ι : Type} (holds : ι → Prop) (items : List ι) :
    (∀ item ∈ items, holds item) ∨ ∃ front item rest, items = front ++ item :: rest ∧
      (∀ other ∈ front, holds other) ∧ ¬ holds item := by
  induction items with
  | nil => exact Or.inl nofun
  | cons item rest ih =>
      by_cases here : holds item
      · rcases ih with all | ⟨front, other, later, rfl, before, fails⟩
        · exact Or.inl (List.forall_mem_cons.mpr ⟨here, all⟩)
        · exact Or.inr ⟨item :: front, other, later, rfl,
            List.forall_mem_cons.mpr ⟨here, before⟩, fails⟩
      · exact Or.inr ⟨[], item, rest, rfl, nofun, here⟩

/-- Whatever the faults are, a stage that ends in one of them has not returned. -/
theorem LinksExactly.of_faults
    (returns : (∀ node ∈ elementsOfKind ingestion.model .association, ingestion.LinksWell r node) →
      (∀ place ∈ placedEnds (elementsOfKind ingestion.model .objectClass),
        ingestion.Lists place) → ∃ number q, ingestion.fillAssociations r = .ok number q)
    (first_fault : ∀ front node rest,
      elementsOfKind ingestion.model .association = front ++ node :: rest →
      (∀ other ∈ front, ingestion.LinksWell r other) → ¬ ingestion.LinksWell r node →
      ∃ fault q, ingestion.fillAssociations r = .error fault q ∧ ingestion.FaultOf r node fault)
    (first_unlisted :
      (∀ node ∈ elementsOfKind ingestion.model .association, ingestion.LinksWell r node) →
      ∀ before place after,
      placedEnds (elementsOfKind ingestion.model .objectClass) = before ++ place :: after →
      (∀ other ∈ before, ingestion.Lists other) → ¬ ingestion.Lists place →
      ∃ last owner q, (placedEnds (elementsOfKind ingestion.model .objectClass)).reverse.find?
          (fun other => id? other.2 = id? place.2) = some last ∧
        id? last.1 = some owner ∧
        ingestion.fillAssociations r = .error (unlistedFault owner last.2) q) :
    ingestion.LinksExactly r := by
  refine ⟨⟨?_, fun well => returns well.1 well.2⟩, first_fault, first_unlisted⟩
  rintro ⟨number, q, done⟩
  rcases all_or_first (ingestion.LinksWell r) (elementsOfKind ingestion.model .association) with
    linked | ⟨front, node, rest, split, linked, faulty⟩
  · refine ⟨linked, ?_⟩
    rcases all_or_first ingestion.Lists
      (placedEnds (elementsOfKind ingestion.model .objectClass)) with
      listed | ⟨before, place, after, split, listed, unlisted⟩
    · exact listed
    · obtain ⟨_, _, _, _, _, ended⟩ :=
        first_unlisted linked before place after split listed unlisted
      cases ended.symm.trans done
  · obtain ⟨_, _, ended, _⟩ := first_fault front node rest split linked faulty
    cases ended.symm.trans done

theorem fillAssociations_of_link {index : Index}
    (made : Index.ofModel ingestion.strict ingestion.model = .ok index)
    (indexed : r.index = some index) : ingestion.fillAssociations r =
      ingestion.runStage .associations (do
        Associations.link (elementsOfKind ingestion.model .association)
        return (index.positions .association).length) r := by
  rw [fillAssociations_apply indexed, Index.elementsOf_of_ofModel made]

/--
An ingestion that has read its classes links exactly the models whose
associations and ends fit together, provided that no broken name keeps them
from being read.
-/
theorem linksExactly_of_legible (ingestion : Ingestion) (r : Progress)
    (prepared : ingestion.prepare .initial = .ok () r) (legible : LegibleLinks ingestion.model) :
    ingestion.LinksExactly r := by
  obtain ⟨⟨index, made, indexed⟩, offers, named⟩ := offers_of_prepare prepared legible
  have stage := fillAssociations_of_link made indexed
  have fails : ∀ fault q, Associations.link (elementsOfKind ingestion.model .association) r =
      .error fault q → ∃ s, ingestion.fillAssociations r = .error fault s := by
    intro fault q failed
    obtain ⟨_, told⟩ := ingestion.runStage_of_error .associations
      (bind_of_error failed fun _ => pure (index.positions .association).length)
    exact ⟨_, stage.trans told⟩
  refine .of_faults ?_ ?_ ?_
  · intro linked listed
    obtain ⟨q, done⟩ := offers.link_of_claimed legible.associations linked listed
    exact ⟨_, _, stage.trans (ingestion.runStage_eq_ok.mpr
      ⟨q, bind_eq_ok.mpr ⟨(), q, done, rfl⟩, rfl⟩)⟩
  · intro front node rest split linked faulty
    have links := legible.associations
    rw [split] at links
    obtain ⟨fault, q, failed, short⟩ := offers.link_of_faulty links linked faulty
    rw [← split] at failed
    obtain ⟨s, ended⟩ := fails fault q failed
    exact ⟨fault, s, ended, short⟩
  · intro linked before place after split listed unlisted
    obtain ⟨last, q, found, failed⟩ :=
      offers.link_of_unclaimed legible.associations linked split listed unlisted
    obtain ⟨owner, inside, member⟩ := List.mem_flatMap.mp
      (List.mem_reverse.mp (List.mem_of_find?_eq_some found))
    obtain ⟨side, _, rfl⟩ := List.mem_map.mp member
    obtain ⟨id, id_eq⟩ := named owner inside
    rw [id_eq] at failed
    obtain ⟨s, ended⟩ := fails _ q failed
    exact ⟨_, id, s, found, id_eq, ended⟩

theorem prepare_of_toBool (given : (ingestion.prepare.outcome .initial).1.toBool = true) :
    ingestion.prepare .initial = .ok () (ingestion.prepare.outcome .initial).2 := by
  unfold Step.outcome at given ⊢
  cases prepared : ingestion.prepare .initial with
  | ok _ q => rfl
  | error fault q =>
      rw [prepared] at given
      cases given

def lecturesPrepared : Progress := (lectures.prepare.outcome .initial).2

theorem linksExactly_of_legible_lectures :
    lectures.prepare .initial = .ok () lecturesPrepared ∧ LegibleLinks lectures.model ∧
      lectures.LinksExactly lecturesPrepared ∧
      (lectures.fillAssociations.outcome lecturesPrepared).1.isOk = true := by
  have prepared : lectures.prepare .initial = .ok () lecturesPrepared :=
    prepare_of_toBool (by decide +kernel)
  have legible : LegibleLinks lectures.model := by decide +kernel
  exact ⟨prepared, legible, linksExactly_of_legible lectures lecturesPrepared prepared legible,
    by decide +kernel⟩

/-- Two classes that are linked well, where a child of the association has a broken name. -/
def notedCrossed : Ingestion :=
  { lectures with
    model := umlElement "Model" [] [] [
      umlElement "packagedElement" [("type", "uml:Class"), ("id", "a")] [("name", "Course")] [
        umlElement "ownedAttribute" [("id", "e0")]
          [("name", "teacher"), ("association", "r"), ("type", "b")] []],
      umlElement "packagedElement" [("type", "uml:Class"), ("id", "b")] [("name", "Teacher")] [],
      umlElement "packagedElement" [("type", "uml:Association"), ("id", "r")]
        [("memberEnd", "e0 e1")] [
          umlElement "ownedEnd" [("id", "e1")] [("name", "courses"), ("type", "a")] [],
          brokenElement]] }

def notedCrossedPrepared : Progress := (notedCrossed.prepare.outcome .initial).2

/-- Associations that are linked well are not added if a broken name keeps one from being read. -/
theorem not_linksExactly_notedCrossed :
    notedCrossed.prepare .initial = .ok () notedCrossedPrepared ∧
      ¬ notedCrossed.LinksExactly notedCrossedPrepared ∧
      (notedCrossed.fillAssociations.outcome notedCrossedPrepared).1 = .error .brokenName := by
  have fails : (notedCrossed.fillAssociations.outcome notedCrossedPrepared).1 =
      .error .brokenName := by decide +kernel
  refine ⟨prepare_of_toBool (by decide +kernel), fun exactly => ?_, fails⟩
  have linked : ∀ node ∈ elementsOfKind notedCrossed.model .association,
      notedCrossed.LinksWell notedCrossedPrepared node := by decide +kernel
  have listed : ∀ place ∈ placedEnds (elementsOfKind notedCrossed.model .objectClass),
      notedCrossed.Lists place := by decide +kernel
  obtain ⟨number, q, done⟩ := exactly.returns_iff.mpr ⟨linked, listed⟩
  rw [Step.outcome_eq_ok.mpr done] at fails
  cases fails

end Ingestion

end ClassDiagram
