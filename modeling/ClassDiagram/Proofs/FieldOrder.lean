import ClassDiagram.Proofs.FieldTypes

/-!
# Fields in another order

A field depends on the classes before its own only through the scalar types
that these bring in.  Classes may be read in any order exactly if every field
that refers to such a type would have it without them, too.
-/

namespace ClassDiagram

open Classes (assign assign_append chooses_of_chosen)
open Typing (Chooses reference?)
open Xml (Node)

/-! ## Places among the fields -/

/-- What stands at a place of concatenated lists stands in one of them. -/
theorem exists_split_of_flatMap {α β : Type} {select : α → List β} {items : List α}
    {passed later : List β} {found : β} (shape : items.flatMap select = passed ++ found :: later) :
    ∃ front item back earlier rest, items = front ++ item :: back ∧
      select item = earlier ++ found :: rest ∧ passed = front.flatMap select ++ earlier := by
  induction items generalizing passed with
  | nil => simp at shape
  | cons first others ih =>
      rw [List.flatMap_cons, List.append_eq_append_iff] at shape
      have further {passed : List β} (shape : others.flatMap select = passed ++ found :: later) :
          ∃ front item back earlier rest, first :: others = front ++ item :: back ∧
            select item = earlier ++ found :: rest ∧
              select first ++ passed = front.flatMap select ++ earlier := by
        obtain ⟨front, item, back, earlier, rest, rfl, here, rfl⟩ := ih shape
        refine ⟨first :: front, item, back, earlier, rest, rfl, here, ?_⟩
        rw [List.flatMap_cons, List.append_assoc]
      rcases shape with ⟨passed, rfl, shape⟩ | ⟨ending, here, shape⟩
      · exact further shape
      · cases ending with
        | nil =>
            have next : others.flatMap select = [] ++ found :: later := shape.symm
            have beyond := further next
            rw [List.append_nil] at here beyond
            rw [here] at beyond
            exact beyond
        | cons head rest =>
            cases shape
            exact ⟨[], first, others, passed, rest, rfl, here, rfl⟩

section

variable {registry : Registry} {declared : Table String ScalarType}
  {enumerations : List (Option String)} {typeOf : Node → String}

def Announced (declared : Table String ScalarType) (enumerations : List (Option String))
    (id : String) : Prop :=
  declared.contains id = true ∨ some id ∈ enumerations

theorem knownAfter_assign_iff {id : String} (unannounced : ¬ Announced declared enumerations id)
    (fields : List Node) : KnownAfter declared enumerations (assign typeOf fields) id ↔
      ∃ field ∈ fields, typeOf field = id := by
  constructor
  · rintro (known | ⟨place, inside, same, _⟩)
    · exact absurd (Or.inl known) unannounced
    · obtain ⟨field, there, rfl⟩ := List.mem_map.mp inside
      exact ⟨field, there, same⟩
  · rintro ⟨field, inside, same⟩
    exact Or.inr ⟨(field, typeOf field), List.mem_map_of_mem inside, same,
      fun awaited => unannounced (Or.inr awaited.2)⟩

/-- What fields have brought in does not depend on their order. -/
theorem KnownAfter.subset {fields others : List Node} {id : String}
    (known : KnownAfter declared enumerations (assign typeOf fields) id)
    (inside : fields ⊆ others) : KnownAfter declared enumerations (assign typeOf others) id := by
  refine known.imp_right ?_
  rintro ⟨place, there, brings⟩
  exact ⟨place, List.map_subset _ inside there, brings⟩

theorem chosen_assign_iff {fields : List Node} :
    Chosen declared enumerations registry (assign typeOf fields) ↔
      ∀ earlier field later, fields = earlier ++ field :: later → Chooses registry enumerations
        (KnownAfter declared enumerations (assign typeOf earlier)) field (typeOf field) := by
  constructor
  · exact fun chosen earlier field later shape => chooses_of_chosen chosen shape
  · intro chooses passed field typeId later shape
    obtain ⟨earlier, rest, rfl, rfl, ending⟩ := List.map_eq_append_iff.mp shape
    obtain ⟨other, others, rfl, same, rfl⟩ := List.map_eq_cons_iff.mp ending
    cases same
    exact chooses earlier _ others rfl

end

/-! ## Fields that stay with their types -/

/--
A field that refers to an identifier nothing announces, where a field of
another class has the scalar type of this identifier, has that type written on
it or follows a field of its own class that has it.
-/
def Steady (registry : Registry) (announced : String → Prop) (typeOf : Node → String)
    (classes : List Node) : Prop :=
  ∀ front node back, classes = front ++ node :: back →
    ∀ earlier field later, fieldsOf node = earlier ++ field :: later →
      ∀ id, reference? field = some id → ¬ announced id →
        (∃ other ∈ (front ++ back).flatMap fieldsOf, typeOf other = id) →
          (∃ name, inlineType field = .ok name ∧ registry.canonical name = .ok id) ∨
            ∃ other ∈ earlier, typeOf other = id

section

variable {registry : Registry} {declared : Table String ScalarType}
  {enumerations : List (Option String)} {typeOf : Node → String} {classes : List Node}

/--
A field has the same type where other scalar types are there, as long as these
do not differ in what it refers to, or this is written on the field, too.
-/
theorem Typing.Chooses.transfer {known other : String → Prop} {field : Node} {typeId : String}
    (chooses : Chooses registry enumerations known field typeId)
    (fits : known typeId → other typeId ∨ Text.isCapitalized typeId = true)
    (alike : ∀ id, reference? field = some id → some id ∉ enumerations →
      (∃ name, inlineType field = .ok name ∧ registry.canonical name = .ok id) ∨
        (known id ↔ other id)) :
    Chooses registry enumerations other field typeId := by
  cases chooses with
  | referred refers there =>
      by_cases still : other typeId ∨ some typeId ∈ enumerations
      · exact .referred refers still
      · obtain ⟨lost, unawaited⟩ := not_or.mp still
        have known := there.resolve_right unawaited
        rcases alike typeId refers unawaited with name | same
        · refine .written (fun id again => ?_) name (fits known)
          cases refers.symm.trans again
          exact still
        · exact absurd (same.mp known) lost
  | written unknown name capitalized =>
      by_cases gained : ∃ id, reference? field = some id ∧ (other id ∨ some id ∈ enumerations)
      · obtain ⟨id, refers, there⟩ := gained
        obtain ⟨absent, unawaited⟩ := not_or.mp (unknown id refers)
        rcases alike id refers unawaited with ⟨name', inline', called'⟩ | same
        · obtain ⟨name, inline, called⟩ := name
          cases inline.symm.trans inline'
          cases called.symm.trans called'
          exact .referred refers there
        · exact absurd (same.mpr (there.resolve_right unawaited)) absent
      · refine .written (fun id refers there => gained ⟨id, refers, there⟩) name ?_
        exact capitalized.elim fits Or.inr

/-- Where no field of another class has a type, only the fields of the own class bring it in. -/
theorem knownAfter_iff_of_apart {id : String} {front around earlier : List Node}
    (unannounced : ¬ Announced declared enumerations id) (inside : front ⊆ around)
    (apart : ¬ ∃ other ∈ around.flatMap fieldsOf, typeOf other = id) :
    KnownAfter declared enumerations (assign typeOf (front.flatMap fieldsOf ++ earlier)) id ↔
      ∃ other ∈ earlier, typeOf other = id := by
  rw [knownAfter_assign_iff unannounced]
  constructor
  · rintro ⟨other, there, same⟩
    rcases List.mem_append.mp there with before | mine
    · obtain ⟨owner, member, own⟩ := List.mem_flatMap.mp before
      exact absurd ⟨other, List.mem_flatMap.mpr ⟨owner, inside member, own⟩, same⟩ apart
    · exact ⟨other, mine, same⟩
  · rintro ⟨other, mine, same⟩
    exact ⟨other, List.mem_append_right _ mine, same⟩

/-- Fields that stay with their types come by them in every order of the classes. -/
theorem Steady.chosen (steady : Steady registry (Announced declared enumerations) typeOf classes)
    (start : Chosen declared enumerations registry (assign typeOf (classes.flatMap fieldsOf)))
    (capitalized : ∀ id, KnownAfter declared enumerations
      (assign typeOf (classes.flatMap fieldsOf)) id → ¬ declared.contains id = true →
        Text.isCapitalized id = true)
    {others : List Node} (perm : others.Perm classes) :
    Chosen declared enumerations registry (assign typeOf (others.flatMap fieldsOf)) := by
  rw [chosen_assign_iff]
  intro passed field later shape
  obtain ⟨front', node, back', earlier, rest, rfl, here, rfl⟩ := exists_split_of_flatMap shape
  obtain ⟨front, back, rfl⟩ := List.append_of_mem
    (perm.subset (List.mem_append_right front' List.mem_cons_self))
  have around : (front' ++ back').Perm (front ++ back) :=
    List.Perm.cons_inv (List.perm_middle.symm.trans (perm.trans List.perm_middle))
  have split : (front ++ node :: back).flatMap fieldsOf =
      (front.flatMap fieldsOf ++ earlier) ++ field :: (rest ++ back.flatMap fieldsOf) := by
    rw [List.flatMap_append, List.flatMap_cons, here, List.append_assoc, List.append_assoc,
      List.cons_append]
  refine (chooses_of_chosen start split).transfer (fun known => ?_) fun id refers unawaited => ?_
  · by_cases declares : declared.contains (typeOf field) = true
    · exact Or.inl (Or.inl declares)
    · refine Or.inr (capitalized _ (known.subset ?_) declares)
      rw [split]
      exact List.subset_append_left _ _
  · by_cases declares : declared.contains id = true
    · exact Or.inr (iff_of_true (Or.inl declares) (Or.inl declares))
    · have unannounced : ¬ Announced declared enumerations id := not_or.mpr ⟨declares, unawaited⟩
      have before := List.subset_append_left front back
      have before' := List.Subset.trans (List.subset_append_left front' back') around.subset
      by_cases apart : ∃ other ∈ (front ++ back).flatMap fieldsOf, typeOf other = id
      · rcases steady front node back rfl earlier field rest here id refers unannounced apart with
          name | ⟨other, mine, same⟩
        · exact Or.inl name
        · have known (fields : List Node) :
              KnownAfter declared enumerations (assign typeOf (fields ++ earlier)) id :=
            (knownAfter_assign_iff unannounced _).mpr
              ⟨other, List.mem_append_right _ mine, same⟩
          exact Or.inr (iff_of_true (known _) (known _))
      · rw [knownAfter_iff_of_apart unannounced before apart,
          knownAfter_iff_of_apart unannounced before' apart]
        exact Or.inr Iff.rfl

/-- Fields stay with their types if what they refer to is announced or written on them, too. -/
theorem steady_of_written {announced : String → Prop}
    (written : ∀ field ∈ classes.flatMap fieldsOf, ∀ id, reference? field = some id →
      announced id ∨ ∃ name, inlineType field = .ok name ∧ registry.canonical name = .ok id) :
    Steady registry announced typeOf classes := by
  rintro front node back rfl earlier field later here id refers unannounced _
  have inside : field ∈ (front ++ node :: back).flatMap fieldsOf := by
    refine List.mem_flatMap.mpr ⟨node, List.mem_append_cons_self, ?_⟩
    rw [here]
    exact List.mem_append_cons_self
  exact Or.inl ((written field inside id refers).resolve_left unannounced)

/-- Fields that come by their types in every order of the classes stay with them. -/
theorem steady_of_chosen (chosen : ∀ others : List Node, others.Perm classes →
      Chosen declared enumerations registry (assign typeOf (others.flatMap fieldsOf))) :
    Steady registry (Announced declared enumerations) typeOf classes := by
  rintro front node back rfl earlier field later here id refers unannounced ⟨other, apart, same⟩
  by_cases mine : ∃ other ∈ earlier, typeOf other = id
  · exact Or.inr mine
  -- After all other classes, the field has the type that it refers to.
  have last : Chooses registry enumerations (KnownAfter declared enumerations
      (assign typeOf ((front ++ back).flatMap fieldsOf ++ earlier))) field (typeOf field) := by
    have perm : ((front ++ back) ++ [node]).Perm (front ++ node :: back) :=
      (List.perm_append_singleton _ _).trans List.perm_middle.symm
    have shape : ((front ++ back) ++ [node]).flatMap fieldsOf =
        ((front ++ back).flatMap fieldsOf ++ earlier) ++ field :: later := by
      rw [List.flatMap_append, List.flatMap_singleton, here, List.append_assoc]
    exact chooses_of_chosen (chosen _ perm) shape
  have typed : typeOf field = id := by
    cases last with
    | referred again _ => exact Option.some.inj (again.symm.trans refers)
    | written unknown _ _ =>
        refine absurd (Or.inl ?_) (unknown id refers)
        exact (knownAfter_assign_iff unannounced _).mpr
          ⟨other, List.mem_append_left _ apart, same⟩
  -- Before all other classes, it can only have what is written on it.
  have first : Chooses registry enumerations (KnownAfter declared enumerations
      (assign typeOf earlier)) field (typeOf field) := by
    have shape : (node :: (front ++ back)).flatMap fieldsOf =
        earlier ++ field :: (later ++ (front ++ back).flatMap fieldsOf) := by
      rw [List.flatMap_cons, here, List.append_assoc, List.cons_append]
    exact chooses_of_chosen (chosen _ List.perm_middle.symm) shape
  rw [typed] at first
  cases first with
  | referred _ there =>
      rcases there with known | awaited
      · exact absurd ((knownAfter_assign_iff unannounced _).mp known) mine
      · exact absurd (Or.inr awaited) unannounced
  | written _ name _ => exact Or.inl name

end

end ClassDiagram
