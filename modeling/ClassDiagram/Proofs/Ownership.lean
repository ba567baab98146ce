import ClassDiagram.Proofs.Histories
import Mathlib.Data.List.Perm.Basic

/-!
# Classes and the fields they own

A store says twice which fields a class has: the class lists them, and each
field names its class.  The two agree as long as no filling overwrites a
field, or a class that has fields; a filling that does makes them disagree.
-/

namespace ClassDiagram.Store

def Lists (store : Store) (owner id : String) : Prop :=
  ∃ entity, store.classes.get? owner = some entity ∧ id ∈ entity.fields

def Names (store : Store) (id owner : String) : Prop :=
  ∃ field, store.fields.get? id = some field ∧ field.classId = owner

/--
Classes list the fields that name them, each of them once; so a class lists as
many fields as name it, and every field names a class that is there.
-/
structure Owned (store : Store) : Prop where
  distinct : ∀ owner entity, store.classes.get? owner = some entity → entity.fields.Nodup
  lists_iff : ∀ owner id, store.Lists owner id ↔ store.Names id owner
  counted : ∀ owner entity, store.classes.get? owner = some entity →
    entity.fields.length = (store.fields.values.filter (·.classId = owner)).length
  housed : ∀ id field, store.fields.get? id = some field →
    store.classes.contains field.classId = true

section

variable {store next : Store}

/-! ## What follows from the lists -/

def fieldsNaming (store : Store) (owner : String) : List String :=
  (store.fields.entries.filter (·.2.classId = owner)).map Prod.fst

theorem mem_fieldsNaming {owner id : String} :
    id ∈ store.fieldsNaming owner ↔ store.Names id owner := by
  unfold fieldsNaming Names
  simp only [List.mem_map, List.mem_filter, decide_eq_true_eq, Prod.exists, exists_and_right,
    exists_eq_right, Table.get?_eq_some_iff]

theorem nodup_fieldsNaming (store : Store) (owner : String) :
    (store.fieldsNaming owner).Nodup :=
  List.Nodup.sublist (List.filter_sublist.map Prod.fst) store.fields.distinct

theorem length_fieldsNaming (store : Store) (owner : String) :
    (store.fieldsNaming owner).length =
      (store.fields.values.filter (·.classId = owner)).length := by
  rw [fieldsNaming, List.length_map, Table.values, List.filter_map, List.length_map]
  rfl

/-- Lists without repetitions that agree with the fields say everything. -/
theorem owned_of_lists
    (distinct : ∀ owner entity, store.classes.get? owner = some entity → entity.fields.Nodup)
    (lists_iff : ∀ owner id, store.Lists owner id ↔ store.Names id owner) : store.Owned where
  distinct := distinct
  lists_iff := lists_iff
  counted owner entity found := by
    have same : ∀ id, id ∈ entity.fields ↔ id ∈ store.fieldsNaming owner := by
      intro id
      rw [mem_fieldsNaming, ← lists_iff]
      constructor
      · intro inside
        exact ⟨entity, found, inside⟩
      · rintro ⟨other, again, inside⟩
        cases found.symm.trans again
        exact inside
    have permuted : entity.fields.Perm (store.fieldsNaming owner) :=
      (List.perm_ext_iff_of_nodup (distinct owner entity found)
        (store.nodup_fieldsNaming owner)).mpr same
    rw [permuted.length_eq, length_fieldsNaming]
  housed id field found := by
    obtain ⟨entity, there, _⟩ := (lists_iff field.classId id).mpr ⟨field, found, rfl⟩
    exact Table.contains_of_get? there

theorem owned_empty : empty.Owned :=
  owned_of_lists (fun _ _ => nofun) fun _ _ => ⟨by rintro ⟨_, ⟨⟩, _⟩, by rintro ⟨_, ⟨⟩, _⟩⟩

/-- Stores with the same classes and fields agree on what is owned. -/
theorem Owned.of_same (owned : store.Owned) (classes : next.classes = store.classes)
    (fields : next.fields = store.fields) : next.Owned := by
  refine owned_of_lists ?_ ?_
  · rw [classes]
    exact owned.distinct
  · intro owner id
    have agree := owned.lists_iff owner id
    unfold Lists Names at agree ⊢
    rwa [classes, fields]

/-! ## Fillings -/

/-- A filling overwrites a field, or a class that has fields. -/
def Filling.Overwrites : Filling → Store → Prop
  | .addClass entity, store =>
      ∃ old, store.classes.get? entity.id = some old ∧ old.fields ≠ []
  | .addField field, store => store.fields.contains field.id = true
  | _, _ => False

/-- A class without fields lists nothing in the place of another one. -/
theorem lists_addClass {entity : Class} (bare : entity.fields = [])
    (classes : next.classes = store.classes.insert entity.id entity) (owner id : String) :
    next.Lists owner id ↔ entity.id ≠ owner ∧ store.Lists owner id := by
  unfold Lists
  rw [classes, Table.get?_insert]
  by_cases here : entity.id = owner
  · simp [here, bare]
  · simp [here]

theorem owned_addClass_iff {entity : Class} (owned : store.Owned) (bare : entity.fields = [])
    (done : Store.addClass entity store = .ok () next) :
    next.Owned ↔ ¬ (Filling.addClass entity).Overwrites store := by
  obtain ⟨_, made⟩ := addClass_eq_ok.mp done
  have classes : next.classes = store.classes.insert entity.id entity := by rw [made]
  have fields : next.fields = store.fields := by rw [made]
  have lists := lists_addClass bare classes
  constructor
  · rintro after ⟨old, found, filled⟩
    obtain ⟨id, inside⟩ := List.exists_mem_of_ne_nil _ filled
    have named : next.Names id entity.id := by
      rw [Names, fields]
      exact (owned.lists_iff _ _).mp ⟨old, found, inside⟩
    have listed := (after.lists_iff entity.id id).mpr named
    exact ((lists entity.id id).mp listed).1 rfl
  · intro fresh
    refine owned_of_lists ?_ fun owner id => ?_
    · intro owner other found
      rw [classes] at found
      rcases Table.eq_or_get?_of_insert found with ⟨_, rfl⟩ | before
      · rw [bare]
        exact List.nodup_nil
      · exact owned.distinct owner other before
    · have same : next.Names id owner ↔ store.Names id owner := by rw [Names, fields, Names]
      rw [lists, same, owned.lists_iff]
      refine and_iff_right_of_imp fun named same => fresh ?_
      obtain ⟨old, found, inside⟩ := (owned.lists_iff owner id).mpr named
      rw [← same] at found
      exact ⟨old, found, List.ne_nil_of_mem inside⟩

/-- A field that is added is listed by its class, and nothing else is listed anew. -/
theorem lists_addField {field : Field} {entity : Class}
    (found : store.classes.get? field.classId = some entity)
    (classes : next.classes = store.classes.insert field.classId
      { entity with fields := entity.fields ++ [field.id] }) (owner id : String) :
    next.Lists owner id ↔ store.Lists owner id ∨ field.classId = owner ∧ id = field.id := by
  unfold Lists
  rw [classes, Table.get?_insert]
  by_cases here : field.classId = owner
  · subst here
    simp [found]
  · simp [here]

theorem names_addField {field : Field}
    (fields : next.fields = store.fields.insert field.id field) (owner id : String) :
    next.Names id owner ↔
      field.id = id ∧ field.classId = owner ∨ field.id ≠ id ∧ store.Names id owner := by
  unfold Names
  rw [fields, Table.get?_insert]
  by_cases here : field.id = id
  · simp [here]
  · simp [here]

theorem owned_addField_iff {field : Field} (keyed : store.Keyed) (owned : store.Owned)
    (done : Store.addField field store = .ok () next) :
    next.Owned ↔ ¬ (Filling.addField field).Overwrites store := by
  obtain ⟨_, entity, found, made⟩ := addField_eq_ok.mp done
  have classes : next.classes = store.classes.insert field.classId
      { entity with fields := entity.fields ++ [field.id] } := by
    rw [made, ← keyed _ entity found]
  have fields : next.fields = store.fields.insert field.id field := by rw [made]
  have lists := lists_addField found classes
  have names := names_addField fields
  constructor
  · intro after taken
    obtain ⟨old, filed⟩ := (Table.contains_iff_exists _ _).mp taken
    have listed : store.Lists old.classId field.id := (owned.lists_iff _ _).mpr ⟨old, filed, rfl⟩
    rcases (names old.classId field.id).mp
      ((after.lists_iff _ _).mp ((lists old.classId field.id).mpr (Or.inl listed)))
      with ⟨_, same⟩ | ⟨other, _⟩
    · -- The class listed the field before, so now it lists it twice.
      obtain ⟨again, there, inside⟩ := listed
      rw [← same, found] at there
      cases there
      have last := Table.get?_insert_self store.classes field.classId
        { entity with fields := entity.fields ++ [field.id] }
      rw [← classes] at last
      have twice := after.distinct field.classId _ last
      exact (List.nodup_append.mp twice).2.2 _ inside _ List.mem_cons_self rfl
    · exact other rfl
  · intro fresh
    have unlisted : ∀ owner, ¬ store.Lists owner field.id := by
      intro owner listed
      obtain ⟨old, filed, _⟩ := (owned.lists_iff owner field.id).mp listed
      exact fresh (Table.contains_of_get? filed)
    refine owned_of_lists ?_ fun owner id => ?_
    · intro owner other filed
      rw [classes] at filed
      rcases Table.eq_or_get?_of_insert filed with ⟨_, rfl⟩ | before
      · refine List.nodup_append.mpr ⟨owned.distinct _ entity found, by simp, ?_⟩
        intro left inside right last same
        rw [List.mem_singleton.mp last] at same
        exact unlisted _ ⟨entity, found, same ▸ inside⟩
      · exact owned.distinct owner other before
    · rw [lists, names, ← owned.lists_iff]
      constructor
      · rintro (listed | ⟨here, rfl⟩)
        · refine Or.inr ⟨?_, listed⟩
          rintro rfl
          exact unlisted owner listed
        · exact Or.inl ⟨rfl, here⟩
      · rintro (⟨same, here⟩ | ⟨_, listed⟩)
        · exact Or.inr ⟨here, same.symm⟩
        · exact Or.inl listed

/-- A class that is taken out takes its fields along, and no others. -/
theorem Owned.removeClass {id : Option String} (owned : store.Owned)
    (done : Store.removeClass id store = .ok () next) : next.Owned := by
  obtain ⟨_, ⟨_, rfl⟩ | ⟨key, entity, _, found, rfl⟩⟩ := removeClass_eq_ok.mp done
  · exact owned
  · have member : ∀ id, id ∈ entity.fields ↔ store.Names id key := by
      intro id
      rw [← owned.lists_iff]
      constructor
      · intro inside
        exact ⟨entity, found, inside⟩
      · rintro ⟨_, again, inside⟩
        cases found.symm.trans again
        exact inside
    refine owned_of_lists ?_ fun owner id => ?_
    · intro owner other filed
      dsimp only at filed
      rw [Table.get?_erase] at filed
      split at filed
      · cases filed
      · exact owned.distinct owner other filed
    · have listed := owned.lists_iff owner id
      have inside := member id
      unfold Lists Names at listed inside ⊢
      dsimp only
      rw [Table.get?_erase, Table.get?_eraseAll]
      by_cases here : key = owner
      · subst here
        by_cases named : id ∈ entity.fields
        · simp [named]
        · simp [named, ← inside]
      · by_cases named : id ∈ entity.fields
        · obtain ⟨field, filed, same⟩ := inside.mp named
          have elsewhere : field.classId ≠ owner := same ▸ here
          simp [here, named, listed, filed, elsewhere]
        · simp [here, named, listed]

/-- A filling keeps classes and fields in agreement if and only if it overwrites neither. -/
theorem Filling.owned_iff {filling : Filling} (keyed : store.Keyed) (owned : store.Owned)
    (bare : ∀ entity, filling = .addClass entity → entity.fields = [])
    (done : filling.apply store = .ok () next) : next.Owned ↔ ¬ filling.Overwrites store := by
  cases filling with
  | addClass entity => exact owned_addClass_iff owned (bare entity rfl) done
  | addField field => exact owned_addField_iff keyed owned done
  | addType type =>
      obtain ⟨_, rfl⟩ := addType_eq_ok.mp done
      exact iff_of_true (owned.of_same rfl rfl) not_false
  | addAssociation association =>
      obtain ⟨_, rfl⟩ := addAssociation_eq_ok.mp done
      exact iff_of_true (owned.of_same rfl rfl) not_false
  | addEnumeration enumeration =>
      obtain ⟨_, rfl⟩ := addEnumeration_eq_ok.mp done
      exact iff_of_true (owned.of_same rfl rfl) not_false
  | removeClass id => exact iff_of_true (owned.removeClass done) not_false

end

/-! ## Histories -/

def OverwritesNothing (operations : List Operation) : Prop :=
  ∀ front filling next, front ++ [.fill filling] <+: operations →
    filling.apply (empty.after front) = .ok () next → ¬ filling.Overwrites (empty.after front)

/--
Classes and fields agree all along a history that adds classes without fields,
if and only if it overwrites no field and no class that has fields.
-/
theorem owned_after_iff (operations : List Operation)
    (bare : ∀ entity, .fill (.addClass entity) ∈ operations → entity.fields = []) :
    (∀ front, front <+: operations → (empty.after front).Owned) ↔
      OverwritesNothing operations := by
  have bareAt : ∀ front filling, front ++ [.fill filling] <+: operations →
      ∀ entity, filling = .addClass entity → entity.fields = [] := by
    rintro front _ inside entity rfl
    exact bare entity (inside.subset List.mem_append_cons_self)
  exact after_iff_never Owned Filling.Overwrites owned_empty
    (fun _ owned => owned.of_same rfl rfl) (fun _ _ owned => owned.of_same rfl rfl)
    fun front filling _ inside owned done =>
      filling.owned_iff (keyed_after front) owned (bareAt front filling inside) done

def course : Class := ⟨"c", "Course", none, []⟩

def title : Field := ⟨"f", "title", "String", "c", none⟩

def rebuilt : List Operation :=
  [.fill (.addClass course), .fill (.addField title), .fill (.removeClass "c"),
    .fill (.addClass course), .fill (.addField title), .freeze]

/-- What has been taken out may be added again. -/
theorem owned_after_iff_rebuilt :
    (∀ entity, .fill (.addClass entity) ∈ rebuilt → entity.fields = []) ∧
      ((∀ front, front <+: rebuilt → (empty.after front).Owned) ↔ OverwritesNothing rebuilt) ∧
      (empty.after rebuilt).classes.get? "c" = some { course with fields := ["f"] } := by
  have bare : ∀ entity, .fill (.addClass entity) ∈ rebuilt → entity.fields = [] := by
    simp [rebuilt, course]
  exact ⟨bare, owned_after_iff rebuilt bare, by decide +kernel⟩

/-- A class, and a field that is added to it two times. -/
def doubled : List Operation :=
  [.fill (.addClass course), .fill (.addField title), .fill (.addField title)]

/-- A field that is added two times is listed two times. -/
theorem not_owned_doubled :
    (∀ entity, .fill (.addClass entity) ∈ doubled → entity.fields = []) ∧
      (empty.after doubled).classes.get? "c" = some { course with fields := ["f", "f"] } ∧
      ¬ ∀ front, front <+: doubled → (empty.after front).Owned := by
  have listed : (empty.after doubled).classes.get? "c" =
      some { course with fields := ["f", "f"] } := by decide +kernel
  refine ⟨by simp [doubled, course], listed, fun always => ?_⟩
  have distinct := (always doubled (List.prefix_refl _)).distinct "c" _ listed
  exact absurd distinct (by decide)

end ClassDiagram.Store
