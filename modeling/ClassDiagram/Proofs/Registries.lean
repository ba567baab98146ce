import ClassDiagram.Registry
import ClassDiagram.Proofs.Building
import ClassDiagram.Proofs.Casing
import ClassDiagram.Proofs.Tables

/-!
# The lookups of a registry

A registry looks one name up under two keys: whether it stands for a type is
asked under the lower case of the capitalized name, and its canonical form
under the lower case of the name as it is.  Where upper-casing the first
character changes its lower case the two keys differ, so a name can stand for a
type that has no canonical form.
-/

namespace ClassDiagram

open Text

namespace Registry

variable {database : Database} {registry : Registry} {names : List String}
  {name key form : String}

/-! ## The two lookups -/

theorem contains_iff : registry.contains (some name) = true ↔
    name ≠ "" ∧ registry.types.contains (lower (capitalize name)) = true := by
  simp [contains]

/-- A name that stands for no type is refused. -/
theorem canonical_of_unknown {name : Option String} (unknown : registry.contains name = false) :
    registry.canonical name = .error (.ingest (.wrongType (.ofOption name) .absent .absent)) := by
  cases name with
  | none => rfl
  | some name =>
      simp only [canonical, unknown, Bool.false_eq_true, if_false]
      rfl

/-- A name that stands for a type under one key and is not filed under the other goes astray. -/
theorem canonical_of_unfiled (known : registry.contains (some name) = true)
    (unfiled : registry.types.get? (lower name) = none) :
    registry.canonical (some name) = .error (.unregistered (lower name)) := by
  simp only [canonical, known, if_true, unfiled]

theorem canonical_of_filed (known : registry.contains (some name) = true)
    (filed : registry.types.get? (lower name) = some form) :
    registry.canonical (some name) = .ok form := by
  simp only [canonical, known, if_true, filed]

theorem canonical_eq_ok : registry.canonical (some name) = .ok form ↔
    registry.contains (some name) = true ∧ registry.types.get? (lower name) = some form := by
  constructor
  · intro found
    have known := contains_of_canonical found
    refine ⟨known, ?_⟩
    cases filed : registry.types.get? (lower name) with
    | none => cases (canonical_of_unfiled known filed).symm.trans found
    | some other =>
        cases (canonical_of_filed known filed).symm.trans found
        rfl
  · rintro ⟨known, filed⟩
    exact canonical_of_filed known filed

/-! ## When the lookups agree -/

/--
What the two lookups owe each other at a name: exactly the names that stand for
a type have a canonical form, the others are refused by name, and a canonical
form stands for a type and is its own canonical form.
-/
structure LookupsAgree (registry : Registry) (name : Option String) : Prop where
  returns_iff : (∃ form, registry.canonical name = .ok form) ↔ registry.contains name = true
  refused : ∀ fault, registry.canonical name = .error fault →
    fault = .ingest (.wrongType (.ofOption name) .absent .absent)
  settled : ∀ form, registry.canonical name = .ok form →
    registry.contains (some form) = true ∧ registry.canonical (some form) = .ok form

/-- A form stands for a type and is filed as its own canonical form. -/
def Settles (registry : Registry) (form : String) : Prop :=
  registry.contains (some form) = true ∧ registry.types.get? (lower form) = some form

theorem lookupsAgree_none (registry : Registry) : registry.LookupsAgree none where
  returns_iff := ⟨fun ⟨_, found⟩ => (nomatch found), fun known => (nomatch known)⟩
  refused := by
    rintro _ ⟨⟩
    rfl
  settled := fun _ found => nomatch found

/-- The lookups agree where a name that stands for a type leads to a form that settles. -/
theorem lookupsAgree_some : registry.LookupsAgree (some name) ↔
    (registry.contains (some name) = true →
      ∃ form, registry.types.get? (lower name) = some form ∧ registry.Settles form) := by
  constructor
  · intro agree known
    obtain ⟨form, found⟩ := agree.returns_iff.mpr known
    obtain ⟨stands, again⟩ := agree.settled form found
    exact ⟨form, (canonical_eq_ok.mp found).2, stands, (canonical_eq_ok.mp again).2⟩
  · intro leads
    refine ⟨⟨fun ⟨_, found⟩ => contains_of_canonical found, fun known => ?_⟩, ?_, ?_⟩
    · obtain ⟨form, filed, _⟩ := leads known
      exact ⟨form, canonical_of_filed known filed⟩
    · intro fault refused
      cases known : registry.contains (some name) with
      | false =>
          rw [canonical_of_unknown known] at refused
          cases refused
          rfl
      | true =>
          obtain ⟨form, filed, _⟩ := leads known
          cases (canonical_of_filed known filed).symm.trans refused
    · intro form found
      obtain ⟨known, filed⟩ := canonical_eq_ok.mp found
      obtain ⟨_, same, settles⟩ := leads known
      cases filed.symm.trans same
      exact ⟨settles.1, canonical_eq_ok.mpr settles⟩

/-! ## Registries of listed names -/

def lastNamed (names : List String) (key : String) : Option String :=
  names.reverse.find? fun name => lower name = key

theorem lower_of_lastNamed (found : lastNamed names key = some name) : lower name = key := by
  simpa using List.find?_some found

theorem mem_of_lastNamed (found : lastNamed names key = some name) : name ∈ names :=
  List.mem_reverse.mp (List.mem_of_find?_eq_some found)

/-- A lower case is filed with the capitalized last name that has it. -/
theorem get?_ofNames (database : Database) (names : List String) (key : String) :
    (ofNames database names).types.get? key = (lastNamed names key).map capitalize :=
  Table.get?_ofList_items lower capitalize names key

theorem get?_ofNames_eq_some : (ofNames database names).types.get? key = some form ↔
    ∃ name, lastNamed names key = some name ∧ capitalize name = form := by
  rw [get?_ofNames, Option.map_eq_some_iff]

theorem contains_types_ofNames : (ofNames database names).types.contains key = true ↔
    ∃ name ∈ names, lower name = key := by
  rw [ofNames, Table.contains_ofList, List.map_map, List.mem_map]
  rfl

theorem lastNamed_of_mem (listed : name ∈ names) (same : lower name = key) :
    ∃ last, lastNamed names key = some last := by
  rw [← Option.isSome_iff_exists, lastNamed, List.find?_isSome]
  exact ⟨name, List.mem_reverse.mpr listed, decide_eq_true same⟩

/-- Every canonical form of a built-in registry settles. -/
theorem settles_ofDatabase (database : Database)
    (listed : form ∈ (ofDatabase database).types.values) :
    (ofDatabase database).Settles form := by
  have every : ∀ other ∈ (ofDatabase database).types.values,
      (ofDatabase database).contains (some other) = true ∧
        (ofDatabase database).types.get? (lower other) = some other := by
    cases database <;> decide +kernel
  exact every form listed

/--
The lookups of a registry of listed names agree at every name that starts with
an ASCII character, provided that the listed names do.
-/
theorem lookupsAgree_of_plain (database : Database) (listed : ∀ name ∈ names, StartsPlain name)
    (plain : StartsPlain name) : (ofNames database names).LookupsAgree (some name) := by
  rw [lookupsAgree_some]
  intro known
  obtain ⟨filled, filed⟩ := contains_iff.mp known
  obtain ⟨other, inside, same⟩ := contains_types_ofNames.mp filed
  rw [lower_capitalize plain] at same
  obtain ⟨last, found⟩ := lastNamed_of_mem inside same
  have lowered := lower_of_lastNamed found
  have lastPlain := listed last (mem_of_lastNamed found)
  have lastFilled : last ≠ "" := by
    rintro rfl
    exact lower_ne_empty filled lowered.symm
  refine ⟨capitalize last, get?_ofNames_eq_some.mpr ⟨last, found, rfl⟩, ?_, ?_⟩
  · refine contains_iff.mpr ⟨capitalize_ne_empty lastPlain lastFilled, ?_⟩
    rw [capitalize_capitalize lastPlain, lower_capitalize lastPlain]
    exact contains_types_ofNames.mpr ⟨last, mem_of_lastNamed found, rfl⟩
  · rw [lower_capitalize lastPlain, lowered]
    exact get?_ofNames_eq_some.mpr ⟨last, found, rfl⟩

/--
The lookups of a registry of listed names agree at a name if and only if, where
the name stands for a type, a listed name has its lower case and the last such
name, capitalized, settles.  In a built-in registry the first condition is
enough, and among names that start with an ASCII character nothing is asked.
-/
theorem lookupsAgree_iff (database : Database) (names : List String) (name : String) :
    (∀ registry : Registry, registry.LookupsAgree none) ∧
      ((ofNames database names).LookupsAgree (some name) ↔
        ((ofNames database names).contains (some name) = true →
          ∃ last, lastNamed names (lower name) = some last ∧
            (ofNames database names).contains (some (capitalize last)) = true ∧
            ∃ again, lastNamed names (lower (capitalize last)) = some again ∧
              capitalize again = capitalize last)) ∧
      ((ofDatabase database).LookupsAgree (some name) ↔
        ((ofDatabase database).contains (some name) = true →
          ∃ listed ∈ database.typeNames, lower listed = lower name)) ∧
      ((∀ listed ∈ names, StartsPlain listed) → StartsPlain name →
        (ofNames database names).LookupsAgree (some name)) := by
  refine ⟨lookupsAgree_none, ?_, ?_, lookupsAgree_of_plain database⟩
  · rw [lookupsAgree_some]
    refine imp_congr_right fun _ => ?_
    simp only [get?_ofNames_eq_some, Settles]
    constructor
    · rintro ⟨_, ⟨last, found, rfl⟩, settles⟩
      exact ⟨last, found, settles⟩
    · rintro ⟨last, found, settles⟩
      exact ⟨capitalize last, ⟨last, found, rfl⟩, settles⟩
  · rw [lookupsAgree_some]
    refine imp_congr_right fun _ => ?_
    constructor
    · rintro ⟨form, filed, _⟩
      exact contains_types_ofNames.mp (Table.contains_of_get? filed)
    · intro listed
      obtain ⟨form, filed⟩ :=
        (Table.contains_iff_exists _ _).mp (contains_types_ofNames.mpr listed)
      have inside := (Table.mem_values_iff _ _).mpr ⟨_, filed⟩
      exact ⟨form, filed, settles_ofDatabase database inside⟩

/-- A ligature that capitalizes to the letters of a type stands for it and has no canonical form. -/
theorem not_lookupsAgree_ligature :
    ¬ (∀ (database : Database) (name : Option String),
        (ofDatabase database).LookupsAgree name) ∧
      (ofDatabase .sql).contains (some "ﬂoat") = true ∧
      (ofDatabase .sql).canonical (some "ﬂoat") = .error (.unregistered "ﬂoat") := by
  have stands : (ofDatabase .sql).contains (some "ﬂoat") = true := by decide +kernel
  have sameCase : lower "ﬂoat" = "ﬂoat" := by decide +kernel
  have unfiled : (ofDatabase .sql).types.get? (lower "ﬂoat") = none := by decide +kernel
  have missed := canonical_of_unfiled stands unfiled
  rw [sameCase] at missed
  refine ⟨fun always => ?_, stands, missed⟩
  obtain ⟨form, found⟩ := (always .sql (some "ﬂoat")).returns_iff.mpr stands
  cases missed.symm.trans found

end Registry

end ClassDiagram
