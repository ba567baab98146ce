import ClassDiagram.Proofs.Blanks
import ClassDiagram.Proofs.Casing
import ClassDiagram.Proofs.FieldTypes

/-!
# The names of fields

A field has the name of its attribute with the first character in lower case.
Lower-casing that character once is enough, and it brings no white space with
it.  The character stays upper case only where it has no lower case.
-/

namespace ClassDiagram

open Xml (Node)

namespace Text

/-! ## Characters in lower case -/

/-- A character that is its own lower case, and neither upper case nor white space. -/
structure IsSmall (c : Char) : Prop where
  settled : lowerChar c = [c]
  small : isUppercase c = false
  solid : isBlank c = false

instance (c : Char) : Decidable (IsSmall c) :=
  decidable_of_iff (lowerChar c = [c] ∧ isUppercase c = false ∧ isBlank c = false)
    ⟨fun ⟨settled, small, solid⟩ => ⟨settled, small, solid⟩,
      fun ⟨settled, small, solid⟩ => ⟨settled, small, solid⟩⟩

def Band.codes (band : Band) : List Nat :=
  (List.range ((band.last - band.first) / band.step + 1)).map (band.first + band.step * ·)

theorem Band.mem_codes {band : Band} {code : Nat} (holds : band.holds code = true) :
    code ∈ band.codes := by
  simp only [Band.holds, Bool.and_eq_true, decide_eq_true_eq, beq_iff_eq] at holds
  obtain ⟨⟨least, most⟩, whole⟩ := holds
  refine List.mem_map.mpr ⟨(code - band.first) / band.step, ?_, ?_⟩
  · have rounds : (code - band.first) / band.step ≤ (band.last - band.first) / band.step :=
      Nat.div_le_div_right (Nat.sub_le_sub_right most _)
    exact List.mem_range.mpr (Nat.lt_succ_of_le rounds)
  · rw [Nat.mul_div_cancel' (Nat.dvd_of_mod_eq_zero whole), Nat.add_sub_cancel' least]

/-- What a shift to lower case sends a code point to. -/
theorem isSmall_image {shift : Shift}
    (listed : shift ∈ CaseTable.lowerShifts.toList.map Prod.snd) {code : Nat}
    (holds : shift.band.holds code = true) : IsSmall (shift.image code) := by
  have checked : ∀ shift ∈ CaseTable.lowerShifts.toList.map Prod.snd, ∀ code ∈ shift.band.codes,
      IsSmall (shift.image code) := by decide +kernel
  exact checked shift listed code (Band.mem_codes holds)

/--
The lower case of a character is the character itself, or else it starts with
a small one and holds no white space.
-/
theorem lowerChar_cases (c : Char) : lowerChar c = [c] ∨
    ∃ first more, lowerChar c = first :: more ∧ IsSmall first ∧ ∀ d ∈ more, isBlank d = false := by
  by_cases plain : c.toNat < 128
  · have lowered : lowerChar c = [c.toLower] := if_pos plain
    rw [lowered]
    rcases of_plain (fun c => c.toLower = c ∨ IsSmall c.toLower) (by decide +kernel) plain with
      same | small
    · exact Or.inl (congrArg ([·]) same)
    · exact Or.inr ⟨_, _, rfl, small, fun _ => nofun⟩
  · rw [lowerChar, if_neg plain, mapCase]
    split
    · -- Only the dotted capital has a lower case of several characters.
      rename_i code codes expanded
      obtain ⟨found, _⟩ := Option.filter_eq_some_iff.mp expanded
      have listed := Chart.mem_of_find? found
      rw [CaseTable.lowerExpansions, Chart.toList_ofList, List.map_map] at listed
      cases List.mem_singleton.mp listed
      refine Or.inr ⟨_, _, rfl, by decide +kernel, fun d inside => ?_⟩
      cases List.mem_singleton.mp inside
      rfl
    · split
      · rename_i shift shifted
        obtain ⟨found, holds⟩ := Option.filter_eq_some_iff.mp shifted
        have small := isSmall_image (Chart.mem_of_find? found) holds
        exact Or.inr ⟨_, _, rfl, small, fun _ => nofun⟩
      · exact Or.inl rfl

/-! ## Names in lower case -/

/--
A name that has come from a written one: it is not empty, has no white space
around it, and stays as it is when its first character is lower-cased again.
It starts with an uppercase character only if the written name does and that
character has no other lower case than itself.
-/
structure Normalizes (written name : String) : Prop where
  filled : name ≠ ""
  bare : strip name = name
  settled : decapitalize name = name
  lowered : isCapitalized name = true →
    name = written ∧ ∀ c ∈ written.toList.head?, lowerChar c = [c]

theorem IsBare.replaceFirst {c : Char} {rest more : List Char} (bare : IsBare (c :: rest))
    {first : Char} (begins : isBlank first = false) (solid : ∀ d ∈ more, isBlank d = false) :
    IsBare (first :: more ++ rest) := by
  refine ⟨fun d isFirst => ?_, fun d isLast => ?_⟩
  · cases isFirst
    exact begins
  · cases ending : rest.getLast? with
    | none =>
        rw [List.getLast?_append, ending, Option.none_or] at isLast
        rcases List.mem_cons.mp (List.mem_of_getLast? isLast) with rfl | inside
        · exact begins
        · exact solid d inside
    | some last =>
        rw [List.getLast?_append, ending, Option.some_or] at isLast
        cases isLast
        apply bare.ends
        rw [List.getLast?_cons, ending]
        rfl

/-- Lower-casing the first character normalizes a name that has no white space around it. -/
theorem normalizes_decapitalize {written : String} (filled : written ≠ "")
    (bare : IsBare written.toList) : Normalizes written (decapitalize written) := by
  cases chars : written.toList with
  | nil => exact absurd (String.toList_eq_nil_iff.mp chars) filled
  | cons c rest =>
      rcases lowerChar_cases c with stays | ⟨first, more, lowered, small, solid⟩
      · have same : decapitalize written = written := by
          rw [← String.toList_inj, decapitalize, chars]
          simp [stays]
        rw [same]
        refine ⟨filled, strip_of_bare bare, same, fun _ => ⟨rfl, fun d isFirst => ?_⟩⟩
        rw [chars] at isFirst
        cases isFirst
        exact stays
      · have shape : (decapitalize written).toList = first :: (more ++ rest) := by
          rw [decapitalize, chars]
          simp [lowered]
        rw [chars] at bare
        refine ⟨decapitalize_ne_empty filled, strip_of_bare ?_, ?_, fun capitalized => ?_⟩
        · rw [shape]
          exact bare.replaceFirst small.solid solid
        · rw [← String.toList_inj, decapitalize, shape]
          simp [small.settled]
        · rw [isCapitalized, shape] at capitalized
          exact absurd capitalized (by simp [small.small])

end Text

/-! ## The fields of a store -/

theorem isBare_title {node : Node} {name : String} (titled : title? node = some name) :
    Text.IsBare name.toList := by
  obtain ⟨text, _, solid⟩ := Option.bind_eq_some_iff.mp titled
  rw [← (solid?_eq_some solid).1]
  exact Text.isBare_strip text

/-- Every field of a store has come from an attribute, and its name from the name of that. -/
def Store.NamesFields (attributes : List Node) (store : Store) : Prop :=
  ∀ field ∈ store.fields.values, ∃ child ∈ attributes, ∃ written,
    title? child = some written ∧ Text.Normalizes written field.name

namespace Classes

variable {registry : Registry} {enumerations : List (Option String)} {p q : Progress}

theorem addField_namesFields {owner : String} {child : Node} {attributes : List Node}
    (done : addField registry enumerations owner child p = .ok () q)
    (start : p.store.NamesFields attributes) : q.store.NamesFields (attributes ++ [child]) := by
  obtain ⟨added, _, _, _, isField, _, _, rfl⟩ := addField_eq_ok done
  obtain ⟨written, titled, lowered⟩ := Option.map_eq_some_iff.mp isField.titled
  intro field inside
  obtain ⟨key, filed⟩ := (Table.mem_values_iff _ _).mp inside
  rcases Table.eq_or_get?_of_insert filed with ⟨_, rfl⟩ | before
  · refine ⟨child, List.mem_append_cons_self, written, titled, ?_⟩
    rw [← lowered]
    exact Text.normalizes_decapitalize (title?_ne_empty titled) (isBare_title titled)
  · obtain ⟨other, listed, named⟩ := start field ((Table.mem_values_iff _ _).mpr ⟨key, before⟩)
    exact ⟨other, List.mem_append_left _ listed, named⟩

theorem addAll_namesFields {nodes : List Node}
    (done : addAll registry enumerations nodes p = .ok () q)
    (bare : p.store.fields = .empty) : q.store.NamesFields (nodes.flatMap fieldsOf) := by
  refine addAll_fields Store.NamesFields done ?_ ?_ ?_
  · intro field inside
    rw [bare] at inside
    cases inside
  · intro fields node id r s headed start
    obtain ⟨_, _, _, _, rfl⟩ := addClass_eq_ok headed
    exact start
  · intro owner fields child rest r s _ added start
    exact addField_namesFields added start

end Classes

namespace Ingestion

/-- Every field in the store of a first run has a normalized name. -/
theorem run_namesFields (ingestion : Ingestion) {store : Store}
    (done : (ingestion.run.outcome .initial).1 = .ok store) :
    store.NamesFields ((elementsOfKind ingestion.model .objectClass).flatMap fieldsOf) := by
  obtain ⟨q, rfl, _, ⟨course⟩⟩ := course_of_first_run done
  obtain ⟨index, typed, classed, linked, listed, made, _, ⟨_, types⟩, ⟨_, classes⟩,
    ⟨_, associations⟩, ⟨_, enumerations⟩, _, frozen⟩ := course
  rw [Index.elementsOf_of_ofModel made] at classes
  obtain ⟨_, _, rfl⟩ := Typing.declareAll_frame types
  have named := Classes.addAll_namesFields classes rfl
  obtain ⟨_, _, rfl⟩ := Associations.link_frame associations
  obtain ⟨_, _, rfl⟩ := Enumerations.addAll_frame enumerations
  rw [frozen]
  exact named

/--
A model whose fields start with a dotted capital, whose lower case is two
characters, with a Greek capital, and with a symbol that has no lower case.
-/
def symbols : Ingestion where
  model := umlElement "Model" [] [] [
    umlElement "packagedElement" [("type", "uml:Class"), ("id", "c")] [("name", "Symbol")] [
      umlElement "ownedAttribute" [("id", "f1")] [("name", "\t\u0130ndex "), ("type", "String")] [],
      umlElement "ownedAttribute" [("id", "f2")] [("name", "\u03A3"), ("type", "String")] [],
      umlElement "ownedAttribute" [("id", "f3")] [("name", "\u2102ode"), ("type", "String")] []]]
  database := .sql
  registry := .ofDatabase .sql
  strict := false
  document := "symbols.xmi"

def symbolsStore : Store := (symbols.run.outcome .initial).2.store

theorem run_namesFields_symbols :
    (symbols.run.outcome .initial).1 = .ok symbolsStore ∧
      symbolsStore.fields.values.map Field.name =
        ["i\u0307ndex", "\u03C3", "\u2102ode"] ∧
      symbolsStore.NamesFields
        ((elementsOfKind symbols.model .objectClass).flatMap fieldsOf) := by
  have done : (symbols.run.outcome .initial).1 = .ok symbolsStore :=
    symbols.run_outcome_eq_ok (by decide +kernel)
  exact ⟨done, by decide +kernel, run_namesFields symbols done⟩

/-- A run that succeeds may give a field that starts with an uppercase character. -/
theorem isCapitalized_symbols :
    (symbols.run.outcome .initial).1 = .ok symbolsStore ∧
      ∃ field ∈ symbolsStore.fields.values, Text.isCapitalized field.name = true := by
  have found : symbolsStore.fields.values.any (Text.isCapitalized ·.name) = true := by
    decide +kernel
  exact ⟨symbols.run_outcome_eq_ok (by decide +kernel), List.any_eq_true.mp found⟩

end Ingestion

end ClassDiagram
