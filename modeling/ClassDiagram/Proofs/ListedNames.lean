import ClassDiagram.Proofs.FailFast
import ClassDiagram.Proofs.Positions
import ClassDiagram.Proofs.Registries

/-!
# Listed names as types

A registry made of a list of names knows every one of them, so an element can
declare a type of that name.  The type takes the form of the last name in the
list that differs in case alone, and this form has to start with an uppercase
character.
-/

namespace ClassDiagram

open Step (bind_eq_ok bind_of_ok)
open Text (capitalize isCapitalized lower)
open Xml (Node)

/-! ## Elements that declare a type -/

def uncapitalized (form : String) : Fault :=
  .invalidEntity .scalarType [⟨"name", none, .notCapitalized form⟩]

namespace Typing

variable {registry : Registry} {node : Node} {form : String}

/-- An element whose name has an uncapitalized canonical form declares nothing. -/
theorem declare_of_uncapitalized (known : registry.canonical (node.plain? "name") = .ok form)
    (small : isCapitalized form = false) (p : Progress) :
    declare registry node p = .error (uncapitalized form) p := by
  unfold declare
  rw [bind_of_ok (canonicalName_eq_ok.mpr ⟨known, rfl⟩), ScalarType.ofDraft_eq, small]
  rfl

/-- An element with an identifier of its own declares a type under it. -/
theorem declares_of_identified {id : String} (identified : id? node = some id) (filled : id ≠ "")
    (known : registry.canonical (node.plain? "name") = .ok form)
    (capital : isCapitalized form = true) : Declares registry node ⟨id, form⟩ where
  known := known
  capitalized := capital
  id_eq := by simp [declaredId, identified, Option.filter, filled]

end Typing

/-! ## Models that declare one type -/

/-- The only packaged element of a model declares a scalar type, with an identifier and a name. -/
structure Declaring (model : Node) (id name : String) : Prop where
  whole : ¬ HasBrokenName model
  only : ∃ node, childrenNamed model "packagedElement" = [node] ∧
    kind? node = some .scalarType ∧ id? node = some id ∧ node.plain? "name" = some name
  filled : id ≠ ""

namespace Ingestion

variable {ingestion : Ingestion} {database : Database} {names : List String}
  {id name form : String}

/-- The stage of types, called first, adds one type and nothing else. -/
def DeclaresAs (ingestion : Ingestion) (id form : String) : Prop :=
  (ingestion.fillTypes.outcome .initial).1 = .ok 1 ∧
    (ingestion.fillTypes.outcome .initial).2.store =
      { Store.empty with types := Table.empty.insert id ⟨id, form⟩ }

/-- The stage of types, called first, adds nothing, for a form that is not capitalized. -/
def RejectsForm (ingestion : Ingestion) (form : String) : Prop :=
  (ingestion.fillTypes.outcome .initial).1 = .error (uncapitalized form) ∧
    (ingestion.fillTypes.outcome .initial).2.store = .empty

/-- Where a model declares one type, the stage of types reads its element and nothing else. -/
theorem fillTypes_of_declaring (declaring : Declaring ingestion.model id name) :
    ∃ node index journal, id? node = some id ∧ node.plain? "name" = some name ∧
      ingestion.fillTypes .initial = ingestion.runStage .types (do
        Typing.declareAll ingestion.registry [node]
        return 1) { Progress.initial with index := some index, journal } := by
  obtain ⟨node, only, kind, identified, named⟩ := declaring.only
  have known : ∀ other ∈ childrenNamed ingestion.model "packagedElement", kind? other ≠ none := by
    simp [only, kind]
  obtain ⟨index, made⟩ := Index.exists_ofModel_iff.mpr ⟨declaring.whole, fun _ => known⟩
  have elements : index.elementsOf .scalarType = [node] := by
    rw [Index.elementsOf_of_ofModel made]
    simp [elementsOfKind, only, kind]
  obtain ⟨journal, called⟩ := fillTypes_of_ofModel (p := .initial) made rfl
  rw [index.length_positions, elements] at called
  exact ⟨node, index, journal, identified, named, called⟩

theorem declaresAs_of_canonical (declaring : Declaring ingestion.model id name)
    (known : ingestion.registry.canonical (some name) = .ok form)
    (capital : isCapitalized form = true) : ingestion.DeclaresAs id form := by
  obtain ⟨node, index, journal, identified, named, called⟩ := fillTypes_of_declaring declaring
  rw [← named] at known
  have declares := Typing.declares_of_identified identified declaring.filled known capital
  have added : Store.addType ⟨id, form⟩ .empty =
      .ok () { Store.empty with types := Table.empty.insert id ⟨id, form⟩ } :=
    Store.addType_eq_ok.mpr ⟨Store.isOpen_empty, rfl⟩
  obtain ⟨r, declared, left⟩ : ∃ r, Typing.declare ingestion.registry node
      { Progress.initial with index := some index, journal } = .ok () r ∧
        r.store = { Store.empty with types := Table.empty.insert id ⟨id, form⟩ } := by
    rw [declares.declare_apply]
    exact ⟨_, Step.change_tell_eq_ok.mpr ⟨_, added, rfl⟩, rfl⟩
  have worked : (do
      Typing.declareAll ingestion.registry [node]
      return 1 : Step Nat) { Progress.initial with index := some index, journal } = .ok 1 r :=
    bind_eq_ok.mpr ⟨(), r, bind_eq_ok.mpr ⟨(), r, declared, rfl⟩, rfl⟩
  unfold DeclaresAs
  rw [Step.outcome_eq_ok.mpr (called.trans (ingestion.runStage_eq_ok.mpr ⟨r, worked, rfl⟩))]
  exact ⟨rfl, left⟩

theorem rejectsForm_of_canonical (declaring : Declaring ingestion.model id name)
    (known : ingestion.registry.canonical (some name) = .ok form)
    (small : isCapitalized form = false) : ingestion.RejectsForm form := by
  obtain ⟨node, index, journal, _, named, called⟩ := fillTypes_of_declaring declaring
  rw [← named] at known
  have stops := Step.bind_of_error (Typing.declare_of_uncapitalized known small
    { Progress.initial with index := some index, journal })
    fun _ => Typing.declareAll ingestion.registry []
  obtain ⟨r, stopped, left⟩ := ingestion.runStage_of_work_error .types stops 1
  unfold RejectsForm
  rw [Step.outcome_eq_error.mpr (called.trans stopped)]
  exact ⟨rfl, left⟩

/-! ## Listed names -/

/--
Every listed name is usable as a type: an element of that name declares a type
whose form is the last name in the list that differs in case alone, capitalized.
-/
def ListedNamesUsable : Prop :=
  ∀ (ingestion : Ingestion) (database : Database) (names : List String) (id name : String),
    ingestion.registry = .ofNames database names → Declaring ingestion.model id name →
      name ∈ names → name ≠ "" →
        ∃ last, Registry.lastNamed names (lower name) = some last ∧
          ingestion.DeclaresAs id (capitalize last)

/--
Where a name is listed that has the lower case of a listed name's capitalized
form, the listed name is usable as a type if and only if the last name that
differs from it in case alone is capitalized to a form that starts with an
uppercase character.  It is rejected for this form otherwise.
-/
theorem fillTypes_listed (registered : ingestion.registry = .ofNames database names)
    (declaring : Declaring ingestion.model id name) (listed : name ∈ names) (filled : name ≠ "")
    (stands : ∃ other ∈ names, lower other = lower (capitalize name)) :
    ∃ last, Registry.lastNamed names (lower name) = some last ∧
      if isCapitalized (capitalize last) then ingestion.DeclaresAs id (capitalize last)
      else ingestion.RejectsForm (capitalize last) := by
  obtain ⟨last, found⟩ := Registry.lastNamed_of_mem listed rfl
  have known : ingestion.registry.canonical (some name) = .ok (capitalize last) := by
    rw [registered, Registry.canonical_eq_ok, Registry.contains_iff]
    exact ⟨⟨filled, Registry.contains_types_ofNames.mpr stands⟩,
      Registry.get?_ofNames_eq_some.mpr ⟨last, found, rfl⟩⟩
  refine ⟨last, found, ?_⟩
  split
  · rename_i capital
    exact declaresAs_of_canonical declaring known capital
  · rename_i small
    exact rejectsForm_of_canonical declaring known (Bool.eq_false_iff.mpr small)

def declaringOne (names : List String) (name : String) : Ingestion where
  model := umlElement "Model" [] [] [
    umlElement "packagedElement" [("type", "uml:PrimitiveType"), ("id", "t")] [("name", name)] []]
  database := .sql
  registry := .ofNames .sql names
  strict := true
  document := "types.xmi"

theorem declaring_declaringOne (names : List String) (name : String) :
    Declaring (declaringOne names name).model "t" name where
  whole := (uncut_select_iff _ "packagedElement").mp rfl
  only := ⟨_, rfl, rfl, rfl, rfl⟩
  filled := by decide

/-- Of two listed names that differ in case alone the last one gives the type its form. -/
theorem fillTypes_listed_twice :
    Declaring (declaringOne ["point", "POINT"] "point").model "t" "point" ∧
      (∃ other ∈ ["point", "POINT"], lower other = lower (capitalize "point")) ∧
      (declaringOne ["point", "POINT"] "point").DeclaresAs "t" "POINT" := by
  have declaring := declaring_declaringOne ["point", "POINT"] "point"
  have stands : ∃ other ∈ ["point", "POINT"], lower other = lower (capitalize "point") :=
    ⟨"point", List.mem_cons_self, by decide +kernel⟩
  have registered : (declaringOne ["point", "POINT"] "point").registry =
      .ofNames .sql ["point", "POINT"] := rfl
  obtain ⟨last, found, usable⟩ := fillTypes_listed registered declaring List.mem_cons_self
    (by decide) stands
  have form : last = "POINT" := by
    have expected : Registry.lastNamed ["point", "POINT"] (lower "point") = some "POINT" := by
      decide +kernel
    exact Option.some.inj (found.symm.trans expected)
  subst form
  have capital : isCapitalized (capitalize "POINT") = true := by decide +kernel
  have same : capitalize "POINT" = "POINT" := by decide +kernel
  rw [if_pos capital, same] at usable
  exact ⟨declaring, stands, usable⟩

/--
A listed name is refused where none has the lower case of its capitalized form,
as for one that opens with a ligature of two letters.
-/
theorem fillTypes_listed_ligature :
    Declaring (declaringOne ["\ufb02oat"] "\ufb02oat").model "t" "\ufb02oat" ∧
      (¬ ∃ other ∈ ["\ufb02oat"], lower other = lower (capitalize "\ufb02oat")) ∧
      ((declaringOne ["\ufb02oat"] "\ufb02oat").fillTypes.outcome .initial).1 =
        .error (.ingest (.wrongType (.text "\ufb02oat") .absent .absent)) :=
  ⟨declaring_declaringOne _ _, by decide +kernel, by decide +kernel⟩

/-- A listed name that starts with a digit is rejected. -/
theorem not_listedNamesUsable_digit :
    ¬ ListedNamesUsable ∧ (declaringOne ["3DPoint"] "3DPoint").RejectsForm "3DPoint" := by
  have declaring := declaring_declaringOne ["3DPoint"] "3DPoint"
  have known : (declaringOne ["3DPoint"] "3DPoint").registry.canonical (some "3DPoint") =
      .ok "3DPoint" := by decide +kernel
  have rejects := rejectsForm_of_canonical declaring known (by decide +kernel)
  refine ⟨fun usable => ?_, rejects⟩
  obtain ⟨last, _, given, _⟩ := usable _ .sql ["3DPoint"] "t" "3DPoint" rfl declaring
    List.mem_cons_self (by decide)
  cases given.symm.trans rejects.1

end Ingestion

end ClassDiagram
