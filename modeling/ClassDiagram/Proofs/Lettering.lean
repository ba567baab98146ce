import ClassDiagram.Proofs.Casing
import ClassDiagram.Proofs.Linking
import ClassDiagram.Proofs.Moving
import ClassDiagram.Proofs.Recasting

/-!
# The case of type names

Scalar types are looked up without regard to the case of letters, and stored
under their canonical names.  So models that write the names of types in other
letters give the same store: the names of type elements, and the names by
which fields refer to types of a library.
-/

namespace ClassDiagram

open Step (Agree Alike Shares lift_bind_eq_ok)
open Text (SameLetter SameLetters)
open Xml (Name Node)

/-! ## Names and references in other letters -/

/-- A registry tells names apart by their letters alone. -/
theorem Registry.contains_of_sameLetters (registry : Registry) {name other : Option String}
    (same : Option.Rel SameLetters name other) :
    registry.contains name = registry.contains other := by
  cases same with
  | none => rfl
  | some same =>
      unfold contains
      dsimp only
      rw [same.isEmpty_eq, Text.lower_of_sameLetters same.capitalize]

theorem Registry.canonical_of_sameLetters {registry : Registry} {name other : Option String}
    (same : Option.Rel SameLetters name other) {canonical : String}
    (known : registry.canonical name = .ok canonical) :
    registry.canonical other = .ok canonical := by
  rw [← known]
  have there := contains_of_canonical known
  have thereAlso := (registry.contains_of_sameLetters same).symm.trans there
  cases same with
  | none => rfl
  | some same =>
      unfold Registry.canonical
      dsimp only
      rw [if_pos there, if_pos thereAlso, Text.lower_of_sameLetters same]

/-- References that differ in the case of ASCII letters after the last number sign alone. -/
def SameFragment (left right : String) : Prop :=
  ∃ library fragment other, left.toList = library ++ '#' :: fragment ∧
    right.toList = library ++ '#' :: other ∧ '#' ∉ fragment ∧
      List.Forall₂ SameLetter fragment other

theorem afterLastMark?_append {library fragment : List Char} (unmarked : '#' ∉ fragment) :
    afterLastMark? (library ++ '#' :: fragment) = some fragment := by
  unfold afterLastMark?
  rw [if_pos (by simp), List.reverse_append, List.reverse_cons, List.append_assoc]
  have kept : ∀ c ∈ fragment.reverse, decide (c ≠ '#') = true := by
    intro c inside
    exact decide_eq_true fun mark => unmarked (mark ▸ List.mem_reverse.mp inside)
  rw [List.takeWhile_append_of_pos kept]
  simp

/-- The fragments of such references are related as wholes. -/
theorem SameFragment.afterLastMark?_rel {left right : String} (same : SameFragment left right) :
    Option.Rel (List.Forall₂ SameLetter) (afterLastMark? left.toList)
      (afterLastMark? right.toList) := by
  obtain ⟨library, fragment, other, shape, shapeAlso, unmarked, same⟩ := same
  have unmarkedAlso : '#' ∉ other := by
    intro inside
    obtain ⟨c, there, letter⟩ := exists_left_of_forall₂ same '#' inside
    exact unmarked ((letter.eq_sign_iff (Or.inl rfl)).mpr rfl ▸ there)
  rw [shape, shapeAlso, afterLastMark?_append unmarked, afterLastMark?_append unmarkedAlso]
  exact .some same

theorem dropWhile_slash_rel {fragment other : List Char}
    (same : List.Forall₂ SameLetter fragment other) :
    List.Forall₂ SameLetter (fragment.dropWhile (· = '/')) (other.dropWhile (· = '/')) := by
  induction same with
  | nil => exact .nil
  | @cons c d _ _ here there ih =>
      have sign := here.eq_sign_iff (Or.inr rfl)
      by_cases slash : c = '/'
      · rw [List.dropWhile_cons_of_pos (by simpa using slash),
          List.dropWhile_cons_of_pos (by simpa using sign.mp slash)]
        exact ih
      · rw [List.dropWhile_cons_of_neg (by simpa using slash),
          List.dropWhile_cons_of_neg (by simpa using mt sign.mpr slash)]
        exact .cons here there

theorem libraryType_rel {fragment other : List Char}
    (same : List.Forall₂ SameLetter fragment other) :
    Option.Rel SameLetters (libraryType fragment) (libraryType other) := by
  have stripped := dropWhile_slash_rel same
  unfold libraryType
  generalize fragment.dropWhile (· = '/') = chars at stripped
  generalize other.dropWhile (· = '/') = others at stripped
  cases stripped with
  | nil => exact .none
  | cons here rest =>
      refine .some ?_
      unfold Text.SameLetters
      rw [String.toList_ofList, String.toList_ofList]
      exact .cons here rest

/-! ## Elements with other values of an attribute -/

structure Revalued (key : String) (like : String → String → Prop) (left right : Node) : Prop where
  name : left.name? = right.name?
  attributes : List.Forall₂ (fun entry other => entry = other ∨
    entry.1 = .ofText key ∧ other.1 = .ofText key ∧ like entry.2 other.2)
      left.attributes right.attributes
  children : left.children = right.children

namespace Revalued

variable {key : String} {like : String → String → Prop} {left right : Node}
  (revalued : Revalued key like left right)
include revalued

theorem filter_eq : left.attributes.filter (·.1 ≠ .ofText key) =
    right.attributes.filter (·.1 ≠ .ofText key) := by
  have related := revalued.attributes
  generalize left.attributes = entries at related
  generalize right.attributes = others at related
  induction related with
  | nil => rfl
  | cons here _ ih =>
      rcases here with rfl | ⟨first, second, _⟩
      · rw [List.filter_cons, List.filter_cons, ih]
      · rw [List.filter_cons_of_neg (by simpa using first),
          List.filter_cons_of_neg (by simpa using second), ih]

theorem xmi?_eq {wanted : Option String} (bare : Xml.isBare key = true)
    (other : "xmi:" ++ Text.plain? wanted ≠ key) : xmi? left wanted = xmi? right wanted := by
  refine xmi?_of_filter revalued.filter_eq ?_ fun same => other (Xml.Name.ofText_injective same)
  rw [Xml.Name.ofText_of_bare bare]
  rfl

theorem plain?_rel : Option.Rel (fun value other => value = other ∨ like value other)
    (left.plain? key) (right.plain? key) := by
  have related := revalued.attributes
  unfold Node.plain? Node.attribute?
  generalize left.attributes = entries at related
  generalize right.attributes = others at related
  induction related with
  | nil => exact .none
  | @cons entry other _ _ here _ ih =>
      obtain ⟨name, value⟩ := entry
      obtain ⟨name', value'⟩ := other
      rw [List.lookup_cons, List.lookup_cons]
      rcases here with same | ⟨rfl, rfl, same⟩
      · cases same
        split
        · exact .some (Or.inl rfl)
        · exact ih
      · rw [beq_self_eq_true]
        exact .some (Or.inr same)

theorem sameHead (bare : Xml.isBare key = true) (other : "xmi:" ++ Text.plain? "type" ≠ key) :
    SameHead left right where
  name := by rw [revalued.name]
  kind := by
    unfold kind? declaredKind?
    rw [revalued.xmi?_eq bare other]

end Revalued

/-! ## Models in other letters -/

/-- A field whose type elements refer to their libraries in other letters. -/
structure ReletteredField (left right : Node) : Prop where
  unlinked : Classes.isEnd left = false
  types : Retouched "type" (Revalued "href" SameFragment) left right

inductive Relettered : Node → Node → Prop where
  | same (node : Node) : Relettered node node
  /-- A type element with its name in other letters. -/
  | type {left right : Node} (fits : isOfKind .scalarType left = true)
      (renamed : Revalued "name" SameLetters left right) : Relettered left right
  /-- A class element whose fields name types in other letters. -/
  | «class» {left right : Node} (fits : isOfKind .objectClass left = true)
      (fields : Retouched "ownedAttribute" ReletteredField left right) : Relettered left right
  /-- An element of no kind, in which nothing is read, whatever type elements it holds. -/
  | unread {left right : Node} (other : ∀ kind, isOfKind kind left = false)
      (head : SameHead left right) : Relettered left right

theorem Relettered.sameHead {left right : Node} (relettered : Relettered left right) :
    SameHead left right := by
  cases relettered with
  | same => exact .refl left
  | type _ renamed => exact renamed.sameHead (by decide) (by decide)
  | «class» _ fields => exact fields.sameHead
  | unread _ head => exact head

def ReletteredModel (left right : Node) : Prop :=
  List.Forall₂ Relettered left.children right.children

theorem option_rel_refl {α : Type} {like : α → α → Prop} (refl : ∀ value, like value value)
    (found : Option α) : Option.Rel like found found := by
  cases found with
  | none => exact .none
  | some value => exact .some (refl value)

theorem firstOf_rel {like : Node → Node → Prop} {selection again : Node.Selection}
    (cut : selection.cut = again.cut) (found : List.Forall₂ like selection.found again.found)
    {first : Option Node} (done : firstOf selection = .ok first) :
    ∃ other, firstOf again = .ok other ∧ Option.Rel like first other := by
  obtain ⟨nodes, whole⟩ := selection
  obtain ⟨others, wholeAlso⟩ := again
  cases cut
  cases found with
  | nil =>
      cases whole <;> cases done
      exact ⟨none, rfl, .none⟩
  | cons here _ =>
      cases done
      exact ⟨_, rfl, .some here⟩

theorem libraryReference?_rel {type other : Option Node} (related : Option.Rel (fun left right =>
      left = right ∨ Revalued "href" SameFragment left right) type other) :
    Option.Rel (List.Forall₂ SameLetter) (type.bind libraryReference?)
      (other.bind libraryReference?) := by
  have stays (chars : List Char) : List.Forall₂ SameLetter chars chars :=
    List.forall₂_same.mpr fun c _ => .refl c
  cases related with
  | none => exact .none
  | some related =>
      rcases related with rfl | revalued
      · exact option_rel_refl stays _
      · change Option.Rel _ (libraryReference? _) (libraryReference? _)
        have values := revalued.plain?_rel
        unfold libraryReference?
        generalize Node.plain? _ "href" = value at values
        generalize Node.plain? _ "href" = value' at values
        cases values with
        | none => exact option_rel_refl stays _
        | some same =>
            rcases same with rfl | same
            · exact option_rel_refl stays _
            · exact same.afterLastMark?_rel

namespace ReletteredField

variable {left right : Node} (relettered : ReletteredField left right)
include relettered

theorem isEnd_eq : Classes.isEnd right = false := by
  unfold Classes.isEnd
  rw [← plain?_congr relettered.types.attributes]
  exact relettered.unlinked

theorem documentation_eq : documentation left = documentation right :=
  documentation_congr (relettered.types.select_eq (by decide))

theorem referred?_eq (store : Store) (enumerations : List (Option String)) :
    Typing.referred? store enumerations left = Typing.referred? store enumerations right := by
  unfold Typing.referred?
  rw [plain?_congr relettered.types.attributes]

/-- The name of a type that is written on the field is the same but for its letters. -/
theorem inlineType_rel {name : Option String} (inline : inlineType left = .ok name) :
    ∃ other, inlineType right = .ok other ∧ Option.Rel SameLetters name other := by
  obtain ⟨cut, found⟩ := relettered.types.select_touched
  rw [inlineType_eq] at inline ⊢
  cases read : firstOf (left.select "type") with
  | error fault =>
      rw [read] at inline
      cases inline
  | ok first =>
      rw [read] at inline
      cases inline
      obtain ⟨other, readAlso, related⟩ := firstOf_rel cut found read
      refine ⟨_, congrArg (Except.map _) readAlso, ?_⟩
      dsimp only
      rw [← plain?_congr relettered.types.attributes]
      have references := libraryReference?_rel related
      generalize first.bind libraryReference? = fragment at references
      generalize other.bind libraryReference? = fragment' at references
      cases references with
      | none => exact option_rel_refl SameLetters.refl _
      | some same => exact libraryType_rel same

end ReletteredField

/-! ## Reading types and fields -/

section

open Step (Follows)

variable {rel : Progress → Progress → Prop} (shares : Shares rel) {registry : Registry}
  {enumerations : List (Option String)} {left right : Node}
include shares

namespace Typing

theorem declare_follows (renamed : Revalued "name" SameLetters left right) :
    Follows rel (declare registry left) (declare registry right) := by
  have names : Option.Rel SameLetters (left.plain? "name") (right.plain? "name") := by
    have values := renamed.plain?_rel
    generalize left.plain? "name" = value at values
    generalize right.plain? "name" = value' at values
    cases values with
    | none => exact .none
    | some same =>
        rcases same with rfl | same
        · exact .some (.refl _)
        · exact .some same
  have named : Follows rel (canonicalName registry (left.plain? "name"))
      (canonicalName registry (right.plain? "name")) := by
    intro p q start canonical p' done
    obtain ⟨known, rfl⟩ := canonicalName_eq_ok.mp done
    exact ⟨q, canonicalName_eq_ok.mpr ⟨Registry.canonical_of_sameLetters names known, rfl⟩, start⟩
  refine named.bind fun canonical => ?_
  have same : declaredId left canonical = declaredId right canonical := by
    unfold declaredId id?
    rw [renamed.xmi?_eq (by decide) (by decide)]
  rw [same]
  exact (Agree.bind (.lift shares _) fun _ =>
    .bind (.change shares _) fun _ => .tell shares _).follows

theorem declareAll_follows {nodes others : List Node} (related : List.Forall₂ (fun left right =>
      left = right ∨ Revalued "name" SameLetters left right) nodes others) :
    Follows rel (declareAll registry nodes) (declareAll registry others) := by
  rw [declareAll_eq_each, declareAll_eq_each]
  refine .each₂ (related.imp fun left right here => ?_)
  rcases here with rfl | renamed
  · exact (declare_agree shares registry left).follows
  · exact declare_follows shares renamed

theorem resolve_follows (relettered : ReletteredField left right) (owner : String) :
    Follows rel (resolve registry enumerations owner left)
      (resolve registry enumerations owner right) := by
  intro p q start typeId p' done
  unfold resolve at done ⊢
  rw [Step.store_bind_apply] at done ⊢
  rw [← shares.same start, ← relettered.referred?_eq]
  cases referred : referred? p.store enumerations left with
  | some reference =>
      rw [referred] at done
      cases done
      exact ⟨q, rfl, start⟩
  | none =>
      rw [referred] at done
      obtain ⟨name, inline, rest⟩ := lift_bind_eq_ok.mp done
      obtain ⟨other, inlineAlso, same⟩ := relettered.inlineType_rel inline
      split at rest
      · rename_i there
        obtain ⟨canonical, known, rest⟩ := lift_bind_eq_ok.mp rest
        have inferred : Agree rel (infer canonical (id? left) >>= fun _ => pure canonical)
            (infer canonical (id? right) >>= fun _ => pure canonical) := by
          unfold id?
          rw [xmi?_congr relettered.types.attributes]
          exact .bind (infer_agree shares canonical _) fun _ => .pure canonical
        obtain ⟨q', again, ended⟩ := inferred.ok start rest
        refine ⟨q', lift_bind_eq_ok.mpr ⟨other, inlineAlso, ?_⟩, ended⟩
        rw [if_pos ((registry.contains_of_sameLetters same).symm.trans there)]
        exact lift_bind_eq_ok.mpr ⟨canonical, Registry.canonical_of_sameLetters same known, again⟩
      · cases rest

end Typing

namespace Classes

theorem addField_follows (relettered : ReletteredField left right) (owner : String) :
    Follows rel (addField registry enumerations owner left)
      (addField registry enumerations owner right) := by
  have titled : requireTitle "field" left = requireTitle "field" right := by
    unfold requireTitle id?
    rw [title?_congr relettered.types.attributes, xmi?_congr relettered.types.attributes]
  unfold addField id?
  rw [titled, relettered.documentation_eq, xmi?_congr relettered.types.attributes]
  refine (requireTitle_agree shares _ right).follows.bind fun name => ?_
  refine (Typing.resolve_follows shares relettered owner).bind fun typeId => ?_
  exact (Agree.bind (.lift shares _) fun _ => .bind (.lift shares _) fun _ =>
    .bind (.change shares _) fun _ => .tell shares _).follows

theorem addAttribute_follows (relettered : ReletteredField left right) (owner : String) :
    Follows rel (addAttribute registry enumerations owner left)
      (addAttribute registry enumerations owner right) := by
  unfold addAttribute
  rw [relettered.unlinked, relettered.isEnd_eq]
  exact addField_follows shares relettered owner

theorem add_follows (kept : ∀ node, Step.KeepsEnd rel node)
    (fields : Retouched "ownedAttribute" ReletteredField left right) :
    Follows rel (add registry enumerations left) (add registry enumerations right) := by
  have headed : addClass left = addClass right :=
    addClass_congr (xmi?_congr fields.attributes "id") (title?_congr fields.attributes)
      (documentation_congr (fields.select_eq (by decide)))
  obtain ⟨cut, found⟩ := fields.select_touched
  unfold add
  rw [headed]
  refine (addClass_agree shares right).follows.bind fun owner => Follows.repairing ?_
  unfold addMembers
  rw [addAttributes_eq_each, addAttributes_eq_each, cut]
  refine Follows.bind (.each₂ (found.imp fun child other related => ?_)) fun _ =>
    (Agree.ite (.throw shares _) (.pure ())).follows
  rcases related with rfl | relettered
  · exact (addAttribute_agree shares registry enumerations owner (kept child)).follows
  · exact addAttribute_follows shares relettered owner

theorem addAll_follows (kept : ∀ node, Step.KeepsEnd rel node) {nodes others : List Node}
    (related : List.Forall₂ (fun left right => left = right ∨
      Retouched "ownedAttribute" ReletteredField left right) nodes others) :
    Follows rel (addAll registry enumerations nodes) (addAll registry enumerations others) := by
  rw [addAll_eq_each, addAll_eq_each]
  refine .each₂ (related.imp fun left right here => ?_)
  rcases here with rfl | fields
  · exact (add_agree shares registry enumerations fun child _ => kept child).follows
  · exact add_follows shares kept fields

end Classes

end

/-! ## Runs that follow others -/

namespace ReletteredModel

variable {left right : Node} (relettered : ReletteredModel left right)
include relettered

theorem heads : List.Forall₂ SameHead left.children right.children :=
  relettered.imp fun _ _ related => related.sameHead

theorem elements (kind : ElementKind) : List.Forall₂ (fun child other =>
    isOfKind kind child = true ∧ Relettered child other)
    (elementsOfKind left kind) (elementsOfKind right kind) :=
  elementsOfKind_rel Relettered.sameHead relettered kind

theorem types : List.Forall₂ (fun child other => child = other ∨
    Revalued "name" SameLetters child other)
    (elementsOfKind left .scalarType) (elementsOfKind right .scalarType) :=
  (relettered.elements .scalarType).imp fun _ _ ⟨fits, related⟩ => by
    cases related with
    | same => exact Or.inl rfl
    | type _ renamed => exact Or.inr renamed
    | «class» other _ => cases (isOfKind_eq_false other .scalarType nofun).symm.trans fits
    | unread other _ => cases (other .scalarType).symm.trans fits

theorem classes : List.Forall₂ (fun child other => child = other ∨
    Retouched "ownedAttribute" ReletteredField child other)
    (elementsOfKind left .objectClass) (elementsOfKind right .objectClass) :=
  (relettered.elements .objectClass).imp fun _ _ ⟨fits, related⟩ => by
    cases related with
    | same => exact Or.inl rfl
    | type other _ => cases (isOfKind_eq_false other .objectClass nofun).symm.trans fits
    | «class» _ fields => exact Or.inr fields
    | unread other _ => cases (other .objectClass).symm.trans fits

/-- Elements of other kinds are the same. -/
theorem elements_other {kind : ElementKind} (noType : .scalarType ≠ kind)
    (noClass : .objectClass ≠ kind) : elementsOfKind right kind = elementsOfKind left kind := by
  refine elementsOfKind_of_stays Relettered.sameHead relettered fun {child _} fits related => ?_
  cases related with
  | same => rfl
  | type other _ => cases (isOfKind_eq_false other kind noType).symm.trans fits
  | «class» other _ => cases (isOfKind_eq_false other kind noClass).symm.trans fits
  | unread other _ => cases (other kind).symm.trans fits

end ReletteredModel

namespace Ingestion

/--
A run that succeeds gives the same store where the names of types are written
in other letters.
-/
theorem run_relettered (ingestion : Ingestion) (model : Node)
    (relettered : ReletteredModel ingestion.model model) {store : Store}
    (done : (ingestion.run.outcome .initial).1 = .ok store) :
    ((ingestion.withModel model).run.outcome .initial).1 = .ok store := by
  obtain ⟨q, rfl, _, ⟨course⟩⟩ := course_of_first_run done
  obtain ⟨other, made⟩ := Index.ofModel_of_heads relettered.heads course.made
  have sameElements (kind : ElementKind) (noType : .scalarType ≠ kind)
      (noClass : .objectClass ≠ kind) :
      other.elementsOf kind = course.index.elementsOf kind :=
    Index.elementsOf_congr course.made made (relettered.elements_other noType noClass)
  have awaited := Index.enumerationIds_congr (sameElements .enumeration nofun nofun)
  refine course.first_run_of_follows made ?_ ?_ ?_ ?_
  · rw [Index.elementsOf_of_ofModel course.made, Index.elementsOf_of_ofModel made]
    exact Typing.declareAll_follows (Step.shares_alike _ _) relettered.types
  · rw [awaited, Index.elementsOf_of_ofModel course.made, Index.elementsOf_of_ofModel made]
    exact Classes.addAll_follows (Step.shares_alike _ _) (Step.keepsEnd_alike _ _)
      relettered.classes
  · rw [sameElements .association nofun nofun]
    exact (Associations.link_agree (Step.shares_alike _ _) Alike.ends _).follows
  · rw [sameElements .enumeration nofun nofun]
    exact (Enumerations.addAll_agree (Step.shares_alike _ _) _).follows

def lendingModel (declared library : String) : Node :=
  umlElement "Model" [] [] [
    umlElement "packagedElement" [("type", "uml:PrimitiveType"), ("id", "t")]
      [("name", declared)] [],
    umlElement "packagedElement" [("type", "uml:Class"), ("id", "c")] [("name", "Loan")] [
      umlElement "ownedAttribute" [("id", "f1")] [("name", "title"), ("type", "t")] [],
      umlElement "ownedAttribute" [("id", "f2")] [("name", "days")] [
        umlElement "type" [] [("href", library)] []]]]

def lending : Ingestion where
  model := lendingModel "string" "types#//integer"
  database := .sql
  registry := .ofDatabase .sql
  strict := true
  document := "lending.xmi"

theorem relettered_lendingModel {declared declared' library library' : String}
    (names : SameLetters declared declared') (references : SameFragment library library') :
    ReletteredModel (lendingModel declared library) (lendingModel declared' library') := by
  have types : Retouched "type" (Revalued "href" SameFragment)
      (umlElement "ownedAttribute" [("id", "f2")] [("name", "days")] [
        umlElement "type" [] [("href", library)] []])
      (umlElement "ownedAttribute" [("id", "f2")] [("name", "days")] [
        umlElement "type" [] [("href", library')] []]) :=
    ⟨rfl, rfl, .cons (Or.inr ⟨rfl, rfl, rfl, .cons (Or.inr ⟨rfl, rfl, references⟩) .nil, rfl⟩)
      .nil⟩
  refine .cons (.type rfl ⟨rfl, ?_, rfl⟩) (.cons (.class rfl ⟨rfl, rfl, ?_⟩) .nil)
  · exact .cons (Or.inl rfl) (.cons (Or.inl rfl) (.cons (Or.inr ⟨rfl, rfl, names⟩) .nil))
  · exact .cons (Or.inl rfl) (.cons (Or.inr ⟨rfl, rfl, rfl, types⟩) .nil)

def lendingStore : Store := (lending.run.outcome .initial).2.store

/-- The store of `lending` is the same whichever letters name its types. -/
theorem run_relettered_lending :
    ReletteredModel lending.model (lendingModel "sTRING" "types#//InTeGeR") ∧
      (lending.run.outcome .initial).1 = .ok lendingStore ∧
      ((lending.withModel (lendingModel "sTRING" "types#//InTeGeR")).run.outcome .initial).1 =
        .ok lendingStore := by
  have names : SameLetters "string" "sTRING" := by
    unfold Text.SameLetters
    decide +kernel
  have references : SameFragment "types#//integer" "types#//InTeGeR" :=
    ⟨"types".toList, "//integer".toList, "//InTeGeR".toList, by decide +kernel⟩
  have relettered : ReletteredModel lending.model (lendingModel "sTRING" "types#//InTeGeR") :=
    relettered_lendingModel names references
  have done : (lending.run.outcome .initial).1 = .ok lendingStore :=
    lending.run_outcome_eq_ok (by decide +kernel)
  exact ⟨relettered, done, run_relettered lending _ relettered done⟩

end Ingestion

end ClassDiagram
