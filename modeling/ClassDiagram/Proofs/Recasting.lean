import ClassDiagram.Proofs.Renaming
import ClassDiagram.Proofs.Replacing

/-!
# Models recast

A model is recast when its elements say the same as before, only that they may
use other identifiers.  Whatever is looked up on a recast element is what is
looked up on the element itself, under other identifiers.
-/

namespace ClassDiagram

open Xml (Name Node)

/-! ## Selections and references -/

def Xml.Node.Selection.map (f : Node → Node) (selection : Node.Selection) : Node.Selection :=
  ⟨selection.found.map f, selection.cut⟩

theorem allOf_map (f : Node → Node) (selection : Node.Selection) :
    allOf (selection.map f) = (allOf selection).map (List.map f) := by
  unfold allOf Node.Selection.map
  cases selection.cut <;> rfl

theorem firstOf_map (f : Node → Node) (selection : Node.Selection) :
    firstOf (selection.map f) = (firstOf selection).map (Option.map f) := by
  obtain ⟨found, cut⟩ := selection
  unfold firstOf Node.Selection.map
  cases found with
  | nil => cases cut <;> rfl
  | cons node rest => rfl

def libraryReference? (type : Node) : Option (List Char) :=
  afterLastMark? ((type.plain? "href").getD "").toList

theorem inlineType_eq (node : Node) :
    inlineType node = (firstOf (node.select "type")).map fun found =>
      (found.bind libraryReference?).elim (node.plain? "type") libraryType := by
  unfold inlineType
  cases firstOf (node.select "type") with
  | error fault => rfl
  | ok found =>
      change _ = Except.ok ((found.bind libraryReference?).elim (node.plain? "type") libraryType)
      cases refers : found.bind libraryReference? with
      | none | some fragment =>
          unfold libraryReference? at refers
          simp only [bind, Except.bind, refers]
          rfl

def IsSide (node : Node) : Prop :=
  node.name?.bind Name.localPart? = some "ownedAttribute" ∨
    node.name?.bind Name.localPart? = some "ownedEnd"

theorem name_of_found {node child : Node} {tag : String}
    (found : child ∈ (node.select tag).found) : child.name?.bind Name.localPart? = some tag := by
  simpa using (List.mem_filter.mp (mem_childrenNamed_of_found found)).2

/-- The plain attributes that hold texts rather than identifiers. -/
def textual : List String := ["name", "body", "href", "value", "association"]

/-! ## Ways to recast -/

section

variable {rename : String ↪ String} (empty : rename "" = "")
include empty

theorem isEmpty_rename (id : String) : (rename id).isEmpty = id.isEmpty := by
  have onto : rename id = "" ↔ id = "" := by
    conv_lhs => rw [← empty]
    exact rename.injective.eq_iff
  rw [Bool.eq_iff_iff, String.isEmpty_iff, String.isEmpty_iff, onto]

theorem filter_rename (id : Option String) :
    (id.map rename).filter (!·.isEmpty) = (id.filter (!·.isEmpty)).map rename := by
  cases id with
  | none => rfl
  | some id => cases blank : id.isEmpty <;> simp [Option.filter, isEmpty_rename empty, blank]

end

/--
A way to recast elements that the readers of a model cannot tell, except for
the identifiers they find.  Names of scalar types stay what they are, and no
identifier becomes one.
-/
structure Recasting (registry : Registry) where
  rename : String ↪ String
  recast : Node → Node
  select : ∀ node (tag : String), (recast node).select tag = (node.select tag).map recast
  text : ∀ node, (recast node).text? = node.text?
  plain : ∀ node, ∀ key ∈ textual, (recast node).plain? key = node.plain? key
  declared : ∀ node, declaredKind? (recast node) = declaredKind? node
  identified : ∀ node, id? (recast node) = (id? node).map rename
  typed : ∀ node, IsSide node → (recast node).plain? "type" = (node.plain? "type").map rename
  listed : ∀ node, memberEnds (recast node) = (memberEnds node).map (List.map rename)
  empty : rename "" = ""
  known : ∀ name, registry.contains (some name) = true → rename name = name
  unknown : ∀ name, registry.contains (some name) = false →
    registry.contains (some (rename name)) = false
  canonical : ∀ name canonical, registry.canonical name = .ok canonical →
    rename canonical = canonical

namespace Recasting

variable {registry : Registry} (cast : Recasting registry)

/-! ## What recast elements say -/

theorem contains_rename (name : Option String) :
    registry.contains (name.map cast.rename) = registry.contains name := by
  cases name with
  | none => rfl
  | some name =>
      cases known : registry.contains (some name) with
      | true => rw [Option.map_some, cast.known name known, known]
      | false => exact cast.unknown name known

theorem map_rename_of_contains {name : Option String} (known : registry.contains name = true) :
    name.map cast.rename = name := by
  cases name with
  | none => rfl
  | some name => exact congrArg some (cast.known name known)

theorem kind?_recast (node : Node) : kind? (cast.recast node) = kind? node := by
  unfold kind?
  rw [cast.declared]

theorem title?_recast (node : Node) : title? (cast.recast node) = title? node := by
  unfold title?
  rw [cast.plain node "name" (by decide)]

theorem isEnd_recast (node : Node) : Classes.isEnd (cast.recast node) = Classes.isEnd node := by
  unfold Classes.isEnd
  rw [cast.plain node "association" (by decide)]

theorem commentText_recast (node : Node) :
    commentText (cast.recast node) = commentText node := by
  have inside (found : Option Node) :
      (found.map cast.recast).bind Node.text? = found.bind Node.text? := by
    cases found with
    | none => rfl
    | some body => exact cast.text body
  unfold commentText
  rw [cast.select, firstOf_map, cast.plain node "body" (by decide)]
  cases firstOf (node.select "body") with
  | error fault => rfl
  | ok found =>
      change (if Text.isPresent ((found.map cast.recast).bind Node.text?) then _ else _) = _
      rw [inside]
      rfl

theorem documentation_recast (node : Node) :
    documentation (cast.recast node) = documentation node := by
  have texts (comments : List Node) :
      (comments.map cast.recast).mapM commentText = comments.mapM commentText := by
    rw [List.mapM_map, Function.comp_def]
    simp only [commentText_recast]
  unfold documentation
  rw [cast.select, allOf_map]
  cases allOf (node.select "ownedComment") with
  | error fault => rfl
  | ok comments =>
      change (comments.map cast.recast).mapM commentText >>= _ = _
      rw [texts]
      rfl

theorem upperBound_recast (node : Node) : upperBound (cast.recast node) = upperBound node := by
  unfold upperBound
  rw [cast.select, firstOf_map]
  cases firstOf (node.select "upperValue") with
  | error fault => rfl
  | ok found =>
      cases found with
      | none => rfl
      | some upper =>
          change Except.ok (Bound.ofText (((cast.recast upper).plain? "value").getD "1")) = _
          rw [cast.plain upper "value" (by decide)]
          rfl

/-- The type name on a field comes from a library, or else it may be an identifier. -/
theorem inlineType_recast {node : Node} (side : IsSide node) :
    inlineType (cast.recast node) = inlineType node ∨
      inlineType (cast.recast node) = (inlineType node).map (Option.map cast.rename) := by
  have inside (found : Option Node) :
      (found.map cast.recast).bind libraryReference? = found.bind libraryReference? := by
    cases found with
    | none => rfl
    | some type =>
        unfold libraryReference?
        rw [Option.map_some, Option.bind_some, Option.bind_some,
          cast.plain type "href" (by decide)]
  rw [inlineType_eq, inlineType_eq, cast.select, firstOf_map, cast.typed node side]
  cases firstOf (node.select "type") with
  | error fault => exact Or.inl rfl
  | ok found =>
      simp only [Except.map, inside]
      cases found.bind libraryReference? with
      | some fragment => exact Or.inl rfl
      | none => exact Or.inr rfl

theorem declaredId_recast (node : Node) {canonical : String}
    (fixed : cast.rename canonical = canonical) :
    Typing.declaredId (cast.recast node) canonical =
      cast.rename (Typing.declaredId node canonical) := by
  unfold Typing.declaredId
  rw [cast.identified, filter_rename cast.empty]
  cases (id? node).filter (!·.isEmpty) with
  | none => exact fixed.symm
  | some id => rfl

theorem ownedEnds_recast (ends : List Node) :
    Associations.ownedEnds (ends.map cast.recast) =
      (Associations.ownedEnds ends).mapped cast.rename.optionMap cast.recast := by
  unfold Associations.ownedEnds
  rw [← Table.ofList_mapped, List.map_map, List.map_map]
  congr 1
  exact List.map_congr_left fun node _ => Prod.ext (cast.identified node) rfl

/-- Known types and awaited enumerations are referred to as before. -/
theorem referred?_recast {left right : Store} (mirrors : left.Mirrors cast.rename right)
    (enumerations : List (Option String)) {field : Node} (side : IsSide field) :
    Typing.referred? right (enumerations.map (Option.map cast.rename)) (cast.recast field) =
      (Typing.referred? left enumerations field).map cast.rename := by
  have awaited (id : String) :
      (enumerations.map (Option.map cast.rename)).contains (some (cast.rename id)) =
        enumerations.contains (some id) := by
    rw [Bool.eq_iff_iff, List.contains_iff_mem, List.contains_iff_mem]
    exact List.mem_map_of_injective (Option.map_injective cast.rename.injective) (a := some id)
  unfold Typing.referred?
  rw [cast.typed field side]
  cases field.plain? "type" with
  | none => rfl
  | some id =>
      simp only [Option.map_some, Option.filter, isEmpty_rename cast.empty, mirrors.hasType,
        awaited]
      split <;> rfl

/-! ## Classifying recast models -/

theorem positionsOf_recast (kind : Option ElementKind) (nodes : List Node) :
    positionsOf kind (nodes.map cast.recast) = positionsOf kind nodes := by
  unfold positionsOf
  rw [List.zipIdx_map, List.filter_map, List.map_map]
  simp only [Function.comp_def, Prod.map, cast.kind?_recast]
  rfl

def index (index : Index) : Index where
  elements := index.elements.map cast.recast
  places := index.places
  sort kind := (index.sort kind).trans (cast.positionsOf_recast kind index.elements).symm

theorem positions_index (index : Index) (kind : ElementKind) :
    (cast.index index).positions kind = index.positions kind := rfl

theorem elementsOf_index (index : Index) (kind : ElementKind) :
    (cast.index index).elementsOf kind = (index.elementsOf kind).map cast.recast := by
  unfold Index.elementsOf
  rw [List.map_filterMap]
  exact List.filterMap_congr fun position _ => List.getElem?_map

theorem enumerationIds_index (index : Index) :
    (cast.index index).enumerationIds = index.enumerationIds.map (Option.map cast.rename) := by
  unfold Index.enumerationIds
  rw [elementsOf_index, List.map_map, List.map_map]
  exact List.map_congr_left fun node _ => cast.identified node

theorem scan_recast (strict : Bool) (position : Nat) (nodes : List Node) (places : Places) :
    scan strict position (nodes.map cast.recast) places = scan strict position nodes places := by
  induction nodes generalizing position places with
  | nil => rfl
  | cons node rest ih =>
      simp only [List.map_cons, scan, cast.kind?_recast, ih, unknownKind, cast.declared]

/-- A recast model is classified as the model is, under either rules. -/
theorem ofModel_recast (strict : Bool) (model : Node) :
    Index.ofModel strict (cast.recast model) = (Index.ofModel strict model).map cast.index := by
  unfold Index.ofModel
  rw [cast.select, allOf_map]
  cases allOf (model.select "packagedElement") with
  | error fault => rfl
  | ok elements =>
      change Index.ofElements strict (elements.map cast.recast) =
        (Index.ofElements strict elements).map cast.index
      cases made : Index.ofElements strict elements with
      | error fault =>
          refine Index.ofElements_eq_error.mpr ?_
          rw [scan_recast]
          exact Index.ofElements_eq_error.mp made
      | ok index =>
          obtain ⟨rfl, scanned⟩ := Index.ofElements_eq_ok.mp made
          refine Index.ofElements_eq_ok.mpr ⟨rfl, ?_⟩
          rw [scan_recast]
          exact scanned

end Recasting

end ClassDiagram
