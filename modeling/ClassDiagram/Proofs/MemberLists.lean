import ClassDiagram.Proofs.Blanks
import ClassDiagram.Proofs.Lookups

/-!
# Member ends in an attribute and in children

An association lists its member ends as the words of one attribute, or by one
child for each of them.  Both ways the ends are read in the order in which
they are listed.
-/

namespace ClassDiagram

open Text (AllBlank IsWord Spells)
open Xml (Name Node)

namespace Members

/--
What a child carries as its XMI reference: the first attribute of that name in
a namespace of XMI, and without one the attribute written with the usual label.
-/
inductive Carries (member : Node) : Option String → Prop where
  | inSpace {front back : List (Name × String)} {space : Xml.Space} {id : String}
      (shape : member.attributes = front ++ (.qualified space "idref", id) :: back)
      (isXmi : isXmiSpace space = true)
      (first : ∀ entry ∈ front, isXmiName "idref" entry.1 = false) : Carries member (some id)
  | labelled {reference : Option String}
      (unspaced : ∀ entry ∈ member.attributes, isXmiName "idref" entry.1 = false)
      (labelled : member.plain? "xmi:idref" = reference) : Carries member reference

theorem Carries.xmi?_eq {member : Node} {reference : Option String}
    (carries : Carries member reference) : xmi? member "idref" = reference := by
  unfold xmi?
  cases carries with
  | @inSpace front back space id shape isXmi first =>
      have skipped : front.find? (isXmiName "idref" ·.1) = none :=
        List.find?_eq_none.mpr fun entry inside => by simp [first entry inside]
      have named : isXmiName "idref" (.qualified space "idref") = true := by
        simp [isXmiName, Name.space?, isXmi]
      rw [shape, List.find?_append, skipped, Option.none_or, List.find?_cons, named]
  | labelled unspaced labelled =>
      have absent : member.attributes.find? (isXmiName "idref" ·.1) = none :=
        List.find?_eq_none.mpr fun entry inside => by simp [unspaced entry inside]
      rw [absent]
      exact labelled

/-- Whatever is read as the reference of a child is what it carries. -/
theorem carries_xmi? (member : Node) : Carries member (xmi? member "idref") := by
  unfold xmi?
  cases found : member.attributes.find? (isXmiName "idref" ·.1) with
  | none =>
      refine .labelled (fun entry inside => ?_) rfl
      simpa using List.find?_eq_none.mp found entry inside
  | some entry =>
      obtain ⟨name, id⟩ := entry
      obtain ⟨named, front, back, shape, before⟩ := List.find?_eq_some_iff_append.mp found
      have first : ∀ entry ∈ front, isXmiName "idref" entry.1 = false := by simpa using before
      cases name with
      | plain base bare => cases named
      | unclosed rest => simp [isXmiName, Name.space?] at named
      | qualified space base =>
          simp only [isXmiName, Name.space?, Bool.and_eq_true, decide_eq_true_eq] at named
          obtain ⟨rfl, isXmi⟩ := And.imp_left Option.some.inj named
          exact .inSpace shape isXmi first

/--
Children that list identifiers in order, one member element for each of them.
Among these may stand member elements that refer to nothing, comments, and
elements with other local names.
-/
inductive Lists : List String → List Node → Prop where
  | nil : Lists [] []
  | member {child : Node} {rest : List Node} {id : String} {others : List String}
      (named : child.name?.bind Name.localPart? = some "memberEnd")
      (carries : Carries child (some id)) (filled : id ≠ "") (lists : Lists others rest) :
      Lists (id :: others) (child :: rest)
  | idle {child : Node} {rest : List Node} {reference : Option String} {ids : List String}
      (named : child.name?.bind Name.localPart? = some "memberEnd")
      (carries : Carries child reference) (nothing : ∀ id ∈ reference, id = "")
      (lists : Lists ids rest) : Lists ids (child :: rest)
  | passed {child : Node} {rest : List Node} {ids : List String}
      (passed : IsPassed "memberEnd" child) (lists : Lists ids rest) : Lists ids (child :: rest)

/-- What children list is what the member elements among them refer to. -/
theorem Lists.references_eq {ids : List String} {children : List Node}
    (lists : Lists ids children) :
    (allOf (Node.selectFrom "memberEnd" children)).map memberReferences = .ok ids := by
  suffices found : (Node.selectFrom "memberEnd" children).cut = false ∧
      memberReferences (Node.selectFrom "memberEnd" children).found = ids by
    rw [allOf, found.1, ← found.2]
    rfl
  induction lists with
  | nil => exact ⟨rfl, rfl⟩
  | @member child rest id others named carries filled _ ih =>
      have refers : (xmi? child "idref").filter (!·.isEmpty) = some id := by
        rw [carries.xmi?_eq]
        exact Option.filter_some_pos (by simpa using filled)
      rw [selectFrom_of_named named, Node.cut_cons, Node.found_cons]
      refine ⟨ih.1, ?_⟩
      unfold memberReferences
      rw [List.filterMap_cons, refers]
      exact congrArg (id :: ·) ih.2
  | @idle child rest reference ids named carries nothing _ ih =>
      have refers : (xmi? child "idref").filter (!·.isEmpty) = none := by
        rw [carries.xmi?_eq, Option.filter_eq_none_iff]
        intro id inside
        simp [nothing id inside]
      rw [selectFrom_of_named named, Node.cut_cons, Node.found_cons]
      refine ⟨ih.1, ?_⟩
      unfold memberReferences
      rw [List.filterMap_cons, refers]
      exact ih.2
  | passed passed _ ih =>
      rw [selectFrom_of_passed passed]
      exact ih

theorem Lists.memberEnds_eq {node : Node} {ids : List String} (lists : Lists ids node.children)
    (unwritten : (node.plain? "memberEnd").filter (!·.isEmpty) = none) :
    memberEnds node = .ok ids := by
  unfold memberEnds
  rw [unwritten]
  exact lists.references_eq

theorem lists_of_selectFrom {children : List Node}
    (whole : (Node.selectFrom "memberEnd" children).cut = false) :
    Lists (memberReferences (Node.selectFrom "memberEnd" children).found) children := by
  induction children with
  | nil => exact .nil
  | cons child rest ih =>
      by_cases named : child.name?.bind Name.localPart? = some "memberEnd"
      · rw [selectFrom_of_named named, Node.cut_cons] at whole
        rw [selectFrom_of_named named, Node.found_cons, memberReferences, List.filterMap_cons]
        have carries := carries_xmi? child
        cases refers : (xmi? child "idref").filter (!·.isEmpty) with
        | none =>
            refine .idle named carries (fun id inside => ?_) (ih whole)
            simpa using Option.filter_eq_none_iff.mp refers id inside
        | some id =>
            obtain ⟨reference, filled⟩ := Option.filter_eq_some_iff.mp refers
            rw [reference] at carries
            exact .member named carries (by simpa using filled) (ih whole)
      · have passed : IsPassed "memberEnd" child := by
          intro name isName
          cases base : name.localPart? with
          | none =>
              cases child with
              | comment text => cases isName
              | element name attributes text children =>
                  cases isName
                  rw [Node.selectFrom, base] at whole
                  cases whole
          | some base' =>
              refine ⟨base', rfl, fun same => named ?_⟩
              rw [isName, Option.bind_some, base, same]
        rw [selectFrom_of_passed passed] at whole ⊢
        exact .passed passed (ih whole)

/--
The member ends of an association: the words of its attribute, or what its
children list where the attribute is absent or empty.
-/
inductive Ends (association : Node) : List String → Prop where
  | written {text : String} {ids : List String}
      (valued : association.plain? "memberEnd" = some text) (filled : text ≠ "")
      (areWords : ∀ id ∈ ids, IsWord id) (spells : Spells ids text.toList) : Ends association ids
  | nested {ids : List String} (unwritten : ∀ text ∈ association.plain? "memberEnd", text = "")
      (lists : Lists ids association.children) : Ends association ids

theorem ends_of_memberEnds {association : Node} {ids : List String}
    (read : memberEnds association = .ok ids) : Ends association ids := by
  unfold memberEnds at read
  split at read
  · rename_i text written
    obtain ⟨valued, filled⟩ := Option.filter_eq_some_iff.mp written
    cases read
    obtain ⟨spells, areWords⟩ := Text.spells_words text
    exact .written valued (by simpa using filled) areWords spells
  · rename_i unwritten
    refine .nested (fun text inside => ?_) ?_
    · simpa using Option.filter_eq_none_iff.mp unwritten text inside
    · cases all : allOf (association.select "memberEnd") with
      | error fault =>
          rw [all] at read
          cases read
      | ok members =>
          rw [all] at read
          cases read
          obtain ⟨whole, rfl⟩ := allOf_eq_ok.mp all
          exact lists_of_selectFrom whole

def AgreeOn (ids : List String) (written nested : Node) : Prop :=
  memberEnds written = .ok ids ∧ memberEnds nested = .ok ids

/--
An association that writes its member ends in an attribute and one that lists
them in children have the same member ends.  An attribute that is empty counts
as absent, so there the children have to agree.
-/
theorem agreeOn_of_spells {ids : List String} {text : String} {written nested : Node}
    (areWords : ∀ id ∈ ids, IsWord id) (valued : written.plain? "memberEnd" = some text)
    (spells : Spells ids text.toList) (counts : text ≠ "" ∨ Lists ids written.children)
    (unvalued : nested.plain? "memberEnd" = none) (lists : Lists ids nested.children) :
    AgreeOn ids written nested := by
  refine ⟨?_, lists.memberEnds_eq (by rw [unvalued]; rfl)⟩
  by_cases blank : text = ""
  · refine (counts.resolve_left (absurd blank)).memberEnds_eq ?_
    rw [valued, blank]
    rfl
  · unfold memberEnds
    rw [valued, Option.filter_some_pos (by simpa using blank)]
    exact congrArg Except.ok (spells.words_eq areWords)

def refersTo (id : String) : Node :=
  umlElement "memberEnd" [("idref", id)] [] []

/-- A loan between its two ends, which are written apart by a broad blank. -/
def writtenLoan : Node :=
  umlElement "packagedElement" [] [("memberEnd", "\t lender\u2003reader\n")] []

/-- The same loan with a child for each end, and with other children among them. -/
def nestedLoan : Node :=
  umlElement "packagedElement" [] [] [
    .comment "a loan has two ends", refersTo "lender", refersTo "",
    umlElement "ownedEnd" [] [("name", "reader")] [],
    umlElement "memberEnd" [] [] [],
    .element (.qualified ⟨"uml", rfl⟩ "memberEnd") [(.ofText "xmi:idref", "reader")] none []]

theorem agreeOn_of_spells_loan : AgreeOn ["lender", "reader"] writtenLoan nestedLoan := by
  have spells : Spells ["lender", "reader"] "\t lender\u2003reader\n".toList := by
    have first : AllBlank ['\t', ' '] := by decide
    have second : AllBlank ['\u2003'] := by decide
    have last : AllBlank ['\n'] := by decide
    refine .word first (.word second (.gap last) ?_) ?_
    · rintro _ ⟨⟩
      rfl
    · rintro _ ⟨⟩
      rfl
  have carries (id : String) : Carries (refersTo id) (some id) :=
    .inSpace (List.nil_append _).symm rfl (fun _ => nofun)
  have lists : Lists ["lender", "reader"] nestedLoan.children := by
    refine .passed (fun _ => nofun) (.member rfl (carries "lender") (by decide) ?_)
    refine .idle rfl (carries "") (fun _ same => (Option.some.inj same).symm) ?_
    refine .passed (fun _ same => ⟨"ownedEnd", ?_, by decide⟩) ?_
    · cases same
      rfl
    · refine .idle rfl (.labelled (fun _ => nofun) rfl) (fun _ => nofun) ?_
      exact .member rfl (.labelled (by decide) rfl) (by decide) .nil
  exact agreeOn_of_spells (by decide) rfl spells (.inl (by decide)) rfl lists

/-- An association that writes no end in its attribute, while a child lists one. -/
def halfWrittenLoan : Node :=
  umlElement "packagedElement" [] [("memberEnd", "")] [refersTo "lender"]

/-- An association that lists an end after a child with a broken name. -/
def notedLoan : Node :=
  umlElement "packagedElement" [] [] [brokenElement, refersTo "lender"]

/--
An attribute that writes no end is passed over for the children, and a broken
name among the children leaves no ends at all.
-/
theorem not_agreeOn_halfWritten :
    (halfWrittenLoan.plain? "memberEnd" = some "" ∧ Spells [] "".toList ∧
      memberEnds halfWrittenLoan = .ok ["lender"] ∧
        ∀ nested, ¬ AgreeOn [] halfWrittenLoan nested) ∧
    memberEnds notedLoan = .error .brokenName ∧
      ∀ written, ¬ AgreeOn ["lender"] written notedLoan := by
  refine ⟨⟨rfl, .gap (by decide), rfl, ?_⟩, rfl, ?_⟩
  · rintro nested ⟨read, _⟩
    cases read
  · rintro written ⟨_, read⟩
    cases read

end Members

end ClassDiagram
