import ClassDiagram.Loading
import ClassDiagram.Proofs.Readers
import ClassDiagram.Proofs.Replacing

/-!
# Documents that are loaded

Where a library reads documents as it is documented to, loading ends with the
model of a document or with the document being unreadable, if only the
characters of the document can be told.
-/

namespace ClassDiagram

open Xml (CodePoint FailsInherently Node Reader Refusal Source Unfollowable declaredEncoding?
  isDocumented_readDocument readDocument)

namespace Origin

/-! ## The model of a document -/

theorem model_of_isModel {root : Node} (itself : isModel root = true) : model root = .ok root := by
  rw [model, if_pos itself]

theorem whole_of_namesClosed {node : Node} (closed : node.NamesClosed) :
    ¬ HasBrokenName node := by
  rintro ⟨child, inside, name, named, broken⟩
  have within : child ∈ node.within :=
    ((Node.sublist_withinAll _).trans (Node.children_sublist node)).subset inside
  obtain ⟨base, closed⟩ := closed child within name named
  cases broken.symm.trans closed

/-- The model inside a root that is none is its first child that is one. -/
theorem model_of_whole {root : Node} (other : isModel root = false)
    (whole : ¬ HasBrokenName root) :
    model root = match root.children.find? isModel with
      | some node => .ok node
      | none => .error (notAModel root) := by
  have chosen : (childrenNamed root "Model").head? = root.children.find? isModel :=
    List.head?_filter
  rw [model, if_neg (by simp [other]), select_of_whole whole, ← chosen]
  cases childrenNamed root "Model" <;> rfl

/-! ## Refusals in the terms of loading -/

theorem refusalFault_of_inherent {refusal : Refusal} (inherent : refusal.IsInherent) :
    ∃ remarks, refusalFault refusal = .ingest (.unreadable remarks) := by
  cases refusal <;> first | exact ⟨_, rfl⟩ | cases inherent

theorem inherent_of_refusalFault {refusal : Refusal} {remarks : List Remark}
    (told : refusalFault refusal = .ingest (.unreadable remarks)) : refusal.IsInherent := by
  cases refusal <;> first | exact trivial | cases told

variable {read : Reader} {source : Source}

/--
Loading a document ends as it should: with the root if that is a model, with
the first model among the children of another root, or with the document
being unreadable.
-/
inductive LoadsInOwnTerms (read : Reader) (source : Source) : Prop where
  | root {root : Node} (found : read source = .ok root) (itself : isModel root = true)
      (loaded : (memory source).load read = .ok root)
  | child {root node : Node} (found : read source = .ok root)
      (other : isModel root = false) (first : root.children.find? isModel = some node)
      (loaded : (memory source).load read = .ok node)
  | unreadable {remarks : List Remark}
      (failed : (memory source).load read = .error (.ingest (.unreadable remarks)))

theorem load_of_read {root : Node} (found : read source = .ok root) :
    (memory source).load read = model root := by
  change ((read source).mapError refusalFault >>= model) = model root
  rw [found]
  rfl

theorem load_of_refused {refusal : Refusal} (refused : read source = .error refusal) :
    (memory source).load read = .error (refusalFault refusal) := by
  change ((read source).mapError refusalFault >>= model) = _
  rw [refused]
  rfl

theorem loadsInOwnTerms_of_read {root : Node} (found : read source = .ok root)
    (closed : root.NamesClosed) : LoadsInOwnTerms read source := by
  have loaded := load_of_read found
  cases itself : isModel root with
  | true => exact .root found itself (loaded.trans (model_of_isModel itself))
  | false =>
      rw [model_of_whole itself (whole_of_namesClosed closed)] at loaded
      cases first : root.children.find? isModel with
      | some node =>
          rw [first] at loaded
          exact .child found itself first loaded
      | none =>
          rw [first] at loaded
          exact .unreadable loaded

theorem loadsInOwnTerms_of_refused {refusal : Refusal} (refused : read source = .error refusal) :
    LoadsInOwnTerms read source ↔ refusal.IsInherent := by
  have failed := load_of_refused refused
  constructor
  · rintro (⟨found, _, _⟩ | ⟨found, _, _, _⟩ | @⟨remarks, unreadable⟩)
    · cases refused.symm.trans found
    · cases refused.symm.trans found
    · exact inherent_of_refusalFault (Except.error.inj (failed.symm.trans unreadable))
  · intro inherent
    obtain ⟨remarks, told⟩ := refusalFault_of_inherent inherent
    exact .unreadable (failed.trans (congrArg _ told))

variable {declared? : List UInt8 → Option String} {follows : String → Prop}
  (documented : read.IsDocumented declared? follows)
include documented

theorem not_loadsInOwnTerms_of_undecodable (undecodable : ¬ source.IsDecodable declared? follows) :
    ¬ LoadsInOwnTerms read source := by
  cases source with
  | text content =>
      obtain ⟨code, position, count, refused⟩ := documented.surrogates content undecodable
      exact (loadsInOwnTerms_of_refused refused).not.mpr id
  | bytes content =>
      simp only [Source.IsDecodable, not_forall] at undecodable
      obtain ⟨name, told, stray⟩ := undecodable
      obtain ⟨refusal, refused, ofEncoding⟩ := documented.unfollowed content name told stray
      rw [loadsInOwnTerms_of_refused refused]
      intro inherent
      cases refusal <;> first | exact inherent | exact ofEncoding

/--
Where a library reads documents as it is documented to, a document loads in its
own terms if and only if its characters can be told.
-/
theorem loadsInOwnTerms_iff (source : Source) :
    LoadsInOwnTerms read source ↔ source.IsDecodable declared? follows := by
  refine ⟨fun loads => ?_, fun decodable => ?_⟩
  · by_contra undecodable
    exact not_loadsInOwnTerms_of_undecodable documented undecodable loads
  · have inherent := documented.inherent source decodable
    cases result : read source with
    | ok root => exact loadsInOwnTerms_of_read result (documented.closed source root result)
    | error refusal =>
        rw [result] at inherent
        exact (loadsInOwnTerms_of_refused result).mpr inherent

omit documented

/-- Two models inside another element, with a comment before them, in a declared encoding. -/
def wrappedDocument : Source :=
  .bytes ("<?xml version=\"1.0\" encoding=\"ISO-8859-1\"?>" ++
    "<XMI><!-- drafts --><Model name=\"Course\"/><Model/></XMI>").toUTF8.data.toList

/-- A model in an encoding of a name that goes with none. -/
def strayDocument : Source :=
  .bytes "<?xml version=\"1.0\" encoding=\"x-unknown\"?><Model/>".toUTF8.data.toList

/-- A model in a text that holds a surrogate. -/
def halvedDocument : Source :=
  .text (CodePoint.ofText "<Model name=\"" ++ .surrogate 0 :: CodePoint.ofText "\"/>")

/-- The first of two models is found, and no model is found where a text holds a surrogate. -/
theorem loadsInOwnTerms_wrappedDocument :
    Reader.IsDocumented declaredEncoding? (fun name => ¬ Unfollowable name) readDocument ∧
      LoadsInOwnTerms readDocument wrappedDocument ∧
      ((memory wrappedDocument).load readDocument).toOption.bind (·.plain? "name") =
        some "Course" ∧
      ¬ LoadsInOwnTerms readDocument halvedDocument := by
  have decodable :
      wrappedDocument.IsDecodable declaredEncoding? fun name => ¬ Unfollowable name := by
    intro name told stray
    have declared : (wrappedDocument.toBytes.toOption.bind declaredEncoding?) =
        some "ISO-8859-1" := by decide +kernel
    cases told.symm.trans declared
    exact stray.1 (by decide +kernel)
  have halved : ¬ halvedDocument.IsDecodable declaredEncoding? fun name => ¬ Unfollowable name :=
    fun whole => nomatch whole (.surrogate 0) (by decide)
  exact ⟨isDocumented_readDocument,
    (loadsInOwnTerms_iff isDocumented_readDocument wrappedDocument).mpr decodable,
    by decide +kernel,
    (loadsInOwnTerms_iff isDocumented_readDocument halvedDocument).not.mpr halved⟩

theorem not_loadsInOwnTerms_strayDocument : ¬ LoadsInOwnTerms readDocument strayDocument := by
  have unknown : Xml.Charset.find? "x-unknown" = none := by decide +kernel
  have stray : Unfollowable "x-unknown" := by
    refine ⟨by decide +kernel, fun page => ?_, ?_⟩ <;> simp [unknown]
  refine not_loadsInOwnTerms_of_undecodable isDocumented_readDocument fun decodable => ?_
  exact decodable "x-unknown" (by decide +kernel) stray

end Origin

end ClassDiagram
