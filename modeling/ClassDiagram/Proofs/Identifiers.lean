import ClassDiagram.Proofs.Blanks
import ClassDiagram.Proofs.Namespaces
import ClassDiagram.Proofs.Registries
import Mathlib.Logic.Equiv.Basic

/-!
# Models under other identifiers

The identifiers of a model are exchanged where elements have them and where
elements refer to others by them, word by word where there are several.  If
names of scalar types stay what they are and no identifier becomes one, then
the entities read from the model are those read before, under the exchanged
identifiers.
-/

namespace ClassDiagram

open Xml (Name Node)

/-! ## Words exchanged -/

namespace Text

/-- What stands for a word, which is given by its characters from the last to the first. -/
def exchanged (exchange : String → String) (word : List Char) : List Char :=
  if word.isEmpty then [] else (exchange (String.ofList word.reverse)).toList

/-- Exchange the words of characters, where `word` holds the word under way. -/
def exchangeFrom (exchange : String → String) (word : List Char) : List Char → List Char
  | [] => exchanged exchange word
  | c :: rest =>
      if isBlank c then exchanged exchange word ++ c :: exchangeFrom exchange [] rest
      else exchangeFrom exchange (c :: word) rest

def mapWords (exchange : String → String) (text : String) : String :=
  String.ofList (exchangeFrom exchange [] text.toList)

variable {exchange : String → String}

section

variable (keeps : ∀ word, IsWord word → IsWord (exchange word)) {word : List Char}
  (solid : ∀ c ∈ word, isBlank c = false)
include keeps solid

theorem isWord_exchange (filled : word ≠ []) :
    IsWord (exchange (String.ofList word.reverse)) := by
  refine keeps _ ⟨?_, fun c inside => ?_⟩
  · simpa [← String.toList_inj] using filled
  · exact solid c (by simpa using inside)

/-- What stands for a word is read as one word. -/
theorem wordsFrom_exchanged (rest : List Char) :
    wordsFrom [] (exchanged exchange word ++ rest) =
      wordsFrom (exchanged exchange word).reverse rest := by
  have free : ∀ c ∈ exchanged exchange word, isBlank c = false := by
    unfold exchanged
    cases word with
    | nil => nofun
    | cons c word => exact (isWord_exchange keeps solid (List.cons_ne_nil _ _)).2
  rw [wordsFrom_append free, List.append_nil]

theorem endWord_exchanged (words : List String) :
    endWord (exchanged exchange word).reverse (words.map exchange) =
      (endWord word words).map exchange := by
  cases word with
  | nil => rfl
  | cons c word =>
      have named := (isWord_exchange keeps solid (List.cons_ne_nil _ _)).1
      have filled : (exchange (String.ofList (c :: word).reverse)).toList.reverse ≠ [] := by
        simpa using named
      change endWord (exchange (String.ofList (c :: word).reverse)).toList.reverse _ = _
      rw [endWord, endWord, if_neg (by simpa using filled), if_neg (by simp), List.map_cons,
        List.reverse_reverse, String.ofList_toList]

end

theorem wordsFrom_exchangeFrom (keeps : ∀ word, IsWord word → IsWord (exchange word))
    (chars : List Char) {word : List Char} (solid : ∀ c ∈ word, isBlank c = false) :
    wordsFrom [] (exchangeFrom exchange word chars) = (wordsFrom word chars).map exchange := by
  induction chars generalizing word with
  | nil =>
      have read := wordsFrom_exchanged keeps solid []
      rw [List.append_nil] at read
      exact read.trans (endWord_exchanged keeps solid [])
  | cons c rest ih =>
      cases blank : isBlank c with
      | true =>
          rw [exchangeFrom, if_pos blank, wordsFrom_exchanged keeps solid,
            wordsFrom_blank _ _ blank, wordsFrom_blank _ _ blank, ih (List.forall_mem_nil _),
            endWord_exchanged keeps solid]
      | false =>
          rw [exchangeFrom, if_neg (by simp [blank]), wordsFrom_solid _ _ blank]
          exact ih (List.forall_mem_cons.mpr ⟨blank, solid⟩)

/-- The words of a text with other words are these words. -/
theorem words_mapWords (keeps : ∀ word, IsWord word → IsWord (exchange word)) (text : String) :
    words (mapWords exchange text) = (words text).map exchange := by
  unfold words mapWords
  rw [String.toList_ofList]
  exact wordsFrom_exchangeFrom keeps text.toList (List.forall_mem_nil _)

theorem exchangeFrom_eq_nil (keeps : ∀ word, IsWord word → IsWord (exchange word))
    (chars : List Char) {word : List Char} (solid : ∀ c ∈ word, isBlank c = false) :
    exchangeFrom exchange word chars = [] ↔ word = [] ∧ chars = [] := by
  induction chars generalizing word with
  | nil =>
      cases word with
      | nil => simp [exchangeFrom, exchanged]
      | cons c word =>
          have named := (isWord_exchange keeps solid (List.cons_ne_nil _ _)).1
          simpa [exchangeFrom, exchanged] using named
  | cons c rest ih =>
      cases blank : isBlank c with
      | true => simp [exchangeFrom, blank]
      | false =>
          have longer : ∀ d ∈ c :: word, isBlank d = false :=
            List.forall_mem_cons.mpr ⟨blank, solid⟩
          simp [exchangeFrom, blank, ih longer]

theorem isEmpty_mapWords (keeps : ∀ word, IsWord word → IsWord (exchange word)) (text : String) :
    (mapWords exchange text).isEmpty = text.isEmpty := by
  have empty := exchangeFrom_eq_nil keeps text.toList (List.forall_mem_nil _)
  rw [Bool.eq_iff_iff, String.isEmpty_iff, String.isEmpty_iff, ← String.toList_eq_nil_iff,
    ← String.toList_eq_nil_iff, mapWords, String.toList_ofList, empty]
  exact and_iff_right rfl

end Text

/-! ## Identifiers exchanged -/

/-- Whether a name is that of an XMI attribute, in its namespace or with the usual label. -/
def isXmiKey (wanted : String) (key : Name) : Bool :=
  isXmiName wanted key || Name.ofText ("xmi:" ++ wanted) == key

/-- Whether an attribute of an element with a local name holds one identifier. -/
def holdsIdentifier (base : Option String) (key : Name) : Bool :=
  isXmiKey "id" key || isXmiKey "idref" key && base == some "memberEnd" ||
    Name.plain "type" == key && (base == some "ownedAttribute" || base == some "ownedEnd")

def renamedAttribute (rename : String → String) (tag : Name) (old : Name × String) :
    Name × String :=
  (old.1,
    if holdsIdentifier tag.localPart? old.1 then rename old.2
    else if Name.plain "memberEnd" == old.1 then Text.mapWords rename old.2
    else old.2)

/--
A tree with other identifiers: in every XMI attribute `id`, in the plain
attribute `type` of attributes and ends, in every plain attribute `memberEnd`,
and in the XMI attribute `idref` of member elements.
-/
def Xml.Node.renamed (rename : String → String) : Node → Node :=
  Node.respelled id (renamedAttribute rename)

section

variable {rename : String → String} {tag : Name}

theorem beq_plain_of_isXmiName {wanted : Option String} {name : Name} {key : String}
    {bare : Xml.isBare key = true} (named : isXmiName wanted name = true) :
    (Name.plain key bare == name) = false := by
  cases name with
  | plain base _ => cases named
  | _ => rfl

theorem isXmiName_of_ne {wanted other : String} {name : Name} (differ : wanted ≠ other)
    (named : isXmiName wanted name = true) : isXmiName other name = false := by
  unfold isXmiName at named ⊢
  cases spaced : name.space? with
  | none => rfl
  | some space =>
      rw [spaced] at named
      have base : space.2 = wanted := by simpa using (Bool.and_eq_true_iff.mp named).1
      simp [base, differ]

theorem isXmiKey_of_ne {wanted other : String} {key : Name} (differ : wanted ≠ other)
    (named : isXmiName wanted key = true) : isXmiKey other key = false := by
  unfold isXmiKey
  rw [isXmiName_of_ne differ named, Name.ofText_of_bare (Xml.isBare_labelled other),
    beq_plain_of_isXmiName named]
  rfl

theorem respells_identifier {test : Name → Bool}
    (holds : ∀ key, test key = true → holdsIdentifier tag.localPart? key = true) :
    Node.Respells (renamedAttribute rename tag) test rename :=
  ⟨fun _ => rfl, fun _ passes => if_pos (holds _ passes)⟩

theorem respells_words :
    Node.Respells (renamedAttribute rename tag) (Name.plain "memberEnd" == ·)
      (Text.mapWords rename) := by
  refine ⟨fun _ => rfl, fun old named => ?_⟩
  obtain ⟨key, value⟩ := old
  obtain rfl := LawfulBEq.eq_of_beq named
  rfl

theorem respells_other {test : Name → Bool}
    (apart : ∀ key, test key = true → holdsIdentifier tag.localPart? key = false ∧
      (Name.plain "memberEnd" == key) = false) :
    Node.Respells (renamedAttribute rename tag) test id := by
  refine ⟨fun _ => rfl, fun old passes => ?_⟩
  obtain ⟨none, other⟩ := apart old.1 passes
  unfold renamedAttribute
  rw [none, other]
  rfl

/-- An XMI attribute changes as those in its namespace and those with its label do. -/
theorem xmi?_renamed {wanted : String} {value : String → String} {node : Node}
    (respells : ∀ tag, node.name? = some tag → ∀ test : Name → Bool,
      (∀ key, test key = true → isXmiKey wanted key = true) →
        Node.Respells (renamedAttribute rename tag) test value) :
    xmi? (node.renamed rename) wanted = (xmi? node wanted).map value := by
  refine Node.xmi?_respelled _ _ (fun tag named => respells tag named _ fun key passes => ?_)
    (fun tag named => respells tag named _ fun key passes => ?_)
  · exact Bool.or_eq_true_iff.mpr (Or.inl passes)
  · exact Bool.or_eq_true_iff.mpr (Or.inr passes)

theorem id?_renamed (node : Node) : id? (node.renamed rename) = (id? node).map rename := by
  refine xmi?_renamed fun tag _ test identifies => respells_identifier fun key passes => ?_
  unfold holdsIdentifier
  rw [identifies key passes]
  rfl

theorem declaredKind?_renamed (node : Node) :
    declaredKind? (node.renamed rename) = declaredKind? node := by
  have kept : xmi? (node.renamed rename) "type" = (xmi? node "type").map id := by
    refine xmi?_renamed fun tag _ test declares => respells_other fun key passes => ?_
    rcases Bool.or_eq_true_iff.mp (declares key passes) with spaced | labelled
    · refine ⟨?_, beq_plain_of_isXmiName spaced⟩
      unfold holdsIdentifier
      rw [isXmiKey_of_ne (by decide) spaced, isXmiKey_of_ne (by decide) spaced,
        beq_plain_of_isXmiName spaced]
      rfl
    · obtain rfl := LawfulBEq.eq_of_beq labelled
      exact ⟨rfl, rfl⟩
  rw [Option.map_id] at kept
  exact kept

theorem plain?_renamed (node : Node) {key : String} {value : String → String}
    (respells : ∀ tag, node.name? = some tag →
      Node.Respells (renamedAttribute rename tag) (Name.ofText key == ·) value) :
    (node.renamed rename).plain? key = (node.plain? key).map value := by
  rw [Node.renamed, Node.plain?_eq_valueOf, Node.plain?_eq_valueOf]
  exact Node.valueOf_respelled _ _ respells

theorem respells_textual {key : String} (inside : key ∈ textual) :
    Node.Respells (renamedAttribute rename tag) (Name.ofText key == ·) id := by
  refine respells_other fun name named => ?_
  obtain rfl := LawfulBEq.eq_of_beq named
  simp only [textual, List.mem_cons, List.not_mem_nil, or_false] at inside
  rcases inside with rfl | rfl | rfl | rfl | rfl <;> exact ⟨rfl, rfl⟩

theorem type?_renamed {node : Node} (side : IsSide node) :
    (node.renamed rename).plain? "type" = (node.plain? "type").map rename := by
  refine plain?_renamed node fun tag named => respells_identifier fun key passes => ?_
  rw [IsSide, named, Option.bind_some] at side
  have typed : (Name.plain "type" == key) = true := passes
  unfold holdsIdentifier
  rcases side with base | base
  · simp [typed, base]
  · simp [typed, base]

theorem select_renamed (node : Node) (wanted : Option String) :
    (node.renamed rename).select wanted = (node.select wanted).map (Node.renamed rename) :=
  Node.select_respelled _ (fun _ => rfl) node wanted

end

/--
A renaming of identifiers that can be told from the names of scalar types: it
keeps these as they are, and gives none of them to anything else.
-/
structure Renames (registry : Registry) (rename : String ↪ String) : Prop where
  empty : rename "" = ""
  word : ∀ id, Text.IsWord id → Text.IsWord (rename id)
  known : ∀ name, registry.contains (some name) = true → rename name = name
  unknown : ∀ name, registry.contains (some name) = false →
    registry.contains (some (rename name)) = false

section

variable {rename : String ↪ String} (empty : rename "" = "")
  (keeps : ∀ id, Text.IsWord id → Text.IsWord (rename id))
include empty

theorem memberReferences_renamed {members : List Node}
    (named : ∀ member ∈ members, member.name?.bind Name.localPart? = some "memberEnd") :
    memberReferences (members.map (Node.renamed rename)) =
      (memberReferences members).map rename := by
  unfold memberReferences
  rw [List.filterMap_map, List.map_filterMap]
  refine List.filterMap_congr fun member inside => ?_
  have referred : xmi? (member.renamed rename) "idref" = (xmi? member "idref").map rename := by
    refine xmi?_renamed fun tag tagged test refers => respells_identifier fun key passes => ?_
    have base := named member inside
    rw [tagged, Option.bind_some] at base
    unfold holdsIdentifier
    rw [refers key passes, base]
    simp
  rw [Function.comp_apply, referred, filter_rename empty]

include keeps

theorem memberEnds_renamed (node : Node) :
    memberEnds (node.renamed rename) = (memberEnds node).map (List.map rename) := by
  have filtered : ((node.renamed rename).plain? "memberEnd").filter (!·.isEmpty) =
      ((node.plain? "memberEnd").filter (!·.isEmpty)).map (Text.mapWords rename) := by
    rw [plain?_renamed node fun _ _ => respells_words]
    cases node.plain? "memberEnd" with
    | none => rfl
    | some text =>
        cases blank : text.isEmpty <;>
          simp [Option.filter, Text.isEmpty_mapWords keeps, blank]
  unfold memberEnds
  rw [filtered]
  cases (node.plain? "memberEnd").filter (!·.isEmpty) with
  | some text => exact congrArg Except.ok (Text.words_mapWords keeps text)
  | none =>
      change (allOf ((node.renamed rename).select "memberEnd")).map memberReferences =
        ((allOf (node.select "memberEnd")).map memberReferences).map (List.map rename)
      rw [select_renamed, allOf_map]
      unfold allOf
      split
      · rfl
      · exact congrArg Except.ok
          (memberReferences_renamed empty fun member found => name_of_found found)

end

def Recasting.renamed {registry : Registry} {database : Database}
    (builtIn : registry = .ofDatabase database) (rename : String ↪ String)
    (renames : Renames registry rename) : Recasting registry where
  rename := rename
  recast := Node.renamed rename
  select node tag := select_renamed node tag
  text node := Node.text?_respelled _ _ node
  plain node key inside := by
    rw [plain?_renamed node fun _ _ => respells_textual inside, Option.map_id]
    rfl
  declared node := declaredKind?_renamed node
  identified node := id?_renamed node
  typed node side := type?_renamed side
  listed node := memberEnds_renamed renames.empty renames.word node
  empty := renames.empty
  known := renames.known
  unknown := renames.unknown
  canonical name canonical found := by
    subst builtIn
    have settles := Registry.settles_ofDatabase database (canonical_mem_values found)
    exact renames.known canonical settles.1

/-- Exchanging two words that are no names of scalar types is a renaming of identifiers. -/
theorem renames_swap {registry : Registry} {first second : String}
    (firstWord : Text.IsWord first) (secondWord : Text.IsWord second)
    (firstUnknown : registry.contains (some first) = false)
    (secondUnknown : registry.contains (some second) = false) :
    Renames registry (Equiv.swap first second).toEmbedding := by
  have cases (id : String) : id = first ∨ id = second ∨ Equiv.swap first second id = id := by
    by_cases one : id = first
    · exact Or.inl one
    · by_cases other : id = second
      · exact Or.inr (Or.inl other)
      · exact Or.inr (Or.inr (Equiv.swap_apply_of_ne_of_ne one other))
  refine ⟨?_, ?_, ?_, ?_⟩
  · exact Equiv.swap_apply_of_ne_of_ne firstWord.1.symm secondWord.1.symm
  · intro id word
    change Text.IsWord (Equiv.swap first second id)
    rcases cases id with rfl | rfl | same
    · rwa [Equiv.swap_apply_left]
    · rwa [Equiv.swap_apply_right]
    · rwa [same]
  · intro name known
    change Equiv.swap first second name = name
    rcases cases name with rfl | rfl | same
    · cases firstUnknown.symm.trans known
    · cases secondUnknown.symm.trans known
    · exact same
  · intro name unknown
    change registry.contains (some (Equiv.swap first second name)) = false
    rcases cases name with rfl | rfl | same
    · rwa [Equiv.swap_apply_left]
    · rwa [Equiv.swap_apply_right]
    · rwa [same]

namespace Ingestion

/--
Identifiers are opaque.  Where they are exchanged, a first run gives the same
entities under the exchanged identifiers, or it ends in a fault of the same
sort.
-/
theorem run_renamed (ingestion : Ingestion) (database : Database)
    (builtIn : ingestion.registry = .ofDatabase database) (rename : String ↪ String)
    (renames : Renames ingestion.registry rename) :
    ((ingestion.withModel (ingestion.model.renamed rename)).run.outcome .initial).1.mapError
        Fault.sort =
      ((ingestion.run.outcome .initial).1.map (Store.renamed rename)).mapError Fault.sort :=
  ingestion.run_recast_eq (.renamed builtIn rename renames)

def swapped : String ↪ String := (Equiv.swap "c" "e0").toEmbedding

/-- Lectures may go by the identifier of an end, if the end goes by theirs. -/
theorem run_renamed_lectures :
    lectures.registry = .ofDatabase .sql ∧ Renames lectures.registry swapped ∧
      ((lectures.withModel (lectures.model.renamed swapped)).run.outcome .initial).1 =
        .ok (lecturesStore.renamed swapped) ∧
      (lecturesStore.renamed swapped).classes.keys = ["e0", "u"] ∧
      (lectures.model.renamed swapped).children.filterMap (·.plain? "memberEnd") = ["c e1"] := by
  have renames : Renames lectures.registry swapped :=
    renames_swap (by decide) (by decide) (by decide +kernel) (by decide +kernel)
  have run := lectures.run_renamed .sql rfl swapped renames
  rw [run_lectures] at run
  refine ⟨rfl, renames, ?_, by decide +kernel, by decide +kernel⟩
  generalize ((lectures.withModel (lectures.model.renamed swapped)).run.outcome .initial).1 =
    result at run ⊢
  cases result with
  | ok store =>
      have same : store = lecturesStore.renamed swapped := Except.ok.inj run
      rw [same]
  | error fault => cases run

end Ingestion

end ClassDiagram
