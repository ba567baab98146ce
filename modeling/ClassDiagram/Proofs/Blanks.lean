import ClassDiagram.Text.Blank

/-!
# The theory of white space

What stripping leaves of a text that stands between white space, and which
words are read from a text that is written word by word.
-/

namespace ClassDiagram.Text

def AllBlank (chars : List Char) : Prop := ∀ c ∈ chars, isBlank c = true

-- The characters in the list are gone through, never all characters there are.
instance (chars : List Char) : Decidable (AllBlank chars) := List.decidableBAll _ _

/-- Characters that neither begin nor end with white space. -/
structure IsBare (chars : List Char) : Prop where
  begins : ∀ c ∈ chars.head?, isBlank c = false
  ends : ∀ c ∈ chars.getLast?, isBlank c = false

/-! ## Stripping -/

theorem IsBare.reverse {chars : List Char} (bare : IsBare chars) : IsBare chars.reverse := by
  refine ⟨?_, ?_⟩
  · rw [List.head?_reverse]
    exact bare.ends
  · rw [List.getLast?_reverse]
    exact bare.begins

theorem isBare_of_solid {chars : List Char} (solid : ∀ c ∈ chars, isBlank c = false) :
    IsBare chars :=
  ⟨fun c first => solid c (List.mem_of_mem_head? first),
    fun c last => solid c (List.mem_of_getLast? last)⟩

theorem stripLeft_append {gap : List Char} (blank : AllBlank gap) (chars : List Char) :
    stripLeft (gap ++ chars) = stripLeft chars :=
  List.dropWhile_append_of_pos blank

theorem stripLeft_of_begins {chars : List Char} (begins : ∀ c ∈ chars.head?, isBlank c = false) :
    stripLeft chars = chars := by
  cases chars with
  | nil => rfl
  | cons c rest => exact List.dropWhile_cons_of_neg (by simp [begins c rfl])

/-- Of what stands between white space, stripping leaves all of it and nothing else. -/
theorem stripChars_between {left body right : List Char} (blankLeft : AllBlank left)
    (blankRight : AllBlank right) (bare : IsBare body) :
    stripChars (left ++ body ++ right) = body := by
  unfold stripChars
  cases body with
  | nil =>
      rw [List.append_nil, stripLeft_append blankLeft, ← List.append_nil right,
        stripLeft_append blankRight]
      rfl
  | cons c rest =>
      have blank : AllBlank right.reverse := fun d inside => blankRight d (by simpa using inside)
      have begun : stripLeft (c :: rest ++ right) = c :: rest ++ right :=
        stripLeft_of_begins bare.begins
      rw [List.append_assoc, stripLeft_append blankLeft, begun, List.reverse_append,
        stripLeft_append blank, stripLeft_of_begins bare.reverse.begins, List.reverse_reverse]

theorem stripChars_of_bare {chars : List Char} (bare : IsBare chars) :
    stripChars chars = chars := by
  have nothing : AllBlank [] := fun _ => nofun
  have between := stripChars_between nothing nothing bare
  rwa [List.nil_append, List.append_nil] at between

/-- What stripping leaves neither begins nor ends with white space. -/
theorem isBare_stripChars (chars : List Char) : IsBare (stripChars chars) := by
  have begins (chars : List Char) : ∀ c ∈ (stripLeft chars).head?, isBlank c = false := by
    intro c first
    have stopped := List.head?_dropWhile_not isBlank chars
    rw [← stripLeft, first] at stopped
    exact stopped
  unfold stripChars
  refine ⟨?_, ?_⟩
  · -- The reversed rest is a suffix of reversed characters, so both end alike.
    intro c first
    rw [List.head?_reverse] at first
    obtain ⟨front, shape⟩ := List.getLast?_eq_some_iff.mp first
    have kept := List.dropWhile_suffix (l := (stripLeft chars).reverse) isBlank
    rw [← stripLeft, shape] at kept
    obtain ⟨dropped, whole⟩ := kept
    apply begins chars
    rw [← List.getLast?_reverse, ← whole, ← List.append_assoc, List.getLast?_concat]
    rfl
  · intro c last
    rw [List.getLast?_reverse] at last
    exact begins _ c last

/-- A text that is another one with white space around it, if with anything. -/
def IsPadded (body text : String) : Prop :=
  ∃ left right, AllBlank left ∧ AllBlank right ∧ text.toList = left ++ body.toList ++ right

theorem IsPadded.strip_eq {body text : String} (padded : IsPadded body text)
    (bare : IsBare body.toList) : strip text = body := by
  obtain ⟨left, right, blankLeft, blankRight, shape⟩ := padded
  rw [strip, shape, stripChars_between blankLeft blankRight bare, String.ofList_toList]

/-- A text is padded around what stripping leaves of it. -/
theorem isPadded_strip (text : String) : IsPadded (strip text) text := by
  have blank (chars : List Char) : AllBlank (chars.takeWhile isBlank) :=
    List.all_eq_true.mp List.all_takeWhile
  have cut (chars : List Char) : chars.takeWhile isBlank ++ stripLeft chars = chars :=
    List.takeWhile_append_dropWhile
  refine ⟨text.toList.takeWhile isBlank,
    ((stripLeft text.toList).reverse.takeWhile isBlank).reverse,
    blank _, fun c inside => blank _ c (List.mem_reverse.mp inside), ?_⟩
  rw [strip, String.toList_ofList, stripChars, List.append_assoc, ← List.reverse_append, cut,
    List.reverse_reverse, cut]

theorem isBare_strip (text : String) : IsBare (strip text).toList := by
  rw [strip, String.toList_ofList]
  exact isBare_stripChars _

theorem strip_of_bare {text : String} (bare : IsBare text.toList) : strip text = text := by
  rw [strip, stripChars_of_bare bare, String.ofList_toList]

/-! ## Words -/

/-- A text that is one word: it is not empty, and it holds no white space. -/
def IsWord (text : String) : Prop := text ≠ "" ∧ ∀ c ∈ text.toList, isBlank c = false

instance decidableIsWord (text : String) : Decidable (IsWord text) :=
  @instDecidableAnd _ _ _ (List.decidableBAll _ _)

theorem wordsFrom_append {front : List Char} (solid : ∀ c ∈ front, isBlank c = false)
    (word rest : List Char) :
    wordsFrom word (front ++ rest) = wordsFrom (front.reverse ++ word) rest := by
  induction front generalizing word with
  | nil => rfl
  | cons c front ih =>
      rw [List.cons_append, wordsFrom_solid word _ (solid c List.mem_cons_self),
        ih fun d inside => solid d (List.mem_cons_of_mem _ inside), List.reverse_cons,
        List.append_assoc, List.singleton_append]

/--
Characters that are words written in order: white space may stand before the
first word and after the last one, and some stands between any two.
-/
inductive Spells : List String → List Char → Prop where
  | gap {gap : List Char} (blank : AllBlank gap) : Spells [] gap
  | word {gap rest : List Char} {word : String} {others : List String} (blank : AllBlank gap)
      (spells : Spells others rest) (apart : ∀ c ∈ rest.head?, isBlank c = true) :
      Spells (word :: others) (gap ++ word.toList ++ rest)

theorem wordsFrom_gap {gap : List Char} (blank : AllBlank gap) (rest : List Char) :
    wordsFrom [] (gap ++ rest) = wordsFrom [] rest := by
  induction gap with
  | nil => rfl
  | cons c gap ih =>
      rw [List.cons_append, wordsFrom_blank [] _ (blank c List.mem_cons_self), endWord_nil,
        ih fun d inside => blank d (List.mem_cons_of_mem _ inside)]

/-- A word is read to its end where white space follows it, or nothing at all. -/
theorem wordsFrom_word {word : String} (isWord : IsWord word) {rest : List Char}
    (apart : ∀ c ∈ rest.head?, isBlank c = true) :
    wordsFrom [] (word.toList ++ rest) = word :: wordsFrom [] rest := by
  have closed (words : List String) : endWord word.toList.reverse words = word :: words := by
    have filled : word.toList.reverse.isEmpty = false := by simpa using isWord.1
    rw [endWord, filled, if_neg Bool.false_ne_true, List.reverse_reverse, String.ofList_toList]
  rw [wordsFrom_append isWord.2, List.append_nil]
  cases rest with
  | nil => exact closed []
  | cons c rest =>
      have blank := apart c rfl
      rw [wordsFrom_blank _ _ blank, wordsFrom_blank _ _ blank, endWord_nil]
      exact closed _

/-- Words written in order are read again. -/
theorem Spells.words_eq {words : List String} {text : String} (spells : Spells words text.toList)
    (areWords : ∀ word ∈ words, IsWord word) : Text.words text = words := by
  unfold Text.words
  generalize text.toList = chars at spells
  induction spells with
  | @gap gap blank =>
      have read := wordsFrom_gap blank []
      rw [List.append_nil] at read
      exact read
  | @word gap rest word others blank _ apart ih =>
      rw [List.append_assoc, wordsFrom_gap blank, wordsFrom_word (areWords word List.mem_cons_self)
        apart, ih fun other inside => areWords other (List.mem_cons_of_mem _ inside)]

theorem Spells.after_blank {words : List String} {chars : List Char} {c : Char}
    (spells : Spells words chars) (blank : isBlank c = true) : Spells words (c :: chars) := by
  have more {gap : List Char} (rest : AllBlank gap) : AllBlank (c :: gap) :=
    List.forall_mem_cons.mpr ⟨blank, rest⟩
  cases spells with
  | gap rest => exact .gap (more rest)
  | word rest others apart => exact .word (more rest) others apart

theorem isWord_ofList_reverse {word : List Char} (filled : word ≠ [])
    (solid : ∀ c ∈ word, isBlank c = false) : IsWord (String.ofList word.reverse) := by
  refine ⟨?_, fun c inside => solid c ?_⟩
  · rw [Ne, ← String.toList_eq_nil_iff, String.toList_ofList, List.reverse_eq_nil_iff]
    exact filled
  · rwa [String.toList_ofList, List.mem_reverse] at inside

/-- What is read as words is written word by word, and the word under way is the first of them. -/
theorem spells_wordsFrom {word : List Char} (solid : ∀ c ∈ word, isBlank c = false)
    (chars : List Char) :
    Spells (wordsFrom word chars) (word.reverse ++ chars) ∧
      ∀ read ∈ wordsFrom word chars, IsWord read := by
  -- A word that ends is the first one before the words that are spelled by the rest.
  have ends {word rest : List Char} {words : List String} (solid : ∀ c ∈ word, isBlank c = false)
      (spells : Spells words rest ∧ ∀ read ∈ words, IsWord read)
      (apart : ∀ c ∈ rest.head?, isBlank c = true) :
      Spells (endWord word words) (word.reverse ++ rest) ∧
        ∀ read ∈ endWord word words, IsWord read := by
    unfold endWord
    split
    · rename_i empty
      rw [List.isEmpty_iff.mp empty]
      exact spells
    · rename_i filled
      have isWord := isWord_ofList_reverse (fun empty => filled (List.isEmpty_iff.mpr empty)) solid
      refine ⟨?_, List.forall_mem_cons.mpr ⟨isWord, spells.2⟩⟩
      have first := @Spells.word [] _ (String.ofList word.reverse) _ (fun _ => nofun) spells.1 apart
      rwa [String.toList_ofList, List.nil_append] at first
  induction chars generalizing word with
  | nil => exact ends solid ⟨.gap fun _ => nofun, fun _ => nofun⟩ fun _ => nofun
  | cons c rest ih =>
      cases blank : isBlank c with
      | true =>
          rw [wordsFrom_blank _ _ blank]
          have others := @ih [] fun _ => nofun
          refine ends solid ⟨others.1.after_blank blank, others.2⟩ ?_
          rintro _ ⟨⟩
          exact blank
      | false =>
          rw [wordsFrom_solid _ _ blank]
          have others := ih (List.forall_mem_cons.mpr ⟨blank, solid⟩)
          rwa [List.reverse_cons, List.append_assoc, List.singleton_append] at others

/-- A text is written by its words. -/
theorem spells_words (text : String) :
    Spells (words text) text.toList ∧ ∀ word ∈ words text, IsWord word :=
  @spells_wordsFrom [] (fun _ => nofun) text.toList

end ClassDiagram.Text
