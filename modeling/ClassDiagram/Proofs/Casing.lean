import ClassDiagram.Text.Casing
import Mathlib.Data.List.Forall2

/-!
# The theory of letter case

What the lower case of a character may be, and what follows for the names of
fields.
-/

namespace ClassDiagram.Text

/-- What a chart finds is one of its entries. -/
theorem Chart.mem_of_find? {α : Type} {code : Nat} {chart : Chart α} {entry : α}
    (found : chart.find? code = some entry) : entry ∈ chart.toList.map Prod.snd := by
  induction chart with
  | empty => cases found
  | fork below start here above ihBelow ihAbove =>
      rw [toList_fork, List.map_append, List.map_cons, List.mem_append, List.mem_cons]
      unfold find? at found
      split at found
      · cases later : above.find? code with
        | some entry' =>
            rw [later] at found
            cases found
            exact Or.inr (Or.inr (ihAbove later))
        | none =>
            rw [later] at found
            cases found
            exact Or.inr (Or.inl rfl)
      · exact Or.inl (ihBelow found)

/-- No expansion of a character is empty. -/
theorem lowerExpansions_filled {code : Nat} {expansion : Nat × List Nat}
    (found : CaseTable.lowerExpansions.find? code = some expansion) : expansion.2 ≠ [] := by
  have listed := Chart.mem_of_find? found
  rw [CaseTable.lowerExpansions, Chart.toList_ofList, List.map_map] at listed
  intro blank
  cases List.mem_singleton.mp listed
  cases blank

/-- The lower case of a character is at least one character. -/
theorem lowerChar_ne_nil (c : Char) : lowerChar c ≠ [] := by
  unfold lowerChar
  split
  · exact List.cons_ne_nil _ _
  · unfold mapCase
    split
    · rename_i first codes expanded
      obtain ⟨found, _⟩ := Option.filter_eq_some_iff.mp expanded
      intro blank
      exact lowerExpansions_filled found (List.map_eq_nil_iff.mp blank)
    · split
      · exact List.cons_ne_nil _ _
      · exact List.cons_ne_nil _ _

/-- A name does not vanish by lower-casing its first character. -/
theorem decapitalize_ne_empty {text : String} (filled : text ≠ "") : decapitalize text ≠ "" := by
  unfold decapitalize
  cases chars : text.toList with
  | nil =>
      intro _
      exact filled (String.toList_eq_nil_iff.mp chars)
  | cons c rest =>
      intro blank
      have nothing : lowerChar c ++ rest = [] :=
        String.toList_ofList.symm.trans (congrArg String.toList blank)
      exact lowerChar_ne_nil c (List.append_eq_nil_iff.mp nothing).1

/-- A text does not vanish in lower case. -/
theorem lower_ne_empty {text : String} (filled : text ≠ "") : lower text ≠ "" := by
  cases chars : text.toList with
  | nil => exact absurd (String.toList_eq_nil_iff.mp chars) filled
  | cons c rest =>
      intro blank
      have nothing := toList_lower text
      rw [blank, chars, lowerAfter] at nothing
      have first := (List.append_eq_nil_iff.mp nothing.symm).1
      split at first
      · split at first
        · cases first
        · cases first
      · exact lowerChar_ne_nil c first

/-! ## The case of ASCII letters -/

/-- What holds of the ASCII characters one by one holds of all of them. -/
theorem of_plain (p : Char → Prop) (each : ∀ code : Fin 128, p (Char.ofNat code)) {c : Char}
    (plain : c.toNat < 128) : p c := by
  have here := each ⟨c.toNat, plain⟩
  rwa [Char.ofNat_toNat] at here

/-- Characters that are equal or differ in the case of an ASCII letter alone. -/
def SameLetter (left right : Char) : Prop :=
  left = right ∨ left.toNat < 128 ∧ right.toNat < 128 ∧ left.toLower = right.toLower

instance (left right : Char) : Decidable (SameLetter left right) :=
  inferInstanceAs (Decidable (_ ∨ _ ∧ _ ∧ _))

theorem toLower_of_plain {c : Char} (plain : c.toNat < 128) :
    isCased c.toLower = isCased c ∧ isCaseIgnorable c.toLower = isCaseIgnorable c ∧
      lowerChar c.toLower = lowerChar c ∧ c ≠ 'Σ' :=
  of_plain (fun c => isCased c.toLower = isCased c ∧ isCaseIgnorable c.toLower = isCaseIgnorable c ∧
    lowerChar c.toLower = lowerChar c ∧ c ≠ 'Σ') (by decide +kernel) plain

/-- The upper case of an ASCII character is one character, the same letter, and upper case. -/
theorem upperChar_of_plain {c : Char} (plain : c.toNat < 128) :
    upperChar c = [c.toUpper] ∧ upperChar c.toUpper = [c.toUpper] ∧ SameLetter c.toUpper c :=
  of_plain (fun c => upperChar c = [c.toUpper] ∧ upperChar c.toUpper = [c.toUpper] ∧
    SameLetter c.toUpper c) (by decide +kernel) plain

/-- Where lower case looks at a character it does not tell the same letters apart. -/
theorem SameLetter.agree {left right : Char} (same : SameLetter left right) :
    isCased left = isCased right ∧ isCaseIgnorable left = isCaseIgnorable right ∧
      lowerChar left = lowerChar right ∧ (left = 'Σ' ↔ right = 'Σ') := by
  rcases same with rfl | ⟨plainLeft, plainRight, same⟩
  · exact ⟨rfl, rfl, rfl, Iff.rfl⟩
  · obtain ⟨cased, ignorable, lowered, notSigma⟩ := toLower_of_plain plainLeft
    obtain ⟨cased', ignorable', lowered', notSigma'⟩ := toLower_of_plain plainRight
    rw [← cased, ← ignorable, ← lowered, same]
    exact ⟨cased', ignorable', lowered', iff_of_false notSigma notSigma'⟩

theorem SameLetter.refl (c : Char) : SameLetter c c := Or.inl rfl

theorem meetsCased_of_sameLetters {left right : List Char}
    (same : List.Forall₂ SameLetter left right) : meetsCased left = meetsCased right := by
  induction same with
  | nil => rfl
  | @cons c c' _ _ head _ ih =>
      obtain ⟨cased, ignorable, _⟩ := head.agree
      unfold meetsCased at ih ⊢
      rw [List.dropWhile_cons, List.dropWhile_cons, ignorable]
      cases isCaseIgnorable c' with
      | true => exact ih
      | false => exact cased

theorem lowerAfter_of_sameLetters {left right before before' : List Char}
    (same : List.Forall₂ SameLetter left right)
    (sameBefore : List.Forall₂ SameLetter before before') :
    lowerAfter before left = lowerAfter before' right := by
  induction same generalizing before before' with
  | nil => rfl
  | cons head tail ih =>
      obtain ⟨_, _, lowered, sigma⟩ := head.agree
      simp only [lowerAfter, ih (.cons head sameBefore), lowered, sigma,
        meetsCased_of_sameLetters tail, meetsCased_of_sameLetters sameBefore]

/-- Lower case does not tell texts apart that differ in the case of ASCII letters alone. -/
theorem lower_of_sameLetters {left right : String}
    (same : List.Forall₂ SameLetter left.toList right.toList) : lower left = lower right := by
  rw [lower, lower, lowerAfter_of_sameLetters same .nil]

def StartsPlain (text : String) : Prop := ∀ c ∈ text.toList.head?, c.toNat < 128

instance (text : String) : Decidable (StartsPlain text) :=
  inferInstanceAs (Decidable (∀ c ∈ text.toList.head?, c.toNat < 128))

theorem capitalize_of_plain {text : String} {c : Char} {rest : List Char}
    (starts : text.toList = c :: rest) (plain : c.toNat < 128) :
    (capitalize text).toList = c.toUpper :: rest := by
  rw [capitalize, starts]
  simp [(upperChar_of_plain plain).1]

/-- Capitalizing a text that starts with an ASCII character does not change its lower case. -/
theorem lower_capitalize {text : String} (plain : StartsPlain text) :
    lower (capitalize text) = lower text := by
  apply lower_of_sameLetters
  cases starts : text.toList with
  | nil =>
      rw [String.toList_eq_nil_iff.mp starts]
      exact .nil
  | cons c rest =>
      have first : c.toNat < 128 := plain c (by rw [starts]; rfl)
      rw [capitalize_of_plain starts first]
      exact .cons (upperChar_of_plain first).2.2 (List.forall₂_same.mpr fun c _ => .refl c)

/-- Such a text is capitalized once and for all. -/
theorem capitalize_capitalize {text : String} (plain : StartsPlain text) :
    capitalize (capitalize text) = capitalize text := by
  cases starts : text.toList with
  | nil =>
      rw [String.toList_eq_nil_iff.mp starts]
      rfl
  | cons c rest =>
      have first : c.toNat < 128 := plain c (by rw [starts]; rfl)
      have once := capitalize_of_plain starts first
      rw [← String.toList_inj, once, capitalize, once]
      simp [(upperChar_of_plain first).2.1]

theorem capitalize_ne_empty {text : String} (plain : StartsPlain text) (filled : text ≠ "") :
    capitalize text ≠ "" := by
  cases starts : text.toList with
  | nil => exact absurd (String.toList_eq_nil_iff.mp starts) filled
  | cons c rest =>
      have once := capitalize_of_plain starts (plain c (by rw [starts]; rfl))
      intro blank
      rw [blank] at once
      cases once

/-! ## Texts in other letters -/

/-- Texts that differ in the case of ASCII letters alone. -/
def SameLetters (left right : String) : Prop :=
  List.Forall₂ SameLetter left.toList right.toList

theorem SameLetters.refl (text : String) : SameLetters text text :=
  List.forall₂_same.mpr fun c _ => .refl c

/-- The signs in references are no letters. -/
theorem SameLetter.eq_sign_iff {left right sign : Char} (same : SameLetter left right)
    (isSign : sign = '#' ∨ sign = '/') : left = sign ↔ right = sign := by
  rcases same with rfl | ⟨plainLeft, plainRight, same⟩
  · exact Iff.rfl
  · have stays {c : Char} (plain : c.toNat < 128) : c.toLower = sign ↔ c = sign :=
      of_plain (fun c => c.toLower = sign ↔ c = sign)
        (by rcases isSign with rfl | rfl <;> decide +kernel) plain
    rw [← stays plainLeft, same, stays plainRight]

theorem SameLetter.upperChar_eq {left right : Char} (same : SameLetter left right) :
    upperChar left = upperChar right := by
  rcases same with rfl | ⟨plainLeft, plainRight, same⟩
  · rfl
  · have raised {c : Char} (plain : c.toNat < 128) : c.toLower.toUpper = c.toUpper :=
      of_plain (fun c => c.toLower.toUpper = c.toUpper) (by decide +kernel) plain
    rw [(upperChar_of_plain plainLeft).1, (upperChar_of_plain plainRight).1, ← raised plainLeft,
      same, raised plainRight]

theorem toList_capitalize (text : String) : (capitalize text).toList =
    (text.toList.head?.elim [] upperChar) ++ text.toList.tail := by
  unfold capitalize
  cases text.toList <;> simp

/-- Texts in other letters are capitalized to texts in other letters. -/
theorem SameLetters.capitalize {left right : String} (same : SameLetters left right) :
    SameLetters (capitalize left) (capitalize right) := by
  unfold SameLetters at same ⊢
  rw [toList_capitalize, toList_capitalize]
  generalize left.toList = chars at same
  generalize right.toList = others at same
  cases same with
  | nil => exact .nil
  | cons first rest =>
      have stays (chars : List Char) : List.Forall₂ SameLetter chars chars :=
        List.forall₂_same.mpr fun c _ => .refl c
      dsimp only [List.head?_cons, Option.elim_some, List.tail_cons]
      rw [first.upperChar_eq]
      exact List.rel_append (stays _) rest

theorem SameLetters.isEmpty_eq {left right : String} (same : SameLetters left right) :
    left.isEmpty = right.isEmpty := by
  rw [Bool.eq_iff_iff, String.isEmpty_iff, String.isEmpty_iff, ← String.toList_eq_nil_iff,
    ← String.toList_eq_nil_iff, ← List.length_eq_zero_iff, ← List.length_eq_zero_iff,
    List.Forall₂.length_eq same]

end ClassDiagram.Text
