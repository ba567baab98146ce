import ClassDiagram.Associations
import ClassDiagram.Proofs.Blanks
import ClassDiagram.Proofs.Lookups
import ClassDiagram.Proofs.Steps

/-!
# Cardinalities read from bounds

A whole number is read back from its decimal digits, so the upper bound of an
end tells whether the end allows many objects, and the bounds of both ends
tell the cardinality between them.
-/

namespace ClassDiagram

open Xml (Name Node)

/-! ## Numbers written in decimal digits -/

namespace Text

/-- The decimal digits of a number, after a minus sign if it is taken as negative. -/
def decimal (negative : Bool) (magnitude : Nat) : String :=
  (if negative then "-" else "") ++ magnitude.repr

def signed (negative : Bool) (magnitude : Nat) : Int := if negative then -magnitude else magnitude

/-- The code points of the decimal digits. -/
theorem code_of_isDigit {c : Char} (digit : c.isDigit = true) : 48 ≤ c.toNat ∧ c.toNat ≤ 57 :=
  Char.isDigit_iff_toNat.mp digit

theorem isBlank_of_isDigit {c : Char} (digit : c.isDigit = true) : isBlank c = false := by
  obtain ⟨least, most⟩ := code_of_isDigit digit
  simp only [isBlank, Bool.or_eq_false_iff, Bool.and_eq_false_iff, decide_eq_false_iff_not,
    beq_eq_false_iff_ne]
  omega

theorem digit?_of_isDigit {c : Char} (digit : c.isDigit = true) :
    digit? c = some (c.toNat - 48) := by
  have plain : c.toNat < 128 := Nat.lt_of_le_of_lt (code_of_isDigit digit).2 (by decide)
  rw [digit?, if_pos plain, if_pos digit]

theorem digits?_of_isDigit {chars : List Char} (filled : chars ≠ [])
    (digits : ∀ c ∈ chars, c.isDigit = true) :
    digits? chars = some (chars.map fun c => c.toNat - 48) := by
  induction chars with
  | nil => exact absurd rfl filled
  | cons c rest ih =>
      have first := digit?_of_isDigit (digits c List.mem_cons_self)
      cases rest with
      | nil => rw [digits?, first, Option.map_some, List.map_singleton]
      | cons next rest =>
          have others := ih (List.cons_ne_nil _ _) fun d inside =>
            digits d (List.mem_cons_of_mem _ inside)
          have joined : next ≠ '_' := by
            rintro rfl
            cases digits '_' (List.mem_cons_of_mem _ List.mem_cons_self)
          rw [digits?.eq_4 _ _ _ joined, first, others]
          rfl

theorem ofDigits_codes (chars : List Char) :
    ofDigits (chars.map fun c => c.toNat - 48) = Nat.ofDigitChars 10 chars 0 := by
  rw [ofDigits, List.foldl_map]
  rfl

/-- A number is read back from its digits, as long as there are not too many. -/
theorem natural?_toDigits {magnitude : Nat}
    (short : (Nat.toDigits 10 magnitude).length ≤ maxDigits) :
    natural? (Nat.toDigits 10 magnitude) = some magnitude := by
  have digits := digits?_of_isDigit Nat.toDigits_ne_nil fun c inside =>
    Nat.isDigit_of_mem_toDigits (b := 10) (n := magnitude) (by decide) (by decide) inside
  rw [natural?, digits]
  dsimp only
  rw [if_pos (by rwa [List.length_map]), ofDigits_codes,
    Nat.ofDigitChars_toDigits (by decide) (by decide)]

theorem toList_decimal (negative : Bool) (magnitude : Nat) :
    (decimal negative magnitude).toList =
      (if negative then ['-'] else []) ++ Nat.toDigits 10 magnitude := by
  rw [decimal, String.toList_append, Nat.toList_repr]
  cases negative <;> rfl

theorem decimal_solid (negative : Bool) (magnitude : Nat) :
    ∀ c ∈ (decimal negative magnitude).toList, isBlank c = false := by
  rw [toList_decimal]
  intro c inside
  rcases List.mem_append.mp inside with sign | digit
  · cases negative with
    | true =>
        cases List.mem_singleton.mp sign
        decide
    | false => cases sign
  · exact isBlank_of_isDigit (Nat.isDigit_of_mem_toDigits (by decide) (by decide) digit)

/-- A whole number is read back from its decimal text. -/
theorem integer?_decimal (negative : Bool) {magnitude : Nat}
    (short : (Nat.toDigits 10 magnitude).length ≤ maxDigits) :
    integer? (decimal negative magnitude) = some (signed negative magnitude) := by
  have read := natural?_toDigits short
  have bare := isBare_of_solid (decimal_solid negative magnitude)
  rw [integer?, stripChars_of_bare bare, toList_decimal]
  cases negative with
  | true =>
      change Option.map (fun value : Int => -value)
        (do let value ← natural? (Nat.toDigits 10 magnitude); pure (value : Int)) = _
      rw [read]
      rfl
  | false =>
      -- The first character is a digit, so it is taken for no sign.
      rw [if_neg Bool.false_ne_true, List.nil_append]
      have digits : ∀ c ∈ Nat.toDigits 10 magnitude, c.isDigit = true := fun c inside =>
        Nat.isDigit_of_mem_toDigits (by decide) (by decide) inside
      split
      · rename_i shape
        rw [shape] at digits
        cases digits '-' List.mem_cons_self
      · rename_i shape
        rw [shape] at digits
        cases digits '+' List.mem_cons_self
      · rw [read]
        rfl

end Text

/-! ## Bounds -/

/-- What the text of a bound says: there is none, or it is a whole number. -/
inductive BoundText where
  | unlimited
  | number (negative : Bool) (magnitude : Nat)

namespace BoundText

def written : BoundText → String
  | .unlimited => "*"
  | .number negative magnitude => Text.decimal negative magnitude

/-- A number of at most 4300 digits, or no bound at all. -/
def IsShort : BoundText → Prop
  | .unlimited => True
  | .number _ magnitude => (Nat.toDigits 10 magnitude).length ≤ 4300

/-- Whether there may be many objects: no bound, the number minus one, or one above one. -/
def allowsMany : BoundText → Bool
  | .unlimited => true
  | .number negative magnitude =>
      Text.signed negative magnitude = -1 || Text.signed negative magnitude > 1

end BoundText

theorem Text.decimal_of_signed {negative : Bool} {magnitude : Nat}
    (minusOne : signed negative magnitude = -1) : decimal negative magnitude = "-1" := by
  unfold signed at minusOne
  cases negative with
  | true =>
      have one : magnitude = 1 := by
        simp only [if_true] at minusOne
        omega
      rw [one]
      rfl
  | false =>
      simp only [Bool.false_eq_true, if_false] at minusOne
      omega

/-- A bound is read as it is written, whatever white space stands around it. -/
theorem Bound.ofText_written {said : BoundText} {text : String} (short : said.IsShort)
    (padded : Text.IsPadded said.written text) :
    Bound.ofText text = if said.allowsMany then .many else .one := by
  cases said with
  | unlimited =>
      have star : Text.IsWord "*" := by decide
      rw [Bound.ofText, padded.strip_eq (Text.isBare_of_solid star.2)]
      rfl
  | number negative magnitude =>
      have stripped := padded.strip_eq (Text.isBare_of_solid (Text.decimal_solid _ _))
      have read := Text.integer?_decimal negative short
      unfold Bound.ofText BoundText.allowsMany
      simp only [stripped, BoundText.written, Bool.or_eq_true, decide_eq_true_eq]
      by_cases minusOne : Text.signed negative magnitude = -1
      · rw [if_pos (Or.inr (Text.decimal_of_signed minusOne)), if_pos (Or.inl minusOne)]
      · have unmarked : ¬ (Text.decimal negative magnitude = "*" ∨
            Text.decimal negative magnitude = "-1") := by
          rintro (marked | marked)
          · rw [marked] at read
            cases read
          · rw [marked] at read
            exact minusOne (Option.some.inj read).symm
        rw [if_neg unmarked, read]
        simp [minusOne]

/-! ## Ends -/

/-- No name is broken among the children before the first one with a local name. -/
def IsClearUpTo (tag : String) (children : List Node) : Prop :=
  ∀ child ∈ children.takeWhile fun child => child.name?.bind Name.localPart? ≠ some tag,
    ∀ name, child.name? = some name → name.localPart? ≠ none

/-- The first child with a local name is found unless a broken name stands before it. -/
theorem firstOf_selectFrom (tag : String) (children : List Node) :
    (IsClearUpTo tag children ∧ firstOf (Node.selectFrom tag children) =
      .ok (children.find? fun child => child.name?.bind Name.localPart? = some tag)) ∨
    (¬ IsClearUpTo tag children ∧
      firstOf (Node.selectFrom tag children) = .error .brokenName) := by
  induction children with
  | nil => exact Or.inl ⟨fun _ => nofun, rfl⟩
  | cons child rest ih =>
      by_cases named : child.name?.bind Name.localPart? = some tag
      · refine Or.inl ⟨?_, ?_⟩
        · unfold IsClearUpTo
          rw [List.takeWhile_cons_of_neg (by simpa using named)]
          exact fun _ => nofun
        · rw [selectFrom_of_named named, List.find?_cons_of_pos (by simpa using named)]
          rfl
      · have clear : IsClearUpTo tag (child :: rest) ↔
            (∀ name, child.name? = some name → name.localPart? ≠ none) ∧
              IsClearUpTo tag rest := by
          unfold IsClearUpTo
          rw [List.takeWhile_cons_of_pos (by simpa using named), List.forall_mem_cons]
        rw [clear, List.find?_cons_of_neg (by simpa using named)]
        by_cases sound : ∀ name, child.name? = some name → name.localPart? ≠ none
        · have passed : IsPassed tag child := by
            intro name isNamed
            obtain ⟨base, found⟩ := Option.ne_none_iff_exists'.mp (sound name isNamed)
            refine ⟨base, found, fun same => named ?_⟩
            rw [isNamed, Option.bind_some, found, same]
          rw [selectFrom_of_passed passed, and_iff_right sound]
          exact ih
        · refine Or.inr ⟨fun both => sound both.1, ?_⟩
          cases child with
          | comment text => exact absurd (fun _ => nofun) sound
          | element name attributes text children =>
              rw [Node.selectFrom]
              cases broken : name.localPart? with
              | none => rfl
              | some base =>
                  refine absurd (fun other same => ?_) sound
                  cases same
                  simp [broken]

def boundElement? (side : Node) : Option Node :=
  side.children.find? fun child => child.name?.bind Name.localPart? = some "upperValue"

/-- What an end shows about its upper bound, and whether it allows many objects by that. -/
inductive Shows (side : Node) : Bool → Prop where
  | unbounded (absent : boundElement? side = none) : Shows side false
  | unvalued {upper : Node} (first : boundElement? side = some upper)
      (absent : upper.plain? "value" = none) : Shows side false
  | valued {upper : Node} {text : String} {said : BoundText}
      (first : boundElement? side = some upper) (valued : upper.plain? "value" = some text)
      (padded : Text.IsPadded said.written text) (short : said.IsShort) :
      Shows side said.allowsMany

variable {side first second : Node} {many manyFirst manySecond : Bool}

theorem Shows.upperBound (shows' : Shows side many)
    (clear : IsClearUpTo "upperValue" side.children) :
    upperBound side = .ok (if many then .many else .one) := by
  have found : firstOf (side.select "upperValue") = .ok (boundElement? side) := by
    rcases firstOf_selectFrom "upperValue" side.children with ⟨_, found⟩ | ⟨unclear, _⟩
    · exact found
    · exact absurd clear unclear
  unfold ClassDiagram.upperBound
  rw [found]
  cases shows' with
  | unbounded absent =>
      rw [absent]
      rfl
  | unvalued first absent =>
      rw [first]
      change Except.ok (Bound.ofText ((Node.plain? _ "value").getD "1")) = _
      rw [absent]
      rfl
  | valued first valued padded short =>
      rw [first]
      change Except.ok (Bound.ofText ((Node.plain? _ "value").getD "1")) = _
      rw [valued, Option.getD_some, Bound.ofText_written short padded]

theorem upperBound_of_unclear (unclear : ¬ IsClearUpTo "upperValue" side.children) :
    upperBound side = .error .brokenName := by
  have broken : firstOf (side.select "upperValue") = .error .brokenName := by
    rcases firstOf_selectFrom "upperValue" side.children with ⟨clear, _⟩ | ⟨_, broken⟩
    · exact absurd clear unclear
    · exact broken
  unfold upperBound
  rw [broken]
  rfl

theorem Shows.isMany (shows' : Shows side many)
    (clear : IsClearUpTo "upperValue" side.children) : isMany side = .ok many := by
  unfold ClassDiagram.isMany
  rw [shows'.upperBound clear]
  cases many <;> rfl

/-- A bound that can be read is not told of. -/
theorem Shows.sideIsMany (shows' : Shows side many)
    (clear : IsClearUpTo "upperValue" side.children) (p : Progress) :
    Associations.sideIsMany side p = .ok many p := by
  unfold Associations.sideIsMany
  rw [shows'.upperBound clear]
  cases many <;> rfl

/--
The cardinality between two ends of which it is known whether they allow many
objects, looked up or taken as a step, which then leaves everything as it is.
-/
def Relates (first second : Node) (manyFirst manySecond : Bool) : Prop :=
  ∃ cardinality, cardinalityBetween first second = .ok cardinality ∧
    (∀ p, Associations.cardinality first second p = .ok cardinality p) ∧
    (cardinality = .manyToMany ↔ manyFirst = true ∧ manySecond = true) ∧
    (cardinality = .oneToMany ↔ manyFirst = true ∧ manySecond = false) ∧
    (cardinality = .manyToOne ↔ manyFirst = false ∧ manySecond = true) ∧
    (cardinality = .oneToOne ↔ manyFirst = false ∧ manySecond = false)

/--
The bounds that two ends show decide the cardinality between them, if and only
if no broken name stands before them.
-/
theorem relates_iff (showsFirst : Shows first manyFirst) (showsSecond : Shows second manySecond) :
    Relates first second manyFirst manySecond ↔
      IsClearUpTo "upperValue" first.children ∧ IsClearUpTo "upperValue" second.children := by
  constructor
  · rintro ⟨_, between, _⟩
    obtain ⟨_, many, rest⟩ := Fault.bind_eq_ok.mp between
    obtain ⟨_, manyAlso, _⟩ := Fault.bind_eq_ok.mp rest
    have clear {side : Node} {allowed : Bool} (read : isMany side = .ok allowed) :
        IsClearUpTo "upperValue" side.children := by
      rcases firstOf_selectFrom "upperValue" side.children with ⟨clear, _⟩ | ⟨unclear, _⟩
      · exact clear
      · unfold isMany at read
        rw [upperBound_of_unclear unclear] at read
        cases read
    exact ⟨clear many, clear manyAlso⟩
  · rintro ⟨clearFirst, clearSecond⟩
    refine ⟨.ofSides manyFirst manySecond, ?_, fun p => ?_, ?_⟩
    · unfold cardinalityBetween
      rw [showsFirst.isMany clearFirst, showsSecond.isMany clearSecond]
      rfl
    · unfold Associations.cardinality
      rw [Step.bind_of_ok (showsFirst.sideIsMany clearFirst p),
        Step.bind_of_ok (showsSecond.sideIsMany clearSecond p)]
      rfl
    · cases manyFirst <;> cases manySecond <;> decide

/-- An end for up to twelve objects, which says so after a remark and its lower bound. -/
def shelfEnd : Node :=
  umlElement "ownedEnd" [] [] [
    .comment "a shelf is full with twelve books",
    umlElement "lowerValue" [("id", "l")] [("value", "1")] [],
    umlElement "upperValue" [("id", "u")] [("value", "\t12 ")] []]

/-- An end with two bounds, the first of which says nothing. -/
def bookEnd : Node :=
  umlElement "ownedEnd" [] [] [
    umlElement "upperValue" [("id", "u")] [] [],
    umlElement "upperValue" [("id", "w")] [("value", "*")] []]

theorem relates_iff_shelf :
    Shows shelfEnd true ∧ Shows bookEnd false ∧ Relates shelfEnd bookEnd true false := by
  have shelf : Shows shelfEnd true := by
    have padded : Text.IsPadded (BoundText.number false 12).written "\t12 " :=
      ⟨['\t'], [' '], by decide, by decide, by decide⟩
    have short : (BoundText.number false 12).IsShort := by
      change (Nat.toDigits 10 12).length ≤ 4300
      decide
    exact .valued rfl rfl padded short
  have book : Shows bookEnd false := .unvalued rfl rfl
  refine ⟨shelf, book, (relates_iff shelf book).mpr ⟨?_, ?_⟩⟩ <;>
    · unfold IsClearUpTo
      decide

/-- An end without a bound that holds a child with a broken name. -/
def notedEnd : Node := umlElement "ownedEnd" [] [] [brokenElement]

/-- Where a name is broken there is no cardinality, although both ends show that they allow one. -/
theorem not_relates_noted :
    Shows notedEnd false ∧ ¬ Relates notedEnd notedEnd false false ∧
      cardinalityBetween notedEnd notedEnd = .error .brokenName := by
  refine ⟨.unbounded rfl, ?_, rfl⟩
  rintro ⟨_, between, _⟩
  cases between

end ClassDiagram
