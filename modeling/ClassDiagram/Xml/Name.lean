import ClassDiagram.Text.Casing

/-!
# Names of elements and attributes

A name is plain, or it carries a namespace in braces before its local part.
A name whose opening brace is never closed has no local part.  Names and their
written forms determine each other.
-/

namespace ClassDiagram.Xml

/-- A namespace in a name: the first closing brace after it ends it, so it holds none. -/
@[ext] structure Space where
  text : String
  unended : text.toList.contains '\x7d' = false
  deriving DecidableEq, Repr

def Space.of? (text : String) : Option Space :=
  if unended : text.toList.contains '\x7d' = false then some ⟨text, unended⟩ else none

/-- The namespace that stands before the first closing brace, or before the end. -/
def Space.upTo (written : List Char) : Space where
  text := String.ofList (written.takeWhile (· != '\x7d'))
  unended := by
    rw [String.toList_ofList, ← Bool.not_eq_true, List.contains_iff_mem]
    intro inside
    simpa using List.all_eq_true.mp List.all_takeWhile _ inside

instance : Inhabited Space := ⟨.upTo []⟩

theorem Space.ne_of_mem {space : Space} {c : Char} (inside : c ∈ space.text.toList) :
    (c != '\x7d') = true := by
  have unended := space.unended
  rw [← Bool.not_eq_true, List.contains_iff_mem] at unended
  exact bne_iff_ne.mpr fun same => unended (same ▸ inside)

theorem Space.takeWhile_append (space : Space) (rest : List Char) :
    (space.text.toList ++ rest).takeWhile (· != '\x7d') =
      space.text.toList ++ rest.takeWhile (· != '\x7d') :=
  List.takeWhile_append_of_pos fun _ inside => space.ne_of_mem inside

theorem Space.dropWhile_append (space : Space) (rest : List Char) :
    (space.text.toList ++ rest).dropWhile (· != '\x7d') = rest.dropWhile (· != '\x7d') :=
  List.dropWhile_append_of_pos fun _ inside => space.ne_of_mem inside

theorem Space.upTo_append (space : Space) {rest : List Char}
    (ended : rest.takeWhile (· != '\x7d') = []) :
    Space.upTo (space.text.toList ++ rest) = space := by
  refine Space.ext ?_
  change String.ofList _ = space.text
  rw [space.takeWhile_append, ended, List.append_nil, String.ofList_toList]

def isBare (text : String) : Bool := text.toList.head? != some '\x7b'

/-- A text with the usual label for XMI opens with the label. -/
theorem isBare_labelled (base : String) : isBare ("xmi:" ++ base) = true := by
  rw [isBare, String.toList_append]
  rfl

inductive Name where
  | plain (base : String) (bare : isBare base = true := by decide)
  | qualified (space : Space) (base : String)
  | unclosed (rest : Space)
  deriving DecidableEq, Repr

namespace Name

def ofText (text : String) : Name :=
  if bare : isBare text = true then .plain text bare
  else
    let rest := text.toList.tail
    match rest.dropWhile (· != '\x7d') with
    | _ :: base => .qualified (.upTo rest) (String.ofList base)
    | [] => .unclosed (.upTo rest)

def bare? (base : String) : Option Name :=
  if bare : isBare base = true then some (.plain base bare) else none

def toText : Name → String
  | .plain base _ => base
  | .qualified space base => "\x7b" ++ space.text ++ "\x7d" ++ base
  | .unclosed rest => "\x7b" ++ rest.text

instance : Inhabited Name := ⟨.ofText ""⟩

def localPart? : Name → Option String
  | .plain base _ => some base
  | .qualified _ base => some base
  | .unclosed _ => none

def space? : Name → Option (Space × String)
  | .plain _ _ => none
  | .qualified space base => some (space, base)
  | .unclosed rest => some (rest, "")

@[simp] theorem localPart?_plain (base : String) (bare : isBare base = true) :
    (plain base bare).localPart? = some base := rfl

@[simp] theorem localPart?_qualified (space : Space) (base : String) :
    (qualified space base).localPart? = some base := rfl

@[simp] theorem localPart?_unclosed (rest : Space) : (unclosed rest).localPart? = none := rfl

@[simp] theorem toText_plain (base : String) (bare : isBare base = true) :
    (plain base bare).toText = base := rfl

theorem localPart?_of_bare {base : String} {name : Name} (found : bare? base = some name) :
    name.localPart? = some base := by
  unfold bare? at found
  split at found <;> cases found
  rfl

/-! ## Names and their written forms -/

theorem ofText_of_bare {text : String} (bare : isBare text = true) :
    ofText text = .plain text bare := dif_pos bare

theorem ofText_of_opened {text : String} {rest : List Char}
    (opened : text.toList = '\x7b' :: rest) :
    ofText text = match rest.dropWhile (· != '\x7d') with
      | _ :: base => .qualified (.upTo rest) (String.ofList base)
      | [] => .unclosed (.upTo rest) := by
  have unbare : ¬ isBare text = true := by
    rw [isBare, opened]
    simp
  rw [ofText, dif_neg unbare, opened]
  rfl

/-- A name is read back from its written form. -/
theorem ofText_toText (name : Name) : ofText name.toText = name := by
  cases name with
  | plain base bare => exact ofText_of_bare bare
  | qualified space base =>
      have opened : (qualified space base).toText.toList =
          '\x7b' :: (space.text.toList ++ '\x7d' :: base.toList) := by
        simp [toText, String.toList_append]
      rw [ofText_of_opened opened, space.dropWhile_append, space.upTo_append rfl]
      exact congrArg (qualified space) String.ofList_toList
  | unclosed rest =>
      have opened : (unclosed rest).toText.toList = '\x7b' :: (rest.text.toList ++ []) := by
        simp [toText, String.toList_append]
      rw [ofText_of_opened opened, rest.dropWhile_append, rest.upTo_append rfl]
      rfl

/-- What is read as a name is written as it was. -/
theorem toText_ofText (text : String) : (ofText text).toText = text := by
  by_cases bare : isBare text = true
  · rw [ofText_of_bare bare]
    rfl
  · have opened : ∃ rest, text.toList = '\x7b' :: rest := by
      cases shape : text.toList with
      | nil => simp [isBare, shape] at bare
      | cons c rest => exact ⟨rest, by simpa [isBare, shape] using bare⟩
    obtain ⟨rest, opened⟩ := opened
    have whole : rest.takeWhile (· != '\x7d') ++ rest.dropWhile (· != '\x7d') = rest :=
      List.takeWhile_append_dropWhile
    rw [ofText_of_opened opened, ← String.toList_inj, opened]
    cases after : rest.dropWhile (· != '\x7d') with
    | nil =>
        rw [after, List.append_nil] at whole
        simp [toText, Space.upTo, String.toList_append, whole]
    | cons c base =>
        have closing : c = '\x7d' := by
          have left : rest.dropWhile (· != '\x7d') ≠ [] := by simp [after]
          simpa [after] using List.head_dropWhile_not (· != '\x7d') left
        rw [after, closing] at whole
        simp [toText, Space.upTo, String.toList_append, whole]

theorem ofText_injective {left right : String} (same : ofText left = ofText right) :
    left = right := by
  rw [← toText_ofText left, same, toText_ofText]

end Name

end ClassDiagram.Xml
