/-!
# Charts of code points

A chart files entries under the code points they start at, as a search tree.
Where entries do not overlap, a code point can only belong to the entry that
starts last at or before it, so looking one up asks few entries.
-/

namespace ClassDiagram.Text

variable {α : Type}

/-- Entries under the code points they start at, the lower ones to the left. -/
inductive Chart (α : Type) where
  | empty
  | fork (below : Chart α) (start : Nat) (entry : α) (above : Chart α)
  deriving Repr, Inhabited

namespace Chart

def toList : Chart α → List (Nat × α)
  | .empty => []
  | .fork below start entry above => below.toList ++ (start, entry) :: above.toList

/-- The entry that starts last among those that start at a code point or before it. -/
def find? (code : Nat) : Chart α → Option α
  | .empty => none
  | .fork below start entry above =>
      if start ≤ code then
        match above.find? code with
        | some later => some later
        | none => some entry
      else below.find? code

def halve : Nat → List (Nat × α) → Chart α
  | 0, _ => .empty
  | depth + 1, entries =>
      match entries.drop (entries.length / 2) with
      | [] => .empty
      | (start, entry) :: above =>
          .fork (halve depth (entries.take (entries.length / 2))) start entry (halve depth above)

def ofList (start : α → Nat) (entries : List α) : Chart α :=
  halve entries.length (entries.map fun entry => (start entry, entry))

@[simp] theorem toList_empty : toList (.empty : Chart α) = [] := rfl

@[simp] theorem toList_fork (below : Chart α) (start : Nat) (entry : α) (above : Chart α) :
    toList (.fork below start entry above) = below.toList ++ (start, entry) :: above.toList := rfl

@[simp] theorem find?_empty (code : Nat) : find? code (.empty : Chart α) = none := rfl

theorem toList_halve (depth : Nat) (entries : List (Nat × α))
    (deep : entries.length ≤ depth) : (halve depth entries).toList = entries := by
  induction depth generalizing entries with
  | zero => simp_all [halve]
  | succ depth ih =>
      rw [halve]
      split
      · rename_i nothing
        have short : entries.length ≤ entries.length / 2 := by simpa using nothing
        have : entries.length = 0 := by omega
        simp_all
      · rename_i start entry above cut
        have sizes := congrArg List.length cut
        simp only [List.length_drop, List.length_cons] at sizes
        rw [toList_fork, ih _ (by simp only [List.length_take]; omega), ih _ (by omega), ← cut,
          List.take_append_drop]

theorem toList_ofList (start : α → Nat) (entries : List α) :
    (ofList start entries).toList = entries.map fun entry => (start entry, entry) :=
  toList_halve _ _ (by simp)

end Chart

end ClassDiagram.Text
