/-!
# Tables in order of insertion

A table maps keys to values and remembers the order in which its keys first
came in.  Overwriting a key keeps its place; erasing it gives the place up.
-/

namespace ClassDiagram

variable {κ ν : Type}

/-- A finite map whose keys are distinct and kept in order of insertion. -/
structure Table (κ ν : Type) where
  entries : List (κ × ν)
  distinct : (entries.map Prod.fst).Nodup

namespace Table

def empty : Table κ ν := ⟨[], List.nodup_nil⟩

instance : Inhabited (Table κ ν) := ⟨empty⟩

@[ext] theorem ext {left right : Table κ ν} (same : left.entries = right.entries) :
    left = right := by
  cases left; cases right; simp_all

def keys (table : Table κ ν) : List κ := table.entries.map Prod.fst

def values (table : Table κ ν) : List ν := table.entries.map Prod.snd

def size (table : Table κ ν) : Nat := table.entries.length

@[simp] theorem keys_empty : keys (empty : Table κ ν) = [] := rfl

@[simp] theorem size_empty : size (empty : Table κ ν) = 0 := rfl

variable [DecidableEq κ]

def lookup (key : κ) : List (κ × ν) → Option ν
  | [] => none
  | (k, value) :: rest => if k = key then some value else lookup key rest

def place (key : κ) (value : ν) : List (κ × ν) → List (κ × ν)
  | [] => [(key, value)]
  | (k, old) :: rest => if k = key then (k, value) :: rest else (k, old) :: place key value rest

def without (key : κ) (entries : List (κ × ν)) : List (κ × ν) :=
  entries.filter fun entry => !decide (entry.1 = key)

theorem fst_place (key : κ) (value : ν) (entries : List (κ × ν)) :
    (place key value entries).map Prod.fst =
      if key ∈ entries.map Prod.fst then entries.map Prod.fst
      else entries.map Prod.fst ++ [key] := by
  induction entries with
  | nil => simp [place]
  | cons entry rest ih =>
      obtain ⟨k, old⟩ := entry
      by_cases same : k = key
      · simp [place, same]
      · have other : key ≠ k := fun h => same h.symm
        by_cases inside : key ∈ rest.map Prod.fst
        · simp only [place, same, if_false, List.map_cons, ih, inside, if_true, List.mem_cons,
            other, false_or]
        · simp only [place, same, if_false, List.map_cons, ih, inside, List.mem_cons, other,
            false_or, List.cons_append]

theorem nodup_place (key : κ) (value : ν) (entries : List (κ × ν))
    (distinct : (entries.map Prod.fst).Nodup) :
    ((place key value entries).map Prod.fst).Nodup := by
  rw [fst_place]
  split
  · exact distinct
  · rename_i absent
    rw [List.nodup_append]
    refine ⟨distinct, by simp, ?_⟩
    intro left inLeft right inRight
    simp only [List.mem_singleton] at inRight
    subst inRight
    exact fun same => absent (same ▸ inLeft)

theorem nodup_without (key : κ) (entries : List (κ × ν))
    (distinct : (entries.map Prod.fst).Nodup) :
    ((without key entries).map Prod.fst).Nodup :=
  List.Nodup.sublist (List.Sublist.map Prod.fst List.filter_sublist) distinct

def get? (table : Table κ ν) (key : κ) : Option ν := lookup key table.entries

def contains (table : Table κ ν) (key : κ) : Bool := (table.get? key).isSome

def insert (table : Table κ ν) (key : κ) (value : ν) : Table κ ν :=
  ⟨place key value table.entries, nodup_place key value table.entries table.distinct⟩

def erase (table : Table κ ν) (key : κ) : Table κ ν :=
  ⟨without key table.entries, nodup_without key table.entries table.distinct⟩

def eraseAll (table : Table κ ν) (keys : List κ) : Table κ ν := keys.foldl erase table

/-- A table of entries given in order, where later entries overwrite earlier ones. -/
def ofList (entries : List (κ × ν)) : Table κ ν :=
  entries.foldl (fun table entry => table.insert entry.1 entry.2) empty

/-! ## The view of each operation -/

@[simp] theorem get?_empty (key : κ) : get? (empty : Table κ ν) key = none := rfl

theorem lookup_place (key other : κ) (value : ν) (entries : List (κ × ν)) :
    lookup other (place key value entries) =
      if key = other then some value else lookup other entries := by
  induction entries with
  | nil => simp [place, lookup]
  | cons entry rest ih =>
      obtain ⟨k, old⟩ := entry
      by_cases same : k = key
      · subst same
        by_cases asked : k = other <;> simp [place, lookup, asked]
      · by_cases asked : k = other
        · subst asked
          have ne : key ≠ k := fun h => same h.symm
          simp [place, lookup, same, ne]
        · simp [place, lookup, same, asked, ih]

theorem lookup_without (key other : κ) (entries : List (κ × ν)) :
    lookup other (without key entries) =
      if key = other then none else lookup other entries := by
  induction entries with
  | nil => simp [without, lookup]
  | cons entry rest ih =>
      obtain ⟨k, old⟩ := entry
      simp only [without] at ih ⊢
      by_cases same : k = key
      · subst same
        by_cases asked : k = other
        · simp [asked] at ih
          simp [asked, ih]
        · simp [asked, lookup, ih]
      · by_cases asked : k = other
        · subst asked
          have ne : key ≠ k := fun h => same h.symm
          simp [same, lookup, ne]
        · simp [same, lookup, asked, ih]

@[simp] theorem get?_insert_self (table : Table κ ν) (key : κ) (value : ν) :
    (table.insert key value).get? key = some value := by
  simp [get?, insert, lookup_place]

theorem get?_insert (table : Table κ ν) (key other : κ) (value : ν) :
    (table.insert key value).get? other =
      if key = other then some value else table.get? other := by
  simp [get?, insert, lookup_place]

theorem get?_erase (table : Table κ ν) (key other : κ) :
    (table.erase key).get? other = if key = other then none else table.get? other := by
  simp [get?, erase, lookup_without]

theorem lookup_isSome (key : κ) (entries : List (κ × ν)) :
    (lookup key entries).isSome = true ↔ key ∈ entries.map Prod.fst := by
  induction entries with
  | nil => simp [lookup]
  | cons entry rest ih =>
      obtain ⟨k, old⟩ := entry
      by_cases same : k = key
      · simp [lookup, same]
      · have ne : key ≠ k := fun h => same h.symm
        simp only [lookup, same, if_false, ih, List.map_cons, List.mem_cons, ne, false_or]

theorem contains_iff (table : Table κ ν) (key : κ) :
    table.contains key = true ↔ key ∈ table.keys :=
  lookup_isSome key table.entries

theorem keys_insert (table : Table κ ν) (key : κ) (value : ν) :
    (table.insert key value).keys =
      if key ∈ table.keys then table.keys else table.keys ++ [key] :=
  fst_place key value table.entries

end Table

end ClassDiagram
