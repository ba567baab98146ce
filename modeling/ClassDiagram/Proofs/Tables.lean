import ClassDiagram.Table

/-!
# The theory of tables

What a table answers is what its entries say, a new key goes to the end, and
overwriting the last key changes nothing before it.
-/

namespace ClassDiagram.Table

variable {κ ν : Type} [DecidableEq κ]

/-! ## Entries and answers -/

theorem mem_of_lookup {key : κ} {value : ν} {entries : List (κ × ν)}
    (found : lookup key entries = some value) : (key, value) ∈ entries := by
  induction entries with
  | nil => cases found
  | cons entry rest ih =>
      obtain ⟨k, old⟩ := entry
      unfold lookup at found
      split at found
      · rename_i same
        cases found
        rw [same]
        exact List.mem_cons_self
      · exact List.mem_cons_of_mem _ (ih found)

theorem lookup_of_mem {key : κ} {value : ν} {entries : List (κ × ν)}
    (distinct : (entries.map Prod.fst).Nodup) (inside : (key, value) ∈ entries) :
    lookup key entries = some value := by
  induction entries with
  | nil => cases inside
  | cons entry rest ih =>
      obtain ⟨k, old⟩ := entry
      obtain ⟨absent, distinctRest⟩ := List.nodup_cons.mp distinct
      unfold lookup
      rcases List.mem_cons.mp inside with same | inRest
      · cases same
        rw [if_pos rfl]
      · have other : k ≠ key := by
          intro same
          rw [same] at absent
          exact absent (List.mem_map.mpr ⟨(key, value), inRest, rfl⟩)
        rw [if_neg other]
        exact ih distinctRest inRest

/-- A table answers with the value that an entry files under the key. -/
theorem get?_eq_some_iff (table : Table κ ν) (key : κ) (value : ν) :
    table.get? key = some value ↔ (key, value) ∈ table.entries :=
  ⟨mem_of_lookup, lookup_of_mem table.distinct⟩

theorem contains_iff_exists (table : Table κ ν) (key : κ) :
    table.contains key = true ↔ ∃ value, table.get? key = some value :=
  Option.isSome_iff_exists

theorem contains_of_get? {table : Table κ ν} {key : κ} {value : ν}
    (found : table.get? key = some value) : table.contains key = true :=
  (contains_iff_exists table key).mpr ⟨value, found⟩

theorem mem_values_iff (table : Table κ ν) (value : ν) :
    value ∈ table.values ↔ ∃ key, table.get? key = some value := by
  simp only [get?_eq_some_iff, values, List.mem_map, Prod.exists, exists_eq_right]

@[simp] theorem contains_empty (key : κ) : contains (empty : Table κ ν) key = false := rfl

theorem contains_insert (table : Table κ ν) (key other : κ) (value : ν) :
    (table.insert key value).contains other = true ↔
      key = other ∨ table.contains other = true := by
  unfold contains
  rw [get?_insert]
  split
  · simp [*]
  · simp [*]

theorem contains_insert_self (table : Table κ ν) (key : κ) (value : ν) :
    (table.insert key value).contains key = true :=
  (contains_insert table key key value).mpr (Or.inl rfl)

theorem contains_insert_of_contains {table : Table κ ν} {other : κ}
    (old : table.contains other = true) (key : κ) (value : ν) :
    (table.insert key value).contains other = true :=
  (contains_insert table key other value).mpr (Or.inr old)

/-- After an insertion a table answers with what was inserted or with what it held before. -/
theorem eq_or_get?_of_insert {table : Table κ ν} {key other : κ} {value found : ν}
    (filed : (table.insert key value).get? other = some found) :
    key = other ∧ found = value ∨ table.get? other = some found := by
  rw [get?_insert] at filed
  split at filed
  · cases filed
    exact Or.inl ⟨‹_›, rfl⟩
  · exact Or.inr filed

/-- Taking keys out takes out these keys and no others. -/
theorem get?_eraseAll (table : Table κ ν) (keys : List κ) (other : κ) :
    (table.eraseAll keys).get? other = if other ∈ keys then none else table.get? other := by
  induction keys generalizing table with
  | nil => simp [eraseAll]
  | cons key rest ih =>
      have first : table.eraseAll (key :: rest) = (table.erase key).eraseAll rest := rfl
      rw [first, ih, get?_erase]
      by_cases here : key = other
      · simp [here]
      · simp [here, Ne.symm here]

/-! ## Where entries go -/

theorem place_append {key : κ} {front : List (κ × ν)} (absent : key ∉ front.map Prod.fst)
    (value : ν) (rest : List (κ × ν)) :
    place key value (front ++ rest) = front ++ place key value rest := by
  induction front with
  | nil => rfl
  | cons entry front ih =>
      obtain ⟨k, old⟩ := entry
      simp only [List.map_cons, List.mem_cons, not_or] at absent
      have other : k ≠ key := fun same => absent.1 same.symm
      rw [List.cons_append, place, if_neg other, ih absent.2, List.cons_append]

/-- A new key goes to the end. -/
theorem entries_insert_new {table : Table κ ν} {key : κ} (absent : key ∉ table.keys)
    (value : ν) : (table.insert key value).entries = table.entries ++ [(key, value)] := by
  have placed := place_append absent value []
  rw [List.append_nil] at placed
  exact placed

omit [DecidableEq κ] in
theorem absent_of_entries_eq {table : Table κ ν} {front : List (κ × ν)} {key : κ} {old : ν}
    (shape : table.entries = front ++ [(key, old)]) : key ∉ front.map Prod.fst := by
  have distinct := table.distinct
  rw [shape, List.map_append, List.nodup_append] at distinct
  intro inside
  exact distinct.2.2 key inside key (by simp) rfl

/-- Overwriting the last key changes nothing before it. -/
theorem entries_insert_last {table : Table κ ν} {front : List (κ × ν)} {key : κ} {old : ν}
    (shape : table.entries = front ++ [(key, old)]) (value : ν) :
    (table.insert key value).entries = front ++ [(key, value)] := by
  change place key value table.entries = _
  rw [shape, place_append (absent_of_entries_eq shape), place, if_pos rfl]

theorem get?_last {table : Table κ ν} {front : List (κ × ν)} {key : κ} {old : ν}
    (shape : table.entries = front ++ [(key, old)]) : table.get? key = some old := by
  rw [get?_eq_some_iff, shape]
  exact List.mem_append_cons_self

theorem without_of_absent {key : κ} {entries : List (κ × ν)}
    (absent : key ∉ entries.map Prod.fst) : without key entries = entries := by
  refine List.filter_eq_self.mpr fun entry inside => ?_
  have other : entry.1 ≠ key := fun same => absent (same ▸ List.mem_map_of_mem inside)
  simp [other]

/-- Taking out a key that is not there changes nothing. -/
theorem erase_of_absent {table : Table κ ν} {key : κ} (absent : table.get? key = none) :
    table.erase key = table := by
  refine ext (without_of_absent fun inside => ?_)
  have found : (table.get? key).isSome := (lookup_isSome key table.entries).mpr inside
  rw [absent] at found
  cases found

/-- Taking out a key leaves what stands before it and after it. -/
theorem entries_erase {table : Table κ ν} {front back : List (κ × ν)} {key : κ} {value : ν}
    (shape : table.entries = front ++ (key, value) :: back) :
    (table.erase key).entries = front ++ back := by
  have distinct := table.distinct
  rw [shape, List.map_append, List.map_cons, List.nodup_append, List.nodup_cons] at distinct
  obtain ⟨_, ⟨notAfter, _⟩, apart⟩ := distinct
  have notBefore : key ∉ front.map Prod.fst := fun inside =>
    apart key inside key List.mem_cons_self rfl
  change without key table.entries = _
  rw [shape, without, List.filter_append, List.filter_cons_of_neg (by simp)]
  exact congr (congrArg _ (without_of_absent notBefore)) (without_of_absent notAfter)

/-- Taking out the last keys leaves what stands before them. -/
theorem entries_eraseAll {table : Table κ ν} {front back : List (κ × ν)}
    (shape : table.entries = front ++ back) :
    (table.eraseAll (back.map Prod.fst)).entries = front := by
  induction back generalizing table with
  | nil => rw [List.map_nil, eraseAll, List.foldl_nil, shape, List.append_nil]
  | cons entry rest ih => exact ih (entries_erase shape)

/-! ## Tables of lists -/

theorem mem_or_get?_of_foldl {entries : List (κ × ν)} {table : Table κ ν} {key : κ} {value : ν}
    (found : (entries.foldl (fun table entry => table.insert entry.1 entry.2) table).get? key =
      some value) :
    (key, value) ∈ entries ∨ table.get? key = some value := by
  induction entries generalizing table with
  | nil => exact Or.inr found
  | cons entry rest ih =>
      rcases ih found with inRest | before
      · exact Or.inl (List.mem_cons_of_mem _ inRest)
      · rw [get?_insert] at before
        split at before
        · rename_i same
          cases before
          rw [← same]
          exact Or.inl List.mem_cons_self
        · exact Or.inr before

/-- What a table of a list answers is in the list. -/
theorem mem_of_get?_ofList {entries : List (κ × ν)} {key : κ} {value : ν}
    (found : (ofList entries).get? key = some value) : (key, value) ∈ entries := by
  rcases mem_or_get?_of_foldl found with inside | impossible
  · exact inside
  · cases impossible

theorem contains_foldl (entries : List (κ × ν)) (table : Table κ ν) (key : κ) :
    (entries.foldl (fun table entry => table.insert entry.1 entry.2) table).contains key = true ↔
      key ∈ entries.map Prod.fst ∨ table.contains key = true := by
  induction entries generalizing table with
  | nil => simp
  | cons entry rest ih =>
      rw [List.foldl_cons, ih, contains_insert, List.map_cons, List.mem_cons]
      constructor
      · rintro (inRest | same | before)
        · exact Or.inl (Or.inr inRest)
        · exact Or.inl (Or.inl same.symm)
        · exact Or.inr before
      · rintro ((same | inRest) | before)
        · exact Or.inr (Or.inl same.symm)
        · exact Or.inl inRest
        · exact Or.inr (Or.inr before)

/-- The keys of a table of a list are those of the list. -/
theorem contains_ofList (entries : List (κ × ν)) (key : κ) :
    (ofList entries).contains key = true ↔ key ∈ entries.map Prod.fst := by
  rw [ofList, contains_foldl]
  simp

/-- A new first key is followed by the first places of the keys that are new after it. -/
theorem eraseDups_filter_cons {seen : List κ} {key : κ} (absent : key ∉ seen) (rest : List κ) :
    ((key :: rest).filter (· ∉ seen)).eraseDups =
      key :: (rest.filter (· ∉ seen ++ [key])).eraseDups := by
  have others : (rest.filter (· ∉ seen)).filter (fun other => !other == key) =
      rest.filter (· ∉ seen ++ [key]) := by
    rw [List.filter_filter]
    refine List.filter_congr fun other _ => ?_
    rw [Bool.eq_iff_iff]
    simp [and_comm]
  rw [List.filter_cons_of_pos (by simpa using absent), List.eraseDups_cons, others]

theorem keys_foldl (entries : List (κ × ν)) (table : Table κ ν) :
    (entries.foldl (fun table entry => table.insert entry.1 entry.2) table).keys =
      table.keys ++ ((entries.map Prod.fst).filter (· ∉ table.keys)).eraseDups := by
  induction entries generalizing table with
  | nil => simp
  | cons entry rest ih =>
      rw [List.foldl_cons, ih, keys_insert, List.map_cons]
      split
      · rename_i inside
        rw [List.filter_cons_of_neg (by simpa using inside)]
      · rename_i absent
        rw [eraseDups_filter_cons absent, List.append_assoc, List.singleton_append]

/-- A table of a list has each of its keys once, where it comes first. -/
theorem keys_ofList (entries : List (κ × ν)) :
    (ofList entries).keys = (entries.map Prod.fst).eraseDups := by
  rw [ofList, keys_foldl, keys_empty, List.nil_append, List.filter_eq_self.mpr (by simp)]

theorem lookup_append (key : κ) (front back : List (κ × ν)) :
    lookup key (front ++ back) = (lookup key front).or (lookup key back) := by
  induction front with
  | nil => rfl
  | cons entry rest ih =>
      obtain ⟨k, value⟩ := entry
      rw [List.cons_append, lookup, lookup, ih]
      split <;> rfl

theorem lookup_eq_none {key : κ} {entries : List (κ × ν)} (absent : key ∉ entries.map Prod.fst) :
    lookup key entries = none := by
  rw [← Option.not_isSome_iff_eq_none, lookup_isSome]
  exact absent

theorem get?_foldl (entries : List (κ × ν)) (table : Table κ ν) (key : κ) :
    (entries.foldl (fun table entry => table.insert entry.1 entry.2) table).get? key =
      (lookup key entries.reverse).or (table.get? key) := by
  induction entries generalizing table with
  | nil => rfl
  | cons entry rest ih =>
      rw [List.foldl_cons, ih, get?_insert, List.reverse_cons, lookup_append, Option.or_assoc]
      congr 1
      rw [lookup]
      split <;> rfl

/-- A table of a list answers with the last entry under the key. -/
theorem get?_ofList (entries : List (κ × ν)) (key : κ) :
    (ofList entries).get? key = lookup key entries.reverse := by
  rw [ofList, get?_foldl, get?_empty, Option.or_none]

/-! ## Tables of items -/

theorem lookup_items {ι : Type} (key : ι → κ) (value : ι → ν) (items : List ι) (wanted : κ) :
    lookup wanted (items.map fun item => (key item, value item)) =
      (items.find? fun item => key item = wanted).map value := by
  induction items with
  | nil => rfl
  | cons item rest ih =>
      rw [List.map_cons, lookup, List.find?_cons]
      by_cases same : key item = wanted
      · simp [same]
      · simp [same, ih]

/-- A table of items answers with the last item that goes by the key. -/
theorem get?_ofList_items {ι : Type} (key : ι → κ) (value : ι → ν) (items : List ι)
    (wanted : κ) :
    (ofList (items.map fun item => (key item, value item))).get? wanted =
      (items.reverse.find? fun item => key item = wanted).map value := by
  rw [get?_ofList, ← List.map_reverse, lookup_items]

theorem ofList_concat (entries : List (κ × ν)) (entry : κ × ν) :
    ofList (entries ++ [entry]) = (ofList entries).insert entry.1 entry.2 := by
  rw [ofList, ofList, List.foldl_append]
  rfl

theorem find?_keys_foldl (holds : κ → Bool) (entries : List (κ × ν)) (table : Table κ ν) :
    (entries.foldl (fun table entry => table.insert entry.1 entry.2) table).keys.find? holds =
      (table.keys ++ entries.map Prod.fst).find? holds := by
  induction entries generalizing table with
  | nil => simp
  | cons entry rest ih =>
      rw [List.foldl_cons, ih, keys_insert, List.map_cons]
      split
      · rename_i inside
        -- a key that is there already is not the first to hold unless its first place is
        rw [List.find?_append, List.find?_append, List.find?_cons]
        cases here : holds entry.1 with
        | false => rfl
        | true =>
            have found : (table.keys.find? holds).isSome :=
              List.find?_isSome.mpr ⟨entry.1, inside, here⟩
            obtain ⟨first, first_eq⟩ := Option.isSome_iff_exists.mp found
            rw [first_eq]
            rfl
      · rw [List.append_assoc]
        rfl

/-- The first key of a table that holds is the first to hold among the entries it is made of. -/
theorem find?_keys_ofList (holds : κ → Bool) (entries : List (κ × ν)) :
    (ofList entries).keys.find? holds = (entries.map Prod.fst).find? holds :=
  find?_keys_foldl holds entries empty

end ClassDiagram.Table
