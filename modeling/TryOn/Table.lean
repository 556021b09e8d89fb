/-! Finite tables: values under keys, in ascending order of the keys. The order makes every key
occur once and lets a listing of the table depend on its contents alone. -/

set_option autoImplicit false

namespace TryOn

/-- Entries whose keys ascend. -/
structure Table (κ ν : Type) [Ord κ] where
  entries : List (κ × ν)
  ascending : entries.Pairwise fun first second => compare first.1 second.1 = .lt

namespace Table

variable {κ ν : Type} [Ord κ]

def insertEntry (key : κ) (value : ν) : List (κ × ν) → List (κ × ν)
  | [] => [(key, value)]
  | head :: rest =>
    match compare key head.1 with
    | .lt => (key, value) :: head :: rest
    | .eq => (key, value) :: rest
    | .gt => head :: insertEntry key value rest

theorem mem_insertEntry {key : κ} {value : ν} {entries : List (κ × ν)} {entry : κ × ν}
    (inside : entry ∈ insertEntry key value entries) : entry = (key, value) ∨ entry ∈ entries := by
  induction entries with
  | nil => simpa [insertEntry] using inside
  | cons head rest ih =>
    simp only [insertEntry] at inside
    split at inside
    · simpa using inside
    · simp only [List.mem_cons] at inside ⊢
      rcases inside with same | later
      · exact .inl same
      · exact .inr (.inr later)
    · simp only [List.mem_cons] at inside ⊢
      rcases inside with same | later
      · exact .inr (.inl same)
      · rcases ih later with new | old
        · exact .inl new
        · exact .inr (.inr old)

variable [Std.TransOrd κ] [Std.LawfulEqOrd κ]

theorem ascending_insertEntry (key : κ) (value : ν) {entries : List (κ × ν)}
    (ascending : entries.Pairwise fun first second => compare first.1 second.1 = .lt) :
    (insertEntry key value entries).Pairwise
      fun first second => compare first.1 second.1 = .lt := by
  induction entries with
  | nil => simp [insertEntry]
  | cons head rest ih =>
    obtain ⟨above, ordered⟩ := List.pairwise_cons.1 ascending
    simp only [insertEntry]
    split
    · rename_i below
      refine List.pairwise_cons.2 ⟨fun entry inside => ?_, ascending⟩
      rcases List.mem_cons.1 inside with rfl | later
      · exact below
      · exact Std.TransCmp.lt_trans below (above entry later)
    · rename_i same
      have keyEq := Std.LawfulEqOrd.eq_of_compare same
      exact List.pairwise_cons.2 ⟨fun entry inside => keyEq ▸ above entry inside, ordered⟩
    · rename_i beyond
      refine List.pairwise_cons.2 ⟨fun entry inside => ?_, ih ordered⟩
      rcases mem_insertEntry inside with rfl | old
      · exact Std.OrientedCmp.gt_iff_lt.1 beyond
      · exact above entry old

def empty : Table κ ν := ⟨[], .nil⟩

instance : Inhabited (Table κ ν) := ⟨empty⟩

def insert (table : Table κ ν) (key : κ) (value : ν) : Table κ ν :=
  ⟨insertEntry key value table.entries, ascending_insertEntry key value table.ascending⟩

/-- The table of the given entries; of two with one key the later counts. -/
def ofList (entries : List (κ × ν)) : Table κ ν :=
  entries.foldl (fun table entry => table.insert entry.1 entry.2) empty

def erase (table : Table κ ν) (key : κ) : Table κ ν :=
  ⟨table.entries.filter fun entry => compare entry.1 key != .eq, table.ascending.filter _⟩

def filter (table : Table κ ν) (keep : ν → Bool) : Table κ ν :=
  ⟨table.entries.filter fun entry => keep entry.2, table.ascending.filter _⟩

def get? (table : Table κ ν) (key : κ) : Option ν :=
  (table.entries.find? fun entry => compare entry.1 key == .eq).map (·.2)

def keys (table : Table κ ν) : List κ := table.entries.map (·.1)

def values (table : Table κ ν) : List ν := table.entries.map (·.2)

def size (table : Table κ ν) : Nat := table.entries.length

def mapValues {ω : Type} (change : ν → ω) (table : Table κ ν) : Table κ ω :=
  ⟨table.entries.map fun entry => (entry.1, change entry.2), by
    simpa [List.pairwise_map] using table.ascending⟩

omit [Std.TransOrd κ] [Std.LawfulEqOrd κ] in
@[ext] theorem ext {first second : Table κ ν} (same : first.entries = second.entries) :
    first = second := by
  cases first; cases second; cases same; rfl

omit [Std.TransOrd κ] in
theorem get?_eq_some_iff (table : Table κ ν) (key : κ) (value : ν) :
    table.get? key = some value ↔ (key, value) ∈ table.entries := by
  obtain ⟨entries, ascending⟩ := table
  simp only [get?]
  induction entries with
  | nil => simp
  | cons head rest ih =>
    obtain ⟨above, ordered⟩ := List.pairwise_cons.1 ascending
    cases same : compare head.1 key == .eq with
    | true =>
      have keyEq := Std.LawfulEqOrd.eq_of_compare (eq_of_beq same)
      rw [List.find?_cons_of_pos (by exact same)]
      simp only [Option.map_some, Option.some.injEq, List.mem_cons]
      constructor
      · intro valueEq
        exact .inl (by rw [← keyEq, ← valueEq])
      · rintro (rfl | later)
        · rfl
        · have strict := above _ later
          rw [keyEq] at strict
          simp at strict
    | false =>
      rw [List.find?_cons_of_neg (by simp [same])]
      rw [ih ordered]
      simp only [List.mem_cons]
      constructor
      · exact .inr
      · rintro (rfl | later)
        · simp at same
        · exact later

omit [Std.TransOrd κ] [Std.LawfulEqOrd κ] in
theorem mem_insertEntry_self (key : κ) (value : ν) (entries : List (κ × ν)) :
    (key, value) ∈ insertEntry key value entries := by
  induction entries with
  | nil => simp [insertEntry]
  | cons head rest ih =>
    simp only [insertEntry]
    split <;> simp [ih]

omit [Std.TransOrd κ] in
theorem mem_insertEntry_of_ne {key : κ} (value : ν) {entries : List (κ × ν)} {entry : κ × ν}
    (differ : entry.1 ≠ key) (inside : entry ∈ entries) :
    entry ∈ insertEntry key value entries := by
  induction entries with
  | nil => contradiction
  | cons head rest ih =>
    simp only [insertEntry]
    split
    · exact List.mem_cons_of_mem _ inside
    · rename_i same
      rcases List.mem_cons.1 inside with rfl | later
      · exact absurd (Std.LawfulEqOrd.eq_of_compare same).symm differ
      · exact List.mem_cons_of_mem _ later
    · rcases List.mem_cons.1 inside with rfl | later
      · exact List.mem_cons_self
      · exact List.mem_cons_of_mem _ (ih later)

@[simp] theorem get?_insert_self (table : Table κ ν) (key : κ) (value : ν) :
    (table.insert key value).get? key = some value :=
  (get?_eq_some_iff _ _ _).2 (mem_insertEntry_self key value table.entries)

theorem get?_insert_ne (table : Table κ ν) {key other : κ} (value : ν) (differ : other ≠ key) :
    (table.insert key value).get? other = table.get? other := by
  apply Option.ext
  intro found
  rw [get?_eq_some_iff, get?_eq_some_iff]
  constructor
  · intro inside
    rcases mem_insertEntry inside with same | old
    · exact absurd (congrArg Prod.fst same) differ
    · exact old
  · exact mem_insertEntry_of_ne value differ

omit [Std.TransOrd κ] in
@[simp] theorem get?_erase_self (table : Table κ ν) (key : κ) :
    (table.erase key).get? key = none := by
  rw [Option.eq_none_iff_forall_ne_some]
  intro value found
  rw [get?_eq_some_iff] at found
  simp [erase] at found

omit [Std.TransOrd κ] in
theorem get?_erase_ne (table : Table κ ν) {key other : κ} (differ : other ≠ key) :
    (table.erase key).get? other = table.get? other := by
  apply Option.ext
  intro found
  rw [get?_eq_some_iff, get?_eq_some_iff]
  have unequal : compare other key ≠ .eq := fun same =>
    differ (Std.LawfulEqOrd.eq_of_compare same)
  simp [erase, unequal]

omit [Std.TransOrd κ] [Std.LawfulEqOrd κ] in
@[simp] theorem get?_empty (key : κ) : (empty : Table κ ν).get? key = none := rfl

end Table

end TryOn
