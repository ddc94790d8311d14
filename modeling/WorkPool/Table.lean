/-!
# Tables: finite maps in key order

A `Table κ ν` holds at most one value per key, and its entries stand in ascending
key order. Both facts are part of the type, so a table is determined by what it
holds: there is one table for each finite map, whatever the order of insertions.

* `find?`, `insert`, `erase` — the map operations.
* `find?_insert_self` / `find?_insert_ne`, `find?_erase_self` / `find?_erase_ne` —
  what each of them does to a look-up.
-/

namespace WorkPool

universe u v w

/-- A finite map whose entries stand in ascending key order. -/
structure Table (κ : Type u) (ν : Type v) [Ord κ] where
  /-- the pairs of the map -/
  entries : List (κ × ν)
  /-- keys strictly ascend -/
  ascending : entries.Pairwise fun a b => compare a.1 b.1 = .lt

namespace Table

variable {κ : Type u} {ν : Type v} [Ord κ]

/-! ## Reading -/

/-- The table that holds nothing. -/
def empty : Table κ ν := ⟨[], .nil⟩

instance : EmptyCollection (Table κ ν) := ⟨empty⟩

instance : Inhabited (Table κ ν) := ⟨empty⟩

instance [DecidableEq κ] [DecidableEq ν] : DecidableEq (Table κ ν) := fun a b =>
  if h : a.entries = b.entries then isTrue (by cases a; cases b; cases h; rfl)
  else isFalse fun e => h (congrArg entries e)

/-- Two tables with the same entries are equal. -/
theorem ext {a b : Table κ ν} (h : a.entries = b.entries) : a = b := by
  cases a; cases b; cases h; rfl

/-- The value at a key in a list of pairs. -/
def lookup (k : κ) : List (κ × ν) → Option ν
  | [] => none
  | (k', v) :: rest => if compare k k' = .eq then some v else lookup k rest

/-- The value at a key. -/
def find? (t : Table κ ν) (k : κ) : Option ν := lookup k t.entries

/-- Whether a key has a value. -/
def contains (t : Table κ ν) (k : κ) : Bool := (t.find? k).isSome

/-- The keys, ascending. -/
def keys (t : Table κ ν) : List κ := t.entries.map (·.1)

/-- The values, in key order. -/
def values (t : Table κ ν) : List ν := t.entries.map (·.2)

/-- The number of entries. -/
def size (t : Table κ ν) : Nat := t.entries.length

/-! ## Writing -/

/-- Put a pair in its place, in front of the first greater key. -/
def place (k : κ) (v : ν) : List (κ × ν) → List (κ × ν)
  | [] => [(k, v)]
  | (k', v') :: rest =>
    match compare k k' with
    | .lt => (k, v) :: (k', v') :: rest
    | .eq => (k, v) :: rest
    | .gt => (k', v') :: place k v rest

theorem mem_place {k : κ} {v : ν} {e : κ × ν} {l : List (κ × ν)} (h : e ∈ place k v l) :
    e = (k, v) ∨ e ∈ l := by
  induction l with
  | nil => exact .inl (List.mem_singleton.1 h)
  | cons p rest ih =>
    unfold place at h
    split at h
    · rcases List.mem_cons.1 h with h | h
      · exact .inl h
      · exact .inr h
    · rcases List.mem_cons.1 h with h | h
      · exact .inl h
      · exact .inr (List.mem_cons_of_mem _ h)
    · rcases List.mem_cons.1 h with h | h
      · exact .inr (h ▸ List.mem_cons_self)
      · rcases ih h with h | h
        · exact .inl h
        · exact .inr (List.mem_cons_of_mem _ h)

theorem ascending_place [Std.TransOrd κ] [Std.LawfulEqOrd κ] (k : κ) (v : ν)
    {l : List (κ × ν)} (h : l.Pairwise fun a b => compare a.1 b.1 = .lt) :
    (place k v l).Pairwise fun a b => compare a.1 b.1 = .lt := by
  induction l with
  | nil => exact List.pairwise_singleton _ _
  | cons p rest ih =>
    obtain ⟨k', v'⟩ := p
    obtain ⟨first, later⟩ := List.pairwise_cons.1 h
    unfold place
    split
    · rename_i less
      refine List.pairwise_cons.2 ⟨fun e he => ?_, h⟩
      rcases List.mem_cons.1 he with he | he
      · rw [he]; exact less
      · exact Std.TransCmp.lt_trans less (first e he)
    · rename_i same
      have key : k = k' := Std.LawfulEqOrd.eq_of_compare same
      refine List.pairwise_cons.2 ⟨fun e he => ?_, later⟩
      rw [key]; exact first e he
    · rename_i more
      refine List.pairwise_cons.2 ⟨fun e he => ?_, ih later⟩
      rcases mem_place he with he | he
      · rw [he]; exact Std.OrientedCmp.lt_of_gt more
      · exact first e he

/-- Give a key a value, in place of any value it had. -/
def insert [Std.TransOrd κ] [Std.LawfulEqOrd κ] (t : Table κ ν) (k : κ) (v : ν) : Table κ ν :=
  ⟨place k v t.entries, ascending_place k v t.ascending⟩

/-- Remove a key. -/
def erase (t : Table κ ν) (k : κ) : Table κ ν :=
  ⟨t.entries.filter fun e => compare k e.1 ≠ .eq, t.ascending.filter _⟩

/-- The table of a list of pairs; of two values for one key the later one stays. -/
def ofList [Std.TransOrd κ] [Std.LawfulEqOrd κ] (pairs : List (κ × ν)) : Table κ ν :=
  pairs.foldl (fun t p => t.insert p.1 p.2) empty

/-- Change every value. -/
def map {μ : Type w} (f : κ → ν → μ) (t : Table κ ν) : Table κ μ :=
  ⟨t.entries.map fun e => (e.1, f e.1 e.2), by
    refine List.pairwise_map.2 (t.ascending.imp ?_)
    exact fun h => h⟩

/-- The distinct members of a list, ascending. -/
def distinct [Std.TransOrd κ] [Std.LawfulEqOrd κ] (l : List κ) : List κ :=
  (ofList (l.map fun k => (k, ()))).keys

/-! ## What writing does to a look-up -/

theorem lookup_place_self [Std.TransOrd κ] [Std.LawfulEqOrd κ] (k : κ) (v : ν)
    (l : List (κ × ν)) : lookup k (place k v l) = some v := by
  induction l with
  | nil => simp [place, lookup]
  | cons p rest ih =>
    obtain ⟨k', v'⟩ := p
    unfold place
    split
    · simp [lookup]
    · simp [lookup]
    · rename_i more
      simp [lookup, more, ih]

theorem lookup_place_ne [Std.TransOrd κ] [Std.LawfulEqOrd κ] {k k' : κ} (h : k' ≠ k) (v : ν)
    (l : List (κ × ν)) : lookup k' (place k v l) = lookup k' l := by
  have ne : compare k' k ≠ .eq := fun e => h (Std.LawfulEqOrd.eq_of_compare e)
  induction l with
  | nil => simp [place, lookup, ne]
  | cons p rest ih =>
    obtain ⟨j, w⟩ := p
    unfold place
    split
    · simp [lookup, ne]
    · rename_i same
      have key : k = j := Std.LawfulEqOrd.eq_of_compare same
      subst key
      simp [lookup, ne]
    · simp [lookup, ih]

@[simp] theorem find?_insert_self [Std.TransOrd κ] [Std.LawfulEqOrd κ] (t : Table κ ν) (k : κ)
    (v : ν) : (t.insert k v).find? k = some v := lookup_place_self k v t.entries

theorem find?_insert_ne [Std.TransOrd κ] [Std.LawfulEqOrd κ] (t : Table κ ν) {k k' : κ}
    (h : k' ≠ k) (v : ν) : (t.insert k v).find? k' = t.find? k' :=
  lookup_place_ne h v t.entries

theorem lookup_filter_self (k : κ) (l : List (κ × ν)) :
    lookup k (l.filter fun e => compare k e.1 ≠ .eq) = none := by
  induction l with
  | nil => rfl
  | cons p rest ih =>
    by_cases h : compare k p.1 = .eq
    · simpa [h] using ih
    · simpa [h, lookup] using ih

theorem lookup_filter_ne [Std.LawfulEqOrd κ] {k k' : κ} (h : k' ≠ k) (l : List (κ × ν)) :
    lookup k' (l.filter fun e => compare k e.1 ≠ .eq) = lookup k' l := by
  induction l with
  | nil => rfl
  | cons p rest ih =>
    by_cases e : compare k p.1 = .eq
    · have key : k = p.1 := Std.LawfulEqOrd.eq_of_compare e
      have ne : compare k' p.1 ≠ .eq := fun e' => h ((Std.LawfulEqOrd.eq_of_compare e').trans key.symm)
      simpa [e, lookup, ne] using ih
    · simp only [ne_eq, e, not_false_eq_true, decide_true, List.filter_cons_of_pos, lookup] at *
      rw [ih]

@[simp] theorem find?_erase_self (t : Table κ ν) (k : κ) : (t.erase k).find? k = none :=
  lookup_filter_self k t.entries

theorem find?_erase_ne [Std.LawfulEqOrd κ] (t : Table κ ν) {k k' : κ} (h : k' ≠ k) :
    (t.erase k).find? k' = t.find? k' := lookup_filter_ne h t.entries

@[simp] theorem find?_empty (k : κ) : (empty : Table κ ν).find? k = none := rfl

end Table

end WorkPool
