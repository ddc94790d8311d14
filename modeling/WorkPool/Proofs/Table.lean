import WorkPool.Table

/-!
# Keys and values of a table

The keys of a table are those that a look-up finds something at, and they ascend. So the
distinct members of a list are listed once each and in order (`mem_distinct`,
`ascending_distinct`).

The values of a table are a value and the values of the table without its key
(`values_insert`, `values_of_find?`). Everything that is counted over the values of a table is
counted with these two; what is summed over them is `total`.
-/

namespace WorkPool

namespace Table

universe u v

variable {κ : Type u} {ν : Type v} [Ord κ]

/-- A key has a value exactly if it is one of the keys. -/
theorem mem_keys_iff [Std.LawfulEqOrd κ] {t : Table κ ν} {k : κ} :
    k ∈ t.keys ↔ t.contains k = true := by
  unfold keys contains find?
  induction t.entries with
  | nil => simp [lookup]
  | cons p rest ih =>
    obtain ⟨k', v'⟩ := p
    by_cases same : k = k'
    · subst same
      simp [lookup]
    · have ne : compare k k' ≠ .eq := fun e => same (Std.LawfulEqOrd.eq_of_compare e)
      simp only [List.map_cons, List.mem_cons, lookup, same, ne, false_or, if_false]
      exact ih

/-- What is looked up is in the list. -/
theorem mem_of_lookup [Std.LawfulEqOrd κ] {k : κ} {v : ν} {l : List (κ × ν)}
    (h : lookup k l = some v) : (k, v) ∈ l := by
  induction l with
  | nil => cases h
  | cons p rest ih =>
    rw [lookup] at h
    split at h
    · rename_i same
      cases h
      rw [Std.LawfulEqOrd.eq_of_compare same]
      exact List.mem_cons_self
    · exact List.mem_cons_of_mem _ (ih h)

/-- A key that is put is there, beside those that were. -/
theorem contains_insert [Std.TransOrd κ] [Std.LawfulEqOrd κ] {t : Table κ ν} {k k' : κ} {v : ν} :
    (t.insert k v).contains k' = true ↔ k' = k ∨ t.contains k' = true := by
  by_cases same : k' = k
  · subst same
    simp [contains]
  · simp [contains, find?_insert_ne t same, same]

/-- Keys that are put one after the other are there. -/
theorem contains_foldl_insert [Std.TransOrd κ] [Std.LawfulEqOrd κ] (pairs : List (κ × ν))
    (t : Table κ ν) (k : κ) :
    (pairs.foldl (fun t p => t.insert p.1 p.2) t).contains k = true ↔
      k ∈ pairs.map (·.1) ∨ t.contains k = true := by
  induction pairs generalizing t with
  | nil => simp
  | cons p rest ih =>
    rw [List.foldl_cons, ih, contains_insert, List.map_cons, List.mem_cons]
    grind

/-- What a table of pairs holds is one of the pairs. -/
theorem mem_of_find?_foldl_insert [Std.TransOrd κ] [Std.LawfulEqOrd κ] {pairs : List (κ × ν)}
    {t : Table κ ν} {k : κ} {v : ν}
    (h : (pairs.foldl (fun t p => t.insert p.1 p.2) t).find? k = some v) :
    (k, v) ∈ pairs ∨ t.find? k = some v := by
  induction pairs generalizing t with
  | nil => exact .inr h
  | cons p rest ih =>
    rcases ih h with later | first
    · exact .inl (List.mem_cons_of_mem _ later)
    · by_cases same : k = p.1
      · subst same
        rw [find?_insert_self] at first
        cases first
        exact .inl List.mem_cons_self
      · rw [find?_insert_ne t same] at first
        exact .inr first

/-- What is found in a table of pairs is one of them. -/
theorem mem_of_find?_ofList [Std.TransOrd κ] [Std.LawfulEqOrd κ] {pairs : List (κ × ν)} {k : κ}
    {v : ν} (h : (ofList pairs).find? k = some v) : (k, v) ∈ pairs :=
  (mem_of_find?_foldl_insert h).resolve_right nofun

theorem length_place_le (k : κ) (v : ν) (l : List (κ × ν)) :
    (place k v l).length ≤ l.length + 1 := by
  induction l with
  | nil => exact Nat.le_refl _
  | cons p rest ih =>
    simp only [place]
    split <;> simp only [List.length_cons] <;> omega

/-- A table grows by no more than what is put. -/
theorem length_foldl_insert_le [Std.TransOrd κ] [Std.LawfulEqOrd κ] (pairs : List (κ × ν))
    (t : Table κ ν) :
    (pairs.foldl (fun t p => t.insert p.1 p.2) t).entries.length ≤
      t.entries.length + pairs.length := by
  induction pairs generalizing t with
  | nil => exact Nat.le_refl _
  | cons p rest ih =>
    have first : (t.insert p.1 p.2).entries.length ≤ t.entries.length + 1 :=
      length_place_le p.1 p.2 t.entries
    have later := ih (t.insert p.1 p.2)
    rw [List.foldl_cons, List.length_cons]
    omega

/-- A table of pairs has no more entries than there are pairs. -/
theorem length_ofList_le [Std.TransOrd κ] [Std.LawfulEqOrd κ] (pairs : List (κ × ν)) :
    (ofList pairs).entries.length ≤ pairs.length := by
  simpa [ofList, empty] using length_foldl_insert_le pairs empty

/-- A key that is greater than all others goes to the end. -/
theorem place_of_forall_lt [Std.TransOrd κ] {k : κ} (v : ν) {l : List (κ × ν)}
    (h : ∀ e ∈ l, compare e.1 k = .lt) : place k v l = l ++ [(k, v)] := by
  induction l with
  | nil => rfl
  | cons p rest ih =>
    obtain ⟨first, later⟩ := List.forall_mem_cons.1 h
    simp only [place, Std.OrientedCmp.gt_of_lt first, ih later, List.cons_append]

/-- Pairs that ascend are put at the end, in order. -/
theorem entries_foldl_insert [Std.TransOrd κ] [Std.LawfulEqOrd κ] (pairs : List (κ × ν))
    (t : Table κ ν) (h : (t.entries ++ pairs).Pairwise fun a b => compare a.1 b.1 = .lt) :
    (pairs.foldl (fun t p => t.insert p.1 p.2) t).entries = t.entries ++ pairs := by
  induction pairs generalizing t with
  | nil => exact (List.append_nil _).symm
  | cons p rest ih =>
    have before : ∀ e ∈ t.entries, compare e.1 p.1 = .lt := fun e he =>
      (List.pairwise_append.1 h).2.2 e he p List.mem_cons_self
    have placed : (t.insert p.1 p.2).entries = t.entries ++ [p] := place_of_forall_lt p.2 before
    have ascends : ((t.insert p.1 p.2).entries ++ rest).Pairwise
        fun a b => compare a.1 b.1 = .lt := by
      rw [placed, List.append_assoc]
      exact h
    rw [List.foldl_cons, ih _ ascends, placed, List.append_assoc]
    rfl

/-- Pairs whose keys ascend are the entries of their table. -/
theorem entries_ofList [Std.TransOrd κ] [Std.LawfulEqOrd κ] {pairs : List (κ × ν)}
    (h : pairs.Pairwise fun a b => compare a.1 b.1 = .lt) : (ofList pairs).entries = pairs :=
  entries_foldl_insert pairs empty h

/-- A table is made again from its entries. -/
theorem ofList_entries [Std.TransOrd κ] [Std.LawfulEqOrd κ] (t : Table κ ν) :
    ofList t.entries = t := ext (entries_ofList t.ascending)

/-- The distinct members of a list are its members. -/
theorem mem_distinct [Std.TransOrd κ] [Std.LawfulEqOrd κ] {l : List κ} {k : κ} :
    k ∈ distinct l ↔ k ∈ l := by
  unfold distinct ofList
  rw [mem_keys_iff, contains_foldl_insert, List.map_map]
  simp [contains, Function.comp_def]

theorem ascending_keys (t : Table κ ν) : t.keys.Pairwise fun a b => compare a b = .lt :=
  List.pairwise_map.2 t.ascending

theorem ascending_distinct [Std.TransOrd κ] [Std.LawfulEqOrd κ] (l : List κ) :
    (distinct l).Pairwise fun a b => compare a b = .lt := ascending_keys _

/-- The last value that is put is the one that stays. -/
theorem place_place [Std.TransOrd κ] (k : κ) (v w : ν) (l : List (κ × ν)) :
    place k w (place k v l) = place k w l := by
  induction l with
  | nil => simp [place]
  | cons p rest ih =>
    obtain ⟨k', v'⟩ := p
    cases c : compare k k' with
    | lt => simp [place, c]
    | eq => simp [place, c]
    | gt => simp [place, c, ih]

/-- Of two values that a key is given, the later one stays. -/
theorem insert_insert [Std.TransOrd κ] [Std.LawfulEqOrd κ] (t : Table κ ν) (k : κ) (v w : ν) :
    (t.insert k v).insert k w = t.insert k w := ext (place_place k v w t.entries)

/-- To put what is there changes nothing. -/
theorem place_of_lookup [Std.TransOrd κ] [Std.LawfulEqOrd κ] {k : κ} {v : ν} {l : List (κ × ν)}
    (ascending : l.Pairwise fun a b => compare a.1 b.1 = .lt) (h : lookup k l = some v) :
    place k v l = l := by
  induction l with
  | nil => cases h
  | cons p rest ih =>
    obtain ⟨k', v'⟩ := p
    obtain ⟨first, later⟩ := List.pairwise_cons.1 ascending
    cases c : compare k k' with
    | eq =>
      obtain rfl : k = k' := Std.LawfulEqOrd.eq_of_compare c
      simp only [lookup, c, if_true] at h
      cases h
      simp [place]
    | gt =>
      simp only [lookup, c, reduceCtorEq, if_false] at h
      simp [place, c, ih later h]
    | lt =>
      simp only [lookup, c, reduceCtorEq, if_false] at h
      have beyond := first _ (mem_of_lookup h)
      rw [Std.OrientedCmp.gt_of_lt c] at beyond
      cases beyond

/-- Giving a key the value it has changes nothing. -/
theorem insert_of_find? [Std.TransOrd κ] [Std.LawfulEqOrd κ] {t : Table κ ν} {k : κ} {v : ν}
    (h : t.find? k = some v) : t.insert k v = t := ext (place_of_lookup t.ascending h)

/-! ## Values -/

/-- What is put takes its place among the values. A key that comes before the first one comes before
all the rest. -/
theorem values_place [Std.TransOrd κ] (k : κ) (v : ν) {l : List (κ × ν)}
    (h : l.Pairwise fun a b => compare a.1 b.1 = .lt) :
    ((place k v l).map (·.2)).Perm
      (v :: (l.filter fun e => compare k e.1 ≠ .eq).map (·.2)) := by
  induction l with
  | nil => exact .refl _
  | cons p rest ih =>
    obtain ⟨k', v'⟩ := p
    obtain ⟨first, later⟩ := List.pairwise_cons.1 h
    have beyond (hk : compare k k' ≠ .gt) :
        (rest.filter fun e => compare k e.1 ≠ .eq) = rest := by
      refine List.filter_eq_self.2 fun e he => ?_
      have less : compare k e.1 = .lt := Std.TransCmp.lt_of_isLE_of_lt
        (by cases hc : compare k k' <;> simp_all) (first e he)
      simp [less]
    unfold place
    split
    · rename_i less
      have := beyond (by rw [less]; decide)
      simp only [List.map_cons, List.filter_cons, less, this]
      exact .refl _
    · rename_i same
      have := beyond (by rw [same]; decide)
      simp only [List.map_cons, List.filter_cons, same, this]
      exact .refl _
    · rename_i more
      simp only [List.map_cons, List.filter_cons, more]
      exact ((ih later).cons v').trans (.swap _ _ _)

/-- The values after a value was given to a key. -/
theorem values_insert [Std.TransOrd κ] [Std.LawfulEqOrd κ] (t : Table κ ν) (k : κ) (v : ν) :
    (t.insert k v).values.Perm (v :: (t.erase k).values) := values_place k v t.ascending

/-- The values are the one that is found and those under other keys. -/
theorem values_of_lookup [Std.TransOrd κ] {k : κ} {v : ν} {l : List (κ × ν)}
    (h : l.Pairwise fun a b => compare a.1 b.1 = .lt) (hv : lookup k l = some v) :
    (l.map (·.2)).Perm (v :: (l.filter fun e => compare k e.1 ≠ .eq).map (·.2)) := by
  induction l with
  | nil => cases hv
  | cons p rest ih =>
    obtain ⟨k', v'⟩ := p
    obtain ⟨first, later⟩ := List.pairwise_cons.1 h
    unfold lookup at hv
    split at hv
    · rename_i same
      cases hv
      have beyond : (rest.filter fun e => compare k e.1 ≠ .eq) = rest := by
        refine List.filter_eq_self.2 fun e he => ?_
        have less : compare k e.1 = .lt := Std.TransCmp.lt_of_eq_of_lt same (first e he)
        simp [less]
      simp only [List.map_cons, List.filter_cons, same, beyond]
      exact .refl _
    · rename_i other
      simp only [List.map_cons, List.filter_cons, other, ne_eq, not_false_eq_true, decide_true,
        if_true]
      exact ((ih later hv).cons v').trans (.swap _ _ _)

/-- The values before the value of a key was removed. -/
theorem values_of_find? [Std.TransOrd κ] {t : Table κ ν} {k : κ} {v : ν} (h : t.find? k = some v) :
    t.values.Perm (v :: (t.erase k).values) := values_of_lookup t.ascending h

/-- In a list that ascends, what is in it is found. -/
theorem lookup_of_mem [Std.TransOrd κ] [Std.LawfulEqOrd κ] {e : κ × ν} {l : List (κ × ν)}
    (h : l.Pairwise fun a b => compare a.1 b.1 = .lt) (he : e ∈ l) : lookup e.1 l = some e.2 := by
  induction l with
  | nil => cases he
  | cons p rest ih =>
    obtain ⟨first, later⟩ := List.pairwise_cons.1 h
    rcases List.mem_cons.1 he with rfl | he
    · simp [lookup]
    · have apart : compare e.1 p.1 ≠ .eq := by
        rw [Std.OrientedCmp.gt_of_lt (first e he)]
        decide
      rw [lookup, if_neg apart]
      exact ih later he

/-- The entries of a table of pairs are among the pairs. -/
theorem mem_of_mem_ofList [Std.TransOrd κ] [Std.LawfulEqOrd κ] {pairs : List (κ × ν)}
    {e : κ × ν} (h : e ∈ (ofList pairs).entries) : e ∈ pairs :=
  mem_of_find?_ofList (lookup_of_mem (ofList pairs).ascending h)

/-- The values of a table are what is found at its keys. -/
theorem values_eq_map_keys [Std.TransOrd κ] [Std.LawfulEqOrd κ] (t : Table κ ν) (d : ν) :
    t.values = t.keys.map fun k => (t.find? k).getD d := by
  rw [values, keys, List.map_map]
  refine List.map_congr_left fun e he => ?_
  rw [Function.comp, find?, lookup_of_mem t.ascending he, Option.getD_some]

/-- Filtering out a key that is not there leaves the list. -/
theorem filter_of_lookup {k : κ} {l : List (κ × ν)} (h : lookup k l = none) :
    (l.filter fun e => compare k e.1 ≠ .eq) = l := by
  induction l with
  | nil => rfl
  | cons p rest ih =>
    obtain ⟨k', v'⟩ := p
    unfold lookup at h
    split at h
    · cases h
    · rename_i other
      simp only [List.filter_cons, other, ne_eq, not_false_eq_true, decide_true, if_true] at ih ⊢
      rw [ih h]

/-- Removing a key that has no value changes nothing. -/
theorem erase_of_find? {t : Table κ ν} {k : κ} (h : t.find? k = none) : t.erase k = t :=
  ext (filter_of_lookup h)

theorem filter_place [Std.TransOrd κ] (k : κ) (v : ν) (l : List (κ × ν)) :
    ((place k v l).filter fun e => compare k e.1 ≠ .eq) =
      l.filter fun e => compare k e.1 ≠ .eq := by
  induction l with
  | nil => simp [place]
  | cons p rest ih =>
    unfold place
    split
    · simp
    · rename_i same
      simp [same]
    · simp only [List.filter_cons, ih]

/-- A value that was given to a key goes with the key. -/
theorem erase_insert [Std.TransOrd κ] [Std.LawfulEqOrd κ] (t : Table κ ν) (k : κ) (v : ν) :
    (t.insert k v).erase k = t.erase k := ext (filter_place k v t.entries)

/-! ## All values -/

/-- A key that is there is not one that is not. -/
theorem ne_of_find? {t : Table κ ν} {j k : κ} {v : ν} (hj : t.find? j = none)
    (hk : t.find? k = some v) : j ≠ k := by
  rintro rfl
  cases hj.symm.trans hk

/-- A fact about all values is one about the value that is put in and about the others. -/
theorem forall_insert [Std.TransOrd κ] [Std.LawfulEqOrd κ] {P : κ → ν → Prop} {t : Table κ ν}
    {k : κ} {v : ν} (hv : P k v) (h : ∀ j w, t.find? j = some w → P j w) :
    ∀ j w, (t.insert k v).find? j = some w → P j w := by
  intro j w hw
  by_cases hj : j = k
  · rw [hj, find?_insert_self] at hw
    cases hw
    exact hj ▸ hv
  · rw [find?_insert_ne _ hj] at hw
    exact h j w hw

/-- What holds of all entries holds of those that are left. -/
theorem forall_erase [Std.LawfulEqOrd κ] {P : κ → ν → Prop} {t : Table κ ν}
    {k : κ} (h : ∀ j w, t.find? j = some w → P j w) :
    ∀ j w, (t.erase k).find? j = some w → P j w := by
  intro j w hw
  by_cases hj : j = k
  · rw [hj, find?_erase_self] at hw
    cases hw
  · rw [find?_erase_ne _ hj] at hw
    exact h j w hw

/-- A value that is put in takes no key away. -/
theorem exists_insert [Std.TransOrd κ] [Std.LawfulEqOrd κ] {t : Table κ ν} {k j : κ} {v : ν}
    (h : ∃ w, t.find? j = some w) : ∃ w, (t.insert k v).find? j = some w := by
  by_cases hj : j = k
  · exact ⟨v, hj ▸ find?_insert_self _ _ _⟩
  · rw [find?_insert_ne _ hj]
    exact h

/-! ## Sums -/

/-- The sum of something over the values of a table. -/
def total (f : ν → Nat) (t : Table κ ν) : Nat := t.values.foldr (fun v n => f v + n) 0

/-- A sum is that of one value and that of the others. -/
theorem total_of_perm {f : ν → Nat} {t : Table κ ν} {v : ν} {rest : List ν}
    (h : t.values.Perm (v :: rest)) :
    t.total f = f v + rest.foldr (fun v n => f v + n) 0 := by
  refine h.foldr_eq' (fun a _ b _ n => ?_) 0
  omega

/-- Giving a key a value that it has not adds what there is of it. -/
theorem total_insert_of_none [Std.TransOrd κ] [Std.LawfulEqOrd κ] {t : Table κ ν} {k : κ}
    (f : ν → Nat) (h : t.find? k = none) (v : ν) :
    (t.insert k v).total f = t.total f + f v := by
  rw [total_of_perm (values_insert t k v), erase_of_find? h]
  exact Nat.add_comm _ _

/-- What is taken out is taken off the sum. -/
theorem total_erase [Std.TransOrd κ] {t : Table κ ν} {k : κ} {v : ν} (f : ν → Nat)
    (h : t.find? k = some v) : (t.erase k).total f + f v = t.total f := by
  rw [total_of_perm (values_of_find? h)]
  exact Nat.add_comm _ _

/-- Giving a key another value changes the sum by what there is of the two. -/
theorem total_insert [Std.TransOrd κ] [Std.LawfulEqOrd κ] {t : Table κ ν} {k : κ} {v : ν}
    (f : ν → Nat) (h : t.find? k = some v) (v' : ν) :
    (t.insert k v').total f + f v = t.total f + f v' := by
  rw [← total_erase f h, total_of_perm (values_insert t k v')]
  show f v' + (t.erase k).total f + f v = (t.erase k).total f + f v + f v'
  omega

/-- What there is of one value is no more than the sum. -/
theorem le_total [Std.TransOrd κ] {t : Table κ ν} {k : κ} {v : ν} (f : ν → Nat)
    (h : t.find? k = some v) : f v ≤ t.total f := by
  rw [← total_erase f h]
  exact Nat.le_add_left _ _

theorem total_one (t : Table κ ν) : t.total (fun _ => 1) = t.size := by
  unfold total values size
  induction t.entries with
  | nil => rfl
  | cons e rest ih => rw [List.map_cons, List.foldr_cons, ih, List.length_cons, Nat.add_comm]

theorem total_toNat (p : ν → Bool) (t : Table κ ν) :
    t.total (fun v => (p v).toNat) = t.values.countP p := by
  unfold total
  induction t.values with
  | nil => rfl
  | cons v rest ih =>
    rw [List.foldr_cons, ih, List.countP_cons, Nat.add_comm]
    cases h : p v <;> simp [h]

end Table

end WorkPool
