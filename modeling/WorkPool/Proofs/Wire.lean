import Mathlib.Algebra.Group.Nat.Defs
import WorkPool.Proofs.Table
import WorkPool.Wire

/-!
# The laws of the wire format

A reader and a writer of a type belong together in two ways:

* **what was written is read back** (`Readable`): after the bytes of a value, whatever comes next,
  the reader returns the value and leaves what comes next;
* **what was read is what would be written** (`Exact`): the bytes that a reader consumed are those
  of the value it returned, so a value has one written form.

A count on the wire is a 64-bit word. A value whose lists and texts are shorter than that
**fits**, and what a reader returns always does. The first law needs a value that fits, and
nothing else. The second one holds of every type but tables, because the pairs of a table may
stand on the wire in any order: it holds of a table whose keys ascend there (`exact_table`).

The laws are proved once for words, pairs, options, lists, texts and tables, and for alternatives
in the form in which a type with several constructors uses them.
-/

namespace WorkPool

namespace Wire

/-! ## The two laws -/

/-- What was written is read back. -/
class Readable (α : Type) [Wire α] where
  /-- every count in the value fits its word -/
  Fits : α → Prop
  get_put (a : α) (rest : Bytes) : Fits a → get (put a ++ rest) = some (a, rest)
  fits_of_get {b rest : Bytes} {a : α} : get b = some (a, rest) → Fits a

export Readable (Fits get_put fits_of_get)

/-- What was read is what would be written. -/
class Exact (α : Type) [Wire α] : Prop where
  eq_put {b rest : Bytes} {a : α} : get b = some (a, rest) → b = put a ++ rest

export Exact (eq_put)

section Laws

variable {α β : Type} [Wire α] [Wire β] {b rest : Bytes}

/-- **A value is read back exactly if it fits.** -/
theorem decode?_encode_iff [Readable α] (a : α) (rest : Bytes) :
    decode? (encode a ++ rest) = some a ↔ Fits a := by
  constructor
  · intro h
    obtain ⟨⟨a', rest'⟩, read, rfl⟩ := Option.map_eq_some_iff.1 h
    exact fits_of_get read
  · intro fits
    rw [decode?, encode, get_put a rest fits, Option.map_some]

/-- What was read can be written and read again. -/
theorem decode?_encode_of_decode? [Readable α] {a : α} (h : decode? b = some a) :
    decode? (encode a) = some a := by
  obtain ⟨⟨a', rest⟩, read, rfl⟩ := Option.map_eq_some_iff.1 h
  have again := (decode?_encode_iff a' []).2 (fits_of_get read)
  rwa [List.append_nil] at again

/-- What was read stands, as it would be written, at the start of the bytes. -/
theorem encode_prefix_of_decode? [Exact α] {a : α} (h : decode? b = some a) : encode a <+: b := by
  obtain ⟨⟨a', rest⟩, read, rfl⟩ := Option.map_eq_some_iff.1 h
  exact ⟨rest, (eq_put read).symm⟩

end Laws

/-! ## Words -/

theorem readDigits_digits (width n : Nat) (rest : Bytes) :
    readDigits width (digits width n ++ rest) = some (n % 256 ^ width, rest) := by
  induction width generalizing n with
  | zero => simp [readDigits, digits, Nat.mod_one]
  | succ width ih =>
    have byte : (UInt8.ofNat (n % 256)).toNat = n % 256 := by simp
    simp only [digits, List.cons_append, readDigits, ih, Option.map_some, byte]
    rw [Nat.pow_succ', Nat.mod_mul]

theorem eq_digits_of_readDigits {width n : Nat} {b rest : Bytes}
    (h : readDigits width b = some (n, rest)) : n < 256 ^ width ∧ b = digits width n ++ rest := by
  induction width generalizing b n with
  | zero =>
    cases h
    exact ⟨Nat.one_pos, rfl⟩
  | succ width ih =>
    cases b with
    | nil => cases h
    | cons x b =>
      obtain ⟨⟨high, rest'⟩, read, e⟩ := Option.map_eq_some_iff.1 h
      cases e
      obtain ⟨bound, rfl⟩ := ih read
      have byte : x.toNat < 256 := x.toNat_lt
      have low : UInt8.ofNat ((x.toNat + 256 * high) % 256) = x := by
        rw [Nat.add_mul_mod_self_left, Nat.mod_eq_of_lt byte, UInt8.ofNat_toNat]
      have left : (x.toNat + 256 * high) / 256 = high := by omega
      refine ⟨?_, ?_⟩
      · rw [Nat.pow_succ']
        omega
      · rw [digits, low, left, List.cons_append]

instance : Readable UInt8 where
  Fits _ := True
  get_put _ _ _ := rfl
  fits_of_get _ := trivial

instance : Exact UInt8 where
  eq_put {b rest a} h := by
    cases b with
    | nil => cases h
    | cons => cases h; rfl

instance : Readable UInt32 where
  Fits _ := True
  get_put n rest _ := by
    show (readDigits 4 (digits 4 n.toNat ++ rest)).map _ = _
    have bound : n.toNat < 256 ^ 4 := n.toNat_lt
    rw [readDigits_digits, Nat.mod_eq_of_lt bound]
    simp
  fits_of_get _ := trivial

instance : Exact UInt32 where
  eq_put {b rest a} h := by
    obtain ⟨⟨n, rest⟩, read, e⟩ := Option.map_eq_some_iff.1 h
    cases e
    obtain ⟨bound, rfl⟩ := eq_digits_of_readDigits read
    show _ = digits 4 (UInt32.ofNat n).toNat ++ rest
    rw [UInt32.toNat_ofNat_of_lt' bound]

instance : Readable UInt64 where
  Fits _ := True
  get_put n rest _ := by
    show (readDigits 8 (digits 8 n.toNat ++ rest)).map _ = _
    have bound : n.toNat < 256 ^ 8 := n.toNat_lt
    rw [readDigits_digits, Nat.mod_eq_of_lt bound]
    simp
  fits_of_get _ := trivial

instance : Exact UInt64 where
  eq_put {b rest a} h := by
    obtain ⟨⟨n, rest⟩, read, e⟩ := Option.map_eq_some_iff.1 h
    cases e
    obtain ⟨bound, rfl⟩ := eq_digits_of_readDigits read
    show _ = digits 8 (UInt64.ofNat n).toNat ++ rest
    rw [UInt64.toNat_ofNat_of_lt' bound]

/-! ## Views

A type that is written as another one obeys the laws of that one. -/

/-- A type is written as another one, from which it can be made again. -/
structure View (α β : Type) [Wire α] [Wire β] where
  view : α → β
  make : β → α
  put_eq (a : α) : put a = put (view a)
  get_eq (b : Bytes) : get b = (get b).map fun p => (make p.1, p.2)
  make_view (a : α) : make (view a) = a
  view_make (x : β) : view (make x) = x

namespace View

variable {α β : Type} [Wire α] [Wire β] {b rest : Bytes} {a : α}

theorem get_eq_some (v : View α β) (h : get b = some (a, rest)) :
    get b = some (v.view a, rest) := by
  rw [v.get_eq] at h
  obtain ⟨⟨x, rest⟩, read, e⟩ := Option.map_eq_some_iff.1 h
  cases e
  rw [v.view_make]
  exact read

/-- What is written as a readable type is readable. -/
abbrev readable (v : View α β) [Readable β] : Readable α where
  Fits a := Fits (v.view a)
  get_put a rest fits := by
    rw [v.put_eq, v.get_eq, get_put (v.view a) rest fits, Option.map_some, v.make_view]
  fits_of_get h := fits_of_get (v.get_eq_some h)

theorem exact (v : View α β) [Exact β] : Exact α where
  eq_put h := by
    rw [v.put_eq]
    exact eq_put (v.get_eq_some h)

end View

/-- A signed word is written as the unsigned one with its bits. -/
def int32View : View Int32 UInt32 :=
  ⟨Int32.toUInt32, UInt32.toInt32, fun _ => rfl, fun _ => rfl, fun _ => rfl, fun _ => rfl⟩

instance : Readable Int32 := int32View.readable

instance : Exact Int32 := int32View.exact

/-- A signed word is written as the unsigned one with its bits. -/
def int64View : View Int64 UInt64 :=
  ⟨Int64.toUInt64, UInt64.toInt64, fun _ => rfl, fun _ => rfl, fun _ => rfl, fun _ => rfl⟩

instance : Readable Int64 := int64View.readable

instance : Exact Int64 := int64View.exact

/-! ## Composed values -/

instance : Readable Bool where
  Fits _ := True
  get_put b _ _ := by cases b <;> rfl
  fits_of_get _ := trivial

instance : Exact Bool where
  eq_put {b rest a} h := by
    simp only [get] at h
    split at h <;> cases h <;> rfl

instance : Readable Unit where
  Fits _ := True
  get_put _ _ _ := rfl
  fits_of_get _ := trivial

instance : Exact Unit where
  eq_put h := by
    cases h
    rfl

section Composed

variable {α β : Type} [Wire α] [Wire β] {b rest : Bytes}

/-- Inversion for a pair that was read. -/
theorem get_pair_eq_some {p : α × β} (h : get b = some (p, rest)) :
    ∃ between, get b = some (p.1, between) ∧ get between = some (p.2, rest) := by
  obtain ⟨⟨x, between⟩, first, h⟩ := Option.bind_eq_some_iff.1 h
  obtain ⟨⟨y, rest⟩, later, h⟩ := Option.bind_eq_some_iff.1 h
  cases h
  exact ⟨between, first, later⟩

theorem get_pair {x : α} {y : β} {between : Bytes} (first : get b = some (x, between))
    (later : get between = some (y, rest)) : get b = some ((x, y), rest) := by
  show (get b).bind _ = _
  rw [first, Option.bind_some]
  show (get between).bind _ = _
  rw [later]
  rfl

instance [Readable α] [Readable β] : Readable (α × β) where
  Fits p := Fits p.1 ∧ Fits p.2
  get_put p rest fits := by
    show get ((put p.1 ++ put p.2) ++ rest) = _
    rw [List.append_assoc]
    exact get_pair (get_put p.1 _ fits.1) (get_put p.2 rest fits.2)
  fits_of_get h := by
    obtain ⟨between, first, later⟩ := get_pair_eq_some h
    exact ⟨fits_of_get first, fits_of_get later⟩

instance [Exact α] [Exact β] : Exact (α × β) where
  eq_put {b rest p} h := by
    obtain ⟨between, first, later⟩ := get_pair_eq_some h
    show b = (put p.1 ++ put p.2) ++ rest
    rw [List.append_assoc, ← eq_put later, ← eq_put first]

instance [Readable α] : Readable (Option α) where
  Fits o := ∀ a, o = some a → Fits a
  get_put o rest fits := by
    cases o with
    | none => rfl
    | some a =>
      show (get (put a ++ rest)).map _ = _
      rw [get_put a rest (fits a rfl)]
      rfl
  fits_of_get {b rest o} h a e := by
    subst e
    simp only [get] at h
    split at h
    · cases h
    · obtain ⟨⟨x, rest⟩, read, e⟩ := Option.map_eq_some_iff.1 h
      cases e
      exact fits_of_get read
    · cases h

instance [Exact α] : Exact (Option α) where
  eq_put {b rest o} h := by
    simp only [get] at h
    split at h
    · cases h
      rfl
    · obtain ⟨⟨x, rest⟩, read, e⟩ := Option.map_eq_some_iff.1 h
      cases e
      rw [eq_put read]
      rfl
    · cases h

theorem getMany_flatMap [Readable α] (l : List α) (rest : Bytes) (fits : ∀ a ∈ l, Fits a) :
    getMany l.length (l.flatMap put ++ rest) = some (l, rest) := by
  induction l with
  | nil => rfl
  | cons a l ih =>
    have first := get_put a (l.flatMap put ++ rest) (fits a List.mem_cons_self)
    have later := ih fun x hx => fits x (List.mem_cons_of_mem a hx)
    simp [getMany, first, later]

/-- Inversion for a value in front of others. -/
theorem getMany_succ_eq_some {n : Nat} {l : List α} (h : getMany (n + 1) b = some (l, rest)) :
    ∃ a as between, l = a :: as ∧ get b = some (a, between) ∧
      getMany n between = some (as, rest) := by
  obtain ⟨⟨a, between⟩, first, h⟩ := Option.bind_eq_some_iff.1 h
  obtain ⟨⟨as, rest⟩, later, h⟩ := Option.bind_eq_some_iff.1 h
  cases h
  exact ⟨a, as, between, rfl, first, later⟩

theorem length_of_getMany {n : Nat} {l : List α} (h : getMany n b = some (l, rest)) :
    l.length = n := by
  induction n generalizing b l with
  | zero =>
    cases h
    rfl
  | succ n ih =>
    obtain ⟨a, as, between, rfl, -, later⟩ := getMany_succ_eq_some h
    rw [List.length_cons, ih later]

theorem fits_of_getMany [Readable α] {n : Nat} {l : List α}
    (h : getMany n b = some (l, rest)) : ∀ a ∈ l, Fits a := by
  induction n generalizing b l with
  | zero =>
    cases h
    exact fun a ha => nomatch ha
  | succ n ih =>
    obtain ⟨a, as, between, rfl, first, later⟩ := getMany_succ_eq_some h
    exact List.forall_mem_cons.2 ⟨fits_of_get first, ih later⟩

theorem eq_flatMap_of_getMany [Exact α] {n : Nat} {l : List α}
    (h : getMany n b = some (l, rest)) : b = l.flatMap put ++ rest := by
  induction n generalizing b l with
  | zero =>
    cases h
    rfl
  | succ n ih =>
    obtain ⟨a, as, between, rfl, first, later⟩ := getMany_succ_eq_some h
    rw [List.flatMap_cons, List.append_assoc, ← ih later, ← eq_put first]

/-- Inversion for a list that was read: its length stands in front. -/
theorem get_list_eq_some {l : List α} (h : get b = some (l, rest)) :
    ∃ n between, get b = some (n, between) ∧ getMany (UInt64.toNat n) between = some (l, rest) := by
  obtain ⟨⟨n, between⟩, first, later⟩ := Option.bind_eq_some_iff.1 h
  exact ⟨n, between, first, later⟩

instance [Readable α] : Readable (List α) where
  Fits l := l.length < UInt64.size ∧ ∀ a ∈ l, Fits a
  get_put l rest fits := by
    show (get ((put (UInt64.ofNat l.length) ++ l.flatMap put) ++ rest)).bind _ = _
    rw [List.append_assoc, get_put (UInt64.ofNat l.length) _ trivial, Option.bind_some]
    show getMany (UInt64.ofNat l.length).toNat (l.flatMap put ++ rest) = _
    rw [UInt64.toNat_ofNat_of_lt' fits.1, getMany_flatMap l rest fits.2]
  fits_of_get h := by
    obtain ⟨n, between, -, many⟩ := get_list_eq_some h
    exact ⟨length_of_getMany many ▸ n.toNat_lt, fits_of_getMany many⟩

instance [Exact α] : Exact (List α) where
  eq_put {b rest l} h := by
    obtain ⟨n, between, first, many⟩ := get_list_eq_some h
    show b = (put (UInt64.ofNat l.length) ++ l.flatMap put) ++ rest
    rw [length_of_getMany many, UInt64.ofNat_toNat, List.append_assoc,
      ← eq_flatMap_of_getMany many, ← eq_put first]

end Composed

/-! ## Texts -/

theorem toList_loop (bytes : ByteArray) (i : Nat) (r : List UInt8) :
    ByteArray.toList.loop bytes i r = r.reverse ++ bytes.data.toList.drop i := by
  fun_induction ByteArray.toList.loop bytes i r with
  | case1 i r h ih =>
    have inside : i < bytes.data.toList.length := by simpa using h
    have next : bytes.get! i = bytes.data.toList[i] := by
      show bytes.data[i]! = _
      rw [getElem!_pos bytes.data i (by simpa using h), Array.getElem_toList]
    rw [ih, List.drop_eq_getElem_cons inside, next, List.reverse_cons, List.append_assoc]
    rfl
  | case2 i r h =>
    have beyond : bytes.data.toList.length ≤ i := by simpa using h
    rw [List.drop_eq_nil_of_le beyond, List.append_nil]

theorem textBytes_eq (s : String) : textBytes s = s.toByteArray.data.toList := by
  rw [textBytes, ByteArray.toList, toList_loop]
  rfl

/-- A text is that of its bytes. -/
theorem textOfBytes?_textBytes (s : String) : textOfBytes? (textBytes s) = some s := by
  have whole : (⟨(textBytes s).toArray⟩ : ByteArray) = s.toByteArray := by rw [textBytes_eq]
  rw [textOfBytes?, whole, String.fromUTF8?, dif_pos s.isValidUTF8]
  rfl

/-- Bytes that are those of a text are its bytes. -/
theorem textBytes_of_textOfBytes? {bytes : Bytes} {s : String} (h : textOfBytes? bytes = some s) :
    textBytes s = bytes := by
  rw [textOfBytes?, String.fromUTF8?] at h
  split at h
  · cases h
    rw [textBytes_eq]
    rfl
  · cases h

/-- Inversion for a text that was read. -/
theorem get_text_eq_some {b rest : Bytes} {s : String} (h : get b = some (s, rest)) :
    get b = some (textBytes s, rest) := by
  obtain ⟨⟨bytes, rest⟩, read, h⟩ := Option.bind_eq_some_iff.1 h
  obtain ⟨s, text, h⟩ := Option.bind_eq_some_iff.1 h
  cases h
  rw [textBytes_of_textOfBytes? text]
  exact read

instance : Readable String where
  Fits s := Fits (textBytes s)
  get_put s rest fits := by
    show (get (put (textBytes s) ++ rest)).bind _ = _
    rw [get_put (textBytes s) rest fits]
    simp [textOfBytes?_textBytes]
  fits_of_get h := fits_of_get (get_text_eq_some h)

instance : Exact String where
  eq_put {b rest s} h := by
    show b = put (textBytes s) ++ rest
    exact eq_put (get_text_eq_some h)

/-! ## Tables -/

section Tables

variable {κ ν : Type} [Ord κ] [Std.TransOrd κ] [Std.LawfulEqOrd κ] [Wire κ] [Wire ν]
  {b rest : Bytes}

/-- Inversion for a table that was read: it is made of pairs, as they stand in the bytes. -/
theorem get_table_eq_some {t : Table κ ν} (h : get b = some (t, rest)) :
    ∃ pairs, get b = some (pairs, rest) ∧ t = .ofList pairs := by
  obtain ⟨⟨pairs, rest⟩, read, e⟩ := Option.map_eq_some_iff.1 h
  cases e
  exact ⟨pairs, read, rfl⟩

instance [Readable κ] [Readable ν] : Readable (Table κ ν) where
  Fits t := Fits t.entries
  get_put t rest fits := by
    show (get (put t.entries ++ rest)).map _ = _
    rw [get_put t.entries rest fits]
    simp [Table.ofList_entries]
  fits_of_get h := by
    obtain ⟨pairs, read, rfl⟩ := get_table_eq_some h
    obtain ⟨short, all⟩ := fits_of_get read
    refine ⟨Nat.lt_of_le_of_lt (Table.length_ofList_le pairs) short, fun e he => ?_⟩
    exact all e (Table.mem_of_mem_ofList he)

/-- **A table whose keys ascend in the bytes** is what would be written. -/
theorem exact_table [Exact κ] [Exact ν] {t : Table κ ν} {pairs : List (κ × ν)}
    (h : get b = some (t, rest)) (read : get b = some (pairs, rest))
    (ascending : pairs.Pairwise fun p q => compare p.1 q.1 = .lt) : b = put t ++ rest := by
  obtain ⟨pairs', read', rfl⟩ := get_table_eq_some h
  cases read.symm.trans read'
  show b = put (Table.ofList pairs).entries ++ rest
  rw [Table.entries_ofList ascending]
  exact eq_put read

end Tables

/-! ## Alternatives

The wire form of a type with several constructors starts with a number, and the number says how
to read on. -/

section Alternatives

variable {α β : Type} [Wire β] {b rest : Bytes} {a : α}
  {read : UInt32 × Bytes → Option (α × Bytes)}

/-- The number of an alternative is read first, and then what the number stands for. -/
theorem get_alternative {γ : Type} {read : UInt32 × Bytes → Option γ} {number : UInt32} {x : β}
    {result : Option γ} (h : read (number, put x ++ rest) = result) :
    (getNumber (alternative number x ++ rest)).bind read = result := by
  rw [alternative, List.append_assoc, getNumber, get_put number _ trivial]
  exact h

theorem content_put [Readable β] (make : β → α) (x : β) (rest : Bytes) (fits : Fits x) :
    content make (put x ++ rest) = some (make x, rest) := by
  rw [content, get_put x rest fits]
  rfl

/-- Inversion for a number that was read. -/
theorem getNumber_bind_eq_some (h : (getNumber b).bind read = some (a, rest)) :
    ∃ number between, b = put number ++ between ∧ read (number, between) = some (a, rest) := by
  obtain ⟨⟨number, between⟩, first, later⟩ := Option.bind_eq_some_iff.1 h
  exact ⟨number, between, eq_put first, later⟩

/-- Inversion for the content of an alternative. -/
theorem content_eq_some {make : β → α} (h : content make b = some (a, rest)) :
    ∃ x, a = make x ∧ get b = some (x, rest) := by
  obtain ⟨⟨x, rest⟩, read, e⟩ := Option.map_eq_some_iff.1 h
  cases e
  exact ⟨x, rfl, read⟩

/-- The number and the content of an alternative, as they would be written. -/
theorem eq_alternative [Exact β] (number : UInt32) {x : β} (h : get b = some (x, rest)) :
    put number ++ b = alternative number x ++ rest := by
  rw [alternative, List.append_assoc, ← eq_put h]

end Alternatives

end Wire

end WorkPool
