import Mathlib.Tactic.Tauto
import WorkPool.Proofs.Result
import WorkPool.Proofs.RoundTrip

/-!
# Values as raw bytes

A value has raw bytes, and raw bytes are read as a value of a kind. Main statement:
`raw_bytes_round_trip` — every value is read back from its bytes, and what is read of arbitrary
bytes has these bytes. Those of a scalar are read as a whole, and refused exactly if they are a
number and not eight, or a text and not UTF-8. The entries of a container stand at the start of the
bytes, and what comes after them is not looked at.

Floats are bits here, so that the statement holds of each of them. The counts in the bytes of a
container are words (`Value.Countable`), as in every list on the wire.
-/

namespace WorkPool

open Wire

/-! ## Numbers -/

namespace Wire

theorem length_digits (width n : Nat) : (digits width n).length = width := by
  induction width generalizing n with
  | zero => rfl
  | succ width ih => rw [digits, List.length_cons, ih]

theorem isSome_readDigits {width : Nat} {bytes : Bytes} (enough : width ≤ bytes.length) :
    (readDigits width bytes).isSome = true := by
  induction width generalizing bytes with
  | zero => rfl
  | succ width ih =>
    cases bytes with
    | nil => cases enough
    | cons byte bytes =>
      rw [readDigits, Option.isSome_map]
      exact ih (Nat.le_of_succ_le_succ enough)

end Wire

/-! ## Texts -/

theorem length_textBytes (s : String) : (textBytes s).length = s.utf8ByteSize := by
  rw [textBytes_eq]
  rfl

/-- The bytes of a text are those of its characters. -/
theorem textBytes_ofList (chars : List Char) :
    textBytes (String.ofList chars) = chars.flatMap String.utf8EncodeChar := by
  rw [textBytes_eq]
  exact List.toList_data_toByteArray

/-- Bytes are UTF-8 if they are those of some characters, one after the other. -/
def IsUtf8 (bytes : Bytes) : Prop :=
  ∃ chars : List Char, chars.flatMap String.utf8EncodeChar = bytes

theorem isUtf8_iff (bytes : Bytes) : IsUtf8 bytes ↔ ∃ s, textBytes s = bytes := by
  constructor
  · rintro ⟨chars, rfl⟩
    exact ⟨String.ofList chars, textBytes_ofList chars⟩
  · rintro ⟨s, rfl⟩
    refine ⟨s.toList, ?_⟩
    rw [← textBytes_ofList, String.ofList_toList]

namespace Value

/-! ## Scalars -/

/-- Eight bytes are a number exactly if they are the bytes of that number. -/
theorem number_eq_ok_iff {α : Type} [Wire α] [Readable α] [Exact α] {kind : Kind} {bytes : Bytes}
    {n : α} (fits : Readable.Fits n) (width : ∀ n : α, (encode n).length = 8) :
    number kind bytes = .ok n ↔ encode n = bytes := by
  unfold number
  constructor
  · intro h
    split at h
    · rename_i eight
      split at h
      · rename_i read
        cases h
        have start := encode_prefix_of_decode? read
        exact start.eq_of_length (by rw [width, eight])
      · cases h
    · cases h
  · rintro rfl
    have read := (decode?_encode_iff n []).2 fits
    rw [List.append_nil] at read
    rw [if_pos (width n), read]

theorem text_eq_ok_iff {kind : Kind} {bytes : Bytes} {s : String} :
    text kind bytes = .ok s ↔ textBytes s = bytes := by
  unfold text
  constructor
  · intro h
    split at h
    · rename_i read
      cases h
      exact textBytes_of_textOfBytes? read
    · cases h
  · rintro rfl
    rw [textOfBytes?_textBytes]

/-- What is made of some bytes is the value of a kind that has these bytes, if it is made of what
has them. -/
theorem map_eq_ok_iff {α : Type} {make : α → Value} {toBytes : α → Bytes} {x : Except Error α}
    {kind : Kind} {bytes : Bytes} {v : Value} (read : ∀ a, x = .ok a ↔ toBytes a = bytes)
    (same : ∀ a, (make a).toBytes = toBytes a) (made : v.kind = kind ↔ ∃ a, make a = v) :
    x.map make = .ok v ↔ v.kind = kind ∧ v.toBytes = bytes := by
  constructor
  · intro h
    obtain ⟨a, hx, rfl⟩ := map_eq_ok h
    exact ⟨made.2 ⟨a, rfl⟩, (same a).trans ((read a).1 hx)⟩
  · rintro ⟨kind, bytes⟩
    obtain ⟨a, rfl⟩ := made.1 kind
    rw [(read a).2 ((same a).symm.trans bytes)]
    rfl

/-- **Raw bytes stand for one value** of a scalar kind at most: the one that has these bytes. -/
theorem ofBytes_eq_ok_iff {kind : Kind} {bytes : Bytes} {v : Value} (scalar : kind ≠ .container) :
    ofBytes kind bytes = .ok v ↔ v.kind = kind ∧ v.toBytes = bytes := by
  cases kind with
  | container => exact absurd rfl scalar
  | integer | float =>
    refine map_eq_ok_iff (fun _ => number_eq_ok_iff trivial fun _ => length_digits 8 _)
      (fun _ => rfl) ⟨fun kind => ?_, ?_⟩
    · cases v <;> cases kind
      exact ⟨_, rfl⟩
    · rintro ⟨n, rfl⟩
      rfl
  | string | file =>
    refine map_eq_ok_iff (fun _ => text_eq_ok_iff) (fun _ => rfl) ⟨fun kind => ?_, ?_⟩
    · cases v <;> cases kind
      exact ⟨_, rfl⟩
    · rintro ⟨s, rfl⟩
      rfl
  | blob =>
    constructor
    · intro read
      cases read
      exact ⟨rfl, rfl⟩
    · rintro ⟨kind, bytes⟩
      cases v <;> cases kind
      rw [← bytes]
      rfl

/-- A scalar takes as many bytes of the budget as it has. -/
theorem length_toBytes {v : Value} (scalar : v.kind ≠ .container) :
    v.toBytes.length = v.size := by
  cases v with
  | container => exact absurd rfl scalar
  | integer | float => exact length_digits 8 _
  | string s | file s => exact length_textBytes s
  | blob => rfl

/-- Eight bytes are those of some number. -/
theorem exists_digits {bytes : Bytes} (eight : bytes.length = 8) :
    ∃ n : UInt64, encode n = bytes := by
  obtain ⟨⟨n, rest⟩, read⟩ := Option.isSome_iff_exists.1 (isSome_readDigits (Nat.le_of_eq eight.symm))
  have found : decode? bytes = some (UInt64.ofNat n) := by
    show ((readDigits 8 bytes).map _).map _ = _
    rw [read]
    rfl
  exact ⟨_, (encode_prefix_of_decode? found).eq_of_length ((length_digits 8 _).trans eight.symm)⟩

/-- The bytes that some value of a scalar kind has. -/
theorem exists_toBytes_iff {kind : Kind} {bytes : Bytes} (scalar : kind ≠ .container) :
    (∃ v : Value, v.kind = kind ∧ v.toBytes = bytes) ↔
      ((kind = .integer ∨ kind = .float) → bytes.length = 8) ∧
      ((kind = .string ∨ kind = .file) → IsUtf8 bytes) := by
  constructor
  · rintro ⟨v, rfl, rfl⟩
    cases v with
    | container => exact absurd rfl scalar
    | integer | float => exact ⟨fun _ => length_digits 8 _, by simp [Value.kind]⟩
    | string s | file s => exact ⟨by simp [Value.kind], fun _ => (isUtf8_iff _).2 ⟨s, rfl⟩⟩
    | blob => simp [Value.kind]
  · rintro ⟨numbers, texts⟩
    cases kind with
    | container => exact absurd rfl scalar
    | integer =>
      obtain ⟨n, rfl⟩ := exists_digits (numbers (.inl rfl))
      exact ⟨.integer n.toInt64, rfl, rfl⟩
    | float =>
      obtain ⟨n, rfl⟩ := exists_digits (numbers (.inr rfl))
      exact ⟨.float ⟨n⟩, rfl, rfl⟩
    | string =>
      obtain ⟨s, rfl⟩ := (isUtf8_iff bytes).1 (texts (.inl rfl))
      exact ⟨.string s, rfl, rfl⟩
    | file =>
      obtain ⟨s, rfl⟩ := (isUtf8_iff bytes).1 (texts (.inr rfl))
      exact ⟨.file s, rfl, rfl⟩
    | blob => exact ⟨.blob bytes, rfl, rfl⟩

/-- **Raw bytes are refused** exactly if no value of the kind has them. -/
theorem ofBytes_eq_error_iff {kind : Kind} {bytes : Bytes} (scalar : kind ≠ .container) :
    (∃ e, ofBytes kind bytes = .error e) ↔
      (kind = .integer ∨ kind = .float) ∧ bytes.length ≠ 8 ∨
      (kind = .string ∨ kind = .file) ∧ ¬ IsUtf8 bytes := by
  have refused : (∃ e, ofBytes kind bytes = .error e) ↔
      ¬ ∃ v : Value, v.kind = kind ∧ v.toBytes = bytes := by
    constructor
    · rintro ⟨e, refused⟩ ⟨v, read⟩
      cases ((ofBytes_eq_ok_iff scalar).2 read).symm.trans refused
    · intro none
      cases result : ofBytes kind bytes with
      | error e => exact ⟨e, rfl⟩
      | ok v => exact (none ⟨v, (ofBytes_eq_ok_iff scalar).1 result⟩).elim
  rw [refused, exists_toBytes_iff scalar]
  tauto

/-! ## Containers -/

/-- Every count in the raw bytes of a value fits its word: of a value that was ever in the memory
of a machine with words for addresses, it does. Only the bytes of containers have counts. -/
def Countable : Value → Prop
  | .container entries => entries.length < UInt64.size ∧ ∀ e ∈ entries,
      e.subscript.utf8ByteSize < UInt64.size ∧
        ∀ member, e.member = some member → member.length < UInt64.size
  | _ => True

theorem fits_bytes_iff (bytes : Bytes) : Readable.Fits bytes ↔ bytes.length < UInt64.size :=
  and_iff_left fun _ _ => trivial

theorem countable_container_iff (entries : List Entry) :
    Countable (.container entries) ↔ Readable.Fits entries := by
  refine and_congr_right fun _ => forall₂_congr fun e _ => and_congr ?_ ?_
  · rw [← length_textBytes]
    exact (fits_bytes_iff _).symm
  · exact forall₂_congr fun member _ => (fits_bytes_iff member).symm

/-- **The entries of a container** stand at the start of the bytes. -/
theorem ofBytes_container_iff {bytes : Bytes} {v : Value} :
    ofBytes .container bytes = .ok v ↔
      v.kind = .container ∧ v.Countable ∧ v.toBytes <+: bytes := by
  have read : ofBytes .container bytes = .ok v ↔
      ∃ entries : List Entry, decode? bytes = some entries ∧ .container entries = v := by
    rw [ofBytes]
    split
    · rename_i found
      simp [found]
    · rename_i none
      simp [none]
  rw [read]
  constructor
  · rintro ⟨entries, found, rfl⟩
    have start := encode_prefix_of_decode? found
    obtain ⟨rest, rfl⟩ := start
    exact ⟨rfl, (countable_container_iff entries).2 ((decode?_encode_iff entries rest).1 found),
      rest, rfl⟩
  · rintro ⟨kind, fits, rest, rfl⟩
    cases v <;> cases kind
    rename_i entries
    exact ⟨entries,
      (decode?_encode_iff entries rest).2 ((countable_container_iff entries).1 fits), rfl⟩

/-! ## All kinds -/

/-- **Values go round** through their raw bytes.

* A value is read back from its bytes, as long as its counts fit their words.
* What is read of bytes of a scalar kind is of that kind, and has these bytes and no others; its
  size is their number. They are refused exactly if a number has not eight of them, or a text is
  not UTF-8.
* What is read of bytes of a container is what stands at their start. -/
theorem raw_bytes_round_trip :
    (∀ v : Value, ofBytes v.kind v.toBytes = .ok v ↔ v.Countable) ∧
    (∀ kind bytes, kind ≠ .container →
      (∀ v, ofBytes kind bytes = .ok v →
        v.kind = kind ∧ v.toBytes = bytes ∧ v.size = bytes.length) ∧
      ((∃ e, ofBytes kind bytes = .error e) ↔
        (kind = .integer ∨ kind = .float) ∧ bytes.length ≠ 8 ∨
        (kind = .string ∨ kind = .file) ∧ ¬ IsUtf8 bytes)) ∧
    (∀ bytes v, ofBytes .container bytes = .ok v ↔
      v.kind = .container ∧ v.Countable ∧ v.toBytes <+: bytes) := by
  refine ⟨fun v => ?_, fun kind bytes scalar => ⟨fun v read => ?_, ofBytes_eq_error_iff scalar⟩,
    fun bytes v => ofBytes_container_iff⟩
  · by_cases container : v.kind = .container
    · rw [container, ofBytes_container_iff]
      simp [container]
    · have countable : v.Countable := by
        cases v with
        | container => exact absurd rfl container
        | _ => trivial
      exact iff_of_true ((ofBytes_eq_ok_iff container).2 ⟨rfl, rfl⟩) countable
  · obtain ⟨rfl, rfl⟩ := (ofBytes_eq_ok_iff scalar).1 read
    exact ⟨rfl, rfl, (length_toBytes scalar).symm⟩

/-- Two entries with a byte after them, a float that is no number, and bytes that would be half of
a character. -/
theorem raw_bytes_round_trip_examples :
    let v : Value := .container [⟨"é", some [1, 2]⟩, ⟨"", none⟩]
    let nan : Bytes := [7, 0, 0, 0, 0, 0, 248, 127]
    let half : Bytes := [0xed, 0xa0, 0x80]
    (ofBytes .container (v.toBytes ++ [9]) = .ok v ∧ v.toBytes <+: v.toBytes ++ [9]) ∧
    (∃ x, ofBytes .float nan = .ok (.float x) ∧ toBytes (.float x) = nan) ∧
    ((∃ e, ofBytes .file half = .error e) ∧ ¬ IsUtf8 half) := by
  intro v nan half
  obtain ⟨-, scalars, containers⟩ := raw_bytes_round_trip
  have entries : ofBytes .container (v.toBytes ++ [9]) = .ok v :=
    eq_ok_of_toOption (by decide +kernel)
  have bits : ofBytes .float nan = .ok (.float ⟨0x7ff8000000000007⟩) :=
    eq_ok_of_toOption (by decide +kernel)
  have refused : ∃ e, ofBytes .file half = .error e := by
    have none : textOfBytes? half = none := by decide +kernel
    exact ⟨.invalid "file value is not valid UTF-8", by rw [ofBytes, text, none]; rfl⟩
  refine ⟨⟨entries, ((containers _ v).1 entries).2.2⟩, ⟨_, bits, ?_⟩, refused, ?_⟩
  · exact ((scalars .float nan (by decide)).1 _ bits).2.1
  · have cause := (scalars .file half (by decide)).2.1 refused
    simpa using cause

end Value

end WorkPool
