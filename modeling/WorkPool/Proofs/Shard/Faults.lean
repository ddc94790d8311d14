import Mathlib.Order.Nat
import WorkPool.Proofs.Shard.Issued
import WorkPool.Proofs.Shard.LastWrite

/-!
# Where operations fault

A shard that is asked for something answers, or it faults because a number does not fit its word.
Main statement: `perform_faults` — there are two kinds of faults only, and both are sums. A
reference count is increased past its word (`Overfull`), which is a fault whenever it happens
(`perform_overfull`); or the bytes in use and those that come in are too many for a word together
(`Bursts`).

All other arithmetic is in range. Differences are, because what is taken off was counted before;
and so is what the source of ids computes, as long as a shard is asked for ids of its own class
(`reserve_of_inClass`).
-/

namespace WorkPool

/-! ## Sums of sizes -/

/-- A fault that comes of more bytes than a word counts: those in use, and some more. -/
def Bursts (used more : Nat) (f : Fault) : Prop :=
  f = .addOverflow ∧ Checked.wordSize ≤ used + more

/-- What is too much stays so if there is more. -/
theorem Bursts.mono {used n m : Nat} {f : Fault} (h : Bursts used n f) (le : n ≤ m) :
    Bursts used m f :=
  ⟨h.1, Nat.le_trans h.2 (Nat.add_le_add_left le used)⟩

namespace MemoryBudget

variable {b b' : MemoryBudget} {n old new : Nat} {granted : Except Error Unit} {f : Fault}

/-- Asking for bytes faults only if there are too many for a word. -/
theorem allocate_faults (h : b.allocate n = .error f) : Bursts b.used n f := by
  rcases bind_eq_error h with h | ⟨total, -, h⟩
  · unfold Checked.addSize at h
    split at h
    · cases h
    · rename_i large
      cases h
      exact ⟨rfl, Nat.not_lt.1 large⟩
  · split at h <;> cases h

/-- A change of size faults only for the bytes that are added. -/
theorem resize_faults (h : b.resize old new = .error f) : Bursts b.used (new - old) f := by
  unfold MemoryBudget.resize at h
  split at h
  · exact allocate_faults h
  · cases h

/-- No more bytes are in use than were asked for. -/
theorem allocate_used_le (h : b.allocate n = .ok (b', granted)) : b'.used ≤ b.used + n := by
  obtain ⟨total, sum, h⟩ := bind_eq_ok h
  split at h
  · cases h
    exact Nat.le_add_right _ _
  · cases h
    exact (Checked.addSize_eq_ok sum).le

/-- No more bytes are in use than the new size adds. -/
theorem resize_used_le (h : b.resize old new = .ok (b', granted)) : b'.used ≤ b.used + new := by
  unfold MemoryBudget.resize at h
  split at h
  · exact (allocate_used_le h).trans (Nat.add_le_add_left (Nat.sub_le _ _) _)
  · cases h
    exact (Nat.sub_le _ _).trans (Nat.le_add_right _ _)

end MemoryBudget

/-! ## Ids of the own class -/

namespace IdSource

/-- A source can pass over every id of its class. The limit plays no part in it, so that the source
may as well hand out nothing. -/
theorem reserve_of_inClass {s : IdSource} {n i : UInt64} {id : DatumId} (pos : 0 < n.toNat)
    (index : s.index.toInt = i.toNat) (stride : s.stride.toInt = n.toNat)
    (next : 0 < s.next.toInt) (own : InClass n i id) : ∃ s', s.reserve id = .ok s' := by
  have top := Int64.toInt_le_topId s.next
  have one : (1 : DatumId).toInt = 1 := rfl
  have ended : Int64.ofInt (s.next.toInt - 1) < s.next := by
    rw [Int64.lt_iff_toInt_lt, toInt_ofInt_of_nonneg (by omega) (by omega)]
    omega
  have source : Source n i s.limit { s with limit := Int64.ofInt (s.next.toInt - 1) } [] :=
    ⟨index, stride, next, .exhausted ended fun _ none => nomatch none⟩
  unfold reserve
  split
  · exact ⟨s, rfl⟩
  rename_i above
  rw [Int64.lt_iff_toInt_lt] at above
  have positive : 0 < id.toInt := by omega
  have followed := source.following pos positive own
  change s.following id = _ at followed
  rw [followed]
  by_cases fits : id.toInt + n.toNat ≤ topId
  · rw [if_pos fits]
    exact ⟨_, rfl⟩
  · rw [if_neg fits]
    have cut := subSigned_eq_ok (a := s.next) (b := 1) (by rw [one]; omega) (by rw [one]; omega)
    simp only [cut, bind, Except.bind]
    exact ⟨_, rfl⟩

/-- **Handing out an id does not fault** while the source ascends. -/
theorem allocate_ne_error {s : IdSource} {f : Fault} (hs : s.Upward) :
    s.allocate ≠ .error f := by
  by_cases spent : s.limit < s.next
  · rw [allocate_spent spent]
    exact pure_ne_error _ _
  · obtain ⟨s', granted⟩ := allocate_of_unspent hs spent
    rw [granted]
    exact pure_ne_error _ _

/-- Whatever is asked of a source, its class stays. -/
theorem fixed_allocate {s s' : IdSource} {r : Except Error DatumId}
    (h : s.allocate = .ok (s', r)) : s'.index = s.index ∧ s'.stride = s.stride := by
  unfold allocate at h
  split at h
  · cases h
    exact ⟨rfl, rfl⟩
  simp only at h
  split at h
  · obtain ⟨limit, -, h⟩ := bind_eq_ok h
    cases h
    exact ⟨rfl, rfl⟩
  · cases h
    exact ⟨rfl, rfl⟩

/-- Passing over an id leaves a source in its class. -/
theorem fixed_reserve {s s' : IdSource} {id : DatumId} (h : s.reserve id = .ok s') :
    s'.index = s.index ∧ s'.stride = s.stride := by
  unfold reserve at h
  split at h
  · cases h
    exact ⟨rfl, rfl⟩
  obtain ⟨found, -, h⟩ := bind_eq_ok h
  cases found with
  | some next =>
    cases h
    exact ⟨rfl, rfl⟩
  | none =>
    obtain ⟨limit, -, h⟩ := bind_eq_ok h
    cases h
    exact ⟨rfl, rfl⟩

end IdSource

/-! ## The bytes of an operation -/

/-- The bytes that come with a specification. -/
def Spec.bytes (spec : Spec) : Nat := (spec.filename.map String.utf8ByteSize).getD 0

/-- The bytes that an operation brings. -/
def Operation.bytes : Operation → Nat
  | .create spec => spec.bytes
  | .store _ value _ => value.size
  | .storeBytes _ bytes _ => bytes.length
  | .insert _ subscript member _ => subscript.utf8ByteSize + member.length
  | .reserve _ subscript => subscript.utf8ByteSize
  | _ => 0

/-- New content has no more bytes than its description. -/
theorem Content.size_of_ofSpec {spec : Spec} {content : Content}
    (h : Content.ofSpec spec = .ok content) : content.size ≤ spec.bytes := by
  unfold ofSpec at h
  cases kind : spec.kind with
  | container =>
    simp only [kind] at h
    split at h
    · cases h
      exact Nat.zero_le _
    · cases h
  | file =>
    rw [kind] at h
    cases h
    cases name : spec.filename <;>
      simp [Content.size, Content.scalar?, Spec.bytes, name, Value.size]
  | _ =>
    rw [kind] at h
    cases h
    exact Nat.zero_le _

namespace Shard

variable {s : Shard} {id : DatumId} {f : Fault} {limit : Nat} {op : Operation} {rank : Rank}

/-! ## Operation by operation -/

/-- An increase of a reference count that does not fit its word. Writers are added to open data
only. -/
def Overfull (s : Shard) : Operation → Prop
  | .addWriters id count => ∃ d, s.changeable id = .ok d ∧ d.closed = false ∧
      Checked.halfSize ≤ d.writers.toNat + count.toNat
  | .addReaders id count => ∃ d, s.changeable id = .ok d ∧
      Checked.halfSize ≤ d.readers.toNat + count.toNat
  | _ => False

/-- **An increase that does not fit** is a fault. -/
theorem perform_overfull (h : s.Overfull op) (rank : Rank) :
    s.perform rank op = .error .addOverflow := by
  cases op with
  | addWriters id count =>
    obtain ⟨d, found, opened, large⟩ := h
    have fault : Checked.addCount d.writers count = .error .addOverflow :=
      if_neg (Nat.not_lt.2 large)
    rw [perform, addWriters, found]
    simp only [opened, fault, bind, Except.bind]
    rfl
  | addReaders id count =>
    obtain ⟨d, found, large⟩ := h
    have fault : Checked.addCount d.readers count = .error .addOverflow :=
      if_neg (Nat.not_lt.2 large)
    rw [perform, addReaders, found]
    simp only [fault, bind, Except.bind]
  | _ => exact h.elim

/-- A count faults if the sum does not fit half a word. -/
theorem addCount_faults {a b : UInt32} (h : Checked.addCount a b = .error f) :
    f = .addOverflow ∧ Checked.halfSize ≤ a.toNat + b.toNat := by
  unfold Checked.addCount at h
  split at h
  · cases h
  · rename_i large
    cases h
    exact ⟨rfl, Nat.not_lt.1 large⟩

/-- Adding writers faults only if there are too many. -/
theorem addWriters_faults {count : UInt32} (h : s.addWriters id count = .error f) :
    s.Overfull (.addWriters id count) ∧ f = .addOverflow := by
  unfold addWriters at h
  split at h
  · cases h
  rename_i d found
  split at h
  · cases h
  rename_i opened
  rcases bind_eq_error h with h | ⟨writers, -, h⟩
  · obtain ⟨rfl, large⟩ := addCount_faults h
    exact ⟨⟨d, found, Bool.eq_false_iff.2 opened, large⟩, rfl⟩
  · cases h

/-- Adding readers faults only if there are too many. -/
theorem addReaders_faults {count : UInt32} (h : s.addReaders id count = .error f) :
    s.Overfull (.addReaders id count) ∧ f = .addOverflow := by
  unfold addReaders at h
  split at h
  · cases h
  rename_i d found
  rcases bind_eq_error h with h | ⟨readers, -, h⟩
  · obtain ⟨rfl, large⟩ := addCount_faults h
    exact ⟨⟨d, found, large⟩, rfl⟩
  · cases h

/-- Taking up new content faults only for its bytes. -/
theorem takeUp_faults {content : Content} {spec : Spec}
    (h : s.takeUp id content spec = .error f) : Bursts s.memory.used content.size f := by
  rcases bind_eq_error h with h | ⟨⟨memory, granted⟩, -, h⟩
  · exact MemoryBudget.allocate_faults h
  · cases granted <;> cases h

/-- Setting a scalar faults only for the bytes of the value. -/
theorem store_faults {value : Value} {drops : UInt32}
    (h : s.store id value drops = .error f) : Bursts s.memory.used value.size f := by
  obtain ⟨d, -, faulted⟩ := store_eq_error h
  exact (MemoryBudget.resize_faults faulted).mono (Nat.sub_le _ _)

/-- The value that raw bytes stand for has their size. -/
theorem size_of_checkBytes {bytes : Bytes} {value : Value}
    (h : s.checkBytes id bytes = .ok value) : value.size = bytes.length := by
  obtain ⟨d, -, h⟩ := bind_eq_ok h
  split at h
  · cases h
  rename_i scalar
  obtain ⟨kind, same⟩ := (Value.ofBytes_eq_ok_iff scalar).1 h
  rw [← same, Value.length_toBytes (kind ▸ scalar)]

/-- Setting a scalar from raw bytes faults only for those. -/
theorem storeBytes_faults {bytes : Bytes} {drops : UInt32}
    (h : s.storeBytes id bytes drops = .error f) : Bursts s.memory.used bytes.length f := by
  unfold storeBytes at h
  split at h
  · cases h
  rename_i value decoded
  rw [← size_of_checkBytes decoded]
  exact store_faults h

/-- Writing a member faults only for the bytes of it and of its subscript. -/
theorem insertMember_faults {subscript : String} {member : Bytes} {drops : UInt32}
    (books : Books limit s) (h : s.insertMember id subscript member drops = .error f) :
    Bursts s.memory.used (subscript.utf8ByteSize + member.length) f := by
  obtain ⟨d, c, live, container, faulted | ⟨others, rest, faulted⟩⟩ := insertMember_eq_error h
  · exact absurd faulted (books.subSize_memberBytes live container subscript f)
  · refine (MemoryBudget.resize_faults faulted).mono ?_
    split <;> omega

/-- Reserving a subscript faults only for its bytes. -/
theorem reserveSubscript_faults {subscript : String}
    (h : s.reserveSubscript id subscript = .error f) :
    Bursts s.memory.used subscript.utf8ByteSize f := by
  obtain ⟨d, -, faulted⟩ := reserveSubscript_eq_error h
  exact (MemoryBudget.resize_faults faulted).mono (by omega)

/-! ## Shards of a run -/

/-- What is known of the shard of the server with some index, in the course of a run. -/
structure InOrder (index : UInt64) (settings : Settings) (s : Shard) : Prop where
  reached : Reached s
  books : Books settings.maxMemoryBytes.toNat s
  /-- the ids are those of the server -/
  index : s.ids.index.toInt = index.toNat
  stride : s.ids.stride.toInt = settings.servers.toNat

/-- What every call of a shard keeps. -/
structure Kept (P : Shard → Prop) : Prop where
  perform : ∀ {s : Shard} {rank : Rank} {op : Operation} {o : Outcome Reply}, P s →
    s.perform rank op = .ok o → P o.shard
  invalidate : ∀ {s : Shard}, P s → P s.invalidate.1

section InOrder

variable {index : UInt64} {settings : Settings}

/-- A new shard is in order. -/
theorem inOrder_new (hi : index < settings.servers)
    (hn : (settings.servers.toNat : Int) ≤ topId) :
    InOrder index settings (Shard.new index settings) := by
  have source : Source settings.servers index settings.idLimit (Shard.new index settings).ids [] :=
    Source.new hn (UInt64.lt_iff_toNat_lt.1 hi)
  exact ⟨Reached.new hi hn, books_new index settings, source.index, source.stride⟩

/-- The class of a source never changes. -/
theorem Passes.fixed {asked said : Bool} {made : List DatumId} {ids : IdSource}
    (h : Passes s asked made ids said) : ids.index = s.ids.index ∧ ids.stride = s.ids.stride := by
  cases h with
  | aside | spent => exact ⟨rfl, rfl⟩
  | drew fresh next => exact IdSource.fixed_allocate fresh
  | chose skipped chosen => exact IdSource.fixed_reserve skipped

/-- **Every call** leaves a shard in order. -/
theorem kept_inOrder (index : UInt64) (settings : Settings) : Kept (InOrder index settings) where
  perform {s rank op o} h ho := by
    have numbered := h.reached.lives.numbered
    obtain ⟨indexed, strided⟩ := (perform_passes numbered ho).fixed
    refine ⟨h.reached.perform ho, ?_, ?_, ?_⟩
    · exact (perform_changes h.reached.waits numbered ho).keep
        (fun _ _ books change => books.change change) h.books
    · rw [indexed]
      exact h.index
    · rw [strided]
      exact h.stride
  invalidate h :=
    ⟨h.reached.invalidate, h.books.change (.await []), h.index, h.stride⟩

/-! ## All operations -/

/-- A creation faults only for bytes: once there is an id, nothing else can be too large. -/
theorem create_faults {spec : Spec} (order : InOrder index settings s)
    (own : spec.id ≠ nullId → InClass settings.servers index spec.id)
    (h : s.create spec = .error f) : Bursts s.memory.used spec.bytes f := by
  have upward := order.reached.lives.numbered.upward
  have pos : 0 < settings.servers.toNat := by
    have stride := upward.stride
    rw [order.stride] at stride
    omega
  have taken {ids : IdSource} {id : DatumId} {content : Content}
      (valid : Content.ofSpec spec = .ok content)
      (h : ({ s with ids } : Shard).takeUp id content spec = .error f) :
      Bursts s.memory.used spec.bytes f :=
    (takeUp_faults h).mono (Content.size_of_ofSpec valid)
  unfold create at h
  split at h
  · cases h
  split at h
  · cases h
  rename_i content valid
  split at h
  · rcases bind_eq_error h with h | ⟨⟨ids, fresh⟩, -, h⟩
    · exact absurd h (IdSource.allocate_ne_error upward)
    · cases fresh with
      | error e => cases h
      | ok id => exact taken valid h
  rename_i chosen
  split at h
  · cases h
  split at h
  · cases h
  obtain ⟨ids, reserved⟩ :=
    IdSource.reserve_of_inClass pos order.index order.stride upward.next (own chosen)
  rw [reserved] at h
  exact taken valid h

/-- An operation on a container faults only as it does by itself. A new container takes no bytes,
and a refusal leaves the counts, which have counted the container already. -/
theorem onContainer_faults {α : Type} {act : Shard → Except Fault (Outcome α)} {n : Nat}
    (order : InOrder index settings s) (own : InClass settings.servers index id)
    (hrefused : ∀ s o e, act s = .ok o → o.result = .error e → RefusedAs s o)
    (hact : ∀ s, Books settings.maxMemoryBytes.toNat s → act s = .error f →
      Bursts s.memory.used n f)
    (h : s.onContainer id act = .error f) : Bursts s.memory.used n f := by
  rcases bind_eq_error h with h | ⟨ready, hready, h⟩
  · unfold ensureContainer at h
    split at h
    · cases h
    split at h
    · cases h
    rcases bind_eq_error h with h | ⟨_, -, h⟩
    · exact (create_faults order (fun _ => own) h).mono (Nat.zero_le n)
    · cases h
  have numbered := order.reached.lives.numbered
  rcases ensureContainer_created numbered hready with ⟨-, same, hresult⟩ | ⟨absent, r, hr, hresult⟩
  · rw [hresult, same] at h
    rcases bind_eq_error h with h | ⟨o, -, h⟩
    · exact hact s order.books h
    · cases hresult : o.result with
      | ok | error =>
        rw [hresult] at h
        cases h
  rcases ready with ⟨shard, result, effects⟩
  cases hr with
  | refused noted =>
    cases hresult
    cases h
  | made making =>
    cases hresult
    rcases bind_eq_error h with h | ⟨o, ho, h⟩
    · have empty := Content.size_of_ofSpec making.ofSpec
      have used := (order.books.sound.allocate making.granted).2.1
      rw [Nat.le_zero.1 empty, Nat.add_zero] at used
      rw [← used]
      exact hact _ (order.books.make making) h
    cases hresult : o.result with
    | ok a =>
      rw [hresult] at h
      cases h
    | error e =>
      rw [hresult] at h
      have noted := (hrefused _ _ e ho hresult).noted
      refine absurd h (bind_ne_error ?_ fun _ _ => pure_ne_error _ _)
      generalize o.shard = left at noted
      cases noted
      unfold discard
      split
      · refine bind_ne_error ?_ fun _ _ => pure_ne_error _ _
        rw [Checked.subSize, if_pos (Nat.le_add_left 1 s.counts.created)]
        exact pure_ne_error _ _
      · exact pure_ne_error _ _

/-- **An operation faults** only for a reference count that does not fit its word, or for bytes that
are too many for a word; if it is about data of the own class. Forming the answer does not fault. -/
theorem perform_faults (order : InOrder index settings s)
    (own : ∀ id, op.subject? = some id → InClass settings.servers index id)
    (h : s.perform rank op = .error f) :
    s.Overfull op ∧ f = .addOverflow ∨ Bursts s.memory.used op.bytes f := by
  have faulted {α : Type} {x : Except Fault (Outcome α)} {g : α → Reply}
      (h : (do return (← x).map g : Except Fault (Outcome Reply)) = .error f) : x = .error f :=
    (bind_eq_error h).resolve_right fun ⟨_, _, never⟩ => nomatch never
  cases op with
  | create spec =>
    refine .inr (create_faults order (fun chosen => own spec.id ?_) (faulted h))
    exact if_neg chosen
  | store id value drops => exact .inr (store_faults (faulted h))
  | storeBytes id bytes drops => exact .inr (storeBytes_faults (faulted h))
  | addWriters id count => exact .inl (addWriters_faults (faulted h))
  | addReaders id count => exact .inl (addReaders_faults (faulted h))
  | dropWriters id count => exact absurd (faulted h) (dropWriters_ne_error s id count)
  | insert id subscript member drops =>
    exact .inr (onContainer_faults order (own id rfl) (fun _ _ _ => insertMember_refused)
      (fun _ books => insertMember_faults books) (faulted h))
  | reserve id subscript =>
    exact .inr (onContainer_faults order (own id rfl) (fun _ _ _ => reserveSubscript_refused)
      (fun _ _ fault => reserveSubscript_faults fault) (faulted h))
  | unique =>
    rcases bind_eq_error (faulted h) with h | ⟨_, -, h⟩
    · exact absurd h (IdSource.allocate_ne_error order.reached.lives.numbered.upward)
    · cases h
  | has | retrieve | enumerate | dropReaders | lookup | subscribe | refer | close | kindOf
    | subscriptKindOf | sizeOf | lock | unlock => cases h

end InOrder

/-! ## Members for other data -/

section Members

variable {value : Value} {bytes : Bytes} {drops : UInt32} {o : Outcome Unit}

/-- A store asks for no other member to be stored. -/
theorem store_references (h : s.store id value drops = .ok o) : o.effects.references = [] := by
  cases store_stores h with
  | refused | full | done => rfl

theorem storeBytes_references (h : s.storeBytes id bytes drops = .ok o) :
    o.effects.references = [] := by
  unfold storeBytes at h
  split at h
  · cases h
    rfl
  · exact store_references h

/-- Collecting a datum gives bytes back. -/
theorem used_collect_le (s : Shard) (id : DatumId) :
    (s.collect id).memory.used ≤ s.memory.used := by
  unfold collect
  split
  · split
    · exact Nat.sub_le _ _
    · exact Nat.le_refl _
  · exact Nat.le_refl _

/-- To take writers off a datum takes no bytes. -/
theorem settle_used_le {s' : Shard} {d : Datum} {notices : List (Rank × Notice)}
    (h : s.settle id d drops = .ok (s', notices)) : s'.memory.used ≤ s.memory.used := by
  unfold settle at h
  split at h
  · cases h
    exact Nat.le_refl _
  obtain ⟨writers, -, h⟩ := bind_eq_ok h
  simp only at h
  split at h
  · cases h
    exact used_collect_le _ id
  · cases h
    exact Nat.le_refl _

/-- A scalar takes no more bytes than its value has. -/
theorem store_used_le (h : s.store id value drops = .ok o) :
    o.shard.memory.used ≤ s.memory.used + value.size := by
  cases store_stores h with
  | refused => exact Nat.le_add_right _ _
  | full resized => exact MemoryBudget.resize_used_le resized
  | done _ granted settled =>
    exact (settle_used_le settled).trans (MemoryBudget.resize_used_le granted)

/-- **A member that is stored** takes as many bytes as it has at most. -/
theorem storeBytes_used_le (h : s.storeBytes id bytes drops = .ok o) :
    o.shard.memory.used ≤ s.memory.used + bytes.length := by
  unfold storeBytes at h
  split at h
  · cases h
    exact Nat.le_add_right _ _
  rename_i value decoded
  rw [← size_of_checkBytes decoded]
  exact store_used_le h

end Members

end Shard

end WorkPool
