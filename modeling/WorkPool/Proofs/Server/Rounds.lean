import WorkPool.Proofs.Server.Data
import WorkPool.Proofs.Server.Units

/-!
# Effects are carried out before the answer

What an operation leaves to do may leave something to do itself: a member that is stored can end
waits. So there are **rounds**: all that is left to do is done, and what comes of it is the next
round's, until nothing is left (`rounds`). How many rounds there are is not clear from this, nor
that they end.

Two are enough. A member is stored into a scalar, and the end of a wait for a scalar is told but
passes no member on (`Shard.storeBytes_references`); so the second round has notices only, and
nothing comes of those. Main statement: `effects_precede_answer` — the rounds end, everything that
was asked for or came of it is done exactly once (`CarriedOut`), and the answer to the request is
sent after all of it.

A notice is told by handing its unit over to be submitted, and what becomes of it is followed from
there: the unit is queued, handed to a worker, passed on, or turned down for want of room
(`doAll_works`).
-/

namespace WorkPool

/-! ## What is to be done -/

/-- One thing that an operation on data leaves to do. -/
inductive Chore where
  /-- a notice is sent on its way -/
  | tell (rank : Rank) (notice : Notice)
  /-- a member is stored into another datum -/
  | store (target : DatumId) (member : Bytes)
  deriving DecidableEq

namespace Effects

instance : Append Effects :=
  ⟨fun e e' => ⟨e.notices ++ e'.notices, e.references ++ e'.references⟩⟩

/-- Having nothing more to do adds nothing. -/
theorem append_empty (e : Effects) : e ++ ({} : Effects) = e := by
  change Effects.mk (e.notices ++ []) (e.references ++ []) = e
  rw [List.append_nil, List.append_nil]

theorem append_assoc (a b c : Effects) : a ++ b ++ c = a ++ (b ++ c) := by
  change Effects.mk _ _ = Effects.mk _ _
  exact congr (congrArg _ (List.append_assoc ..)) (List.append_assoc ..)

/-- What effects leave to do: notices are sent first, then members are stored. -/
def chores (e : Effects) : List Chore :=
  e.notices.map (fun n => .tell n.1 n.2) ++ e.references.map fun r => .store r.1 r.2

end Effects

/-- What a message asks to have stored: the target, the member, and how many writers leave. -/
def Message.stores? : Message → Option (DatumId × Bytes × UInt32)
  | .request _ (.data (.storeBytes target member drops)) => some (target, member, drops)
  | _ => none

/-- What other servers are asked to store, with their ranks. -/
def storesIn (out : List (Rank × Message)) : List (Rank × DatumId × Bytes × UInt32) :=
  out.filterMap fun p => p.2.stores?.map fun stored => (p.1, stored)

namespace Server

variable {s s₁ s' s'' : Server} {e : Effects}

/-- Count a notice, submit its unit, and say whether that was taken. -/
def tell (s : Server) (rank : Rank) (notice : Notice) : Server × Except Error Unit :=
  { s with stats := { s.stats with
      notificationsSent := s.stats.notificationsSent + 1 } }.submit (s.noticeUnit rank notice)

/-- Do one thing, and return what comes of it. -/
def doChore (s : Server) : Chore → Except Fault (Server × Effects)
  | .tell rank notice => return ((s.tell rank notice).1, {})
  | .store target member =>
    if s.topology.owner target = s.rank then do
      let o ← s.shard.storeBytes target member 1
      return ({ s with shard := o.shard }, o.effects)
    else return (s.forwardReference (s.topology.owner target) target member, {})

/-- Do one thing after the other, each once, and return all that comes of it. -/
def doAll : Server → List Chore → Except Fault (Server × Effects)
  | s, [] => return (s, {})
  | s, chore :: rest => do
    let (s, first) ← s.doChore chore
    let (s, later) ← s.doAll rest
    return (s, first ++ later)

/-- The units that are submitted in doing one thing after the other. -/
def unitsOf (s : Server) (chores : List Chore) : List WorkUnit :=
  chores.filterMap fun
    | .tell rank notice => some (s.noticeUnit rank notice)
    | .store _ _ => none

/-- Those of them that are turned down. -/
def turnedDown : Server → List Chore → List WorkUnit
  | _, [] => []
  | s, .tell rank notice :: rest =>
    (if (s.tell rank notice).2.isOk then [] else [s.noticeUnit rank notice]) ++
      (s.tell rank notice).1.turnedDown rest
  | s, .store target member :: rest =>
    match s.doChore (.store target member) with
    | .ok (s, _) => s.turnedDown rest
    | .error _ => []

/-- Do what is left to do and then what comes of it, round by round, until nothing is left; say
what was done in each round. There is no answer if that takes more rounds than allowed. -/
def rounds (s : Server) (e : Effects) : Nat → Except Fault (Option (Server × List (List Chore)))
  | 0 => return if e = {} then some (s, []) else none
  | allowed + 1 =>
    if e = {} then return some (s, [])
    else do
      let (s, more) ← s.doAll e.chores
      let rest ← s.rounds more allowed
      return rest.map fun ended => (ended.1, e.chores :: ended.2)

/-! ## Doing it -/

/-- Some things, and then others: what comes of them adds up. -/
theorem doAll_append (s : Server) (a b : List Chore) :
    s.doAll (a ++ b) = do
      let first ← s.doAll a
      let later ← first.1.doAll b
      return (later.1, first.2 ++ later.2) := by
  induction a generalizing s with
  | nil =>
    change s.doAll b = s.doAll b >>= fun later => .ok (later.1, later.2)
    cases s.doAll b <;> rfl
  | cons chore a ih =>
    simp only [List.cons_append, doAll, ih]
    cases s.doChore chore with
    | error f => rfl
    | ok first =>
      simp only [bind, Except.bind, pure, Except.pure]
      cases first.1.doAll a with
      | error f => rfl
      | ok middle =>
        simp only
        cases middle.1.doAll b with
        | error f => rfl
        | ok last => simp only [Effects.append_assoc]

/-- **Notices** are told by submitting their units, one after the other. -/
theorem doAll_tell (s : Server) (notices : List (Rank × Notice)) :
    s.doAll (notices.map fun n => .tell n.1 n.2) = .ok (s.notifyAll notices, {}) := by
  induction notices generalizing s with
  | nil => rfl
  | cons n notices ih =>
    have later := ih (s.notify n.1 n.2)
    have told : s.doChore (.tell n.1 n.2) = .ok (s.notify n.1 n.2, {}) := rfl
    simp only [List.map_cons, doAll, told, bind, Except.bind, pure, Except.pure, later]
    rfl

/-- **Storing a member** leaves notices to do, and no other member. -/
theorem doChore_store (s : Server) (target : DatumId) (member : Bytes) :
    s.doChore (.store target member) =
      (s.storeReference target member).map fun stored => (stored.1, { notices := stored.2 }) := by
  simp only [doChore, storeReference]
  split
  · cases ho : s.shard.storeBytes target member 1 with
    | error f => rfl
    | ok o =>
      have none := Shard.storeBytes_references ho
      change Except.ok (_, Effects.mk o.effects.notices o.effects.references) = Except.ok (_, _)
      rw [none]
  · rfl

/-- **Members** are stored one after the other. -/
theorem doAll_store (s : Server) (references : List (DatumId × Bytes)) :
    s.doAll (references.map fun r => .store r.1 r.2) =
      (s.storeReferences references).map fun stored => (stored.1, { notices := stored.2 }) := by
  induction references generalizing s with
  | nil => rfl
  | cons r references ih =>
    simp only [List.map_cons, doAll, storeReferences, doChore_store, ih]
    cases s.storeReference r.1 r.2 with
    | error f => rfl
    | ok first =>
      simp only [Except.map, bind, Except.bind, pure, Except.pure]
      cases first.1.storeReferences references <;> rfl

/-- **One round**: what comes of it are notices. -/
theorem doAll_chores (s : Server) (e : Effects) :
    s.doAll e.chores = ((s.notifyAll e.notices).storeReferences e.references).map
      fun stored => (stored.1, { notices := stored.2 }) := by
  rw [Effects.chores, doAll_append, doAll_tell]
  change (doAll _ _ >>= fun later => .ok (later.1, later.2)) = _
  rw [doAll_store]
  cases (s.notifyAll e.notices).storeReferences e.references <;> rfl

/-! ## What becomes of the notices -/

/-- The unit of a notice depends on the server's rank and settings only. -/
theorem unitsOf_congr (rank : s'.rank = s.rank) (settings : s'.settings = s.settings) :
    s'.unitsOf = s.unitsOf := by
  funext chores
  unfold unitsOf noticeUnit
  rw [rank, settings]

/-- Each notice is one unit. -/
theorem unitsOf_chores (s : Server) (e : Effects) :
    s.unitsOf e.chores = s.noticeUnits e.notices := by
  simp [unitsOf, Effects.chores, noticeUnits, List.filterMap_map]

theorem unitsOf_append (s : Server) (a b : List Chore) :
    s.unitsOf (a ++ b) = s.unitsOf a ++ s.unitsOf b := List.filterMap_append

/-- **One notice** comes in as its unit. -/
theorem tell_works (s : Server) (rank : Rank) (notice : Notice) :
    Works s [s.noticeUnit rank notice]
      (if (s.tell rank notice).2.isOk then [] else [s.noticeUnit rank notice])
      (s.tell rank notice).1 := by
  have noted := (Task.note s s.shard s.peers s.nextTag
    { s.stats with notificationsSent := s.stats.notificationsSent + 1 } id).works
  have submitted := (submit_works { s with stats := { s.stats with
    notificationsSent := s.stats.notificationsSent + 1 } } (s.noticeUnit rank notice)).1
  rw [spills_eq] at submitted
  exact noted.trans submitted

/-- **All that is done**: the units of the notices come in, and those that are turned down are
lost. -/
theorem doAll_works {chores : List Chore} {more : Effects} (h : s.doAll chores = .ok (s', more)) :
    Works s (s.unitsOf chores) (s.turnedDown chores) s' := by
  induction chores generalizing s more with
  | nil =>
    cases h
    exact .done _
  | cons chore chores ih =>
    obtain ⟨⟨s₁, first⟩, once, h⟩ := bind_eq_ok h
    obtain ⟨⟨s₂, later⟩, rest, h⟩ := bind_eq_ok h
    cases h
    have onward := ih rest
    cases chore with
    | tell rank notice =>
      cases once
      have told := tell_works s rank notice
      rw [unitsOf_congr told.served.rank told.served.settings] at onward
      exact told.trans onward
    | store target member =>
      have stored : Works s [] [] s₁ := by
        rw [doChore_store] at once
        obtain ⟨_, stored, same⟩ := map_eq_ok once
        cases same
        exact storeReference_works stored
      rw [unitsOf_congr stored.served.rank stored.served.settings] at onward
      simp only [turnedDown, once]
      exact stored.trans onward

/-! ## Counting it -/

@[simp] theorem storesIn_append (a b : List (Rank × Message)) :
    storesIn (a ++ b) = storesIn a ++ storesIn b :=
  List.filterMap_append

/-- A message that asks for no member to be stored. -/
theorem storesIn_send (s : Server) (dest : Rank) {m : Message} (other : m.stores? = none) :
    storesIn (s.send dest m).outbox = storesIn s.outbox :=
  filterMap_send s dest (by rw [other]; rfl)

theorem storesIn_place (s : Server) (u : WorkUnit) :
    storesIn (s.place u).1.outbox = storesIn s.outbox := by
  unfold place
  split
  · exact storesIn_send _ _ rfl
  · rfl

/-- A unit is no request to store a member. -/
theorem storesIn_accept (s : Server) (u : WorkUnit) :
    storesIn (s.accept u).outbox = storesIn s.outbox := by
  unfold accept submit
  split
  · exact storesIn_place s u
  split
  · exact storesIn_send _ _ rfl
  split
  · exact storesIn_place s _
  · exact storesIn_place s u

theorem notificationsSent_place (s : Server) (u : WorkUnit) :
    (s.place u).1.stats.notificationsSent = s.stats.notificationsSent := by
  unfold place
  split <;> rfl

/-- Accepting a unit counts no notice. -/
theorem notificationsSent_accept (s : Server) (u : WorkUnit) :
    (s.accept u).stats.notificationsSent = s.stats.notificationsSent := by
  unfold accept submit
  split
  · exact notificationsSent_place s u
  split
  · rfl
  split
  · exact notificationsSent_place s _
  · exact notificationsSent_place s u

theorem storesIn_notifyAll (s : Server) (notices : List (Rank × Notice)) :
    storesIn (s.notifyAll notices).outbox = storesIn s.outbox := by
  induction notices generalizing s with
  | nil => rfl
  | cons n notices ih => exact (ih _).trans (storesIn_accept _ _)

/-- **Notices** are counted one by one. -/
theorem notificationsSent_notifyAll (s : Server) (notices : List (Rank × Notice)) :
    (s.notifyAll notices).stats.notificationsSent =
      s.stats.notificationsSent + notices.length := by
  induction notices generalizing s with
  | nil => rfl
  | cons n notices ih =>
    have one : (s.notify n.1 n.2).stats.notificationsSent = s.stats.notificationsSent + 1 :=
      notificationsSent_accept _ _
    refine (ih _).trans ?_
    rw [one, List.length_cons]
    omega

/-- What the owners of data elsewhere are to be asked for the sake of members. -/
def elsewhere (s : Server) (references : List (DatumId × Bytes)) :
    List (Rank × DatumId × Bytes × UInt32) :=
  (references.filter fun r => s.topology.owner r.1 != s.rank).map
    fun r => (s.topology.owner r.1, r.1, r.2, 1)

/-- Who owns a datum depends on the server's rank and on the ranks of the run only. -/
theorem elsewhere_congr (rank : s'.rank = s.rank) (topology : s'.topology = s.topology) :
    s'.elsewhere = s.elsewhere := by
  funext references
  unfold elsewhere
  rw [rank, topology]

/-- A member for a datum elsewhere is one request to its owner. -/
theorem storesIn_storeReference {target : DatumId} {member : Bytes}
    {notices : List (Rank × Notice)} (h : s.storeReference target member = .ok (s', notices)) :
    storesIn s'.outbox = storesIn s.outbox ++ s.elsewhere [(target, member)] := by
  simp only [storeReference] at h
  split at h
  · rename_i own
    obtain ⟨o, -, h⟩ := bind_eq_ok h
    cases h
    simp [elsewhere, own]
  · rename_i other
    cases h
    rw [elsewhere, List.filter_cons_of_pos (by simpa using other)]
    exact storesIn_append _ _

/-- Storing a member counts no notice. -/
theorem notificationsSent_storeReference {target : DatumId} {member : Bytes}
    {notices : List (Rank × Notice)} (h : s.storeReference target member = .ok (s', notices)) :
    s'.stats.notificationsSent = s.stats.notificationsSent := by
  simp only [storeReference] at h
  split at h
  · obtain ⟨o, -, h⟩ := bind_eq_ok h
    cases h
    rfl
  · cases h
    rfl

/-- **Members**: who owns a target elsewhere is asked, once for each and in order. -/
theorem storesIn_storeReferences {references : List (DatumId × Bytes)}
    {notices : List (Rank × Notice)} (h : s.storeReferences references = .ok (s', notices)) :
    storesIn s'.outbox = storesIn s.outbox ++ s.elsewhere references ∧
      s'.stats.notificationsSent = s.stats.notificationsSent := by
  induction references generalizing s notices with
  | nil =>
    cases h
    exact ⟨(List.append_nil _).symm, rfl⟩
  | cons r references ih =>
    obtain ⟨⟨s₁, first⟩, stored, h⟩ := bind_eq_ok h
    obtain ⟨⟨s₂, later⟩, rest, h⟩ := bind_eq_ok h
    cases h
    obtain ⟨asked, same⟩ := ih rest
    have served := (storeReference_works stored).served
    refine ⟨?_, same.trans (notificationsSent_storeReference stored)⟩
    calc storesIn s'.outbox
      _ = storesIn s.outbox ++ s.elsewhere [r] ++ s.elsewhere references := by
        rw [asked, storesIn_storeReference stored, elsewhere_congr served.rank served.topology]
      _ = storesIn s.outbox ++ s.elsewhere (r :: references) := by
        rw [List.append_assoc, elsewhere, elsewhere, elsewhere, ← List.map_append,
          ← List.filter_append]
        rfl

/-! ## All of it -/

/-- Effects that were carried out to the end, in at most two rounds. -/
structure CarriedOut (s : Server) (e : Effects) (s' : Server) (passes : List (List Chore))
    (produced : Effects) : Prop where
  applied : s.applyEffects e = .ok s'
  /-- nothing is left after these rounds, however many are allowed -/
  ended : ∀ allowed, 2 ≤ allowed → s.rounds e allowed = .ok (some (s', passes))
  two : passes.length ≤ 2
  /-- what was done is what was asked for and what came of doing it -/
  done : passes.flatten = e.chores ++ produced.chores
  /-- it was done once and in order, and nothing else was done -/
  once : s.doAll passes.flatten = .ok (s', produced)
  /-- no member came of it that would have to be stored in turn -/
  final : produced.references = []
  /-- the units of the notices are queued, handed to workers or passed on, but for those that were
  turned down when they were submitted -/
  handedOver : ∀ f, s.Blurs f → Accounts f s (s.noticeUnits (e.notices ++ produced.notices))
    (s.turnedDown passes.flatten) s'
  /-- the notices are counted -/
  told : s'.stats.notificationsSent =
    s.stats.notificationsSent + (e.notices.length + produced.notices.length)
  /-- the owners of data elsewhere are asked to store the members for them -/
  asked : storesIn s'.outbox = storesIn s.outbox ++ s.elsewhere e.references
  /-- nothing is taken back of what was to be sent -/
  sent : ∃ out, s'.outbox = s.outbox ++ out

/-- With nothing to do, there is no round. -/
theorem rounds_empty (s : Server) (allowed : Nat) : s.rounds {} allowed = .ok (some (s, [])) := by
  cases allowed <;> rfl

/-- A round, and the rounds after it. -/
theorem rounds_next {allowed : Nat} {more : Effects} {passes : List (List Chore)} (left : e ≠ {})
    (first : s.doAll e.chores = .ok (s₁, more))
    (rest : s₁.rounds more allowed = .ok (some (s', passes))) :
    s.rounds e (allowed + 1) = .ok (some (s', e.chores :: passes)) := by
  rw [rounds, if_neg left, first]
  simp only [bind, Except.bind, rest]
  rfl

/-- **Two rounds are enough** if nothing comes of the notices that come of the first. -/
theorem exists_passes {more : List (Rank × Notice)}
    (first : s.doAll e.chores = .ok (s₁, { notices := more }))
    (second : s₁.doAll (Effects.chores { notices := more }) = .ok (s', {})) :
    ∃ passes : List (List Chore), passes.length ≤ 2 ∧
      passes.flatten = e.chores ++ Effects.chores { notices := more } ∧
      ∀ allowed, 2 ≤ allowed → s.rounds e allowed = .ok (some (s', passes)) := by
  by_cases nothing : e = {}
  · subst nothing
    cases first
    cases second
    exact ⟨[], Nat.zero_le 2, rfl, fun allowed _ => rounds_empty _ allowed⟩
  by_cases last : more = []
  · subst last
    cases second
    refine ⟨[e.chores], Nat.le_succ 1, ?_, ?_⟩
    · rw [List.flatten_singleton]
      exact (List.append_nil _).symm
    · intro allowed two
      obtain ⟨allowed, rfl⟩ := Nat.exists_eq_add_of_le' (Nat.one_le_of_lt two)
      exact rounds_next nothing first (rounds_empty _ allowed)
  · have left : ({ notices := more } : Effects) ≠ {} :=
      fun same => last (congrArg Effects.notices same)
    refine ⟨[e.chores, Effects.chores { notices := more }], Nat.le_refl 2, ?_, ?_⟩
    · simp only [List.flatten_cons, List.flatten_nil, List.append_nil]
    · intro allowed two
      obtain ⟨allowed, rfl⟩ := Nat.exists_eq_add_of_le' two
      exact rounds_next nothing first (rounds_next left second (rounds_empty _ allowed))

/-- **Carrying out effects** ends, and does everything once. -/
theorem applyEffects_carriedOut (h : s.applyEffects e = .ok s') :
    ∃ passes produced, CarriedOut s e s' passes produced := by
  have applied := h
  obtain ⟨⟨s₁, more⟩, stored, h⟩ := bind_eq_ok h
  cases h
  have first : s.doAll e.chores = .ok (s₁, { notices := more }) := by
    rw [doAll_chores, stored]
    rfl
  have second : s₁.doAll (Effects.chores { notices := more }) = .ok (s₁.notifyAll more, {}) := by
    rw [doAll_chores]
    rfl
  obtain ⟨passes, two, done, ended⟩ := exists_passes first second
  have once : s.doAll passes.flatten = .ok (s₁.notifyAll more, { notices := more }) := by
    rw [done, doAll_append, first]
    simp only [bind, Except.bind, second, pure, Except.pure, Effects.append_empty]
  have works := doAll_works once
  have units : s.unitsOf passes.flatten = s.noticeUnits (e.notices ++ more) := by
    rw [done, unitsOf_append, unitsOf_chores, unitsOf_chores, noticeUnits, noticeUnits, noticeUnits,
      List.map_append]
  rw [units] at works
  obtain ⟨asked, same⟩ := storesIn_storeReferences stored
  have notified := (notifyAll_works s e.notices).served
  have told : (s₁.notifyAll more).stats.notificationsSent =
      s.stats.notificationsSent + (e.notices.length + more.length) := by
    rw [notificationsSent_notifyAll, same, notificationsSent_notifyAll, Nat.add_assoc]
  have elsewhere : storesIn (s₁.notifyAll more).outbox =
      storesIn s.outbox ++ s.elsewhere e.references := by
    rw [storesIn_notifyAll, asked, storesIn_notifyAll,
      elsewhere_congr notified.rank notified.topology]
  obtain ⟨out, sent, -⟩ := works.served.outbox
  exact ⟨passes, { notices := more }, applied, ended, two, done, once, rfl,
    fun _ blurs => works.deeds.accounts blurs, told, elsewhere, out, sent⟩

/-- A fault comes in the first round. -/
theorem rounds_of_fault {f : Fault} {allowed : Nat} (h : s.applyEffects e = .error f)
    (some_allowed : 1 ≤ allowed) : s.rounds e allowed = .error f := by
  have stored : (s.notifyAll e.notices).storeReferences e.references = .error f := by
    rcases bind_eq_error h with h | ⟨_, -, h⟩
    · exact h
    · cases h
  have left : e ≠ {} := by
    rintro rfl
    cases stored
  obtain ⟨allowed, rfl⟩ := Nat.exists_eq_add_of_le' some_allowed
  rw [rounds, if_neg left, doAll_chores, stored]
  rfl

/-! ## Requests -/

/-- The server when it has carried out an operation and comes to what that leaves to do. -/
def underway (s : Server) (source : Rank) (tag : UInt64) (op : Operation) (o : Outcome Reply) :
    Server :=
  { s.countArrival source (.request tag (.data op)) with shard := o.shard }

theorem outbox_noteBusy (s : Server) (source : Rank) : (s.noteBusy source).outbox = s.outbox := by
  obtain ⟨workers, same⟩ := noteBusy_eq s source
  rw [same]

/-- A request about data is refused, or carried out with its effects and then answered. -/
theorem onRequest_data {source : Rank} {tag : UInt64} {op : Operation}
    (h : s.onRequest source tag (.data op) = .ok s') :
    ((s.isShuttingDown = true ∨ (s.wrongOwner? (.data op)).isSome = true) ∧
      ∃ e, s' = s.respond source tag (.error e)) ∨
    (s.isShuttingDown = false ∧ s.wrongOwner? (.data op) = none ∧
      ∃ o s₁, s.shard.perform source op = .ok o ∧
        { s with shard := o.shard }.applyEffects o.effects = .ok s₁ ∧
        s' = (s₁.respond source tag o.result).noteBusy source) := by
  unfold onRequest at h
  split at h
  · rename_i ending
    cases h
    exact .inl ⟨.inl ending, _, rfl⟩
  rename_i running
  split at h
  · rename_i id owner wrong
    cases h
    exact .inl ⟨.inr (by rw [wrong]; rfl), _, rfl⟩
  rename_i own
  obtain ⟨s₂, carried, h⟩ := bind_eq_ok h
  cases h
  obtain ⟨o, performed, carried⟩ := bind_eq_ok carried
  obtain ⟨s₁, applied, carried⟩ := bind_eq_ok carried
  cases carried
  exact .inr ⟨Bool.eq_false_iff.2 running, own, o, s₁, performed, applied, rfl⟩

/-- **Effects are carried out before the answer.** Whatever an operation on data leaves to do, and
whatever comes of doing it, is done once each in two rounds at most, unless there are more bytes
than a word counts: the unit of each notice is submitted, and is then queued, handed over, passed on
or turned down; each member is stored here, or its owner is asked to store it. The answer to the
request is the last that is sent. -/
theorem effects_precede_answer (s : Server) (source : Rank) (tag : UInt64) (op : Operation) :
    (∀ o, s.shard.perform source op = .ok o →
      (∃ s₁ passes produced,
        CarriedOut (s.underway source tag op o) o.effects s₁ passes produced) ∨
      ∃ f, (s.underway source tag op o).applyEffects o.effects = .error f ∧
        (∀ allowed, 1 ≤ allowed →
          (s.underway source tag op o).rounds o.effects allowed = .error f) ∧
        Bursts o.shard.memory.used (referenceBytes o.effects.references) f) ∧
    ∀ s' flow, s.handle source (.request tag (.data op)) = .ok (s', flow) →
      ∃ out answer, s'.outbox = s.outbox ++ out ++ [(source, .response tag answer)] ∧
        (s.isShuttingDown = true ∨ (s.wrongOwner? (.data op)).isSome = true →
          out = [] ∧ ∃ e, answer = .refused e) ∧
        (s.isShuttingDown = false → s.wrongOwner? (.data op) = none →
          ∃ o s₁ passes produced, s.shard.perform source op = .ok o ∧
            CarriedOut (s.underway source tag op o) o.effects s₁ passes produced ∧
            s₁.outbox = s.outbox ++ out ∧ answer = .ofResult o.result) := by
  refine ⟨?_, ?_⟩
  · intro o performed
    cases applied : (s.underway source tag op o).applyEffects o.effects with
    | ok s₁ => exact .inl ⟨s₁, applyEffects_carriedOut applied⟩
    | error f =>
      exact .inr ⟨f, rfl, fun _ => rounds_of_fault applied, applyEffects_faults applied⟩
  intro s' flow handled
  have dispatched := (handle_eq_ok handled).1
  rcases onRequest_data dispatched with
    ⟨refused, e, same⟩ | ⟨running, own, o, s₁, performed, applied, same⟩
  · rw [isShuttingDown_countArrival, wrongOwner?_countArrival] at refused
    refine ⟨[], .refused e.refusal, ?_, fun _ => ⟨rfl, _, rfl⟩, fun running own => ?_⟩
    · rw [same, List.append_nil]
      exact congrArg (· ++ _) outbox_countArrival
    · rw [running, own] at refused
      exact absurd refused (by decide)
  · rw [isShuttingDown_countArrival] at running
    rw [wrongOwner?_countArrival] at own
    rw [shard_countArrival] at performed
    obtain ⟨passes, produced, carried⟩ := applyEffects_carriedOut applied
    obtain ⟨out, sent⟩ := carried.sent
    rw [show Server.outbox { s.countArrival source _ with shard := o.shard } = s.outbox from
      outbox_countArrival] at sent
    refine ⟨out, .ofResult o.result, ?_, fun refused => ?_, fun _ _ => ?_⟩
    · rw [same, outbox_noteBusy, ← sent]
      rfl
    · rw [running, own] at refused
      exact absurd refused (by decide)
    · exact ⟨o, s₁, passes, produced, performed, carried, sent, rfl⟩

/-- Two data wait for one member, and only one of them is here; and a worker from elsewhere waits
for that one. -/
def referredTwice : List Turn :=
  [.step (.message 0 (.request 0 (.data (.create (.container 2 .string))))),
    .step (.message 0 (.request 1 (.data (.create { id := 4, kind := .string })))),
    .step (.message 1 (.request 0 (.data (.subscribe 4 none 7)))),
    .step (.message 0 (.request 2 (.data (.refer 2 "a" (some 4) 5)))),
    .step (.message 0 (.request 3 (.data (.refer 2 "a" (some 3) 6)))),
    .passOn]

/-- Two are told of the member, one datum is set here and one elsewhere; and then a third one is
told that the datum here has closed. -/
theorem effects_precede_answer_twice :
    ∃ s s' flow out o s₁ passes produced,
      LivesAt { servers := 2, workers := 2, workTypes := [0] } 2 s ∧
      s.handle 0 (.request 9 (.data (.insert 2 "a" [104, 105] 0))) = .ok (s', flow) ∧
      s'.outbox = s.outbox ++ out ++ [(0, .response 9 (.granted .ack))] ∧
      CarriedOut (s.underway 0 9 (.insert 2 "a" [104, 105] 0) o) o.effects s₁ passes produced ∧
      s₁.outbox = s.outbox ++ out ∧ storesIn out = [(3, 3, [104, 105], 1)] ∧
      s₁.backlog.units.length = 2 ∧
      forwardsIn out = [(3, s.noticeUnit 1 ⟨4, none, 7, .closed⟩)] ∧
      passes = [
        [.tell 0 ⟨2, some "a", 5, .inserted [104, 105]⟩,
          .tell 0 ⟨2, some "a", 6, .inserted [104, 105]⟩,
          .store 4 [104, 105], .store 3 [104, 105]],
        [.tell 1 ⟨4, none, 7, .closed⟩]] := by
  obtain ⟨s₀, hnew⟩ : ∃ s₀, Server.new 2 { servers := 2, workers := 2, workTypes := [0] } =
    .ok (.ok s₀) := ⟨_, rfl⟩
  have ran : (do
      let made ← Server.new 2 { servers := 2, workers := 2, workTypes := [0] }
      let s₀ ← made.mapError fun _ => Fault.addOverflow
      let p ← s₀.serve {} referredTwice
      let q ← p.1.handle 0 (.request 9 (.data (.insert 2 "a" [104, 105] 0)))
      let o ← p.1.shard.perform 0 (.insert 2 "a" [104, 105] 0)
      let ended ← (p.1.underway 0 9 (.insert 2 "a" [104, 105] 0) o).rounds o.effects 2
      return decide (p.1.isShuttingDown = false ∧
        p.1.wrongOwner? (.data (.insert 2 "a" [104, 105] 0)) = none ∧
        Answer.ofResult o.result = .granted .ack ∧
        storesIn (p.1.said q.1) = [(3, 3, [104, 105], 1)] ∧
        ended.map (fun e => e.1.backlog.units.length) = some 2 ∧
        forwardsIn (p.1.said q.1) = [(3, p.1.noticeUnit 1 ⟨4, none, 7, .closed⟩)] ∧
        ended.map Prod.snd = some [
          [.tell 0 ⟨2, some "a", 5, .inserted [104, 105]⟩,
            .tell 0 ⟨2, some "a", 6, .inserted [104, 105]⟩,
            .store 4 [104, 105], .store 3 [104, 105]],
          [.tell 1 ⟨4, none, 7, .closed⟩]]) : Except Fault Bool) = .ok true := by decide +kernel
  rw [hnew] at ran
  obtain ⟨_, ⟨⟩, ran⟩ := bind_eq_ok ran
  obtain ⟨_, ⟨⟩, ran⟩ := bind_eq_ok ran
  obtain ⟨⟨s, t⟩, served, ran⟩ := bind_eq_ok ran
  obtain ⟨⟨s', flow⟩, handled, ran⟩ := bind_eq_ok ran
  obtain ⟨o, performed, ran⟩ := bind_eq_ok ran
  obtain ⟨ended, rounded, ran⟩ := bind_eq_ok ran
  obtain ⟨running, own, answered, stores, queued, forwards, passed⟩ := of_decide_eq_true (Except.ok.inj ran)
  have lives : LivesAt { servers := 2, workers := 2, workTypes := [0] } 2 s :=
    ⟨s₀, referredTwice, t, hnew, served⟩
  obtain ⟨out, answer, sent, -, carriedOut⟩ :=
    (effects_precede_answer s 0 9 (.insert 2 "a" [104, 105] 0)).2 s' flow handled
  obtain ⟨o', s₁, passes, produced, performed', carried, before, rfl⟩ :=
    carriedOut running own
  cases performed.symm.trans performed'
  rw [answered] at sent
  rw [said_eq (sent.trans (List.append_assoc ..))] at stores forwards
  rw [storesIn_append] at stores
  rw [forwardsIn_append] at forwards
  cases rounded.symm.trans (carried.ended 2 (Nat.le_refl 2))
  exact ⟨s, s', flow, out, o, s₁, passes, produced, lives, handled, sent, carried, before,
    (List.append_nil _).symm.trans stores, Option.some.inj queued,
    (List.append_nil _).symm.trans forwards, Option.some.inj passed⟩

end Server

end WorkPool
