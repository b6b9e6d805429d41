import Switchboard.Proofs.Gateway.Run
import Switchboard.Proofs.Stream.Again

/-!
# Closed — closed is for ever, across servers

Nothing is remembered of a session that is no longer live. What the front end gets for its
identity is put together from the counter that all servers share and from what is live now.
It comes out the same whoever opened the session, whatever ended it, and whether its handler
has ended or not: once it is not live, it is closed at every later moment.
-/

namespace Switchboard.Gateway

variable {g : Gateway} {s s' : Server} {id : SessionId}

/-! ## What is said of an identity -/

/-- What the front end gets for a session, other than for sending on it. -/
structure Answers (id : SessionId) (status : Status) (g : Gateway) : Prop where
  close : ∀ now, (g.close now id).answer = status
  closeInput : ∀ now, (g.closeInput now id).answer = status
  markReady : ∀ now, (g.markReady now id).answer = status

/-- What the front end gets for sending anything on a session. -/
def AnswersSend (id : SessionId) (status : Status) (g : Gateway) : Prop :=
  ∀ now data chunk, data.bytes = .ok chunk → (g.send now id data).answer = .status status

/-- Sets the idle clock of a session, if it is live. -/
def touch (now : Instant) (id : SessionId) (g : Gateway) : Gateway :=
  { g with server := g.server.map fun s =>
    { s with host := { s.host with manager := s.host.manager.touch now id } } }

/-- To say the same of a session twice is to say it once. -/
structure Idempotent (id : SessionId) (g : Gateway) : Prop where
  close : ∀ now now', let c := g.close now id
    c.gateway.close now' id = { answer := c.answer, gateway := c.gateway }
  closeInput : ∀ now now', let c := g.closeInput now id
    c.gateway.closeInput now' id = { answer := c.answer, gateway := c.gateway }
  markReady : ∀ now now', let c := g.markReady now id
    c.gateway.markReady now' id = { answer := c.answer, gateway := c.gateway.touch now' id }

/-! ## The answers -/

theorem answers_of_server (hg : g.Orderly) (hs : g.server = some s) (id : SessionId) :
    g.Answers id (Status.ofResult Status.ofStream (s.host.manager.verdict id)) := by
  have hm := (hg.running s hs).1.ordered.numbered
  have honServer : ∀ (f : Session → Turn) (op : Server → Outcome Server (Except StreamError Unit)),
      (op s).answer = (s.host.manager.onLive id f).answer →
      (g.onServer op).answer = Status.ofResult Status.ofStream (s.host.manager.verdict id) := by
    intro f op hop
    rw [onServer, current_of_server hs, ← Manager.answer_onLive hm hg.positive, ← hop]
    rfl
  exact ⟨fun _ => honServer _ _ rfl, fun _ => honServer _ _ rfl, fun _ => honServer _ _ rfl⟩

theorem answers_of_issued (hg : g.Orderly) (hs : g.server = some s)
    (hissued : g.counter.issued id.number = true) : g.Answers id .ok := by
  have hanswers := answers_of_server hg hs id
  rw [counter, hs] at hissued
  rwa [Manager.verdict, if_pos hissued] at hanswers

theorem answers_of_unissued (hg : g.Orderly) (hs : g.server = some s)
    (hissued : g.counter.issued id.number = false) : g.Answers id .notFound := by
  have hanswers := answers_of_server hg hs id
  rw [counter, hs] at hissued
  rwa [Manager.verdict, if_neg (by simp [hissued])] at hanswers

/-- What is refused to the server's front end is refused with the status of its error. -/
theorem answersSend_of_error (hs : g.server = some s) {e : StreamError}
    (h : ∀ now chunk, (s.host.manager.send now id chunk).answer = .error e) :
    g.AnswersSend id (Status.ofStream e) := by
  intro now data chunk hdata
  have hsend : (s.send now id chunk).answer = .error e := h now chunk
  rw [send, hdata, current_of_server hs]
  dsimp only [after, Outcome.map]
  rw [hsend]

theorem answersSend_of_unissued (hg : g.Orderly) (hs : g.server = some s)
    (hissued : g.counter.issued id.number = false) : g.AnswersSend id .notFound := by
  have hm := (hg.running s hs).1.ordered.numbered
  rw [counter, hs] at hissued
  refine answersSend_of_error (e := .sessionNotFound id) hs fun now chunk => ?_
  rw [Manager.send, Manager.lookup_of_unissued hm hg.positive hissued]

theorem answersSend_of_retired (hg : g.Orderly) (hs : g.server = some s)
    (hissued : g.counter.issued id.number = true) (hretired : id ∉ g.liveIds) :
    g.AnswersSend id .protocolViolation := by
  have hm := (hg.running s hs).1.ordered.numbered
  rw [counter, hs] at hissued
  rw [liveIds, hs] at hretired
  refine answersSend_of_error (e := .inputClosed id) hs fun now chunk => ?_
  rw [Manager.send, Manager.lookup_of_retired ((Manager.live?_eq_none_iff hm).mpr hretired) hissued]

/-! ## Saying it twice -/

theorem onServer_again {f f' : Server → Outcome Server (Except StreamError Unit)}
    {k : Server → Server}
    (hf : ∀ s, g.server = some s →
      f' (f s).state = { answer := (f s).answer, state := k (f s).state }) :
    let c := g.onServer f
    c.gateway.onServer f' =
      { answer := c.answer, gateway := { c.gateway with server := c.gateway.server.map k } } := by
  intro c
  cases hs : g.server with
  | none =>
    have hidle : ∀ f, g.onServer f = { answer := .notStarted, gateway := g } := fun f => by
      rw [onServer, current, hs]
    have hc : c = { answer := .notStarted, gateway := g } := hidle f
    rw [hc, hidle f', hs, Option.map_none, ← hs]
  | some s =>
    have hc : c = g.after ((f s).map (Status.ofResult Status.ofStream)) := by
      show g.onServer f = _
      rw [onServer, current_of_server hs]
    have hserver : c.gateway.server = some (f s).state := hc ▸ server_after g _
    have hanswer : c.answer = Status.ofResult Status.ofStream (f s).answer := by
      rw [hc]
      rfl
    rw [onServer, current_of_server hserver, hanswer, hserver]
    dsimp only
    rw [hf s hs]
    rfl

theorem withServer_map_id (g : Gateway) : { g with server := g.server.map fun s => s } = g := by
  rw [Option.map_id_fun']
  rfl

theorem Orderly.idempotent (hg : g.Orderly) (id : SessionId) : g.Idempotent id := by
  have hh : ∀ s, g.server = some s → s.host.Ordered g.sessions.next :=
    fun s hs => (hg.running s hs).1.ordered
  refine ⟨fun now now' => ?_, fun now now' => ?_, fun now now' => ?_⟩ <;> intro c
  · refine (onServer_again (k := fun s => s) fun s hs => ?_).trans
      (by rw [withServer_map_id]; rfl)
    show Server.stream _ (Host.close now' id (s.host.close now id).state) = _
    rw [Host.close_again (hh s hs) hg.positive now now' id, Server.stream_of_quiet]
    rfl
  · refine (onServer_again (k := fun s => s) fun s hs => ?_).trans
      (by rw [withServer_map_id]; rfl)
    show Server.stream _ (Host.closeInput now' id (s.host.closeInput now id).state) = _
    rw [Host.closeInput_again (hh s hs) hg.positive now now' id, Server.stream_of_quiet]
    rfl
  · refine onServer_again fun s hs => ?_
    show Server.stream _ (Host.markReady now' id (s.host.markReady now id).state) = _
    rw [Host.markReady_again (hh s hs) hg.positive now now' id, Server.stream_of_quiet]
    rfl

/-! ## Closed for ever -/

theorem issued_of_live (hg : g.Orderly) (hlive : id ∈ g.liveIds) :
    g.counter.issued id.number = true := by
  unfold liveIds at hlive
  unfold counter
  cases hs : g.server with
  | none => simp [hs] at hlive
  | some s =>
    rw [hs] at hlive
    exact Manager.issued_of_mem (hg.running s hs).1.ordered.numbered hg.positive
      (s.host.manager.liveIds_sublist.mem hlive)

/-- Whoever was given out and is not live is not heard of again. -/
theorem Follows.silent {g' : Gateway} {hs : List Handed} (h : Follows g g' hs)
    (hissued : g.counter.issued id.number = true) (hretired : id ∉ g.liveIds) :
    g'.counter.issued id.number = true ∧ id ∉ g'.liveIds ∧ ∀ d ∈ hs, d.session ≠ id := by
  have hcounter := h.counter
  rw [Counter.issued_iff] at hissued ⊢
  refine ⟨by omega, fun hlive => ?_, fun d hd hsession => ?_⟩
  · rcases h.live id hlive with hlive | hlater
    · exact hretired hlive
    · omega
  · subst hsession
    rcases h.heard d hd with hlive | hlater
    · exact hretired hlive
    · omega

/-- **Closed is for ever, across servers.** In every run sessions get positive and growing
numbers. While a server runs, an identity that was never given out is not found. One that was
given out and is not live is closed: closing it, closing its input and signalling readiness
are no errors and sending is one, at this and at every later moment, and nothing is handed
over for it any more. For a live session all but sending is no error. And to close, to close
the input or to signal readiness a second time gets the same answer and comes to nothing, but
that the idle clock of a live session is set.

The front end may close a session from inside a delivery for this session, and for no other
one; the moments are those between operations. -/
theorem closed_for_ever (hangUps : List (SessionId × Nat)) (past : List Operation) :
    let g₀ : Gateway := { hangUps }
    let g := g₀.run past
    (opened past g₀).Pairwise (fun a b => a.number < b.number) ∧
    (∀ id ∈ opened past g₀, 0 < id.number ∧ g.counter.issued id.number = true) ∧
    ∀ id : SessionId,
      (g.running = true → g.counter.issued id.number = false →
        g.AnswersSend id .notFound ∧ g.Answers id .notFound) ∧
      (g.counter.issued id.number = true → id ∉ g.liveIds → ∀ later,
        let g' := g.run later
        (∀ h ∈ handed later g, h.session ≠ id) ∧ id ∉ g'.liveIds ∧
        (g'.running = true → g'.AnswersSend id .protocolViolation ∧ g'.Answers id .ok)) ∧
      (id ∈ g.liveIds → g.Answers id .ok) ∧
      g.Idempotent id := by
  intro g₀ g
  have hg₀ : g₀.Orderly := orderly_idle hangUps
  obtain ⟨hg, -⟩ := hg₀.run past
  obtain ⟨hincreasing, hwithin⟩ := hg₀.opened past
  refine ⟨hincreasing, fun id hid => ?_, fun id => ⟨fun hrunning hissued => ?_,
    fun hissued hretired later => ?_, fun hlive => ?_, hg.idempotent id⟩⟩
  · obtain ⟨hlower, hupper⟩ := hwithin id hid
    have hlower : 1 ≤ id.number := hlower
    exact ⟨hlower, (Counter.issued_iff _ _).mpr ⟨hlower, hupper⟩⟩
  · obtain ⟨s, hs⟩ := Option.isSome_iff_exists.mp hrunning
    exact ⟨answersSend_of_unissued hg hs hissued, answers_of_unissued hg hs hissued⟩
  · obtain ⟨hg', hfollows⟩ := hg.run later
    obtain ⟨hissued', hretired', hsilent⟩ := hfollows.silent hissued hretired
    refine ⟨hsilent, hretired', fun hrunning => ?_⟩
    obtain ⟨s, hs⟩ := Option.isSome_iff_exists.mp hrunning
    exact ⟨answersSend_of_retired hg' hs hissued' hretired', answers_of_issued hg' hs hissued'⟩
  · cases hs : g.server with
    | none => simp [liveIds, hs] at hlive
    | some s => exact answers_of_issued hg hs (issued_of_live hg hlive)

/-- A session of a server that was stopped is closed on the next one, and whatever was never
given out is still not found. -/
theorem closed_for_ever_restarted :
    let g := ({} : Gateway).run
      [.register Server.waiting, .start (some {}),
       .openStream ⟨0⟩ .bidi (some (Utf8.encode "/m")) {}, .stop ⟨1⟩, .start (some {})]
    g.running = true ∧ g.AnswersSend ⟨1⟩ .protocolViolation ∧ g.Answers ⟨1⟩ .ok ∧
      g.AnswersSend ⟨0⟩ .notFound ∧ g.Answers ⟨0⟩ .notFound := by
  intro g
  obtain ⟨-, hopened, hanswers⟩ := closed_for_ever []
    [.register Server.waiting, .start (some {}),
     .openStream ⟨0⟩ .bidi (some (Utf8.encode "/m")) {}, .stop ⟨1⟩, .start (some {})]
  have hrunning : g.running = true := rfl
  have hissued : g.counter.issued 1 = true := (hopened ⟨1⟩ List.mem_cons_self).2
  have hretired : (⟨1⟩ : SessionId) ∉ g.liveIds := List.not_mem_nil
  obtain ⟨-, hclosed, -⟩ := hanswers ⟨1⟩
  obtain ⟨hunknown, -⟩ := hanswers ⟨0⟩
  obtain ⟨hsend, hothers⟩ := (hclosed hissued hretired []).2.2 hrunning
  exact ⟨hrunning, hsend, hothers, hunknown hrunning rfl⟩

end Switchboard.Gateway
