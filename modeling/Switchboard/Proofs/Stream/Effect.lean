import Switchboard.Proofs.Stream.Run

/-!
# Effect — all that an operation can do to a session

`Effect s op r t` lists, case by case, what an operation can come to for a session: the
answer `r` and the turn `t`, with the guards under which each case arises and the session
afterwards written out field by field. `Sound` is what every operation keeps true of a
session, and `Sound.effect` says that the list is complete. Later modules take an
operation apart by `cases` on its effect and never unfold the operations of a session.

All of it is about sessions that nobody closes from inside a delivery.
-/

namespace Switchboard

/-! ## Staging and flushing -/

namespace Outbox

/-- What goes into the outbox with a frame: what must come before it, and the frame. -/
def staged (f : Frame) (o : Outbox) : List Frame :=
  (if (f.kind = .data ∨ f.kind = .finish) ∧ o.headersSent = false then
    pairsFrame .header o.headers else []) ++
  (if f.kind = .finish then pairsFrame .trailer o.trailers else []) ++ [f]

theorem pending_stage (f : Frame) (o : Outbox) :
    (o.stage f).pending = o.pending ++ o.staged f := by
  unfold stage stageHeaders stageTrailers staged
  split <;> split <;> simp

@[simp] theorem ready_stage (f : Frame) (o : Outbox) : (o.stage f).ready = o.ready := by
  unfold stage stageHeaders stageTrailers
  split <;> split <;> rfl

theorem pending_stage_ne_nil (f : Frame) (o : Outbox) : (o.stage f).pending ≠ [] := by
  simp [pending_stage, staged]

@[simp] theorem frames_flush (o : Outbox) : o.flush.1 = if o.ready then o.pending else [] := by
  unfold flush
  split <;> rfl

@[simp] theorem ready_flush (o : Outbox) : o.flush.2.ready = o.ready := by
  unfold flush
  split <;> rfl

@[simp] theorem headersSent_flush (o : Outbox) : o.flush.2.headersSent = o.headersSent := by
  unfold flush
  split <;> rfl

@[simp] theorem trailers_flush (o : Outbox) : o.flush.2.trailers = o.trailers := by
  unfold flush
  split <;> rfl

@[simp] theorem pending_flush (o : Outbox) :
    o.flush.2.pending = if o.ready then [] else o.pending := by
  unfold flush
  split <;> rfl

/-- Once the front end is ready, what is staged goes out at once. -/
theorem isEmpty_pending_flush_stage (f : Frame) (o : Outbox) :
    ((o.stage f).flush.2.pending.isEmpty) = o.ready := by
  cases hr : o.ready <;> simp [hr, pending_stage_ne_nil]

end Outbox

/-- The frame that tells the front end of an outcome. -/
def Frame.closing : Except StreamError Unit → Frame
  | .ok () => ⟨.finish, []⟩
  | .error e => ⟨.error, Utf8.encode e.message⟩

namespace Session

/-! ## What every operation keeps -/

/-- What is true of a session between any two operations. -/
structure Sound (s : Session) : Prop where
  -- Nobody closes the session from inside a delivery.
  calm : s.hangUps = []
  silenced : s.silenced = s.cause.isSome
  live : s.live = true ↔ s.cause = none ∧
    (s.halves.inputOpen = true ∨ s.halves.outputOpen = true ∨ s.outbox.pending ≠ [])
  -- Ended by force, a session has both halves closed.
  terminal : s.cause ≠ none → s.halves.isTerminal = true
  ready : s.outbox.ready = s.halves.ready
  flushed : s.halves.ready = true → s.outbox.pending = []
  sender : s.inbox.sender = s.halves.inputOpen
  accepts : s.halves.inputOpen = true → s.shape.acceptsInput = true
  -- What is kept back of an output that has ended has its end in it.
  closing : s.cause = none → s.halves.outputOpen = false → s.halves.ready = false →
    ∃ front last, s.outbox.pending = front ++ [last] ∧ last.kind.isTerminal = true

theorem sound_fresh (id : SessionId) (shape : Shape) (capacity : Nat) (heard : Bool)
    (now : Instant) : (fresh id shape capacity heard [] now).Sound where
  calm := rfl
  silenced := rfl
  live := ⟨fun _ => ⟨rfl, .inr (.inl rfl)⟩, fun _ => rfl⟩
  terminal := fun h => absurd rfl h
  ready := rfl
  flushed := fun _ => rfl
  sender := rfl
  accepts := fun h => h
  closing := fun _ hclosed => absurd hclosed.symm Bool.false_ne_true

theorem Sound.cause_of_live {s : Session} (h : s.Sound) (hlive : s.live = true) :
    s.cause = none := (h.live.mp hlive).1

theorem Sound.silenced_of_cause {s : Session} (h : s.Sound) (hcause : s.cause = none) :
    s.silenced = false := by
  rw [h.silenced, hcause]
  rfl

/-! ## The list of effects -/

/-- A session that was ended by force from inside. -/
def struck (cause : StreamError) (n : Nat) (s : Session) : Turn :=
  { session :=
      { s with cause := some cause, halves := s.halves.closeBoth.2, inbox := s.inbox.shut,
               outbox := { s.outbox with pending := [] }, delivered := n, silenced := true,
               live := false }
    frames := if s.halves.outputOpen || !s.outbox.pending.isEmpty then
      [⟨.error, Utf8.encode cause.message⟩] else []
    woken := s.inbox.waiting.map fun _ => .error cause }

/-- What an operation can come to for a session, case by case. How many deliveries were
heard (`n`) is left open. -/
inductive Effect (s : Session) : Operation → Response → Turn → Prop where
  -- Refused, or about others.
  | refused {op : Operation} {r : Response} (h : r.refused = true) : Effect s op r (.still s)
  -- The front end finds the session closed for ever.
  | gone {op : Operation} (h : s.live = false) : Effect s op (.done (.ok ())) (.still s)
  | inputWasClosed {now : Instant} {id : SessionId} (h : s.halves.inputOpen = false) :
      Effect s (.closeInput now id) (.done (.ok ())) (.still s)
  | accepted {now : Instant} {id : SessionId} {chunk : Bytes} (hlive : s.live = true)
      (hopen : s.halves.inputOpen = true) (hroom : s.inbox.full = false) :
      Effect s (.send now id chunk) (.sent (.ok .accepted)) (.still
        { s with inbox := { s.inbox with chunks := s.inbox.chunks ++ [chunk] },
                 lastActivity := now })
  | blocked {now : Instant} {id : SessionId} {chunk : Bytes} (hlive : s.live = true)
      (hopen : s.halves.inputOpen = true) (hfull : s.inbox.full = true) :
      Effect s (.send now id chunk) (.sent (.ok .blocked)) (.still
        { s with inbox := { s.inbox with waiting := s.inbox.waiting ++ [chunk] },
                 lastActivity := now })
  | closedInput {now : Instant} {id : SessionId} (hlive : s.live = true)
      (hopen : s.halves.inputOpen = true) :
      Effect s (.closeInput now id) (.done (.ok ())) (.still
        { s with halves := s.halves.closeInput.2, inbox := s.inbox.dropSender,
                 lastActivity := now,
                 live := s.halves.outputOpen || !s.outbox.pending.isEmpty })
  | closed {id : SessionId} (hlive : s.live = true) :
      Effect s (.close id) (.done (.ok ()))
        { session :=
            { s with cause := some (.sessionClosed s.id), halves := s.halves.closeBoth.2,
                     inbox := s.inbox.shut, silenced := true, live := false }
          woken := s.inbox.waiting.map fun _ => .error (.sessionClosed s.id) }
  | readied {now : Instant} {id : SessionId} {n : Nat} (hlive : s.live = true) :
      Effect s (.markReady now id) (.done (.ok ()))
        { session :=
            { s with halves := s.halves.markReady.2, lastActivity := now,
                     outbox := { s.outbox with ready := true, pending := [] },
                     delivered := n, live := !s.halves.isTerminal }
          frames := s.outbox.pending }
  | expired {now : Instant} {timeout : Duration} {n : Nat} (hlive : s.live = true)
      (hdue : timeout.nanos ≤ (s.idle now).nanos) :
      Effect s (.expireIdle now timeout) .nothing (s.struck (.timeout s.id) n)
  | stopped {n : Nat} (hlive : s.live = true) :
      Effect s .shutdown .nothing (s.struck .shuttingDown n)
  -- The handler's call is answered with an error.
  | denied {now : Instant} {id : SessionId} {c : Call} {e : StreamError} :
      Effect s (.call now id c) (.answered (.error e)) (.still s)
  | interrupted {id : SessionId} {e : StreamError} :
      Effect s (.interrupt id) (.answered (.error e)) (.still s)
  | received {now : Instant} {id : SessionId} {chunk : Bytes} {moved : Nat} {rest : Inbox}
      (h : s.inbox.take = .chunk chunk moved rest) :
      Effect s (.call now id .receive) (.answered (.ok (some chunk)))
        { session := { s with inbox := rest }, woken := List.replicate moved (.ok ()) }
  -- The handler has come to the end of the input.
  | exhausted {now : Instant} {id : SessionId} (hcause : s.cause = none)
      (h : s.inbox.take = .ended) :
      Effect s (.call now id .receive) (.answered (.ok none)) (.still s)
  | sent {now : Instant} {id : SessionId} {payload : Bytes} {n : Nat} (hcause : s.cause = none)
      (hopen : s.halves.outputOpen = true)
      (honce : s.shape = .clientStream → s.responded = false) :
      Effect s (.call now id (.send payload)) (.answered (.ok none))
        { session :=
            { s with responded := s.responded || s.shape == .clientStream, lastActivity := now,
                     outbox := (s.outbox.stage ⟨.data, payload⟩).flush.2, delivered := n }
          frames := (s.outbox.stage ⟨.data, payload⟩).flush.1 }
  | closedOutput {now : Instant} {id : SessionId} {n : Nat} (hcause : s.cause = none)
      (hopen : s.halves.outputOpen = true) :
      Effect s (.call now id .closeSend) (.answered (.ok none))
        { session :=
            { s with halves := s.halves.closeOutput.2, lastActivity := now,
                     outbox := (s.outbox.stage (.closing (.ok ()))).flush.2, delivered := n,
                     live := s.halves.inputOpen || !s.outbox.ready }
          frames := (s.outbox.stage (.closing (.ok ()))).flush.1 }
  | outputWasClosed {now : Instant} {id : SessionId} (hcause : s.cause = none)
      (h : s.halves.outputOpen = false) :
      Effect s (.call now id .closeSend) (.answered (.ok none)) (.still s)
  | headerSet {now : Instant} {id : SessionId} {key value : String} :
      Effect s (.call now id (.setHeader key value)) (.answered (.ok none)) (.still
        { s with outbox := s.outbox.setHeader key value })
  | trailerSet {now : Instant} {id : SessionId} {key value : String} :
      Effect s (.call now id (.setTrailer key value)) (.answered (.ok none)) (.still
        { s with outbox := s.outbox.setTrailer key value })
  -- The handler ended, and the output ends with it.
  | finished {now : Instant} {id : SessionId} {ending : Ending}
      {outcome : Except StreamError Unit} {n : Nat} (h : ending.verdict = some outcome)
      (hcause : s.cause = none) (hopen : s.halves.outputOpen = true) :
      Effect s (.call now id (.finish ending)) (.answered (.ok none))
        { session :=
            { s with halves := s.halves.closeBoth.2, inbox := s.inbox.shut, lastActivity := now,
                     outbox := (s.outbox.stage (.closing outcome)).flush.2, delivered := n,
                     live := !s.outbox.ready }
          frames := (s.outbox.stage (.closing outcome)).flush.1
          woken := s.inbox.waiting.map fun _ => .error (.inputClosed s.id) }
  -- The handler ended after its output had ended.
  | departed {now : Instant} {id : SessionId} {ending : Ending}
      {outcome : Except StreamError Unit} (h : ending.verdict = some outcome)
      (hclosed : s.cause ≠ none ∨ s.halves.outputOpen = false) :
      Effect s (.call now id (.finish ending)) (.answered (.ok none))
        { session :=
            { s with halves := s.halves.closeBoth.2, inbox := s.inbox.shut, lastActivity := now,
                     live := s.live && !s.outbox.pending.isEmpty }
          woken := s.inbox.waiting.map fun _ => .error (s.cause.getD (.inputClosed s.id)) }
  -- The handler broke off and nobody could contain it.
  | escaped {now : Instant} {id : SessionId} {ending : Ending} (h : ending.verdict = none) :
      Effect s (.call now id (.finish ending)) (.answered (.ok none)) (.still s)

/-! ## The list is complete -/

theorem retireIfDrained_eq (s : Session) :
    s.retireIfDrained = { s with live := s.live && !s.drained } := by
  unfold retireIfDrained
  cases hd : s.drained <;> simp

/-- What is pushed is staged, and goes out if the front end is ready. -/
theorem push_eq {s : Session} (hcalm : s.hangUps = []) (hsilenced : s.silenced = false)
    (f : Frame) :
    ∃ n, s.push f =
      { session := { s with outbox := (s.outbox.stage f).flush.2, delivered := n }
        frames := (s.outbox.stage f).flush.1 } := by
  unfold push deliver hangsUpWithin
  cases hheard : s.heard with
  | true => exact ⟨_, by simp [hsilenced, hcalm]; rfl⟩
  | false => exact ⟨s.delivered, by simp [hsilenced]⟩

theorem effect_offered {s : Session} (h : s.Sound) (now : Instant) (id : SessionId)
    (chunk : Bytes) :
    Effect s (.send now id chunk) (s.offered now chunk).1 (s.offered now chunk).2 := by
  unfold offered
  cases hlive : s.live with
  | false => exact .refused rfl
  | true =>
    unfold send
    by_cases hshape : s.shape.acceptsInput = false
    · simp only [if_true, if_pos hshape]
      exact .refused rfl
    · cases hsender : s.inbox.sender with
      | false =>
        simp only [if_true, if_neg hshape]
        exact .refused rfl
      | true =>
        have hopen : s.halves.inputOpen = true := h.sender.symm.trans hsender
        cases hfull : s.inbox.full with
        | false =>
          simp only [if_true, if_neg hshape, Bool.true_eq_false, if_false, Inbox.offer, hfull,
            Bool.false_eq_true]
          exact .accepted hlive hopen hfull
        | true =>
          simp only [if_true, if_neg hshape, Bool.true_eq_false, if_false, Inbox.offer, hfull,
            Bool.false_eq_true]
          exact .blocked hlive hopen hfull

theorem effect_closeInput {s : Session} (h : s.Sound) (hlive : s.live = true) (now : Instant)
    (id : SessionId) :
    Effect s (.closeInput now id) (.done (.ok ())) (.still (s.closeInput now)) := by
  have hcause := h.cause_of_live hlive
  unfold closeInput
  cases hopen : s.halves.inputOpen with
  | true =>
    have heffect : Effect s (.closeInput now id) _ _ := .closedInput hlive hopen
    simpa [retireIfDrained_eq, drained, hlive, h.silenced_of_cause hcause, Halves.isTerminal,
      Halves.closeInput] using heffect
  | false =>
    -- A live session is not drained, so nothing changes.
    have hdrained : s.drained = false := by
      obtain ⟨-, hsome⟩ := h.live.mp hlive
      simp only [hopen, Bool.false_eq_true, false_or] at hsome
      rcases hsome with hout | hpending
      · simp [drained, Halves.isTerminal, hout]
      · simp [drained, h.silenced_of_cause hcause, hpending]
    have hsame : s.retireIfDrained = s := by
      rw [retireIfDrained_eq, hdrained, Bool.not_false, Bool.and_true]
    simp only [Bool.false_eq_true, if_false, hsame]
    exact .inputWasClosed hopen

theorem effect_close {s : Session} (h : s.Sound) (hlive : s.live = true) (id : SessionId) :
    Effect s (.close id) (.done (.ok ())) s.close := by
  have heffect : Effect s (.close id) _ _ := .closed hlive
  simpa [close, release, Turn.thenSet, h.cause_of_live hlive] using heffect

theorem effect_markReady {s : Session} (h : s.Sound) (hlive : s.live = true) (now : Instant)
    (id : SessionId) :
    Effect s (.markReady now id) (.done (.ok ())) (s.markReady now) := by
  have hsilenced := h.silenced_of_cause (h.cause_of_live hlive)
  have heffect : ∀ n, Effect s (.markReady now id) _ _ := fun n => .readied (n := n) hlive
  cases hheard : s.heard with
  | true =>
    simpa [markReady, Turn.thenSet, deliver, hangsUpWithin, retireIfDrained_eq, drained,
      Outbox.flush, Halves.isTerminal, Halves.markReady, hheard, hlive, hsilenced, h.calm]
      using heffect _
  | false =>
    simpa [markReady, Turn.thenSet, deliver, retireIfDrained_eq, drained, Outbox.flush,
      Halves.isTerminal, Halves.markReady, hheard, hlive, hsilenced] using heffect s.delivered

theorem failIf_eq_struck {s : Session} (h : s.Sound) (hlive : s.live = true)
    (cause : StreamError) : ∃ n, s.failIf true cause = s.struck cause n := by
  have hcause := h.cause_of_live hlive
  have hsilenced := h.silenced_of_cause hcause
  cases howed : s.halves.outputOpen || !s.outbox.pending.isEmpty with
  | false =>
    refine ⟨s.delivered, ?_⟩
    simp only [failIf, fail, hlive, hcause, howed, struck]
    simp [release, Turn.thenSet, Turn.andThen, Turn.still]
  | true =>
    cases hheard : s.heard with
    | true =>
      refine ⟨s.delivered + 1, ?_⟩
      simp only [failIf, fail, hlive, hcause, howed, struck]
      simp [release, Turn.thenSet, Turn.andThen, deliver, hangsUpWithin, hsilenced, hheard,
        h.calm]
    | false =>
      refine ⟨s.delivered, ?_⟩
      simp only [failIf, fail, hlive, hcause, howed, struck]
      simp [release, Turn.thenSet, Turn.andThen, deliver, hsilenced, hheard]

theorem effect_emit {s : Session} (h : s.Sound) (now : Instant) (id : SessionId)
    (payload : Bytes) :
    Effect s (.call now id (.send payload)) (s.undergo (.call now id (.send payload))).1
      (s.undergo (.call now id (.send payload))).2 := by
  simp only [undergo, call, emit]
  cases hcause : s.cause with
  | some e => exact .denied
  | none =>
    cases hopen : s.halves.outputOpen with
    | false => exact .denied
    | true =>
      by_cases honce : s.shape = .clientStream ∧ s.responded = true
      · simp only [Bool.true_eq_false, if_false, if_pos honce]
        exact .denied
      · obtain ⟨n, hpush⟩ := push_eq
          (s := { s with responded := s.responded || s.shape == .clientStream,
                         lastActivity := now })
          h.calm (h.silenced_of_cause hcause) ⟨.data, payload⟩
        have heffect : Effect s (.call now id (.send payload)) _ _ :=
          .sent (n := n) hcause hopen fun hshape => by simpa [hshape] using honce
        rw [hcause] at hpush heffect
        simp only [Bool.true_eq_false, if_false, if_neg honce, hpush]
        exact heffect

theorem effect_closeOutput {s : Session} (h : s.Sound) (now : Instant) (id : SessionId) :
    Effect s (.call now id .closeSend) (s.undergo (.call now id .closeSend)).1
      (s.undergo (.call now id .closeSend)).2 := by
  simp only [undergo, call, closeOutput]
  cases hcause : s.cause with
  | some e => exact .denied
  | none =>
    cases hopen : s.halves.outputOpen with
    | false => exact .outputWasClosed hcause hopen
    | true =>
      have hlive : s.live = true := h.live.mpr ⟨hcause, .inr (.inl hopen)⟩
      have hsilenced := h.silenced_of_cause hcause
      obtain ⟨n, hpush⟩ := push_eq
        (s := { s with halves := s.halves.closeOutput.2, lastActivity := now })
        h.calm hsilenced ⟨.finish, []⟩
      have heffect : Effect s (.call now id .closeSend) _ _ := .closedOutput (n := n) hcause hopen
      rw [hcause] at hpush heffect
      simp only [Bool.true_eq_false, if_false, hpush, Turn.thenSet, retireIfDrained_eq, drained,
        Outbox.isEmpty_pending_flush_stage]
      simpa [hlive, hsilenced, Halves.isTerminal, Halves.closeOutput, Frame.closing]
        using heffect

/-- What is still to tell at the end of the handler is told by one frame, and there is
something to tell unless the session was ended by force or its output had ended. -/
theorem farewell_eq (outputOpen : Bool) (outcome : Except StreamError Unit) (s : Session) :
    s.farewell outputOpen outcome =
      if s.cause = none ∧ outputOpen = true then some (.closing outcome) else none := by
  unfold farewell
  cases s.cause <;> cases outputOpen <;> cases outcome <;> rfl

theorem effect_finish {s : Session} (h : s.Sound) (now : Instant) (id : SessionId)
    (ending : Ending) :
    Effect s (.call now id (.finish ending)) (s.undergo (.call now id (.finish ending))).1
      (s.undergo (.call now id (.finish ending))).2 := by
  simp only [undergo, call]
  cases hverdict : ending.verdict with
  | none => exact .escaped hverdict
  | some outcome =>
    simp only [finish, Turn.thenSet, Turn.andThen]
    by_cases htell : s.cause = none ∧ s.halves.outputOpen = true
    · have hcause := htell.1
      have hopen := htell.2
      have hsilenced := h.silenced_of_cause hcause
      have hlive : s.live = true := h.live.mpr ⟨hcause, .inr (.inl hopen)⟩
      obtain ⟨n, hpush⟩ := push_eq
        (s := { s with halves := s.halves.closeBoth.2, lastActivity := now })
        h.calm hsilenced (.closing outcome)
      have heffect : Effect s (.call now id (.finish ending)) _ _ :=
        .finished (n := n) hverdict hcause hopen
      simp only [release, farewell_eq, if_pos htell, hpush, retireIfDrained_eq, drained,
        Outbox.isEmpty_pending_flush_stage]
      simpa [hlive, hsilenced, hcause] using heffect
    · have hclosed : s.cause ≠ none ∨ s.halves.outputOpen = false := by
        by_cases hcause : s.cause = none
        · exact .inr (by simpa [hcause] using htell)
        · exact .inl hcause
      have heffect : Effect s (.call now id (.finish ending)) _ _ := .departed hverdict hclosed
      have hlive : (s.live && !(s.silenced || s.outbox.pending.isEmpty))
          = (s.live && !s.outbox.pending.isEmpty) := by
        cases hl : s.live with
        | false => rfl
        | true => rw [h.silenced_of_cause (h.cause_of_live hl), Bool.false_or]
      simp only [release, farewell_eq, if_neg htell, Turn.still, retireIfDrained_eq, drained,
        Halves.isTerminal_closeBoth, Bool.true_and, List.nil_append, hlive]
      exact heffect

theorem effect_call {s : Session} (h : s.Sound) (now : Instant) (id : SessionId) (c : Call) :
    Effect s (.call now id c) (s.undergo (.call now id c)).1 (s.undergo (.call now id c)).2 := by
  cases c with
  | receive =>
    simp only [undergo, call, receive]
    cases htake : s.inbox.take with
    | chunk head moved rest => exact .received htake
    | ended =>
      cases hcause : s.cause with
      | some e => exact .denied
      | none => exact .exhausted hcause htake
    | notYet => exact .refused rfl
  | send payload => exact effect_emit h now id payload
  | closeSend => exact effect_closeOutput h now id
  | setHeader key value => exact .headerSet
  | setTrailer key value => exact .trailerSet
  | finish ending => exact effect_finish h now id ending

theorem effect_undergo {s : Session} (h : s.Sound) (op : Operation) :
    Effect s op (s.undergo op).1 (s.undergo op).2 := by
  cases op with
  | openSession now shape => exact .refused rfl
  | send now id chunk => exact effect_offered h now id chunk
  | closeInput now id =>
    simp only [undergo, whileLive]
    cases hlive : s.live with
    | true => exact effect_closeInput h hlive now id
    | false => exact .gone hlive
  | close id =>
    simp only [undergo, whileLive]
    cases hlive : s.live with
    | true => exact effect_close h hlive id
    | false => exact .gone hlive
  | markReady now id =>
    simp only [undergo, whileLive]
    cases hlive : s.live with
    | true => exact effect_markReady h hlive now id
    | false => exact .gone hlive
  | expireIdle now timeout =>
    simp only [undergo]
    by_cases hdue : s.live = true ∧ timeout.nanos ≤ (s.idle now).nanos
    · obtain ⟨n, hstruck⟩ := failIf_eq_struck h hdue.1 (.timeout s.id)
      rw [decide_eq_true hdue.2, hstruck]
      exact .expired hdue.1 hdue.2
    · have hspared : (s.live && decide (timeout.nanos ≤ (s.idle now).nanos)) = false := by
        simpa using hdue
      simp only [failIf, hspared]
      exact .refused rfl
  | shutdown =>
    simp only [undergo]
    cases hlive : s.live with
    | true =>
      obtain ⟨n, hstruck⟩ := failIf_eq_struck h hlive .shuttingDown
      rw [hstruck]
      exact .stopped hlive
    | false =>
      simp only [failIf, hlive]
      exact .refused rfl
  | call now id c => exact effect_call h now id c
  | interrupt id =>
    simp only [undergo]
    cases s.cause with
    | none => exact .refused rfl
    | some e => exact .interrupted

/-- **The list of effects is complete.** -/
theorem Sound.effect {s : Session} (h : s.Sound) (op : Operation) :
    Effect s op (s.perform op).1 (s.perform op).2 := by
  unfold perform
  split
  · exact effect_undergo h op
  · exact .refused rfl

end Session
end Switchboard
