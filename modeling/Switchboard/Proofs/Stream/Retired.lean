import Switchboard.Proofs.Stream.Registry

/-!
# Retired — whoever has left the registry is not heard of again

A handler may go on working on a session that has left the registry. Nothing comes of it:
the session stays where it is and no frame of it goes out. Unlike `Sound`, what is kept here
(`Regular`) is kept also where the front end closes sessions from inside deliveries.
-/

namespace Switchboard

namespace Session

variable {s : Session} {op : Operation}

/-- What every step of an operation keeps. -/
structure Steady (s : Session) : Prop where
  untouched : s.live = true → s.cause = none ∧ s.silenced = false
  -- There is nothing that a session which is not live could say.
  mute : s.live = false → s.cause ≠ none ∨ s.halves.outputOpen = false
  ready : s.halves.ready = s.outbox.ready
  flushed : s.outbox.ready = true → s.outbox.pending = []

/-- What is true of a session between any two operations. -/
structure Regular (s : Session) : Prop extends Steady s where
  undrained : s.live = true → s.drained = false

theorem regular_of_mute (hlive : s.live = false)
    (hmute : s.cause ≠ none ∨ s.halves.outputOpen = false)
    (hready : s.halves.ready = s.outbox.ready)
    (hflushed : s.outbox.ready = true → s.outbox.pending = []) : s.Regular :=
  ⟨⟨fun h => absurd (hlive.symm.trans h) Bool.false_ne_true, fun _ => hmute, hready, hflushed⟩,
    fun h => absurd (hlive.symm.trans h) Bool.false_ne_true⟩

theorem regular_fresh (id : SessionId) (shape : Shape) (capacity : Nat) (heard : Bool)
    (hangUps : List Nat) (now : Instant) :
    (fresh id shape capacity heard hangUps now).Regular where
  untouched := fun _ => ⟨rfl, rfl⟩
  mute := nofun
  ready := rfl
  flushed := nofun
  undrained := fun _ => by simp [drained, fresh, Halves.fresh, Halves.isTerminal]

/-! ## What goes one way only -/

theorem precedes_close (s : Session) : s.Precedes s.close.session :=
  { Precedes.refl s with inputOpen := nofun, outputOpen := nofun, live := nofun }

theorem precedes_deliver (frames : List Frame) (s : Session) :
    s.Precedes (s.deliver frames).session := by
  have hcounted : ∀ n, s.Precedes { s with delivered := n } := fun _ => { Precedes.refl s with }
  unfold Session.deliver
  dsimp only
  split
  · split
    · exact (hcounted _).trans (precedes_close _)
    · exact hcounted _
  · exact .refl s

theorem precedes_push (f : Frame) (s : Session) : s.Precedes (s.push f).session := by
  unfold Session.push
  split
  · exact .refl s
  · exact { precedes_deliver _ _ with }

theorem precedes_retireIfDrained (s : Session) : s.Precedes s.retireIfDrained := by
  unfold Session.retireIfDrained
  split
  · exact { Precedes.refl s with live := nofun }
  · exact .refl s

theorem precedes_emit {now : Instant} {payload : Bytes} {t : Turn}
    (ht : s.emit now payload = .ok t) : s.Precedes t.session := by
  unfold Session.emit at ht
  split at ht
  · cases ht
  · split at ht
    · cases ht
    · split at ht
      · cases ht
      · cases ht
        exact { precedes_push _ _ with }

theorem precedes_closeOutput {now : Instant} {t : Turn} (ht : s.closeOutput now = .ok t) :
    s.Precedes t.session := by
  unfold Session.closeOutput at ht
  split at ht
  · cases ht
  · split at ht
    · cases ht
      exact .refl s
    · cases ht
      have hclosed : s.Precedes { s with halves := s.halves.closeOutput.2, lastActivity := now } :=
        { Precedes.refl s with outputOpen := nofun }
      exact (hclosed.trans (precedes_push _ _)).trans (precedes_retireIfDrained _)

theorem precedes_closeBoth (now : Instant) (s : Session) :
    s.Precedes { s with halves := s.halves.closeBoth.2, lastActivity := now } :=
  { Precedes.refl s with inputOpen := nofun, outputOpen := nofun }

theorem precedes_release (s : Session) : s.Precedes s.release.session :=
  { Precedes.refl s with }

theorem precedes_finish (now : Instant) (outcome : Except StreamError Unit) (s : Session) :
    s.Precedes (s.finish now outcome).session := by
  simp only [Session.finish, Turn.thenSet, Turn.andThen]
  refine Precedes.trans (Precedes.trans ?_ (precedes_release _)) (precedes_retireIfDrained _)
  split
  · exact (precedes_closeBoth now s).trans (precedes_push _ _)
  · exact precedes_closeBoth now s

theorem precedes_call {now : Instant} {c : Call} {a : Answer} {t : Turn}
    (hcall : s.call now c = some (a, t)) : s.Precedes t.session := by
  cases c with
  | receive =>
    simp only [Session.call, receive] at hcall
    split at hcall <;> cases hcall <;> exact { Precedes.refl s with }
  | send payload =>
    simp only [Session.call, Option.some.injEq] at hcall
    split at hcall
    · next ht =>
      cases hcall
      exact precedes_emit ht
    · cases hcall
      exact .refl s
  | closeSend =>
    simp only [Session.call, Option.some.injEq] at hcall
    split at hcall
    · next ht =>
      cases hcall
      exact precedes_closeOutput ht
    · cases hcall
      exact .refl s
  | setHeader key value | setTrailer key value =>
    simp only [Session.call] at hcall
    cases hcall
    exact { Precedes.refl s with }
  | finish ending =>
    simp only [Session.call] at hcall
    cases hcall
    split
    · exact precedes_finish now _ s
    · exact .refl s

/-! ## Common steps -/

theorem Steady.close (h : s.Steady) : s.close.session.Regular := by
  refine regular_of_mute rfl (.inl ?_) h.ready h.flushed
  cases hcause : s.cause <;> simp [Session.close, release, Turn.thenSet, hcause]

theorem Steady.release (h : s.Steady) : s.release.session.Steady :=
  ⟨h.untouched, h.mute, h.ready, h.flushed⟩

theorem Steady.deliver (h : s.Steady) (frames : List Frame) :
    (s.deliver frames).session.Steady := by
  have hcounted : ∀ n, { s with delivered := n }.Steady :=
    fun _ => ⟨h.untouched, h.mute, h.ready, h.flushed⟩
  unfold Session.deliver
  dsimp only
  split
  · split
    · exact (hcounted _).close.toSteady
    · exact hcounted _
  · exact h

theorem Steady.push (h : s.Steady) (f : Frame) : (s.push f).session.Steady := by
  unfold Session.push
  split
  · exact h
  · have hflushed : { s with outbox := (s.outbox.stage f).flush.2 }.Steady := by
      refine ⟨h.untouched, h.mute, ?_, ?_⟩
      · rw [Outbox.ready_flush, Outbox.ready_stage, h.ready]
      · rw [Outbox.ready_flush, Outbox.pending_flush]
        exact fun hready => if_pos hready
    exact hflushed.deliver _

theorem Steady.retireIfDrained (h : s.Steady) : s.retireIfDrained.Regular := by
  unfold Session.retireIfDrained
  split
  · next hdrained =>
    have hshut : s.halves.outputOpen = false := by
      simp only [drained, Halves.isTerminal, Bool.and_eq_true, Bool.not_eq_true'] at hdrained
      exact hdrained.1.2
    exact regular_of_mute rfl (.inr hshut) h.ready h.flushed
  · next hdrained => exact ⟨h, fun _ => by simpa using hdrained⟩

/-- A session that is live after deliveries was not closed from inside them. -/
theorem halves_deliver {frames : List Frame} (h : (s.deliver frames).session.live = true) :
    (s.deliver frames).session.halves = s.halves := by
  unfold Session.deliver at h ⊢
  dsimp only at h ⊢
  split at h
  · split at h
    · cases h
    · next hcalm => rw [if_pos ‹_›, if_neg hcalm]
  · rw [if_neg ‹_›]

theorem halves_push {f : Frame} (h : (s.push f).session.live = true) :
    (s.push f).session.halves = s.halves := by
  unfold Session.push at h ⊢
  split at h
  · rw [if_pos ‹_›, Turn.session_still]
  · rw [if_neg ‹_›]
    exact halves_deliver h

/-! ## The handler's calls -/

theorem Regular.emit (h : s.Regular) {now : Instant} {payload : Bytes} {t : Turn}
    (ht : s.emit now payload = .ok t) : t.session.Regular := by
  unfold Session.emit at ht
  split at ht
  · cases ht
  · split at ht
    · cases ht
    · next hopen =>
      split at ht
      · cases ht
      · cases ht
        have hbefore : ∀ responded, { s with responded, lastActivity := now }.Steady :=
          fun _ => ⟨h.untouched, h.mute, h.ready, h.flushed⟩
        refine ⟨(hbefore _).push _, fun hlive => ?_⟩
        have hhalves := halves_push hlive
        simp only [Bool.not_eq_false] at hopen
        simp [drained, hhalves, Halves.isTerminal, hopen]

theorem Regular.closeOutput (h : s.Regular) {now : Instant} {t : Turn}
    (ht : s.closeOutput now = .ok t) : t.session.Regular := by
  unfold Session.closeOutput at ht
  split at ht
  · cases ht
  · split at ht
    · cases ht
      exact h
    · cases ht
      refine Steady.retireIfDrained (Steady.push ?_ _)
      exact ⟨h.untouched, fun _ => .inr rfl, h.ready, h.flushed⟩

theorem Regular.finish (h : s.Regular) (now : Instant) (outcome : Except StreamError Unit) :
    (s.finish now outcome).session.Regular := by
  simp only [Session.finish, Turn.thenSet, Turn.andThen]
  have hended : Steady { s with halves := s.halves.closeBoth.2, lastActivity := now } :=
    ⟨h.untouched, fun _ => .inr rfl, h.ready, h.flushed⟩
  refine Steady.retireIfDrained (Steady.release ?_)
  split
  · exact hended.push _
  · exact hended

theorem Regular.call (h : s.Regular) {now : Instant} {c : Call} {a : Answer} {t : Turn}
    (hcall : s.call now c = some (a, t)) : t.session.Regular := by
  cases c with
  | receive =>
    simp only [Session.call, receive] at hcall
    split at hcall
    · cases hcall
      exact ⟨⟨h.untouched, h.mute, h.ready, h.flushed⟩, h.undrained⟩
    · cases hcall
      exact h
    · cases hcall
  | send payload =>
    simp only [Session.call, Option.some.injEq] at hcall
    split at hcall
    · next ht =>
      cases hcall
      exact h.emit ht
    · cases hcall
      exact h
  | closeSend =>
    simp only [Session.call, Option.some.injEq] at hcall
    split at hcall
    · next ht =>
      cases hcall
      exact h.closeOutput ht
    · cases hcall
      exact h
  | setHeader key value =>
    simp only [Session.call] at hcall
    cases hcall
    refine ⟨⟨h.untouched, h.mute, ?_, ?_⟩, ?_⟩
    · simpa using h.ready
    · simpa using h.flushed
    · simpa [drained] using h.undrained
  | setTrailer key value =>
    simp only [Session.call] at hcall
    cases hcall
    exact ⟨⟨h.untouched, h.mute, h.ready, h.flushed⟩, h.undrained⟩
  | finish ending =>
    simp only [Session.call] at hcall
    cases hcall
    split
    · exact h.finish now _
    · exact h

/-! ## The front end's operations -/

theorem Regular.send (h : s.Regular) {now : Instant} {chunk : Bytes} {taken : Bool} {t : Session}
    (ht : s.send now chunk = .ok (taken, t)) : t.Regular := by
  unfold Session.send at ht
  split at ht
  · cases ht
  · split at ht
    · cases ht
    · cases ht
      exact ⟨⟨h.untouched, h.mute, h.ready, h.flushed⟩, h.undrained⟩

theorem Regular.closeInput (h : s.Regular) (now : Instant) : (s.closeInput now).Regular := by
  unfold Session.closeInput
  refine Steady.retireIfDrained ?_
  split
  · exact ⟨h.untouched, h.mute, h.ready, h.flushed⟩
  · exact h.toSteady

theorem Regular.markReady (h : s.Regular) (hlive : s.live = true) (now : Instant) :
    (s.markReady now).session.Regular := by
  have hflushed : ∀ o : Outbox, o.ready = true → o.pending = [] →
      { s with halves := s.halves.markReady.2, lastActivity := now, outbox := o }.Steady := by
    intro o hready hpending
    exact ⟨h.untouched, fun hretired => absurd (hlive.symm.trans hretired) (by simp), hready.symm,
      fun _ => hpending⟩
  have haudible : ¬s.silenced = true := by simp [(h.untouched hlive).2]
  refine Steady.retireIfDrained ?_
  dsimp only
  rw [if_neg haudible]
  exact (hflushed { s.outbox with ready := true, pending := [] } rfl rfl).deliver _

theorem Regular.fail (h : s.Regular) {cause : StreamError} {t : Turn}
    (ht : s.fail cause = some t) : t.session.Regular := by
  unfold Session.fail at ht
  split at ht
  · cases ht
  · cases ht
    dsimp only [Turn.thenSet, Turn.andThen, release]
    split
    · unfold Session.deliver
      dsimp only
      split
      · split
        · exact regular_of_mute rfl (.inl (by simp [Session.close, release, Turn.thenSet,
            Turn.andThen])) h.ready fun _ => rfl
        · exact regular_of_mute rfl (.inl (by simp)) h.ready fun _ => rfl
      · exact regular_of_mute rfl (.inl (by simp)) h.ready fun _ => rfl
    · exact regular_of_mute rfl (.inl (by simp [Turn.still])) h.ready fun _ => rfl

theorem Regular.failIf (h : s.Regular) (due : Bool) (cause : StreamError) :
    (s.failIf due cause).session.Regular := by
  unfold Session.failIf
  split
  · cases ht : s.fail cause with
    | none => exact h
    | some t => exact h.fail ht
  · exact h

theorem Regular.whileLive (h : s.Regular) {f : Session → Turn}
    (hf : s.live = true → (f s).session.Regular) : (s.whileLive f).2.session.Regular := by
  unfold Session.whileLive
  dsimp only
  split
  · exact hf ‹_›
  · exact h

/-- What every operation keeps. -/
theorem Regular.undergo (h : s.Regular) (op : Operation) : (s.undergo op).2.session.Regular := by
  cases op with
  | openSession now shape => exact h
  | send now id chunk =>
    simp only [Session.undergo, offered]
    split
    · split
      · exact h
      · next ht => exact h.send ht
    · exact h
  | closeInput now id => exact h.whileLive fun _ => h.closeInput now
  | close id => exact h.whileLive fun _ => h.close
  | markReady now id => exact h.whileLive fun hlive => h.markReady hlive now
  | expireIdle now timeout => exact h.failIf _ _
  | shutdown => exact h.failIf _ _
  | call now id c =>
    simp only [Session.undergo]
    split
    · next hcall => exact h.call hcall
    · exact h
  | interrupt id =>
    simp only [Session.undergo]
    split <;> exact h

/-! ## Ending a session by force -/

/-- The front end is still owed something: the output is open, or some of it is pending. -/
def owed (s : Session) : Bool := s.halves.outputOpen || !s.outbox.pending.isEmpty

theorem frames_deliver (frames : List Frame) (s : Session) :
    (s.deliver frames).frames = frames := by
  unfold Session.deliver
  dsimp only
  split
  · split
    · exact List.append_nil frames
    · rfl
  · rfl

theorem Regular.fail_of_live (h : s.Regular) (hlive : s.live = true) (cause : StreamError) :
    ∃ t, s.fail cause = some t ∧ t.session.id = s.id ∧
      t.frames = (if s.owed then [⟨.error, Utf8.encode cause.message⟩] else []) ∧
      t.session.live = false := by
  obtain ⟨hcause, haudible⟩ := h.untouched hlive
  refine ⟨_, by rw [Session.fail, hcause], ?_, ?_, rfl⟩
  · simp only [Turn.thenSet, Turn.andThen]
    split
    · exact id_deliver _ _
    · rfl
  · simp only [Turn.thenSet, Turn.andThen, release, haudible]
    split
    · next howed =>
      have howed : s.owed = true := by simpa [Session.owed] using howed
      rw [frames_deliver, if_pos howed]
      rfl
    · next howed =>
      have howed : ¬s.owed = true := by simpa [Session.owed] using howed
      rw [if_neg howed]
      rfl

/-! ## A retired session -/

theorem farewell_of_mute {t : Session} (h : t.cause ≠ none ∨ s.halves.outputOpen = false)
    (outcome : Except StreamError Unit) : t.farewell s.halves.outputOpen outcome = none := by
  unfold farewell
  rcases h with hcause | hshut
  · cases hcause' : t.cause with
    | none => exact absurd hcause' hcause
    | some e => rfl
  · rw [hshut]
    cases t.cause <;> rfl

theorem frames_call_of_retired (h : s.Regular) (hlive : s.live = false) {now : Instant}
    {c : Call} {a : Answer} {t : Turn} (hcall : s.call now c = some (a, t)) : t.frames = [] := by
  have hmute := h.mute hlive
  cases c with
  | receive =>
    simp only [Session.call, receive] at hcall
    split at hcall <;> cases hcall <;> rfl
  | send payload =>
    simp only [Session.call, Option.some.injEq] at hcall
    split at hcall
    · next ht =>
      unfold Session.emit at ht
      split at ht
      · cases ht
      · next hcause =>
        rw [if_pos (hmute.resolve_left (by simpa using hcause))] at ht
        cases ht
    · cases hcall
      rfl
  | closeSend =>
    simp only [Session.call, Option.some.injEq] at hcall
    split at hcall
    · next ht =>
      unfold Session.closeOutput at ht
      split at ht
      · cases ht
      · next hcause =>
        rw [if_pos (hmute.resolve_left (by simpa using hcause))] at ht
        cases ht
        cases hcall
        rfl
    · cases hcall
      rfl
  | setHeader key value | setTrailer key value =>
    simp only [Session.call] at hcall
    cases hcall
    rfl
  | finish ending =>
    simp only [Session.call] at hcall
    cases hcall
    split
    · next outcome _ =>
      have hsilent := farewell_of_mute (s := s)
        (t := { s with halves := s.halves.closeBoth.2, lastActivity := now })
        hmute outcome
      simp only [Session.finish, Turn.thenSet, Turn.andThen, hsilent]
      rfl
    · rfl

/-- Nothing comes of an operation on a session that is retired, and it stays so. -/
theorem undergo_of_retired (h : s.Regular) (hlive : s.live = false) (op : Operation) :
    (s.undergo op).2.frames = [] ∧ (s.undergo op).2.session.live = false := by
  cases op with
  | openSession now shape => exact ⟨rfl, hlive⟩
  | send now id chunk => simp [Session.undergo, offered, hlive, Turn.still]
  | closeInput | close | markReady => simp [Session.undergo, Session.whileLive, hlive, Turn.still]
  | expireIdle | shutdown => simp [Session.undergo, Session.failIf, hlive, Turn.still]
  | call now id c =>
    simp only [Session.undergo]
    split
    · next t hcall =>
      refine ⟨frames_call_of_retired h hlive hcall, Bool.eq_false_iff.mpr fun hrevived => ?_⟩
      rw [(precedes_call hcall).live hrevived] at hlive
      cases hlive
    · exact ⟨rfl, hlive⟩
  | interrupt id =>
    simp only [Session.undergo]
    split <;> exact ⟨rfl, hlive⟩

end Session

end Switchboard
