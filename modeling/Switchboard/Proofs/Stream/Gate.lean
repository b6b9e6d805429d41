import Switchboard.Proofs.Stream.Cause
import Switchboard.Proofs.Stream.Output

/-!
# Gate — nothing goes out before the front end is ready

Until the front end signals that it is ready, everything is kept back. One thing passes all
the same: the error with which a session is ended from inside (`expels`). It takes the place
of what was kept back, and nothing comes after it. `Gate` is what a run keeps true of this.
-/

namespace Switchboard

/-! ## Signals and expulsions in a history -/

/-- The operation ends sessions by force from inside. -/
def Operation.expels : Operation → Bool
  | expireIdle .. | shutdown => true
  | _ => false

theorem Operation.forces_of_expels {op : Operation} (h : op.expels = true) :
    op.forces = true := by
  cases op <;> first | rfl | cases h

namespace Episode

/-- The front end signalled for the live session that it was ready. -/
def signals (e : Episode) : Bool := e.op.isMarkReady && !e.response.refused && e.before.isSome

/-- The session was ended from inside. -/
def expels (e : Episode) : Bool := e.left && e.op.expels

end Episode

namespace History

/-- The front end signalled at some time that it was ready. -/
def signalled (h : History) : Bool := h.any Episode.signals

/-- The session was ended from inside at some time. -/
def expelled (h : History) : Bool := h.any Episode.expels

@[simp] theorem signalled_concat (h : History) (e : Episode) :
    signalled (h ++ [e]) = (signalled h || e.signals) := by simp [signalled]

@[simp] theorem expelled_concat (h : History) (e : Episode) :
    expelled (h ++ [e]) = (expelled h || e.expels) := by simp [expelled]

theorem signalled_of_void {h : History} (hvoid : ∀ e ∈ h, e.Void) : h.signalled = false := by
  refine List.any_eq_false.mpr fun e he => ?_
  simp [Episode.signals, (hvoid e he).before]

theorem expelled_of_void {h : History} (hvoid : ∀ e ∈ h, e.Void) : h.expelled = false := by
  refine List.any_eq_false.mpr fun e he => ?_
  simp [Episode.expels, Episode.left, (hvoid e he).before]

end History

namespace Session

variable {s : Session} {op : Operation} {r : Response} {t : Turn} {past : History}
variable {cause : StreamError}

/-! ## One operation -/

@[simp] theorem signals_episodeOf :
    (s.episodeOf op r t).signals = (op.isMarkReady && !r.refused && s.live) := by
  simp [Episode.signals, episodeOf]

@[simp] theorem expels_episodeOf :
    (s.episodeOf op r t).expels = (s.live && !t.session.live && op.expels) := by
  rw [Episode.expels, left_episodeOf]
  rfl

/-- What is kept back of a session that was ended by force stays as it is. -/
theorem Ended.pending (hended : s.Ended cause) (h : s.Sound) (heffect : Effect s op r t) :
    t.session.outbox.pending = s.outbox.pending := by
  have hlive := h.live_of_cause hended.cause
  cases heffect with
  | readied halive | expired halive | stopped halive =>
    rw [hlive] at halive
    cases halive
  | sent hcause | closedOutput hcause | finished _ hcause =>
    exact absurd (hended.cause.symm.trans hcause) nofun
  | headerSet => exact Outbox.pending_setHeader _ _ _
  | _ => rfl

theorem Ended.pending_after (hended : s.Ended cause) (h : s.Sound) (ops : List Operation) :
    (s.after ops).outbox.pending = s.outbox.pending := by
  induction ops generalizing s with
  | nil => rfl
  | cons op ops ih =>
    have hnext := (hended.step h (h.effect op)).1
    exact (ih hnext (h.next op)).trans (hended.pending h (h.effect op))

/-- What the gate is to a session: it is open from the signal on, and until then nothing
was delivered but the error of an expulsion. -/
structure Gate (s : Session) (past : History) : Prop where
  signalled : s.cause = none → s.halves.ready = past.signalled
  calm : s.cause = none → past.expelled = false
  forced : ∀ cause, s.cause = some cause → past.signalled = false →
    (past.expelled = false ∧ past.delivered = []) ∨
    (past.expelled = true ∧ (cause = .timeout s.id ∨ cause = .shuttingDown) ∧
      past.delivered = [⟨.error, Utf8.encode cause.message⟩] ∧ s.outbox.pending = [])

theorem gate_fresh {id : SessionId} {shape : Shape} {capacity : Nat} {now : Instant}
    (hvoid : ∀ e ∈ past, e.Void) : (fresh id shape capacity true [] now).Gate past where
  signalled := fun _ => (History.signalled_of_void hvoid).symm
  calm := fun _ => History.expelled_of_void hvoid
  forced := nofun

/-- Readiness comes with the signal to a live session and with nothing else. -/
theorem Gate.signal (h : s.Gate past) (hs : s.Sound) (heffect : Effect s op r t)
    (hcause : t.session.cause = none) :
    t.session.halves.ready = (past ++ [s.episodeOf op r t]).signalled := by
  have hwas : s.cause = none := (heffect.cause_eq_none_iff.mp hcause).1
  have hiff := heffect.ready_iff hs hcause
  rw [h.signalled hwas] at hiff
  rw [History.signalled_concat, signals_episodeOf, Bool.eq_iff_iff, hiff]
  cases hlive : s.live with
  | true => simp
  | false =>
    -- A session that was retired in its own time had the signal before.
    have hready := hs.ready_of_retired hwas hlive
    rw [h.signalled hwas] at hready
    simp [hready]

/-- What an operation that ends the session by force lets pass. -/
theorem Gate.strike (h : s.Gate past) (hbooks : s.Books past) (hs : s.Sound)
    (heffect : Effect s op r t) (hwas : s.cause = none) (hcause : t.session.cause = some cause)
    (hunsignalled : past.signalled = false) :
    ((s.episodeOf op r t).expels = false ∧ past.delivered ++ t.frames = []) ∨
    ((s.episodeOf op r t).expels = true ∧ (cause = .timeout s.id ∨ cause = .shuttingDown) ∧
      past.delivered ++ t.frames = [⟨.error, Utf8.encode cause.message⟩] ∧
      t.session.outbox.pending = []) := by
  have hunready : s.halves.ready = false := (h.signalled hwas).trans hunsignalled
  have hnothing : past.delivered = [] := (hbooks.account hwas).2.unready hunready
  rw [hnothing, List.nil_append, expels_episodeOf]
  cases heffect with
  | closed hlive => exact .inl ⟨Bool.and_false _, rfl⟩
  | expired hlive =>
    cases hcause
    refine .inr ⟨?_, .inl rfl, hs.frames_struck hlive hunready _ _, rfl⟩
    rw [hlive]
    rfl
  | stopped hlive =>
    cases hcause
    refine .inr ⟨?_, .inr rfl, hs.frames_struck hlive hunready _ _, rfl⟩
    rw [hlive]
    rfl
  | _ => cases hwas.symm.trans hcause

theorem Gate.step (h : s.Gate past) (hbooks : s.Books past) (hcaused : s.Caused past)
    (hs : s.Sound) (heffect : Effect s op r t) :
    t.session.Gate (past ++ [s.episodeOf op r t]) := by
  refine ⟨fun hcause => h.signal hs heffect hcause, fun hcause => ?_,
    fun cause hcause hunsignalled => ?_⟩
  · obtain ⟨hwas, hnot⟩ := heffect.cause_eq_none_iff.mp hcause
    have hkept : (s.live && !t.session.live && op.expels) = false := by
      cases hop : op.expels with
      | false => exact Bool.and_false _
      | true => simpa [op.forces_of_expels hop] using hnot
    rw [History.expelled_concat, expels_episodeOf, h.calm hwas, hkept, Bool.or_false]
  · rw [History.signalled_concat, Bool.or_eq_false_iff] at hunsignalled
    rw [History.expelled_concat, History.delivered_append, History.delivered_singleton,
      (heffect.precedes hs).id]
    show (_ ∧ past.delivered ++ t.frames = []) ∨ (_ ∧ _ ∧ past.delivered ++ t.frames = _ ∧ _)
    cases hwas : s.cause with
    | none =>
      rw [h.calm hwas, Bool.false_or]
      exact h.strike hbooks hs heffect hwas hcause hunsignalled.1
    | some first =>
      -- Ended by force before: nothing is delivered, and what is kept back stays.
      have hlive := hs.live_of_cause hwas
      obtain rfl := heffect.eq_of_cause hs hwas hcause
      rw [(heffect.quiet hs hlive).1, (hcaused.ended first hwas).pending hs heffect,
        expels_episodeOf, hlive]
      simpa using h.forced first hwas hunsignalled.1

end Session

namespace Manager

variable {capacity earlier : Nat} {ops : List Operation} {id : SessionId} {s : Session}

theorem gate (h : ((fresh capacity earlier).after ops).find? id = some s) :
    s.Books ((fresh capacity earlier).history id ops) ∧
      s.Gate ((fresh capacity earlier).history id ops) := by
  refine (invariant (P := fun past s => s.Caused past ∧ s.Books past ∧ s.Gate past)
    ?_ ?_ h).2.2
  · intro past shape now hvoid
    exact ⟨Session.caused_fresh hvoid, Session.books_fresh hvoid, Session.gate_fresh hvoid⟩
  · intro past s op r t hs heffect ⟨hcaused, hbooks, hgate⟩
    exact ⟨hcaused.step hs heffect, hbooks.step hs heffect,
      hgate.step hbooks hcaused hs heffect⟩

/-- **The readiness gate.** As long as the front end has not signalled for a live session
that it is ready, nothing is delivered for the session, with one exception: if it is ended
from inside, the error with the cause is delivered, once. What was kept back is dropped, and
in every continuation nothing more is kept back or delivered, whatever signals come. -/
theorem delivered_of_unsignalled
    (h : ((fresh capacity earlier).after ops).find? id = some s)
    (hunsignalled : ((fresh capacity earlier).history id ops).signalled = false) :
    let m := (fresh capacity earlier).after ops
    let past := (fresh capacity earlier).history id ops
    (past.expelled = false → past.delivered = []) ∧
    (past.expelled = true → ∃ cause, (cause = .timeout id ∨ cause = .shuttingDown) ∧
      past.cause? id = some cause ∧
      past.delivered = [⟨.error, Utf8.encode cause.message⟩] ∧
      ∀ more, (m.history id more).delivered = [] ∧
        ∃ s', (m.after more).find? id = some s' ∧ s'.outbox.pending = []) := by
  intro m past
  have hs := sound h
  obtain ⟨hfirst, hended⟩ := caused h
  obtain ⟨hbooks, hgate⟩ := gate h
  have hm : m.WellFormed := wellFormed_after (wellFormed_fresh capacity earlier) ops
  obtain rfl : s.id = id := id_of_find? h
  cases hcause : s.cause with
  | none =>
    have hunready : s.halves.ready = false := (hgate.signalled hcause).trans hunsignalled
    refine ⟨fun _ => (hbooks.account hcause).2.unready hunready, fun hexpelled => ?_⟩
    rw [hgate.calm hcause] at hexpelled
    cases hexpelled
  | some cause =>
    rcases hgate.forced cause hcause hunsignalled with ⟨hcalm, hnothing⟩ |
      ⟨hexpelled, hwhich, hdelivered, hpending⟩
    · refine ⟨fun _ => hnothing, fun hexpelled => ?_⟩
      rw [hcalm] at hexpelled
      cases hexpelled
    · refine ⟨fun hcalm => ?_, fun _ => ?_⟩
      · rw [hexpelled] at hcalm
        cases hcalm
      · refine ⟨cause, hwhich, hfirst.symm.trans hcause, hdelivered, fun more => ?_⟩
        obtain ⟨-, hsilent⟩ := (hended cause hcause).after hs more
        refine ⟨?_, s.after more, find?_after hm h more, ?_⟩
        · rw [history_of_find? hm h]
          exact List.flatMap_eq_nil_iff.mpr fun e he => (hsilent e he).1
        · rw [(hended cause hcause).pending_after hs, hpending]

/-- A response is kept back, the session expires, and the signal comes too late: the front
end is told of the timeout and of nothing else. -/
theorem delivered_of_unsignalled_expired :
    let ops : List Operation :=
      [.openSession ⟨0⟩ .bidi, .call ⟨1⟩ ⟨1⟩ (.send [7]), .expireIdle ⟨9⟩ ⟨5⟩,
        .markReady ⟨10⟩ ⟨1⟩]
    let past := (fresh 1 0).history ⟨1⟩ ops
    past.signalled = false ∧ past.expelled = true ∧
      past.delivered = [⟨.error, Utf8.encode (StreamError.timeout ⟨1⟩).message⟩] := by
  intro ops past
  have hfind : ((fresh 1 0).after ops).find? ⟨1⟩ =
    some (((fresh 1 0).after ops).find? ⟨1⟩ |>.get rfl) := rfl
  obtain ⟨-, hexpelled⟩ := delivered_of_unsignalled hfind rfl
  obtain ⟨cause, -, hcause, hdelivered, -⟩ := hexpelled rfl
  cases hcause
  exact ⟨rfl, rfl, hdelivered⟩

end Manager
end Switchboard
