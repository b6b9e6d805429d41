import Switchboard.Proofs.Stream.HalfClose

/-!
# ImplicitClose — a handler that returns has ended its output

A handler may end its output and then return, or it may just return. Both have their own code,
and it comes to the same: the same frames go out, the same sends end in the same way, and the
session is the same afterwards. It is so also where the front end closes the session from inside
one of these deliveries.
-/

namespace Switchboard

namespace Operation

/-- The handler ends its output. -/
def ends (now : Instant) (id : SessionId) : Operation := .call now id .closeSend

/-- The handler returns, and nothing went wrong. -/
def returns (now : Instant) (id : SessionId) : Operation :=
  .call now id (.finish (.returned (.ok ())))

end Operation

namespace Session

variable {s : Session} {now : Instant}

/-! ## Pushing a frame -/

/-- The deliveries are made, and the front end closes the session from inside one of them. -/
def hungUpOn (frames : List Frame) (s : Session) : Bool :=
  s.heard && s.hangsUpWithin frames.length

theorem deliver_of_kept {frames : List Frame} (h : s.hungUpOn frames = false) :
    s.deliver frames =
      { session := { s with delivered := s.delivered + if s.heard then frames.length else 0 }
        frames } := by
  unfold deliver
  by_cases hheard : s.heard = true
  · have hkept : s.hangsUpWithin frames.length = false := by simpa [hungUpOn, hheard] using h
    rw [if_pos hheard, if_pos hheard, hkept]
    rfl
  · rw [if_neg hheard, if_neg hheard]
    rfl

theorem deliver_of_hungUp {frames : List Frame} (h : s.hungUpOn frames = true) :
    s.deliver frames =
      let t := { s with delivered := s.delivered + frames.length }.close
      { session := t.session, frames, woken := t.woken } := by
  obtain ⟨hheard, hhung⟩ := Bool.and_eq_true_iff.mp h
  simp [deliver, hheard, hhung, Turn.andThen, close, release, Turn.thenSet]

/-- The session with other halves and another reading of the clock. -/
def refit (halves : Halves) (lastActivity : Instant) (s : Session) : Session :=
  { s with halves, lastActivity }

/-- A session with a frame staged, of which as much as may go out was delivered. -/
def delivering (f : Frame) (s : Session) : Session :=
  let flushed := (s.outbox.stage f).flush
  { s with outbox := flushed.2
           delivered := s.delivered + if s.heard then flushed.1.length else 0 }

/-- To push a frame is to deliver what may go out, and the front end may close the session from
inside a delivery. Halves and clock have no part in it. -/
theorem push_refit (hsilenced : s.silenced = false) (f : Frame) (halves : Halves)
    (lastActivity : Instant) :
    let frames := (s.outbox.stage f).flush.1
    let u := (s.delivering f).refit halves lastActivity
    (s.refit halves lastActivity).push f =
      if s.hungUpOn frames then { session := u.close.session, frames, woken := u.close.woken }
      else { session := u, frames } := by
  intro frames u
  let flushed := { s.refit halves lastActivity with outbox := (s.outbox.stage f).flush.2 }
  have hpush : (s.refit halves lastActivity).push f = flushed.deliver frames := by
    rw [push, if_neg (by simp [refit, hsilenced])]
    rfl
  have hsame : flushed.hungUpOn frames = s.hungUpOn frames := rfl
  rw [hpush, ← hsame]
  cases hhung : flushed.hungUpOn frames with
  | false => exact deliver_of_kept hhung
  | true =>
    have hheard : s.heard = true := (Bool.and_eq_true_iff.mp hhung).1
    rw [deliver_of_hungUp hhung]
    simp [refit, delivering, hheard, u, frames, flushed]

/-! ## Ending the output, and returning -/

/-- The end of the output, as a frame. -/
abbrev ending : Frame := ⟨.finish, []⟩

theorem closeOutput_of_open (hcause : s.cause = none) (hopen : s.halves.outputOpen = true)
    (now : Instant) :
    s.closeOutput now =
      .ok (((s.refit s.halves.closeOutput.2 now).push ending).thenSet retireIfDrained) := by
  simp [closeOutput, hcause, hopen, refit]

theorem finish_of_open (hcause : s.cause = none) (hopen : s.halves.outputOpen = true)
    (now : Instant) :
    s.finish now (.ok ()) =
      (((s.refit s.halves.closeBoth.2 now).push ending).andThen release).thenSet
        retireIfDrained := by
  have htell : (s.refit s.halves.closeBoth.2 now).farewell s.halves.outputOpen (.ok ()) =
      some ending := by
    simp [farewell, refit, hcause, hopen]
  have htold : ({ s with halves := s.halves.closeBoth.2, lastActivity := now } : Session).farewell
      s.halves.outputOpen (.ok ()) = some ending := htell
  simp only [finish, htold]
  rfl

/-- A handler that returns after the output has ended closes the input, and that is all. -/
theorem finish_of_mute (h : s.cause ≠ none ∨ s.halves.outputOpen = false) (now : Instant) :
    s.finish now (.ok ()) =
      (s.refit s.halves.closeBoth.2 now).release.thenSet retireIfDrained := by
  have hquiet : ({ s with halves := s.halves.closeBoth.2, lastActivity := now } : Session).farewell
      s.halves.outputOpen (.ok ()) = none := farewell_of_mute h _
  simp only [finish, hquiet]
  rfl

/-- Whoever is retired when the output ends would be retired when the handler returns. -/
theorem finish_retireIfDrained (h : s.cause ≠ none ∨ s.halves.outputOpen = false)
    (now : Instant) : s.retireIfDrained.finish now (.ok ()) = s.finish now (.ok ()) := by
  by_cases hdrained : s.drained = true
  · have hretired : s.retireIfDrained = { s with live := false } := if_pos hdrained
    have hlater : (s.refit s.halves.closeBoth.2 now).release.session.drained = true := by
      simpa [drained, refit, release] using (Bool.and_eq_true_iff.mp hdrained).2
    have hstill : (refit s.halves.closeBoth.2 now
        { s with live := false }).release.session.drained = true := hlater
    rw [hretired, finish_of_mute (s := { s with live := false }) h, finish_of_mute h]
    simp only [Turn.thenSet, retireIfDrained, if_pos hlater, if_pos hstill]
    rfl
  · have hsame : s.retireIfDrained = s := if_neg hdrained
    rw [hsame]

/-- **To end the output and return is to return.** The session is the same, the same frames go
out, and the same sends end in the same way. -/
theorem finish_closeOutput (h : s.Regular) (now' now : Instant) :
    ∃ a u, s.call now' .closeSend = some (a, u) ∧
      let t := s.finish now (.ok ())
      let v := u.session.finish now (.ok ())
      v.session = t.session ∧ u.frames ++ v.frames = t.frames ∧ u.woken ++ v.woken = t.woken := by
  cases hcause : s.cause with
  | some e =>
    refine ⟨.error e, .still s, ?_, rfl, rfl, rfl⟩
    simp [call, closeOutput, hcause]
  | none =>
  cases hopen : s.halves.outputOpen with
  | false => exact ⟨.ok none, .still s, call_closeSend_again hcause hopen now', rfl, rfl, rfl⟩
  | true =>
  have hlive : s.live = true := by
    cases hlive : s.live with
    | true => rfl
    | false =>
      rcases h.mute hlive with hforced | hshut
      · exact absurd hcause hforced
      · exact absurd (hopen.symm.trans hshut) (by simp)
  have hsilenced := (h.untouched hlive).2
  refine ⟨.ok none, _, by rw [call, closeOutput_of_open hcause hopen], ?_⟩
  rw [finish_of_open hcause hopen, push_refit hsilenced, push_refit hsilenced]
  dsimp only [Turn.thenSet, Turn.andThen]
  -- Whether or not the front end has closed the session, the output has ended, and to end the
  -- input is all that returning still does.
  cases hhung : s.hungUpOn (s.outbox.stage ending).flush.1 with
  | false =>
    simp only [Bool.false_eq_true, if_false]
    rw [finish_retireIfDrained (.inr rfl), finish_of_mute (.inr rfl)]
    exact ⟨rfl, rfl, rfl⟩
  | true =>
    simp only [if_true]
    rw [finish_retireIfDrained (.inr rfl), finish_of_mute (.inr rfl)]
    exact ⟨rfl, rfl, rfl⟩

end Session

namespace Turn

variable {t u v : Turn}

/-- Two turns of a session one after another bring about what one turn does that makes the same
deliveries. -/
theorem deliveries_activity (hu : u.session.id = t.session.id) (hv : v.session.id = t.session.id)
    (hframes : u.frames ++ v.frames = t.frames) :
    u.activity.deliveries ++ v.activity.deliveries = t.activity.deliveries := by
  simp only [Turn.activity, hu, hv, ← hframes, List.map_append]

theorem woken_activity (hu : u.session.id = t.session.id) (hv : v.session.id = t.session.id)
    (hwoken : u.woken ++ v.woken = t.woken) :
    u.activity.woken ++ v.activity.woken = t.activity.woken := by
  simp only [Turn.activity, hu, hv, ← hwoken, List.map_append]

end Turn

namespace Manager

variable {m : Manager} {id : SessionId} {s : Session}

theorem step_returns_of_find? (h : m.find? id = some s) (now : Instant) :
    m.step (.returns now id) =
      { answer := .answered (.ok none), state := m.put (s.finish now (.ok ())).session
        activity := (s.finish now (.ok ())).activity } := step_call h rfl

theorem step_returns (h : m.Regular) (id : SessionId) (now' now : Instant) :
    let o := m.step (.returns now id)
    let o₁ := m.step (.ends now' id)
    let o₂ := o₁.state.step (.returns now id)
    o₂.state = o.state ∧ o₂.answer = o.answer ∧
      o₁.activity.deliveries ++ o₂.activity.deliveries = o.activity.deliveries ∧
      o₁.activity.woken ++ o₂.activity.woken = o.activity.woken := by
  intro o o₁ o₂
  cases hfind : m.find? id with
  | none =>
    have hnothing : ∀ now c, m.step (.call now id c) = { answer := .nothing, state := m } :=
      step_call_of_absent hfind
    have hends : o₁ = _ := hnothing now' .closeSend
    have hreturns : o = _ := hnothing now (.finish (.returned (.ok ())))
    have hagain : o₂ = o := by
      show o₁.state.step _ = _
      rw [hends]
    rw [hagain, hends, hreturns]
    exact ⟨rfl, rfl, rfl, rfl⟩
  | some s =>
    obtain rfl := id_of_find? hfind
    obtain ⟨a, u, hclose, hsession, hframes, hwoken⟩ :=
      Session.finish_closeOutput (h s (mem_sessions_of_find? hfind)) now' now
    have hid : u.session.id = s.id := Session.id_call hclose
    have hput : (m.put u.session).find? s.id = some u.session := find?_put hfind hid
    have hends : o₁ = _ := step_call hfind hclose
    have hreturns : o = _ := step_returns_of_find? hfind now
    have hagain : o₂ = _ := step_returns_of_find? (m := o₁.state) (by rw [hends]; exact hput) now
    have ht : (s.finish now (.ok ())).session.id = s.id := Session.id_finish ..
    have hv : (u.session.finish now (.ok ())).session.id = s.id :=
      (Session.id_finish ..).trans hid
    rw [hends, hreturns, hagain]
    refine ⟨?_, rfl, Turn.deliveries_activity (hid.trans ht.symm) (hv.trans ht.symm) hframes,
      Turn.woken_activity (hid.trans ht.symm) (hv.trans ht.symm) hwoken⟩
    show o₁.state.put (u.session.finish now (.ok ())).session = _
    rw [hends, put_put (hv.trans hid.symm), hsession]

/-- **Returning ends the output.** Where a handler returns, it may as well end its output just
before. The trace of the run is the same but for this place, where one operation and two come to
the same state, answer, deliveries and woken sends.

With `hangUps` this takes a sender that is woken to look for the cause after the last delivery
(`Session.finish`). If the handler just returns, the sender may also look while the front end is
about to close the session from inside that delivery, and is then told that the input is closed;
where the output is ended first, the close has come before. Without `hangUps` there is no such
choice. -/
theorem returning_ends_output (capacity earlier : Nat) (heard : Bool)
    (hangUps : List (SessionId × Nat)) (ops more : List Operation) (id : SessionId)
    (now' now : Instant) :
    let m₀ : Manager := { fresh capacity earlier with heard, hangUps }
    let m := m₀.after ops
    let o := m.step (.returns now id)
    let o₁ := m.step (.ends now' id)
    let o₂ := o₁.state.step (.returns now id)
    m₀.trace (ops ++ .returns now id :: more) = m₀.trace ops ++ o :: o.state.trace more ∧
      m₀.trace (ops ++ .ends now' id :: .returns now id :: more) =
        m₀.trace ops ++ o₁ :: o₂ :: o.state.trace more ∧
      o₂.state = o.state ∧ o₂.answer = o.answer ∧
      o₁.activity.deliveries ++ o₂.activity.deliveries = o.activity.deliveries ∧
      o₁.activity.woken ++ o₂.activity.woken = o.activity.woken := by
  intro m₀ m o o₁ o₂
  have hregular : m.Regular := Regular.after (fun s hs => absurd hs List.not_mem_nil) ops
  obtain ⟨hstate, hanswer, hactivity⟩ := step_returns hregular id now' now
  refine ⟨trace_append .., ?_, hstate, hanswer, hactivity⟩
  rw [trace_append]
  show _ ++ o₁ :: o₂ :: o₂.state.trace more = _
  rw [hstate]

end Manager
end Switchboard
