import Switchboard.Proofs.Stream.Rest

/-!
# Refusal — an operation that is refused leaves everything as it was

An error is answered before anything is done: by the lookup of a session, by a session that
does not take what it is given, or to a handler by a session that has ended. So whoever gets
an error has changed nothing, delivered nothing and woken nobody. Opening a session on a
manager that is shutting down spends the number of the session, and that is all.
-/

namespace Switchboard

/-- The operation, or the call of a handler, was answered with an error. -/
def Response.fails : Response → Bool
  | opened (.error _) | sent (.error _) | done (.error _) | answered (.error _) => true
  | _ => false

theorem Session.call_of_error {now : Instant} {c : Call} {s : Session} {e : StreamError} {t : Turn}
    (h : s.call now c = some (.error e, t)) : t = .still s := by
  cases c with
  | receive =>
    simp only [call, receive] at h
    split at h
    · cases h
    · exact (congrArg Prod.snd (Option.some.inj h)).symm
    · cases h
  | send payload =>
    simp only [call] at h
    split at h
    · cases h
    · cases h
      rfl
  | closeSend =>
    simp only [call] at h
    split at h
    · cases h
    · cases h
      rfl
  | setHeader | setTrailer => cases h
  | finish ending => cases h

/-! ## On a manager -/

namespace Manager

variable {m : Manager} {first : Nat} {id : SessionId} {e : StreamError} {op : Operation}

theorem onLive_of_error {f : Session → Turn} (h : (m.onLive id f).answer = .error e) :
    m.onLive id f = { answer := .error e, state := m } := by
  unfold onLive at h ⊢
  split at h
  · cases h
    rfl
  · cases h
  · cases h

theorem send_of_error {now : Instant} {chunk : Bytes}
    (h : (m.send now id chunk).answer = .error e) :
    m.send now id chunk = { answer := .error e, state := m } := by
  unfold send at h ⊢
  split at h
  · cases h
    rfl
  · cases h
    rfl
  · split at h
    · cases h
      rfl
    · cases h

theorem Numbered.commit_still {α : Type} (hm : m.Numbered first) {s : Session}
    (hfind : m.find? s.id = some s) (answer : α) :
    m.commit answer (.still s) = { answer, state := m } := by
  show ({ answer, state := m.put s } : Outcome Manager α) = _
  rw [put_eq_self hm hfind]

/-- The manager as it is left by an operation that it refuses. -/
def refusing (op : Operation) (m : Manager) : Manager :=
  match op with
  | .openSession _ _ => { m with counter := m.counter.advance }
  | _ => m

/-- **An operation that is refused does nothing.** -/
theorem Numbered.step_of_fails (hm : m.Numbered first)
    (hfails : (m.step op).answer.fails = true) :
    (m.step op).activity = {} ∧ (m.step op).state = m.refusing op := by
  have honLive : ∀ {id : SessionId} {f : Session → Turn},
      (Response.done (m.onLive id f).answer).fails = true →
      (m.onLive id f).activity = {} ∧ (m.onLive id f).state = m := by
    intro id f hfails
    cases hanswer : (m.onLive id f).answer with
    | ok =>
      rw [hanswer] at hfails
      cases hfails
    | error e =>
      rw [onLive_of_error hanswer]
      exact ⟨rfl, rfl⟩
  cases op with
  | openSession now shape =>
    refine ⟨activity_openSession now shape m, ?_⟩
    simp only [Manager.step, openSession, Outcome.map] at hfails ⊢
    split at hfails
    · next hdown =>
      rw [if_pos hdown]
      rfl
    · cases hfails
  | send now id chunk =>
    cases hanswer : (m.send now id chunk).answer with
    | ok =>
      simp only [Manager.step, Outcome.map, hanswer] at hfails
      cases hfails
    | error e =>
      simp only [Manager.step]
      rw [send_of_error hanswer]
      exact ⟨rfl, rfl⟩
  | closeInput now id => exact honLive hfails
  | close id => exact honLive hfails
  | markReady now id => exact honLive hfails
  | expireIdle | shutdown => cases hfails
  | call now id c =>
    simp only [Manager.step] at hfails ⊢
    unfold call at hfails ⊢
    cases hfind : m.find? id with
    | none =>
      rw [hfind] at hfails
      cases hfails
    | some s =>
      cases hcall : s.call now c with
      | none =>
        simp only [hfind, hcall] at hfails
        cases hfails
      | some answered =>
        obtain ⟨answer, t⟩ := answered
        simp only [hfind, hcall, Option.map_some] at hfails ⊢
        cases answer with
        | ok => cases hfails
        | error e =>
          obtain rfl := Session.call_of_error hcall
          rw [hm.commit_still (by rwa [id_of_find? hfind])]
          exact ⟨rfl, rfl⟩
  | interrupt id =>
    simp only [Manager.step] at hfails ⊢
    split at hfails
    · exact ⟨rfl, rfl⟩
    · cases hfails

end Manager

/-! ## On a host -/

namespace Host

variable {first : Nat} {h : Host} {id : SessionId} {now : Instant} {e : StreamError}

/-- Where every handler rests, an operation that leaves the manager as it was sets nothing
going. -/
theorem Resting.perform {α : Type} {op : Manager → Outcome Manager α} {answer : α}
    (hrests : h.Resting) (hh : h.Ordered first)
    (hop : op h.manager = { answer, state := h.manager }) :
    h.perform now id op = { answer, state := h } := perform_of_rests now hh (hrests id) hop

theorem Resting.onLive_of_error {f : Session → Turn} (hrests : h.Resting) (hh : h.Ordered first)
    (hfails : (h.perform now id (Manager.onLive id f)).answer = .error e) :
    h.perform now id (Manager.onLive id f) = { answer := .error e, state := h } :=
  hrests.perform hh (Manager.onLive_of_error hfails)

theorem Resting.send_of_error {chunk : Bytes} (hrests : h.Resting) (hh : h.Ordered first)
    (hfails : (h.send now id chunk).answer = .error e) :
    h.send now id chunk = { answer := .error e, state := h } :=
  hrests.perform hh (Manager.send_of_error hfails)

end Host
end Switchboard
