import Switchboard.Proofs.Stream.Run

/-!
# Share — what a manager's run is to one session

The sessions of a manager do not touch one another: what an operation comes to for one of
them is what it comes to for that session on its own (`Bears`, `step_bears`).
-/

namespace Switchboard

/-! ## A session keeps its identity -/

namespace Session

@[simp] theorem id_close (s : Session) : s.close.session.id = s.id := rfl

@[simp] theorem id_release (s : Session) : s.release.session.id = s.id := rfl

@[simp] theorem id_deliver (frames : List Frame) (s : Session) :
    (s.deliver frames).session.id = s.id := by
  unfold deliver
  dsimp only
  split
  · split <;> rfl
  · rfl

@[simp] theorem id_push (f : Frame) (s : Session) : (s.push f).session.id = s.id := by
  unfold push
  split
  · rfl
  · simp only [id_deliver]

@[simp] theorem id_retireIfDrained (s : Session) : s.retireIfDrained.id = s.id := by
  unfold retireIfDrained
  split <;> rfl

@[simp] theorem id_closeInput (now : Instant) (s : Session) : (s.closeInput now).id = s.id := by
  unfold closeInput
  split <;> simp

@[simp] theorem id_markReady (now : Instant) (s : Session) :
    (s.markReady now).session.id = s.id := by
  simp only [markReady, Turn.thenSet, id_retireIfDrained]
  split
  · rfl
  · simp only [id_deliver]

@[simp] theorem id_finish (now : Instant) (outcome : Except StreamError Unit) (s : Session) :
    (s.finish now outcome).session.id = s.id := by
  simp only [finish, Turn.thenSet, Turn.andThen, id_retireIfDrained, id_release]
  split
  · simp only [id_push]
  · rfl

theorem id_send {now : Instant} {chunk : Bytes} {s t : Session} {taken : Bool}
    (h : s.send now chunk = .ok (taken, t)) : t.id = s.id := by
  unfold send at h
  split at h
  · cases h
  · split at h
    · cases h
    · cases h
      rfl

theorem id_call {now : Instant} {c : Call} {s : Session} {a : Answer} {t : Turn}
    (h : s.call now c = some (a, t)) : t.session.id = s.id := by
  cases c with
  | receive =>
    simp only [call, receive] at h
    split at h <;> cases h <;> rfl
  | send payload =>
    simp only [call, emit, Option.some.injEq] at h
    split at h
    · next t' ht =>
      cases h
      split at ht
      · cases ht
      · split at ht
        · cases ht
        · split at ht
          · cases ht
          · cases ht
            simp
    · cases h
      rfl
  | closeSend =>
    simp only [call, closeOutput, Option.some.injEq] at h
    split at h
    · next t' ht =>
      cases h
      split at ht
      · cases ht
      · split at ht <;> cases ht <;> simp [Turn.thenSet]
    · cases h
      rfl
  | setHeader key value | setTrailer key value =>
    simp only [call] at h
    cases h
    rfl
  | finish ending =>
    simp only [call] at h
    cases h
    split <;> simp

theorem id_fail {cause : StreamError} {s : Session} {t : Turn} (h : s.fail cause = some t) :
    t.session.id = s.id := by
  unfold fail at h
  split at h
  · cases h
  · cases h
    simp only [Turn.thenSet, Turn.andThen]
    split
    · simp only [id_deliver]
      rfl
    · rfl

@[simp] theorem id_failIf (due : Bool) (cause : StreamError) (s : Session) :
    (s.failIf due cause).session.id = s.id := by
  unfold failIf
  split
  · cases hf : s.fail cause with
    | none => rfl
    | some t => exact id_fail hf
  · rfl

theorem id_offered (now : Instant) (chunk : Bytes) (s : Session) :
    (s.offered now chunk).2.session.id = s.id := by
  unfold offered
  split
  · split
    · rfl
    · next ht => exact id_send ht
  · rfl

theorem id_whileLive {f : Session → Turn} {s : Session} (h : (f s).session.id = s.id) :
    (s.whileLive f).2.session.id = s.id := by
  unfold whileLive
  dsimp only
  split
  · exact h
  · rfl

theorem id_undergo (op : Operation) (s : Session) : (s.undergo op).2.session.id = s.id := by
  cases op with
  | openSession now shape => rfl
  | send now id chunk => exact id_offered now chunk s
  | closeInput now id => exact id_whileLive (id_closeInput now s)
  | close id => exact id_whileLive (id_close s)
  | markReady now id => exact id_whileLive (id_markReady now s)
  | expireIdle now timeout => exact id_failIf _ _ s
  | shutdown => exact id_failIf _ _ s
  | call now id c =>
    simp only [undergo]
    split
    · next h => exact id_call h
    · rfl
  | interrupt id =>
    simp only [undergo]
    split <;> rfl

@[simp] theorem id_next (op : Operation) (s : Session) : (s.next op).id = s.id := by
  unfold next perform
  split
  · exact id_undergo op s
  · rfl

theorem perform_of_not_concerns {op : Operation} {s : Session} (h : op.concerns s.id = false) :
    s.perform op = (.nothing, .still s) := by
  simp [perform, h]

theorem perform_of_concerns {op : Operation} {s : Session} (h : op.concerns s.id = true) :
    s.perform op = s.undergo op := by
  simp [perform, h]

end Session

/-! ## A turn is about one session -/

namespace Turn

theorem frames_activity (t : Turn) : t.activity.frames t.session.id = t.frames := by
  rw [Activity.frames, activity, List.filter_map, List.map_map, List.filter_eq_self.mpr]
  · exact List.map_id t.frames
  · exact fun _ _ => decide_eq_true rfl

theorem results_activity (t : Turn) : t.activity.results t.session.id = t.woken := by
  rw [Activity.results, activity, List.filter_map, List.map_map, List.filter_eq_self.mpr]
  · exact List.map_id t.woken
  · exact fun _ _ => decide_eq_true rfl

theorem frames_activity_of_ne {t : Turn} {id : SessionId} (h : t.session.id ≠ id) :
    t.activity.frames id = [] := by
  simp [Activity.frames, activity, h]

theorem results_activity_of_ne {t : Turn} {id : SessionId} (h : t.session.id ≠ id) :
    t.activity.results id = [] := by
  simp [Activity.results, activity, h]

end Turn

/-! ## One operation of a manager -/

namespace Manager

/-- The identities of all sessions, in opening order. -/
def ids (m : Manager) : List SessionId := m.sessions.map (·.id)

/-- What the allocation of identities keeps true of a manager: they grow in opening order
and stay below the counter. Nobody closes a session from inside a delivery. -/
structure WellFormed (m : Manager) : Prop where
  increasing : m.ids.Pairwise fun a b => a.number < b.number
  issued : ∀ id ∈ m.ids, m.counter.issued id.number = true
  positive : 0 < m.counter.next
  quiet : m.hangUps = []

theorem wellFormed_fresh (capacity earlier : Nat) : (fresh capacity earlier).WellFormed where
  increasing := .nil
  issued := fun _ h => nomatch h
  positive := Nat.succ_pos earlier
  quiet := rfl

theorem mem_sessions_of_find? {m : Manager} {id : SessionId} {s : Session}
    (h : m.find? id = some s) : s ∈ m.sessions := List.mem_of_find?_eq_some h

theorem id_of_find? {m : Manager} {id : SessionId} {s : Session} (h : m.find? id = some s) :
    s.id = id := by
  simpa using List.find?_some h

theorem mem_ids_of_find? {m : Manager} {id : SessionId} {s : Session}
    (h : m.find? id = some s) : id ∈ m.ids :=
  List.mem_map.mpr ⟨s, mem_sessions_of_find? h, id_of_find? h⟩

theorem find?_eq_none_iff (m : Manager) (id : SessionId) : m.find? id = none ↔ id ∉ m.ids := by
  simp [find?, ids]

/-- The outcome `o` is to the session `id` the turn `t`. -/
structure Bears {α : Type} (o : Outcome Manager α) (id : SessionId) (t : Turn) : Prop where
  session : o.state.find? id = some t.session
  frames : o.activity.frames id = t.frames
  woken : o.activity.results id = t.woken

theorem Bears.map {α β : Type} {o : Outcome Manager α} {id : SessionId} {t : Turn}
    (h : Bears o id t) (f : α → β) : Bears (o.map f) id t := ⟨h.session, h.frames, h.woken⟩

/-- Nothing was done. -/
theorem bears_idle {α : Type} {m : Manager} {id : SessionId} {s : Session}
    (h : m.find? id = some s) (answer : α) :
    Bears { answer, state := m } id (.still s) := ⟨h, rfl, rfl⟩

theorem find?_put_self {m : Manager} {s t : Session} (h : m.find? t.id = some s) :
    (m.put t).find? t.id = some t := by
  have hcomp : ((fun u : Session => decide (u.id = t.id)) ∘ fun u => if u.id = t.id then t else u)
      = fun u => decide (u.id = t.id) := by
    funext u
    by_cases hu : u.id = t.id <;> simp [hu]
  have hid : s.id = t.id := id_of_find? h
  simp only [find?] at h ⊢
  rw [put, List.find?_map, hcomp, h, Option.map_some, if_pos hid]

theorem find?_put_of_ne {m : Manager} {t : Session} {id : SessionId} (h : t.id ≠ id) :
    (m.put t).find? id = m.find? id := by
  have hcomp : ((fun u : Session => decide (u.id = id)) ∘ fun u => if u.id = t.id then t else u)
      = fun u => decide (u.id = id) := by
    funext u
    by_cases hu : u.id = t.id
    · simp [hu]
    · simp [hu]
  simp only [find?]
  rw [put, List.find?_map, hcomp]
  cases hf : m.sessions.find? fun u => decide (u.id = id) with
  | none => rfl
  | some u =>
    have hu : u.id = id := by simpa using List.find?_some hf
    rw [Option.map_some, if_neg (fun e => h (e.symm.trans hu))]

theorem bears_commit_self {α : Type} {m : Manager} {s : Session} {t : Turn} {id : SessionId}
    (h : m.find? id = some s) (hid : t.session.id = id) (answer : α) :
    Bears (m.commit answer t) id t where
  session := by
    subst hid
    exact find?_put_self h
  frames := by
    subst hid
    exact t.frames_activity
  woken := by
    subst hid
    exact t.results_activity

theorem bears_commit_other {α : Type} {m : Manager} {s : Session} {t : Turn} {id : SessionId}
    (h : m.find? id = some s) (hne : t.session.id ≠ id) (answer : α) :
    Bears (m.commit answer t) id (.still s) where
  session := (find?_put_of_ne hne).trans h
  frames := Turn.frames_activity_of_ne hne
  woken := Turn.results_activity_of_ne hne

/-- To the front end a session of the manager is either live or closed for ever. -/
theorem lookup_of_find? {m : Manager} (hm : m.WellFormed) {id : SessionId} {s : Session}
    (h : m.find? id = some s) : m.lookup id = .ok (if s.live then some s else none) := by
  have hissued : m.counter.issued id.number = true := hm.issued id (mem_ids_of_find? h)
  cases hlive : s.live <;> simp [lookup, live?, h, hlive, hissued, Option.filter]

/-! ### Operations on one session -/

theorem onLive_of_find? {m : Manager} (hm : m.WellFormed) {id : SessionId} {s : Session}
    (h : m.find? id = some s) (f : Session → Turn) :
    m.onLive id f =
      if s.live then m.commit (.ok ()) (f s) else { answer := .ok (), state := m } := by
  rw [onLive, lookup_of_find? hm h]
  cases s.live <;> rfl

theorem bears_onLive {m : Manager} (hm : m.WellFormed) {id : SessionId} {s : Session}
    (h : m.find? id = some s) {f : Session → Turn} (hid : (f s).session.id = s.id) :
    Bears (m.onLive id f) id (s.whileLive f).2 := by
  rw [onLive_of_find? hm h]
  cases hlive : s.live with
  | false => simpa [Session.whileLive, hlive] using bears_idle h (.ok () : Except StreamError Unit)
  | true =>
    simpa [Session.whileLive, hlive] using
      bears_commit_self h (hid.trans (id_of_find? h)) (.ok () : Except StreamError Unit)

theorem bears_send {m : Manager} (hm : m.WellFormed) {id : SessionId} {s : Session}
    (h : m.find? id = some s) (now : Instant) (chunk : Bytes) :
    Bears (m.send now id chunk) id (s.offered now chunk).2 ∧
      .sent (m.send now id chunk).answer = (s.offered now chunk).1 := by
  rw [send, lookup_of_find? hm h, Session.offered]
  cases hlive : s.live with
  | false => exact ⟨bears_idle h _, by rw [← id_of_find? h]; rfl⟩
  | true =>
    simp only [if_true]
    cases hs : s.send now chunk with
    | error e => exact ⟨bears_idle h _, rfl⟩
    | ok r =>
      obtain ⟨taken, t⟩ := r
      have hid : (Turn.still t).session.id = id := (Session.id_send hs).trans (id_of_find? h)
      exact ⟨bears_commit_self h hid _, rfl⟩

theorem bears_call {m : Manager} {id : SessionId} {s : Session} (h : m.find? id = some s)
    (now : Instant) (c : Call) :
    Bears (m.step (.call now id c)) id (s.undergo (.call now id c)).2 ∧
      (m.step (.call now id c)).answer = (s.undergo (.call now id c)).1 := by
  simp only [step, call, h, Session.undergo]
  cases hc : s.call now c with
  | none => exact ⟨bears_idle h _, rfl⟩
  | some r =>
    obtain ⟨a, t⟩ := r
    have hid : t.session.id = id := (Session.id_call hc).trans (id_of_find? h)
    exact ⟨(bears_commit_self h hid a).map Response.answered, rfl⟩

theorem bears_interrupt {m : Manager} {id : SessionId} {s : Session}
    (h : m.find? id = some s) :
    Bears (m.step (.interrupt id)) id (s.undergo (.interrupt id)).2 ∧
      (m.step (.interrupt id)).answer = (s.undergo (.interrupt id)).1 := by
  simp only [step, h, Session.undergo, Option.bind_some]
  cases s.cause with
  | none => exact ⟨bears_idle h _, rfl⟩
  | some e => exact ⟨bears_idle h _, rfl⟩

/-! ### Operations on all sessions -/

/-- In a list that grows by identity, what only the sessions of one identity add to comes
from a single session. -/
theorem flatMap_of_find? {β : Type} {ss : List Session} {id : SessionId} {s : Session}
    (hinc : (ss.map (·.id)).Pairwise fun a b => a.number < b.number)
    (h : ss.find? (·.id = id) = some s) {g : Session → List β}
    (hg : ∀ u, u.id ≠ id → g u = []) : ss.flatMap g = g s := by
  induction ss with
  | nil => cases h
  | cons u ss ih =>
    rw [List.map_cons, List.pairwise_cons] at hinc
    rw [List.flatMap_cons]
    by_cases hu : u.id = id
    · rw [List.find?_cons_of_pos (by simpa using hu)] at h
      cases h
      have hrest : ss.flatMap g = [] := by
        rw [List.flatMap_eq_nil_iff]
        intro v hv
        refine hg v fun hid => ?_
        have hlt := hinc.1 v.id (List.mem_map.mpr ⟨v, hv, rfl⟩)
        rw [hid, ← hu] at hlt
        exact Int.lt_irrefl _ hlt
      rw [hrest, List.append_nil]
    · rw [List.find?_cons_of_neg (by simpa using hu)] at h
      rw [hg u hu, List.nil_append]
      exact ih hinc.2 h

/-- To end those that are due is to go over all sessions, one by one. -/
theorem sessions_failDue (due : Session → Bool) (cause : Session → StreamError)
    (ss : List Session) :
    (failDue due cause ss).1 = ss.map fun s => (s.failIf (due s) (cause s)).session := by
  induction ss with
  | nil => rfl
  | cons s ss ih =>
    simp only [failDue, List.map_cons, Session.failIf]
    cases hf : if s.live && due s then s.fail (cause s) else none with
    | some t => exact congrArg _ ih
    | none => exact congrArg _ ih

/-- What happens on the way is what happens to each, one after another; `view` is any
part of it. -/
theorem view_failDue {β : Type} {view : Activity → List β} (hempty : view {} = [])
    (happend : ∀ a b, view (a ++ b) = view a ++ view b) (due : Session → Bool)
    (cause : Session → StreamError) (ss : List Session) :
    view (failDue due cause ss).2.1 =
      ss.flatMap fun s => view (s.failIf (due s) (cause s)).activity := by
  induction ss with
  | nil => exact hempty
  | cons s ss ih =>
    rw [List.flatMap_cons, ← ih]
    simp only [failDue, Session.failIf]
    cases hf : if s.live && due s then s.fail (cause s) else none with
    | some t => exact happend _ _
    | none =>
      have hstill : (Turn.still s).activity = {} := rfl
      simp only [Option.getD_none, hstill, hempty, List.nil_append]

theorem find?_map_session {ss : List Session} {f : Session → Session} (id : SessionId)
    (hf : ∀ s, (f s).id = s.id) :
    (ss.map f).find? (·.id = id) = (ss.find? (·.id = id)).map f := by
  rw [List.find?_map]
  simp only [Function.comp_def, hf]

/-- Ending those that are due is to each session what it is to that session alone. -/
theorem bears_failDue {m : Manager} (hm : m.WellFormed) {id : SessionId} {s : Session}
    (h : m.find? id = some s) (due : Session → Bool) (cause : Session → StreamError)
    (stop : Bool) :
    let r := failDue due cause m.sessions
    Bears { answer := r.2.2, state := { m with sessions := r.1, shuttingDown := stop },
            activity := r.2.1 } id (s.failIf (due s) (cause s)) where
  session := by
    show List.find? _ (failDue due cause m.sessions).1 = _
    rw [sessions_failDue, find?_map_session id fun s => Session.id_failIf _ _ s]
    exact congrArg _ h
  frames := by
    show (failDue due cause m.sessions).2.1.frames id = _
    rw [view_failDue (Activity.frames_empty id) (Activity.frames_append id),
      flatMap_of_find? hm.increasing h, ← id_of_find? h]
    · rw [← Session.id_failIf (due s) (cause s) s, Turn.frames_activity]
    · exact fun u hu => Turn.frames_activity_of_ne (by rwa [Session.id_failIf])
  woken := by
    show (failDue due cause m.sessions).2.1.results id = _
    rw [view_failDue (Activity.results_empty id) (Activity.results_append id),
      flatMap_of_find? hm.increasing h, ← id_of_find? h]
    · rw [← Session.id_failIf (due s) (cause s) s, Turn.results_activity]
    · exact fun u hu => Turn.results_activity_of_ne (by rwa [Session.id_failIf])

/-! ### Operations on others -/

theorem id_of_lookup {m : Manager} {id : SessionId} {s : Session}
    (h : m.lookup id = .ok (some s)) : s.id = id := by
  unfold lookup at h
  split at h
  · next u hu =>
    cases h
    obtain ⟨hfind, _⟩ := Option.filter_eq_some_iff.mp hu
    exact id_of_find? hfind
  · split at h <;> cases h

theorem bears_onLive_other {m : Manager} {id other : SessionId} {s : Session}
    (h : m.find? id = some s) (hne : other ≠ id) {f : Session → Turn}
    (hf : ∀ u, (f u).session.id = u.id) : Bears (m.onLive other f) id (.still s) := by
  unfold onLive
  split
  · exact bears_idle h _
  · exact bears_idle h _
  · next u hu =>
    refine bears_commit_other h ?_ _
    rwa [hf, id_of_lookup hu]

theorem bears_send_other {m : Manager} {id other : SessionId} {s : Session}
    (h : m.find? id = some s) (hne : other ≠ id) (now : Instant) (chunk : Bytes) :
    Bears (m.send now other chunk) id (.still s) := by
  unfold send
  split
  · exact bears_idle h _
  · exact bears_idle h _
  · next u hu =>
    split
    · exact bears_idle h _
    · next ht =>
      refine bears_commit_other h ?_ _
      rwa [Turn.session_still, Session.id_send ht, id_of_lookup hu]

theorem bears_call_other {m : Manager} {id other : SessionId} {s : Session}
    (h : m.find? id = some s) (hne : other ≠ id) (now : Instant) (c : Call) :
    Bears (m.step (.call now other c)) id (.still s) := by
  simp only [step, call]
  cases hu : m.find? other with
  | none => exact bears_idle h _
  | some u =>
    cases hc : u.call now c with
    | none =>
      simp only [hc, Option.map_none]
      exact bears_idle h _
    | some r =>
      obtain ⟨a, t⟩ := r
      simp only [hc, Option.map_some]
      refine (bears_commit_other h ?_ a).map _
      rwa [Session.id_call hc, id_of_find? hu]

theorem bears_interrupt_other {m : Manager} {id other : SessionId} {s : Session}
    (h : m.find? id = some s) : Bears (m.step (.interrupt other)) id (.still s) := by
  simp only [step]
  split <;> exact bears_idle h _

theorem bears_openSession {m : Manager} {id : SessionId} {s : Session}
    (h : m.find? id = some s) (now : Instant) (shape : Shape) :
    Bears (m.openSession now shape) id (.still s) := by
  unfold openSession
  dsimp only
  split
  · exact ⟨h, rfl, rfl⟩
  · refine ⟨?_, rfl, rfl⟩
    show List.find? _ (m.sessions ++ _) = some s
    rw [List.find?_append]
    show (m.find? id).or _ = some s
    rw [h]
    rfl

/-- An operation that names another session, or that opens one, is nothing to this one. -/
theorem bears_of_not_concerns {m : Manager} {id : SessionId} {s : Session}
    (h : m.find? id = some s) {op : Operation} (hop : op.concerns id = false) :
    Bears (m.step op) id (.still s) := by
  cases op with
  | openSession now shape => simp [Operation.concerns, Operation.subject?] at hop
  | expireIdle now timeout | shutdown => simp [Operation.concerns, Operation.subject?] at hop
  | send now other chunk =>
    have hne : other ≠ id := by simpa [Operation.concerns, Operation.subject?] using hop
    exact (bears_send_other h hne now chunk).map _
  | closeInput now other =>
    have hne : other ≠ id := by simpa [Operation.concerns, Operation.subject?] using hop
    exact (bears_onLive_other h hne fun u => Session.id_closeInput now u).map _
  | close other =>
    have hne : other ≠ id := by simpa [Operation.concerns, Operation.subject?] using hop
    exact (bears_onLive_other h hne Session.id_close).map _
  | markReady now other =>
    have hne : other ≠ id := by simpa [Operation.concerns, Operation.subject?] using hop
    exact (bears_onLive_other h hne (Session.id_markReady now)).map _
  | call now other c =>
    have hne : other ≠ id := by simpa [Operation.concerns, Operation.subject?] using hop
    exact bears_call_other h hne now c
  | interrupt other => exact bears_interrupt_other h

/-! ### The share of a session -/

/-- An operation that concerns a session is to it what it is to the session alone. -/
theorem bears_of_concerns {m : Manager} (hm : m.WellFormed) {id : SessionId} {s : Session}
    (h : m.find? id = some s) {op : Operation} (hop : op.concerns id = true) :
    Bears (m.step op) id (s.undergo op).2 ∧
      (op.subject? = some id → (m.step op).answer = (s.undergo op).1) := by
  cases op with
  | openSession now shape =>
    exact ⟨(bears_openSession h now shape).map _, fun hsub => nomatch hsub⟩
  | expireIdle now timeout =>
    exact ⟨(bears_failDue hm h _ _ m.shuttingDown).map _, fun hsub => nomatch hsub⟩
  | shutdown => exact ⟨(bears_failDue hm h _ _ true).map _, fun hsub => nomatch hsub⟩
  | send now other chunk =>
    obtain rfl : other = id := by simpa [Operation.concerns, Operation.subject?] using hop
    obtain ⟨hb, ha⟩ := bears_send hm h now chunk
    exact ⟨hb.map _, fun _ => ha⟩
  | closeInput now other =>
    obtain rfl : other = id := by simpa [Operation.concerns, Operation.subject?] using hop
    refine ⟨(bears_onLive hm h (Session.id_closeInput now s)).map _, fun _ => ?_⟩
    simp only [step, closeInput, onLive_of_find? hm h]
    split <;> rfl
  | close other =>
    obtain rfl : other = id := by simpa [Operation.concerns, Operation.subject?] using hop
    refine ⟨(bears_onLive hm h (Session.id_close s)).map _, fun _ => ?_⟩
    simp only [step, close, onLive_of_find? hm h]
    split <;> rfl
  | markReady now other =>
    obtain rfl : other = id := by simpa [Operation.concerns, Operation.subject?] using hop
    refine ⟨(bears_onLive hm h (Session.id_markReady now s)).map _, fun _ => ?_⟩
    simp only [step, markReady, onLive_of_find? hm h]
    split <;> rfl
  | call now other c =>
    obtain rfl : other = id := by simpa [Operation.concerns, Operation.subject?] using hop
    obtain ⟨hb, ha⟩ := bears_call h now c
    exact ⟨hb, fun _ => ha⟩
  | interrupt other =>
    obtain rfl : other = id := by simpa [Operation.concerns, Operation.subject?] using hop
    obtain ⟨hb, ha⟩ := bears_interrupt h
    exact ⟨hb, fun _ => ha⟩

/-- **The share of a session in one operation** is what the operation comes to for the
session alone. -/
theorem step_bears {m : Manager} (hm : m.WellFormed) {id : SessionId} {s : Session}
    (h : m.find? id = some s) (op : Operation) :
    Bears (m.step op) id (s.perform op).2 ∧
      (op.subject? = some id → (m.step op).answer = (s.perform op).1) := by
  have hid := id_of_find? h
  cases hop : op.concerns id with
  | true =>
    rw [Session.perform_of_concerns (by rw [hid]; exact hop)]
    exact bears_of_concerns hm h hop
  | false =>
    rw [Session.perform_of_not_concerns (by rw [hid]; exact hop)]
    refine ⟨bears_of_not_concerns h hop, fun hsub => ?_⟩
    simp [Operation.concerns, hsub] at hop

theorem phase?_of_find? {m : Manager} {id : SessionId} {s : Session} (h : m.find? id = some s) :
    m.phase? id = s.phase? := by
  rw [phase?, live?, h, Session.phase?]
  cases hl : s.live <;> simp [Option.filter, hl]

theorem find?_step {m : Manager} (hm : m.WellFormed) {id : SessionId} {s : Session}
    (h : m.find? id = some s) (op : Operation) :
    (m.step op).state.find? id = some (s.next op) := (step_bears hm h op).1.session

/-- What a session is told if the operation does not name it. -/
theorem response_of_subject_ne {op : Operation} {s : Session} (h : op.subject? ≠ some s.id) :
    (s.perform op).1 = .nothing := by
  unfold Session.perform
  split
  · next hc =>
    cases op with
    | openSession now shape | expireIdle now timeout | shutdown => rfl
    | send | closeInput | close | markReady | call | interrupt =>
      simp [Operation.concerns, Operation.subject?] at hc h
      exact absurd hc h
  · rfl

/-- What an operation comes to for a session is told by its share in it. -/
theorem episode_of_bears {m : Manager} {id : SessionId} {s : Session} (h : m.find? id = some s)
    {op : Operation} (hb : Bears (m.step op) id (s.perform op).2)
    (ha : op.subject? = some id → (m.step op).answer = (s.perform op).1) :
    m.episode id op = s.episode op := by
  have hresponse : (if op.subject? = some id then (m.step op).answer else .nothing)
      = (s.perform op).1 := by
    split
    · next hsub => exact ha hsub
    · next hsub => exact (response_of_subject_ne (by rwa [id_of_find? h])).symm
  simp only [episode, Session.episode, hresponse, hb.frames, hb.woken, phase?_of_find? h,
    phase?_of_find? hb.session, Session.next]

theorem episode_of_find? {m : Manager} (hm : m.WellFormed) {id : SessionId} {s : Session}
    (h : m.find? id = some s) (op : Operation) : m.episode id op = s.episode op := by
  obtain ⟨hb, ha⟩ := step_bears hm h op
  exact episode_of_bears h hb ha

/-- The answer to an operation that names a session is the session's. -/
theorem answer_of_find? {m : Manager} (hm : m.WellFormed) {id : SessionId} {s : Session}
    (h : m.find? id = some s) {op : Operation} (hop : op.subject? = some id) :
    (m.step op).answer = (s.undergo op).1 := by
  have hconcerns : op.concerns s.id = true := by
    simp [Operation.concerns, hop, id_of_find? h]
  rw [(step_bears hm h op).2 hop, Session.perform_of_concerns hconcerns]

end Manager
end Switchboard
