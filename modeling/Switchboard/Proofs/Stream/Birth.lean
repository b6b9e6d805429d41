import Switchboard.Proofs.Stream.Share

/-!
# Birth — how a session comes into a run

A manager's run opens sessions one after another, under identities that grow. Until a
session is opened nothing comes of an operation that names it; from then on its history
is the one that it has alone (`exists_history`). Every statement about single sessions in
the modules after this one is proved of `Session.history` and carried over by that theorem.
-/

namespace Switchboard
namespace Manager

/-! ## A run of a manager -/

/-- What every operation keeps but one that opens a session. -/
structure Keeps (m n : Manager) : Prop where
  ids : n.ids = m.ids
  counter : m.counter.next ≤ n.counter.next
  capacity : n.capacity = m.capacity
  heard : n.heard = m.heard
  hangUps : n.hangUps = m.hangUps

theorem Keeps.refl (m : Manager) : Keeps m m := ⟨rfl, Nat.le_refl _, rfl, rfl, rfl⟩

theorem keeps_put (s : Session) (m : Manager) : Keeps m (m.put s) where
  ids := by
    simp only [ids, put, List.map_map]
    refine List.map_congr_left fun u _ => ?_
    by_cases hu : u.id = s.id <;> simp [hu]
  counter := Nat.le_refl _
  capacity := rfl
  heard := rfl
  hangUps := rfl

theorem keeps_onLive (id : SessionId) (f : Session → Turn) (m : Manager) :
    Keeps m (m.onLive id f).state := by
  unfold onLive
  split
  · exact .refl m
  · exact .refl m
  · exact keeps_put _ m

theorem keeps_send (now : Instant) (id : SessionId) (chunk : Bytes) (m : Manager) :
    Keeps m (m.send now id chunk).state := by
  unfold send
  split
  · exact .refl m
  · exact .refl m
  · split
    · exact .refl m
    · exact keeps_put _ m

theorem keeps_call (now : Instant) (id : SessionId) (c : Call) (m : Manager) :
    Keeps m (m.step (.call now id c)).state := by
  simp only [step, call]
  cases m.find? id with
  | none => exact .refl m
  | some s =>
    cases hc : s.call now c with
    | none =>
      simp only [hc]
      exact .refl m
    | some r =>
      simp only [hc]
      exact keeps_put _ m

theorem keeps_failDue (due : Session → Bool) (cause : Session → StreamError) (stop : Bool)
    (m : Manager) :
    Keeps m { m with sessions := (failDue due cause m.sessions).1, shuttingDown := stop } where
  ids := by
    simp only [ids, sessions_failDue, List.map_map, Function.comp_def, Session.id_failIf]
  counter := Nat.le_refl _
  capacity := rfl
  heard := rfl
  hangUps := rfl

/-- The manager with one more session, under the next identity. -/
def withNew (now : Instant) (shape : Shape) (m : Manager) : Manager :=
  { m with
    counter := m.counter.advance
    sessions := m.sessions ++
      [Session.fresh ⟨m.counter.next⟩ shape m.capacity m.heard
        ((m.hangUps.filter (·.1 = ⟨m.counter.next⟩)).map (·.2)) now] }

/-- An operation opens a session, or it keeps the sessions that there are. -/
theorem step_opens_or_keeps (op : Operation) (m : Manager) :
    (∃ now shape, op = .openSession now shape ∧ (m.step op).state = m.withNew now shape ∧
      (m.step op).answer = .opened (.ok ⟨m.counter.next⟩)) ∨
    (Keeps m (m.step op).state ∧ (m.step op).answer.opened? = none) := by
  cases op with
  | openSession now shape =>
    cases hstop : m.shuttingDown with
    | true =>
      refine .inr ⟨⟨?_, ?_, ?_, ?_, ?_⟩, ?_⟩ <;>
        simp [step, openSession, hstop, Outcome.map, ids, Counter.advance, Response.opened?]
    | false =>
      refine .inl ⟨now, shape, rfl, ?_, ?_⟩ <;>
        simp [step, openSession, hstop, Outcome.map, withNew]
  | send now id chunk => exact .inr ⟨keeps_send now id chunk m, rfl⟩
  | closeInput now id => exact .inr ⟨keeps_onLive id _ m, rfl⟩
  | close id => exact .inr ⟨keeps_onLive id _ m, rfl⟩
  | markReady now id => exact .inr ⟨keeps_onLive id _ m, rfl⟩
  | expireIdle now timeout => exact .inr ⟨keeps_failDue _ _ m.shuttingDown m, rfl⟩
  | shutdown => exact .inr ⟨keeps_failDue _ _ true m, rfl⟩
  | call now id c =>
    refine .inr ⟨keeps_call now id c m, ?_⟩
    simp only [step]
    split <;> rfl
  | interrupt id =>
    simp only [step]
    split <;> exact .inr ⟨.refl m, rfl⟩

theorem ids_step (op : Operation) (m : Manager) :
    (m.step op).state.ids = m.ids ++ (m.step op).answer.opened?.toList := by
  rcases step_opens_or_keeps op m with ⟨now, shape, -, hstate, hanswer⟩ | ⟨hkeeps, hnone⟩
  · rw [hstate, hanswer]
    simp [ids, withNew, Session.fresh, Response.opened?]
  · rw [hkeeps.ids, hnone, Option.toList_none, List.append_nil]

theorem counter_le_step (op : Operation) (m : Manager) :
    m.counter.next ≤ (m.step op).state.counter.next := by
  rcases step_opens_or_keeps op m with ⟨now, shape, -, hstate, -⟩ | ⟨hkeeps, -⟩
  · rw [hstate]
    exact Nat.le_succ _
  · exact hkeeps.counter

theorem issued_mono {c d : Counter} (h : c.next ≤ d.next) {n : Int} (hn : c.issued n = true) :
    d.issued n = true := by
  rw [Counter.issued_iff] at hn ⊢
  omega

/-- Sessions are numbered in opening order, from a first number on and below the counter. -/
structure Numbered (first : Nat) (m : Manager) : Prop where
  increasing : m.ids.Pairwise fun a b => a.number < b.number
  within : ∀ id ∈ m.ids, (first : Int) ≤ id.number ∧ id.number < m.counter.next
  counted : first ≤ m.counter.next

theorem Numbered.step {first : Nat} {m : Manager} (h : m.Numbered first) (op : Operation) :
    (m.step op).state.Numbered first := by
  rcases step_opens_or_keeps op m with ⟨now, shape, -, hstate, -⟩ | ⟨hkeeps, -⟩
  · have hids : (m.withNew now shape).ids = m.ids ++ [⟨m.counter.next⟩] := by
      simp [ids, withNew, Session.fresh]
    have hcounted := h.counted
    rw [hstate]
    refine ⟨?_, fun id hid => ?_, Nat.le_succ_of_le hcounted⟩
    · rw [hids, List.pairwise_append]
      refine ⟨h.increasing, List.pairwise_singleton _ _, fun a ha b hb => ?_⟩
      rw [List.mem_singleton.mp hb]
      exact (h.within a ha).2
    · rw [hids, List.mem_append, List.mem_singleton] at hid
      show _ ∧ _ < ((m.counter.next + 1 : Nat) : Int)
      rcases hid with hid | rfl
      · have := h.within id hid
        omega
      · dsimp only
        omega
  · have hcounter := hkeeps.counter
    refine ⟨hkeeps.ids ▸ h.increasing, fun id hid => ?_, Nat.le_trans h.counted hcounter⟩
    rw [hkeeps.ids] at hid
    have := h.within id hid
    omega

theorem wellFormed_iff {m : Manager} : m.WellFormed ↔ m.Numbered 1 ∧ m.hangUps = [] := by
  constructor
  · intro h
    exact ⟨⟨h.increasing, fun id hid => (Counter.issued_iff _ _).mp (h.issued id hid), h.positive⟩,
      h.quiet⟩
  · rintro ⟨h, hquiet⟩
    exact ⟨h.increasing, fun id hid => (Counter.issued_iff _ _).mpr (h.within id hid), h.counted,
      hquiet⟩

theorem wellFormed_step {m : Manager} (hm : m.WellFormed) (op : Operation) :
    (m.step op).state.WellFormed := by
  obtain ⟨hnumbered, hquiet⟩ := wellFormed_iff.mp hm
  refine wellFormed_iff.mpr ⟨hnumbered.step op, ?_⟩
  rcases step_opens_or_keeps op m with ⟨now, shape, -, hstate, -⟩ | ⟨hkeeps, -⟩
  · rw [hstate]
    exact hquiet
  · rw [hkeeps.hangUps]
    exact hquiet

theorem wellFormed_after {m : Manager} (hm : m.WellFormed) (ops : List Operation) :
    (m.after ops).WellFormed := by
  induction ops generalizing m with
  | nil => exact hm
  | cons op ops ih => exact ih (wellFormed_step hm op)

theorem ids_after (ops : List Operation) (m : Manager) :
    (m.after ops).ids = m.ids ++ m.opened ops := by
  induction ops generalizing m with
  | nil => exact (List.append_nil _).symm
  | cons op ops ih =>
    show ((m.step op).state.after ops).ids = _
    rw [ih, ids_step, List.append_assoc]
    rfl

theorem find?_after {m : Manager} (hm : m.WellFormed) {id : SessionId} {s : Session}
    (h : m.find? id = some s) (ops : List Operation) :
    (m.after ops).find? id = some (s.after ops) := by
  induction ops generalizing m s with
  | nil => exact h
  | cons op ops ih => exact ih (wellFormed_step hm op) (find?_step hm h op)

/-- A session that is there has from now on the history that it has alone. -/
theorem history_of_find? {m : Manager} (hm : m.WellFormed) {id : SessionId} {s : Session}
    (h : m.find? id = some s) (ops : List Operation) : m.history id ops = s.history ops := by
  induction ops generalizing m s with
  | nil => rfl
  | cons op ops ih =>
    show m.episode id op :: (m.step op).state.history id ops =
      s.episode op :: (s.next op).history ops
    rw [episode_of_find? hm h, ih (wellFormed_step hm op) (find?_step hm h op)]

/-! ## Before a session is there -/

theorem find?_of_lookup {m : Manager} {id : SessionId} {s : Session}
    (h : m.lookup id = .ok (some s)) : m.find? id = some s := by
  unfold lookup at h
  split at h
  · next u hu =>
    cases h
    exact (Option.filter_eq_some_iff.mp hu).1
  · split at h <;> cases h

/-- Nothing is delivered on a session, and nobody who waited on it is woken. -/
def Misses {α : Type} (o : Outcome Manager α) (id : SessionId) : Prop :=
  o.activity.frames id = [] ∧ o.activity.results id = []

theorem misses_commit {α : Type} {m : Manager} {id : SessionId} {t : Turn}
    (hne : t.session.id ≠ id) (answer : α) : Misses (m.commit answer t) id :=
  ⟨Turn.frames_activity_of_ne hne, Turn.results_activity_of_ne hne⟩

theorem misses_onLive {m : Manager} {id : SessionId} (h : m.find? id = none)
    (other : SessionId) {f : Session → Turn} (hf : ∀ u, (f u).session.id = u.id) :
    Misses (m.onLive other f) id := by
  unfold onLive
  split
  · exact ⟨rfl, rfl⟩
  · exact ⟨rfl, rfl⟩
  · next u hu =>
    refine misses_commit (fun hid => ?_) _
    rw [hf, id_of_lookup hu] at hid
    rw [hid, lookup] at hu
    simp [live?, h] at hu
    split at hu <;> cases hu

theorem misses_failDue {m : Manager} {id : SessionId} (h : m.find? id = none)
    (due : Session → Bool) (cause : Session → StreamError) :
    (failDue due cause m.sessions).2.1.frames id = [] ∧
      (failDue due cause m.sessions).2.1.results id = [] := by
  have hne : ∀ u ∈ m.sessions, (u.failIf (due u) (cause u)).session.id ≠ id := by
    intro u hu hid
    rw [Session.id_failIf] at hid
    exact (find?_eq_none_iff m id).mp h (List.mem_map.mpr ⟨u, hu, hid⟩)
  rw [view_failDue (Activity.frames_empty id) (Activity.frames_append id),
    view_failDue (Activity.results_empty id) (Activity.results_append id),
    List.flatMap_eq_nil_iff, List.flatMap_eq_nil_iff]
  exact ⟨fun u hu => Turn.frames_activity_of_ne (hne u hu),
    fun u hu => Turn.results_activity_of_ne (hne u hu)⟩

theorem misses_step {m : Manager} {id : SessionId} (h : m.find? id = none) (op : Operation) :
    Misses (m.step op) id := by
  cases op with
  | openSession now shape =>
    simp only [step, openSession]
    split <;> exact ⟨rfl, rfl⟩
  | send now other chunk =>
    simp only [step, send]
    split
    · exact ⟨rfl, rfl⟩
    · exact ⟨rfl, rfl⟩
    · next u hu =>
      split
      · exact ⟨rfl, rfl⟩
      · next ht =>
        refine misses_commit (fun hid => ?_) _
        rw [Turn.session_still, Session.id_send ht, id_of_lookup hu] at hid
        rw [hid] at hu
        exact absurd ((find?_of_lookup hu).symm.trans h) (by simp)
  | closeInput now other => exact misses_onLive h other (Session.id_closeInput now)
  | close other => exact misses_onLive h other Session.id_close
  | markReady now other => exact misses_onLive h other (Session.id_markReady now)
  | expireIdle now timeout => exact misses_failDue h _ _
  | shutdown => exact misses_failDue h _ _
  | call now other c =>
    simp only [step, call]
    cases hu : m.find? other with
    | none => exact ⟨rfl, rfl⟩
    | some u =>
      cases hc : u.call now c with
      | none =>
        simp only [hc]
        exact ⟨rfl, rfl⟩
      | some r =>
        obtain ⟨a, t⟩ := r
        simp only [hc]
        refine misses_commit (m := m) (fun hid => ?_) a
        rw [Session.id_call hc, id_of_find? hu] at hid
        rw [hid, h] at hu
        cases hu
  | interrupt other =>
    simp only [step]
    split <;> exact ⟨rfl, rfl⟩

end Manager

namespace Operation

/-- The answer to an operation that names an identity which was never given out. -/
def unknown : Operation → Response
  | send _ id _ => .sent (.error (.sessionNotFound id))
  | closeInput _ id | close id | markReady _ id => .done (.error (.sessionNotFound id))
  | openSession .. | expireIdle .. | shutdown | call .. | interrupt _ => .nothing

theorem refused_unknown (op : Operation) : op.unknown.refused = true := by
  cases op <;> rfl

end Operation

namespace Manager

theorem answer_of_not_issued {m : Manager} {id : SessionId} (hnone : m.find? id = none)
    (hissued : m.counter.issued id.number = false) {op : Operation}
    (hop : op.subject? = some id) : (m.step op).answer = op.unknown := by
  have hlookup : m.lookup id = .error (.sessionNotFound id) := by
    simp [lookup, live?, hnone, hissued]
  cases op with
  | openSession | expireIdle | shutdown => cases hop
  | send now other chunk =>
    cases hop
    simp only [step, send, hlookup]
    rfl
  | closeInput now other =>
    cases hop
    simp only [step, closeInput, onLive, hlookup]
    rfl
  | close other =>
    cases hop
    simp only [step, close, onLive, hlookup]
    rfl
  | markReady now other =>
    cases hop
    simp only [step, markReady, onLive, hlookup]
    rfl
  | call now other c =>
    cases hop
    simp only [step, call, hnone]
    rfl
  | interrupt other =>
    cases hop
    simp only [step, hnone]
    rfl

end Manager

namespace Episode

/-- The session is not there before the operation, and nothing comes of it. -/
structure Void (e : Episode) : Prop where
  refused : e.response.refused = true
  frames : e.frames = []
  woken : e.woken = []
  before : e.before = none

end Episode

namespace Manager

theorem void_episode {m : Manager} {id : SessionId} (h : m.find? id = none)
    (hissued : m.counter.issued id.number = false) (op : Operation) :
    (m.episode id op).Void where
  refused := by
    show (if op.subject? = some id then (m.step op).answer else .nothing).refused = true
    split
    · next hop =>
      rw [answer_of_not_issued h hissued hop]
      exact op.refused_unknown
    · rfl
  frames := (misses_step h op).1
  woken := (misses_step h op).2
  before := by
    show m.phase? id = none
    simp [phase?, live?, h]

theorem capacity_step (op : Operation) (m : Manager) :
    (m.step op).state.capacity = m.capacity ∧ (m.step op).state.heard = m.heard := by
  rcases step_opens_or_keeps op m with ⟨now, shape, -, hstate, -⟩ | ⟨hkeeps, -⟩
  · rw [hstate]
    exact ⟨rfl, rfl⟩
  · exact ⟨hkeeps.capacity, hkeeps.heard⟩

theorem counter_le_after (ops : List Operation) (m : Manager) :
    m.counter.next ≤ (m.after ops).counter.next := by
  induction ops generalizing m with
  | nil => exact Nat.le_refl _
  | cons op ops ih => exact Nat.le_trans (counter_le_step op m) (ih (m.step op).state)

/-- A session that an operation puts into the manager was opened by it. -/
theorem fresh_of_find? {m : Manager} {id : SessionId} {s : Session} {op : Operation}
    (hnone : m.find? id = none) (h : (m.step op).state.find? id = some s) :
    ∃ now shape, op = .openSession now shape ∧ id.number = m.counter.next ∧
      s = Session.fresh id shape m.capacity m.heard
        ((m.hangUps.filter (·.1 = id)).map (·.2)) now := by
  rcases step_opens_or_keeps op m with ⟨now, shape, rfl, hstate, -⟩ | ⟨hkeeps, -⟩
  · rw [hstate] at h
    have hfind : (m.find? id).or ([Session.fresh ⟨m.counter.next⟩ shape m.capacity m.heard
        ((m.hangUps.filter (·.1 = ⟨m.counter.next⟩)).map (·.2)) now].find? (·.id = id))
        = some s := by
      rw [← h]
      exact List.find?_append.symm
    rw [hnone] at hfind
    by_cases hid : (⟨m.counter.next⟩ : SessionId) = id
    · subst hid
      simp only [Session.fresh, Option.none_or, List.find?_cons, decide_true, Option.some.injEq]
        at hfind
      exact ⟨now, shape, rfl, rfl, hfind.symm⟩
    · simp [Session.fresh, hid] at hfind
  · have hmem := mem_ids_of_find? h
    rw [hkeeps.ids] at hmem
    exact absurd hmem ((find?_eq_none_iff m id).mp hnone)

theorem opens_of_find? {m : Manager} (hm : m.WellFormed) {id : SessionId} {s : Session}
    {op : Operation} (hnone : m.find? id = none) (h : (m.step op).state.find? id = some s) :
    ∃ now shape, op = .openSession now shape ∧ id.number = m.counter.next ∧
      s = Session.fresh id shape m.capacity m.heard [] now := by
  obtain ⟨now, shape, rfl, hnumber, hfresh⟩ := fresh_of_find? hnone h
  rw [hm.quiet] at hfresh
  exact ⟨now, shape, rfl, hnumber, hfresh⟩

/-- **A session's history in a run** has two parts: first the session is not there, and
nothing comes of anything; then it is opened, and from there on the history is that of
the session alone. -/
theorem exists_history {m : Manager} (hm : m.WellFormed) {ops : List Operation}
    {id : SessionId} {s : Session} (hnone : m.find? id = none)
    (h : (m.after ops).find? id = some s) :
    ∃ before now shape tail past,
      ops = before ++ .openSession now shape :: tail ∧
      id.number = (m.after before).counter.next ∧
      s = (Session.fresh id shape m.capacity m.heard [] now).after tail ∧
      (∀ e ∈ past, Episode.Void e) ∧
      m.history id ops =
        past ++ (Session.fresh id shape m.capacity m.heard [] now).history tail := by
  -- By induction on the run: its first operation opens the session, or it is opened later.
  induction ops generalizing m with
  | nil =>
    have h : m.find? id = some s := h
    rw [hnone] at h
    cases h
  | cons op ops ih =>
    have h : ((m.step op).state.after ops).find? id = some s := h
    have hw := wellFormed_step hm op
    obtain ⟨hcapacity, hheard⟩ := capacity_step op m
    cases hfind : (m.step op).state.find? id with
    | none =>
      obtain ⟨before, now, shape, tail, past, rfl, hnumber, hs, hvoid, hhistory⟩ :=
        ih hw hfind h
      rw [hcapacity, hheard] at hs hhistory
      -- The identity is given out later, so it was not given out before this operation.
      have hissued : m.counter.issued id.number = false := by
        have hle := counter_le_step op m
        have hle' := counter_le_after before (m.step op).state
        rw [Bool.eq_false_iff, ne_eq, Counter.issued_iff]
        omega
      refine ⟨op :: before, now, shape, tail, m.episode id op :: past, rfl, hnumber, hs, ?_, ?_⟩
      · intro e he
        rcases List.mem_cons.mp he with rfl | he
        · exact void_episode hnone hissued op
        · exact hvoid e he
      · show m.episode id op :: (m.step op).state.history id _ = _
        rw [hhistory]
        rfl
    | some t =>
      obtain ⟨now, shape, rfl, hnumber, rfl⟩ := opens_of_find? hm hnone hfind
      refine ⟨[], now, shape, ops, [m.episode id (.openSession now shape)], rfl, hnumber,
        ?_, ?_, ?_⟩
      · rw [find?_after hw hfind] at h
        exact (Option.some.inj h).symm
      · intro e he
        obtain rfl := List.mem_singleton.mp he
        refine void_episode hnone ?_ _
        rw [Bool.eq_false_iff, ne_eq, Counter.issued_iff]
        omega
      · show _ :: (m.step _).state.history id ops = _
        rw [history_of_find? hw hfind]
        rfl

end Manager
end Switchboard
