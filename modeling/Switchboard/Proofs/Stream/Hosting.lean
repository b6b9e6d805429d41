import Switchboard.Stream.Host
import Switchboard.Proofs.Stream.Heard

/-!
# Hosting — a host does to its manager what some run does

Handlers at work are not part of a manager's run, but all they do to it is to call. So
whatever a host does, its manager goes through some run and what is delivered is what that
run delivers (`Reaches`). Facts about runs are facts about hosts by that.

A handler that has gone on as far as it can rests (`Rests`), and what it rests on is what is
in its session's inbox. So to do again what changes nothing there sets nothing going.
-/

namespace Switchboard

namespace Manager

variable {m : Manager} {s t : Session} {first : Nat} {op : Operation}

/-! ## Numbers -/

theorem Numbered.after (h : m.Numbered first) (ops : List Operation) :
    (m.after ops).Numbered first := by
  induction ops generalizing m with
  | nil => exact h
  | cons op ops ih => exact ih (h.step op)

theorem put_eq_self (h : m.Numbered first) (hs : m.find? s.id = some s) : m.put s = m := by
  have hsessions : m.sessions.map (fun t => if t.id = s.id then s else t) = m.sessions := by
    refine (List.map_congr_left fun t ht => ?_).trans (List.map_id _)
    split
    · next hid =>
      have ht := find?_of_mem h.increasing ht
      rw [hid, hs] at ht
      exact Option.some.inj ht
    · rfl
  rw [put, hsessions]

theorem find?_put {id : SessionId} (h : m.find? id = some s) (ht : t.id = s.id) :
    (m.put t).find? id = some t := by
  obtain rfl := id_of_find? h
  rw [← ht] at h ⊢
  exact find?_put_self h

theorem put_put (h : t.id = s.id) (m : Manager) : (m.put s).put t = m.put t := by
  simp only [put, List.map_map]
  congr 1
  refine List.map_congr_left fun u _ => ?_
  by_cases hu : u.id = s.id <;> simp [h, hu]

/-! ## From one moment to another -/

/-- Some run leads from one to the other and makes these deliveries. -/
def Reaches (m m' : Manager) (ds : List Delivery) : Prop :=
  ∃ ops, m' = m.after ops ∧ ds = m.deliveries ops

theorem Reaches.refl (m : Manager) : Reaches m m [] := ⟨[], rfl, rfl⟩

theorem Reaches.trans {m' m'' : Manager} {ds ds' : List Delivery} (h : Reaches m m' ds)
    (h' : Reaches m' m'' ds') : Reaches m m'' (ds ++ ds') := by
  obtain ⟨ops, rfl, rfl⟩ := h
  obtain ⟨more, rfl, rfl⟩ := h'
  exact ⟨ops ++ more, (after_append ops more m).symm, (deliveries_append ops more m).symm⟩

theorem Reaches.regular {m' : Manager} {ds : List Delivery} (h : Reaches m m' ds)
    (hm : m.Regular) : m'.Regular := by
  obtain ⟨ops, rfl, -⟩ := h
  exact hm.after ops

theorem Reaches.numbered {m' : Manager} {ds : List Delivery} (h : Reaches m m' ds)
    (hm : m.Numbered first) : m'.Numbered first := by
  obtain ⟨ops, rfl, -⟩ := h
  exact hm.after ops

/-- What one moment of a manager tells of a later one, and of what is delivered between. -/
structure Follows (m m' : Manager) (ds : List Delivery) : Prop where
  counter : m.counter.next ≤ m'.counter.next
  live : ∀ id ∈ m'.liveIds, id ∈ m.liveIds ∨ (m.counter.next : Int) ≤ id.number
  heard : ∀ d ∈ ds, d.session ∈ m.liveIds ∨ (m.counter.next : Int) ≤ d.session.number
  ended : m.Over → m'.Over ∧ ds = []

theorem Follows.refl (m : Manager) : Follows m m [] :=
  ⟨Nat.le_refl _, fun _ h => .inl h, nofun, fun h => ⟨h, rfl⟩⟩

theorem Reaches.follows {m' : Manager} {ds : List Delivery} (h : Reaches m m' ds)
    (hm : m.Regular) : Follows m m' ds := by
  obtain ⟨ops, rfl, rfl⟩ := h
  exact ⟨counter_le_after ops m, fun _ => liveIds_after hm, fun _ => liveIds_of_deliveries hm,
    fun hover => hover.after hm ops⟩

/-- Some of the deliveries may get lost. -/
theorem Follows.sublist {m' : Manager} {ds ds' : List Delivery} (h : Follows m m' ds)
    (hsub : ds'.Sublist ds) : Follows m m' ds' where
  counter := h.counter
  live := h.live
  heard := fun d hd => h.heard d (hsub.mem hd)
  ended := fun hover => by
    obtain ⟨hover', rfl⟩ := h.ended hover
    exact ⟨hover', List.sublist_nil.mp hsub⟩

theorem ids_setHeard (heard : Bool) (m : Manager) : (m.setHeard heard).ids = m.ids := by
  simp [ids, setHeard]

theorem liveIds_setHeard (heard : Bool) (m : Manager) :
    (m.setHeard heard).liveIds = m.liveIds := by
  simp only [liveIds, registry, setHeard, List.filter_map, List.map_map, Function.comp_def]

theorem follows_setHeard (heard : Bool) (m : Manager) : Follows m (m.setHeard heard) [] where
  counter := Nat.le_refl _
  live := fun _ hid => .inl (liveIds_setHeard heard m ▸ hid)
  heard := nofun
  ended := fun h => ⟨⟨h.shuttingDown, (liveIds_setHeard heard m).trans h.empty⟩, rfl⟩

theorem Numbered.setHeard (h : m.Numbered first) (heard : Bool) :
    (m.setHeard heard).Numbered first := by
  refine ⟨?_, ?_, h.counted⟩
  · rw [ids_setHeard]
    exact h.increasing
  · rw [ids_setHeard]
    exact h.within

theorem Regular.setHeard (h : m.Regular) (heard : Bool) : (m.setHeard heard).Regular := by
  intro s hs
  obtain ⟨t, ht, rfl⟩ := List.mem_map.mp hs
  have ht := h t ht
  exact ⟨⟨ht.untouched, ht.mute, ht.ready, ht.flushed⟩, ht.undrained⟩

theorem keeps_step (hop : ∀ now shape, op ≠ .openSession now shape) (m : Manager) :
    Keeps m (m.step op).state := by
  rcases step_opens_or_keeps op m with ⟨now, shape, hopen, -⟩ | ⟨hkeeps, -⟩
  · exact absurd hopen (hop now shape)
  · exact hkeeps

theorem activity_openSession (now : Instant) (shape : Shape) (m : Manager) :
    (m.openSession now shape).activity = {} := by
  unfold openSession
  dsimp only
  split <;> rfl

theorem reaches_step (op : Operation) (m : Manager) :
    Reaches m (m.step op).state (m.step op).activity.deliveries :=
  ⟨[op], rfl, (List.append_nil _).symm⟩

end Manager

/-! ## A handler at work -/

namespace Task

variable {t : Task}

theorem session_answered (c : Call) (a : Answer) (t : Task) :
    (t.answered c a).session = t.session := by
  unfold answered proceed giveUp
  grind

theorem session_note {u : Task} {event : Event} (h : t.move = .note event u) :
    u.session = t.session := by
  unfold move at h
  grind

theorem session_step {ε : Type} [Peer ε] {p q : ε} {u : Task} {events : List Event}
    (h : t.step p = some (u, q, events)) : u.session = t.session := by
  unfold step at h
  split at h
  · cases h
  · next hmove =>
    cases h
    exact session_note hmove
  · split at h
    · cases h
    · cases h
      exact session_answered ..

theorem session_run {ε : Type} [Peer ε] (t : Task) (p : ε) : (t.run p).1.session = t.session := by
  fun_induction Task.run t p with
  | case1 t p hstep => rfl
  | case2 t p u q events hstep v r more hrun ih =>
    rw [hrun] at ih
    exact ih.trans (session_step hstep)

/-- A task goes on until there is nothing more it can do. -/
theorem step_run {ε : Type} [Peer ε] (t : Task) (p : ε) :
    (t.run p).1.step (t.run p).2.1 = none := by
  fun_induction Task.run t p with
  | case1 t p hstep => exact hstep
  | case2 t p u q events hstep v r more hrun ih =>
    rw [hrun] at ih
    exact ih

theorem run_of_step {ε : Type} [Peer ε] {t : Task} {p : ε} (h : t.step p = none) :
    t.run p = (t, p, []) := by
  rw [run]
  split
  · rfl
  · next hsome =>
    rw [h] at hsome
    cases hsome

theorem run_of_some {ε : Type} [Peer ε] {t u : Task} {p q : ε} {events : List Event}
    (h : t.step p = some (u, q, events)) :
    t.run p = ((u.run q).1, (u.run q).2.1, events ++ (u.run q).2.2) := by
  rw [run]
  split
  · next hnone =>
    rw [h] at hnone
    cases hnone
  · next hsome =>
    rw [h] at hsome
    cases hsome
    rfl

theorem run_of_rest {ε : Type} [Peer ε] {t : Task} {p : ε} (h : t.move = .rest) :
    t.run p = (t, p, []) := run_of_step (by rw [step, h])

end Task

namespace Desk

/-- A handler that takes a step at a desk makes a call that is answered, or none. -/
theorem step_cases {t u : Task} {d q : Desk} {events : List Event}
    (h : t.step d = some (u, q, events)) :
    q = d ∨ ∃ c a turn, d.session.call d.now c = some (a, turn) ∧
      q = { d with session := turn.session, activity := d.activity ++ turn.activity } := by
  unfold Task.step at h
  split at h
  · cases h
  · cases h
    exact .inl rfl
  · next c hmove =>
    split at h
    · cases h
    · next a p hanswer =>
      cases h
      simp only [Peer.answer, answer, Option.map_eq_some_iff] at hanswer
      obtain ⟨⟨a', turn⟩, hcall, heq⟩ := hanswer
      cases heq
      exact .inr ⟨c, a', turn, hcall, rfl⟩

theorem precedes_run (t : Task) (d : Desk) : d.session.Precedes (t.run d).2.1.session := by
  fun_induction Task.run t d with
  | case1 t d hstep => exact .refl _
  | case2 t d u q events hstep v r more hrun ih =>
    rw [hrun] at ih
    rcases step_cases hstep with rfl | ⟨c, a, turn, hcall, rfl⟩
    · exact ih
    · exact (Session.precedes_call hcall).trans ih

open Manager in
/-- What a handler does at a desk is a run of calls on its session. -/
theorem reaches_run {first : Nat} (t : Task) (d : Desk) {m : Manager} (hm : m.Numbered first)
    (hfind : m.find? d.session.id = some d.session) :
    ∃ ds, (t.run d).2.1.activity.deliveries = d.activity.deliveries ++ ds ∧
      Reaches m (m.put (t.run d).2.1.session) ds := by
  fun_induction Task.run t d generalizing m with
  | case1 t d hstep =>
    refine ⟨[], (List.append_nil _).symm, ?_⟩
    rw [put_eq_self hm hfind]
    exact .refl m
  | case2 t d u q events hstep v r more hrun ih =>
    have hlater : q.session.Precedes r.session := by
      have hprecedes := precedes_run u q
      rwa [hrun] at hprecedes
    rw [hrun] at ih
    rcases step_cases hstep with rfl | ⟨c, a, turn, hcall, rfl⟩
    · exact ih hm hfind
    · have hid : turn.session.id = d.session.id := Session.id_call hcall
      have hdone : (m.step (.call d.now d.session.id c)).state = m.put turn.session ∧
          (m.step (.call d.now d.session.id c)).activity = turn.activity := by
        simp [Manager.step, Manager.call, hfind, hcall, Outcome.map, commit]
      have hone := reaches_step (.call d.now d.session.id c) m
      rw [hdone.1, hdone.2] at hone
      obtain ⟨ds, hds, hreaches⟩ := ih (hone.numbered hm) (find?_put_self (by rwa [hid]))
      refine ⟨turn.activity.deliveries ++ ds, ?_, ?_⟩
      · rw [hds, Activity.deliveries_append, List.append_assoc]
      · rw [put_put hlater.id] at hreaches
        exact hone.trans hreaches

end Desk

/-! ## A host -/

namespace Host

variable {first : Nat} {h : Host} {now : Instant} {id : SessionId}

/-- What a host keeps true: of its manager, and that every session has its task. -/
structure Ordered (first : Nat) (h : Host) : Prop where
  numbered : h.manager.Numbered first
  regular : h.manager.Regular
  aligned : h.tasks.map (·.session) = h.manager.ids

/-- What was done to a host is to its manager what some run is. -/
structure Carried {α : Type} (first : Nat) (h : Host) (o : Outcome Host α) : Prop where
  ordered : o.state.Ordered first
  reaches : Manager.Reaches h.manager o.state.manager o.activity.deliveries

theorem carried_idle {α : Type} (hh : h.Ordered first) (answer : α) :
    Carried first h { answer, state := h } := ⟨hh, .refl _⟩

theorem Carried.andThen {α β : Type} {o : Outcome Host α} {f : Host → Outcome Host β}
    (ho : Carried first h o) (hf : ∀ h', h'.Ordered first → Carried first h' (f h')) :
    Carried first h (o.andThen f) :=
  ⟨(hf _ ho.ordered).ordered, ho.reaches.trans (hf _ ho.ordered).reaches⟩

theorem sessions_putTask (t : Task) (h : Host) :
    (h.putTask t).tasks.map (·.session) = h.tasks.map (·.session) := by
  simp only [putTask, List.map_map]
  refine List.map_congr_left fun u _ => ?_
  by_cases hu : u.session = t.session <;> simp [hu]

theorem carried_settle (now : Instant) (id : SessionId) (hh : h.Ordered first) :
    Carried first h (h.settle now id) := by
  unfold settle
  split
  · next t s htask hfind =>
    have hid := Manager.id_of_find? hfind
    obtain ⟨ds, hds, hreaches⟩ :=
      Desk.reaches_run t { session := s, now } hh.numbered (by rwa [hid])
    refine ⟨⟨hreaches.numbered hh.numbered, hreaches.regular hh.regular, ?_⟩, ?_⟩
    · exact (sessions_putTask _ _).trans (hh.aligned.trans (Manager.keeps_put _ _).ids.symm)
    · rw [Activity.deliveries_append, hds, List.append_nil]
      exact hreaches
  · exact carried_idle hh ()

theorem carried_settleAll (now : Instant) (hh : h.Ordered first) :
    Carried first h (h.settleAll now) := by
  have hfold : ∀ (tasks : List Task) (o : Outcome Host Unit), Carried first h o →
      Carried first h (tasks.foldl (fun o t => o.andThen (settle now t.session)) o) := by
    intro tasks
    induction tasks with
    | nil => exact fun o ho => ho
    | cons t tasks ih => exact fun o ho => ih _ (ho.andThen fun _ => carried_settle now t.session)
  exact hfold h.tasks _ (carried_idle hh ())

/-- An operation of the manager that opens no session. -/
theorem carried_within {α : Type} {op : Manager → Outcome Manager α} (hh : h.Ordered first)
    (mop : Operation) (hop : ∀ now shape, mop ≠ .openSession now shape)
    (hstate : (op h.manager).state = (h.manager.step mop).state)
    (hactivity : (op h.manager).activity = (h.manager.step mop).activity) :
    Carried first h ((op h.manager).within fun manager => { h with manager }) := by
  have hreaches := Manager.reaches_step mop h.manager
  rw [← hstate, ← hactivity] at hreaches
  refine ⟨⟨hreaches.numbered hh.numbered, hreaches.regular hh.regular, ?_⟩, hreaches⟩
  show h.tasks.map _ = (op h.manager).state.ids
  rw [hstate, (Manager.keeps_step hop h.manager).ids]
  exact hh.aligned

theorem carried_perform {α : Type} {op : Manager → Outcome Manager α} (hh : h.Ordered first)
    (mop : Operation) (hop : ∀ now shape, mop ≠ .openSession now shape)
    (hstate : (op h.manager).state = (h.manager.step mop).state)
    (hactivity : (op h.manager).activity = (h.manager.step mop).activity) :
    Carried first h (h.perform now id op) :=
  (carried_within hh mop hop hstate hactivity).andThen fun _ => carried_settle now id

theorem carried_performAll {α : Type} {op : Manager → Outcome Manager α} (hh : h.Ordered first)
    (mop : Operation) (hop : ∀ now shape, mop ≠ .openSession now shape)
    (hstate : (op h.manager).state = (h.manager.step mop).state)
    (hactivity : (op h.manager).activity = (h.manager.step mop).activity) :
    Carried first h (h.performAll now op) :=
  (carried_within hh mop hop hstate hactivity).andThen fun _ => carried_settleAll now

theorem carried_openSession (now : Instant) (shape : Shape) (handler : Handler)
    (hh : h.Ordered first) : Carried first h (h.openSession now shape handler) := by
  have hreaches := Manager.reaches_step (.openSession now shape) h.manager
  have hids := Manager.ids_step (.openSession now shape) h.manager
  simp only [Manager.step, Outcome.map] at hreaches hids
  unfold openSession
  dsimp only
  split
  · next e hanswer =>
    rw [hanswer] at hids
    refine ⟨⟨hreaches.numbered hh.numbered, hreaches.regular hh.regular, ?_⟩, ?_⟩
    · simpa [Response.opened?, hids] using hh.aligned
    · rwa [Manager.activity_openSession] at hreaches
  · next id hanswer =>
    rw [hanswer] at hids
    refine Carried.andThen ⟨⟨hreaches.numbered hh.numbered, hreaches.regular hh.regular, ?_⟩, ?_⟩
      fun _ => carried_settle now id
    · simp [hids, hh.aligned, Response.opened?, Task.ofHandler]
    · rwa [Manager.activity_openSession] at hreaches

theorem counter_settle (now : Instant) (id : SessionId) (h : Host) :
    (h.settle now id).state.manager.counter = h.manager.counter := by
  unfold settle
  split <;> rfl

/-- A session that is opened gets the number that comes next. -/
theorem number_openSession {shape : Shape} {handler : Handler}
    (hopened : (h.openSession now shape handler).answer = .ok id) :
    id.number = h.manager.counter.next ∧
      (h.openSession now shape handler).state.manager.counter = h.manager.counter.advance := by
  unfold openSession Manager.openSession at hopened ⊢
  cases hstop : h.manager.shuttingDown with
  | true =>
    simp [hstop] at hopened
  | false =>
    simp only [hstop, Bool.false_eq_true, if_false] at hopened ⊢
    cases hopened
    exact ⟨rfl, counter_settle now _ _⟩

theorem carried_send (now : Instant) (id : SessionId) (chunk : Bytes) (hh : h.Ordered first) :
    Carried first h (h.send now id chunk) :=
  carried_perform hh (.send now id chunk) nofun rfl rfl

theorem carried_closeInput (now : Instant) (id : SessionId) (hh : h.Ordered first) :
    Carried first h (h.closeInput now id) :=
  carried_perform hh (.closeInput now id) nofun rfl rfl

theorem carried_close (now : Instant) (id : SessionId) (hh : h.Ordered first) :
    Carried first h (h.close now id) := carried_perform hh (.close id) nofun rfl rfl

theorem carried_markReady (now : Instant) (id : SessionId) (hh : h.Ordered first) :
    Carried first h (h.markReady now id) :=
  carried_perform hh (.markReady now id) nofun rfl rfl

theorem carried_expireIdle (now asOf : Instant) (timeout : Duration) (hh : h.Ordered first) :
    Carried first h (h.expireIdle now asOf timeout) :=
  carried_performAll hh (.expireIdle asOf timeout) nofun rfl rfl

theorem carried_shutdown (now : Instant) (hh : h.Ordered first) :
    Carried first h (h.shutdown now) := carried_performAll hh .shutdown nofun rfl rfl

theorem carried_instruct (now : Instant) (id : SessionId) (i : Instruction)
    (hh : h.Ordered first) : Carried first h (h.instruct now id i) := by
  unfold instruct
  split
  · exact carried_idle hh false
  · next t ht =>
    have hput : (h.putTask t).Ordered first :=
      ⟨hh.numbered, hh.regular, (sessions_putTask t h).trans hh.aligned⟩
    exact Carried.andThen ⟨hput, .refl _⟩ fun _ => carried_settle now id

/-- The shutdown counts the live sessions and tells those of its cause that are still owed
something. What the handlers do then comes to nothing. -/
theorem shutdown_eq (hh : h.Ordered first) (now : Instant) :
    (h.shutdown now).answer = h.manager.liveCount ∧
    (h.shutdown now).activity.deliveries = (h.manager.registry.filter (·.owed)).map
      (fun s => ⟨s.id, ⟨.error, Utf8.encode StreamError.shuttingDown.message⟩⟩) ∧
    (h.shutdown now).state.manager.Over := by
  obtain ⟨hcount, hdeliveries⟩ := Manager.shutdown_eq hh.regular
  have hdone : Carried first h ((h.manager.shutdown).within fun manager => { h with manager }) :=
    carried_within hh .shutdown nofun rfl rfl
  have hover : (h.manager.shutdown).state.Over := Manager.over_shutdown hh.regular
  obtain ⟨ops, hstate, hmade⟩ := (carried_settleAll now hdone.ordered).reaches
  obtain ⟨hstill, hnothing⟩ := hover.after hdone.ordered.regular ops
  refine ⟨hcount, ?_, ?_⟩
  · show (h.manager.shutdown).activity.deliveries ++ (settleAll now _).activity.deliveries = _
    rw [hdeliveries, hmade]
    exact (congrArg _ hnothing).trans (List.append_nil _)
  · show (settleAll now _).state.manager.Over
    rw [hstate]
    exact hstill

/-! ## A handler that rests -/

/-- The handler of the session can do nothing more. -/
def Rests (id : SessionId) (h : Host) : Prop :=
  ∀ t s, h.task? id = some t → h.manager.find? id = some s →
    ∀ now, t.step ({ session := s, now } : Desk) = none

/-- A call is not answered only if there is nothing to receive yet. -/
theorem call_eq_none_iff (now : Instant) (c : Call) (s : Session) :
    s.call now c = none ↔ c = .receive ∧ s.inbox.take = .notYet := by
  cases c with
  | receive =>
    simp only [Session.call, Session.receive, true_and]
    cases s.inbox.take <;> simp
  | send | closeSend | setHeader | setTrailer | finish => simp [Session.call]

/-- Whether a handler rests depends on the inbox of its session alone. -/
theorem step_eq_none_of_inbox {t : Task} {d d' : Desk} (hinbox : d'.session.inbox = d.session.inbox)
    (h : t.step d = none) : t.step d' = none := by
  have hstep : ∀ d : Desk, t.step d = none ↔
      t.move = .rest ∨ ∃ c, t.move = .call c ∧ d.session.call d.now c = none := by
    intro d
    unfold Task.step
    split
    · simp_all
    · simp_all
    · next c hmove =>
      simp only [Peer.answer, Desk.answer, hmove]
      cases hcall : d.session.call d.now c <;> simp [hcall]
  rw [hstep] at h ⊢
  simp only [call_eq_none_iff, hinbox] at h ⊢
  exact h

theorem session_of_task? {t : Task} (ht : h.task? id = some t) : t.session = id := by
  simpa using List.find?_some ht

theorem task?_putTask {t u : Task} (hu : h.task? id = some u) (ht : t.session = id) :
    (h.putTask t).task? id = some t := by
  have hcomp : ((fun v : Task => decide (v.session = id)) ∘
      fun v => if v.session = t.session then t else v) = fun v => decide (v.session = id) := by
    funext v
    by_cases hv : v.session = id <;> simp [hv, ht]
  have hsession := session_of_task? hu
  simp only [task?] at hu ⊢
  rw [putTask, List.find?_map, hcomp, hu, Option.map_some, if_pos (hsession.trans ht.symm)]

theorem putTask_eq_self {t : Task} (hh : h.Ordered first) (ht : h.task? id = some t) :
    h.putTask t = h := by
  have hsession := session_of_task? ht
  have hincreasing : (h.tasks.map (·.session)).Pairwise fun a b => a.number < b.number :=
    hh.aligned ▸ hh.numbered.increasing
  have htasks : h.tasks.map (fun u => if u.session = t.session then t else u) = h.tasks := by
    refine (List.map_congr_left fun u hu => ?_).trans (List.map_id _)
    split
    · next hsame =>
      have hfound : h.task? u.session = some u := Manager.find?_of_increasing hincreasing hu
      rw [hsame, hsession, ht] at hfound
      exact Option.some.inj hfound
    · rfl
  rw [putTask, htasks]

/-- After its turn a handler rests. -/
theorem rests_settle (now : Instant) (id : SessionId) (h : Host) :
    (h.settle now id).state.Rests id := by
  unfold settle
  split
  · next t s htask hfind =>
    have hrest := Task.step_run t ({ session := s, now } : Desk)
    have hsession := Task.session_run t ({ session := s, now } : Desk)
    have hid := (Desk.precedes_run t ({ session := s, now } : Desk)).id
    generalize t.run ({ session := s, now } : Desk) = ran at hrest hsession hid
    have hsession : ran.1.session = id := hsession.trans (session_of_task? htask)
    intro u v hu hv now'
    cases (task?_putTask htask hsession).symm.trans hu
    cases (Manager.find?_put hfind hid).symm.trans hv
    exact step_eq_none_of_inbox (d := ran.2.1) rfl hrest
  · next hnone =>
    intro t s ht hs
    exact absurd hs (hnone t s ht)

theorem settle_of_rests (hh : h.Ordered first) (hrests : h.Rests id) (now : Instant) :
    h.settle now id = { answer := (), state := h } := by
  unfold settle
  split
  · next t s htask hfind =>
    rw [Task.run_of_step (hrests t s htask hfind now)]
    have hput : h.manager.put s = h.manager :=
      Manager.put_eq_self hh.numbered (by rwa [Manager.id_of_find? hfind])
    dsimp only
    rw [hput, putTask_eq_self hh htask]
    rfl
  · rfl

end Host
end Switchboard
