import Switchboard.Proofs.Stream.Retired

/-!
# Heard — deliveries are made for live sessions only

What `Retired` says of one session is carried over to a manager and to its runs: a delivery
is made for a session that is live, and no session is live that was not so before, unless it
is opened. Once a manager was shut down, nothing more is ever delivered (`Over`).
-/

namespace Switchboard
namespace Manager

variable {m : Manager} {op : Operation} {ops : List Operation} {s : Session} {id : SessionId}

/-- Every session is as operations leave it. -/
def Regular (m : Manager) : Prop := ∀ s ∈ m.sessions, s.Regular

/-! ## One operation -/

/-- What an operation comes to is what it comes to for sessions that are there. -/
structure Touches {α : Type} (m : Manager) (op : Operation) (o : Outcome Manager α) : Prop where
  sessions : ∀ t ∈ o.state.sessions, t ∈ m.sessions ∨ ∃ s ∈ m.sessions, t = (s.undergo op).2.session
  deliveries : ∀ d ∈ o.activity.deliveries,
    ∃ s ∈ m.sessions, d.session = s.id ∧ d.frame ∈ (s.undergo op).2.frames
  stops : m.shuttingDown = true → o.state.shuttingDown = true

theorem Touches.map {α β : Type} {o : Outcome Manager α} (h : Touches m op o) (f : α → β) :
    Touches m op (o.map f) := ⟨h.sessions, h.deliveries, h.stops⟩

theorem touches_idle {α : Type} (m : Manager) (op : Operation) (answer : α) :
    Touches m op { answer, state := m } := ⟨fun _ h => .inl h, nofun, id⟩

theorem mem_put {t : Session} (h : s ∈ (m.put t).sessions) : s = t ∨ s ∈ m.sessions := by
  obtain ⟨u, hu, rfl⟩ := List.mem_map.mp h
  split
  · exact .inl rfl
  · exact .inr hu

theorem touches_commit {α : Type} {t : Turn} (hs : s ∈ m.sessions) (ht : (s.undergo op).2 = t)
    (answer : α) : Touches m op (m.commit answer t) where
  sessions := fun u hu => by
    rcases mem_put hu with rfl | hu
    · exact .inr ⟨s, hs, by rw [ht]⟩
    · exact .inl hu
  deliveries := fun d hd => by
    obtain ⟨f, hf, rfl⟩ := List.mem_map.mp hd
    exact ⟨s, hs, by rw [← ht, Session.id_undergo], by rwa [ht]⟩
  stops := id

theorem live_of_lookup (h : m.lookup id = .ok (some s)) : s ∈ m.sessions ∧ s.live = true := by
  refine ⟨mem_sessions_of_find? (find?_of_lookup h), ?_⟩
  unfold lookup at h
  split at h
  · next hlive =>
    cases h
    exact (Option.filter_eq_some_iff.mp hlive).2
  · split at h <;> cases h

theorem touches_onLive {f : Session → Turn}
    (hf : ∀ s, s.live = true → (s.undergo op).2 = f s) : Touches m op (m.onLive id f) := by
  unfold onLive
  split
  · exact touches_idle m op _
  · exact touches_idle m op _
  · next hlookup =>
    obtain ⟨hmem, hlive⟩ := live_of_lookup hlookup
    exact touches_commit hmem (hf _ hlive) _

theorem touches_failDue (due : Session → Bool) (cause : Session → StreamError) (stop : Bool)
    (hstop : m.shuttingDown = true → stop = true)
    (hf : ∀ s : Session, (s.undergo op).2 = s.failIf (due s) (cause s)) :
    let r := failDue due cause m.sessions
    Touches m op { answer := r.2.2, state := { m with sessions := r.1, shuttingDown := stop },
                   activity := r.2.1 } where
  sessions := fun t ht => by
    have ht : t ∈ (failDue due cause m.sessions).1 := ht
    rw [sessions_failDue] at ht
    obtain ⟨s, hs, rfl⟩ := List.mem_map.mp ht
    exact .inr ⟨s, hs, by rw [hf]⟩
  deliveries := fun d hd => by
    have hmade : (failDue due cause m.sessions).2.1.deliveries = _ :=
      view_failDue rfl Activity.deliveries_append due cause m.sessions
    have hd : d ∈ (failDue due cause m.sessions).2.1.deliveries := hd
    rw [hmade] at hd
    obtain ⟨s, hs, hd⟩ := List.mem_flatMap.mp hd
    obtain ⟨f, hf', rfl⟩ := List.mem_map.mp hd
    exact ⟨s, hs, Session.id_failIf _ _ s, by rwa [hf]⟩
  stops := hstop

/-- An operation opens a session, or it touches only those that are there. -/
theorem step_opens_or_touches (op : Operation) (m : Manager) :
    (∃ now shape, op = .openSession now shape ∧ m.shuttingDown = false ∧
      (m.step op).state = m.withNew now shape ∧ (m.step op).activity = {}) ∨
    Touches m op (m.step op) := by
  cases op with
  | openSession now shape =>
    cases hstop : m.shuttingDown with
    | true =>
      refine .inr ?_
      simp only [step, openSession, hstop, if_true]
      exact ⟨fun _ h => .inl h, fun _ hd => absurd hd List.not_mem_nil, fun _ => rfl⟩
    | false =>
      refine .inl ⟨now, shape, rfl, rfl, ?_, ?_⟩ <;>
        simp [step, openSession, hstop, Outcome.map, withNew]
  | send now id chunk =>
    refine .inr (Touches.map ?_ _)
    unfold send
    split
    · exact touches_idle m _ _
    · exact touches_idle m _ _
    · next hlookup =>
      obtain ⟨hmem, hlive⟩ := live_of_lookup hlookup
      split
      · exact touches_idle m _ _
      · next hsend =>
        refine touches_commit hmem ?_ _
        simp [Session.undergo, Session.offered, hlive, hsend]
  | closeInput now id | close id | markReady now id =>
    refine .inr (Touches.map (touches_onLive fun s hlive => ?_) _)
    simp [Session.undergo, Session.whileLive, hlive]
  | expireIdle now timeout =>
    exact .inr (Touches.map (touches_failDue _ _ m.shuttingDown id fun _ => rfl) _)
  | shutdown =>
    exact .inr (Touches.map (touches_failDue _ _ true (fun _ => rfl) fun _ => rfl) _)
  | call now id c =>
    refine .inr ?_
    simp only [step, call]
    cases hfind : m.find? id with
    | none => exact touches_idle m _ _
    | some s =>
      cases hcall : s.call now c with
      | none =>
        simp only [hcall]
        exact touches_idle m _ _
      | some r =>
        simp only [hcall]
        refine (touches_commit (mem_sessions_of_find? hfind) ?_ _).map _
        simp [Session.undergo, hcall]
  | interrupt id =>
    simp only [step]
    split <;> exact .inr (touches_idle m _ _)

/-- What a fresh session has and every operation keeps, all sessions have. -/
theorem every_step {P : Session → Prop}
    (hfresh : ∀ id shape capacity heard hangUps now,
      P (.fresh id shape capacity heard hangUps now))
    (hundergo : ∀ s op, P s → P (s.undergo op).2.session) (h : ∀ s ∈ m.sessions, P s)
    (op : Operation) : ∀ s ∈ (m.step op).state.sessions, P s := by
  intro t ht
  rcases step_opens_or_touches op m with ⟨now, shape, -, -, hstate, -⟩ | htouches
  · rw [hstate] at ht
    rcases List.mem_append.mp ht with hbefore | hnew
    · exact h t hbefore
    · rw [List.mem_singleton.mp hnew]
      exact hfresh ..
  · rcases htouches.sessions t ht with hbefore | ⟨s, hs, rfl⟩
    · exact h t hbefore
    · exact hundergo s op (h s hs)

theorem Regular.step (h : m.Regular) (op : Operation) : (m.step op).state.Regular :=
  every_step Session.regular_fresh (fun _ op hs => hs.undergo op) h op

theorem mem_liveIds (hs : s ∈ m.sessions) (hlive : s.live = true) : s.id ∈ m.liveIds :=
  List.mem_map.mpr ⟨s, List.mem_filter.mpr ⟨hs, hlive⟩, rfl⟩

/-- Whoever is live after an operation was live before, or was opened by it. -/
theorem liveIds_step (h : m.Regular) (hid : id ∈ (m.step op).state.liveIds) :
    id ∈ m.liveIds ∨ (m.shuttingDown = false ∧ id.number = m.counter.next) := by
  obtain ⟨t, ht, rfl⟩ := List.mem_map.mp hid
  obtain ⟨ht, hlive⟩ := List.mem_filter.mp ht
  rcases step_opens_or_touches op m with ⟨now, shape, -, hopen, hstate, -⟩ | htouches
  · rw [hstate] at ht
    rcases List.mem_append.mp ht with hbefore | hnew
    · exact .inl (mem_liveIds hbefore hlive)
    · rw [List.mem_singleton.mp hnew]
      exact .inr ⟨hopen, rfl⟩
  · rcases htouches.sessions t ht with hbefore | ⟨s, hs, rfl⟩
    · exact .inl (mem_liveIds hbefore hlive)
    · rw [Session.id_undergo]
      cases hbefore : s.live with
      | true => exact .inl (mem_liveIds hs hbefore)
      | false =>
        rw [(Session.undergo_of_retired (h s hs) hbefore op).2] at hlive
        cases hlive

/-- Deliveries are made for live sessions only. -/
theorem liveIds_of_delivery (h : m.Regular) {d : Delivery}
    (hd : d ∈ (m.step op).activity.deliveries) : d.session ∈ m.liveIds := by
  rcases step_opens_or_touches op m with ⟨now, shape, -, -, -, hnothing⟩ | htouches
  · rw [hnothing] at hd
    cases hd
  · obtain ⟨s, hs, hsession, hframe⟩ := htouches.deliveries d hd
    cases hlive : s.live with
    | true => exact hsession ▸ mem_liveIds hs hlive
    | false =>
      rw [(Session.undergo_of_retired (h s hs) hlive op).1] at hframe
      cases hframe

/-! ## A run -/

/-- All that is delivered in the course of a run. -/
def deliveries : List Operation → Manager → List Delivery
  | [], _ => []
  | op :: ops, m => (m.step op).activity.deliveries ++ deliveries ops (m.step op).state

theorem after_append (ops more : List Operation) (m : Manager) :
    m.after (ops ++ more) = (m.after ops).after more := List.foldl_append

theorem deliveries_append (ops more : List Operation) (m : Manager) :
    m.deliveries (ops ++ more) = m.deliveries ops ++ (m.after ops).deliveries more := by
  induction ops generalizing m with
  | nil => rfl
  | cons op ops ih =>
    show _ ++ (m.step op).state.deliveries (ops ++ more) = _
    rw [ih, ← List.append_assoc]
    rfl

theorem Regular.after (h : m.Regular) (ops : List Operation) : (m.after ops).Regular := by
  induction ops generalizing m with
  | nil => exact h
  | cons op ops ih => exact ih (h.step op)

/-- Whoever is live after a run was live before, or was opened in it. -/
theorem liveIds_after (h : m.Regular) (hid : id ∈ (m.after ops).liveIds) :
    id ∈ m.liveIds ∨ (m.counter.next : Int) ≤ id.number := by
  induction ops generalizing m with
  | nil => exact .inl hid
  | cons op ops ih =>
    have hcounter := counter_le_step op m
    rcases ih (h.step op) hid with hlive | hlater
    · rcases liveIds_step h hlive with hlive | ⟨-, hnew⟩
      · exact .inl hlive
      · exact .inr (by omega)
    · exact .inr (by omega)

/-- The same of whom anything is delivered for. -/
theorem liveIds_of_deliveries (h : m.Regular) {d : Delivery} (hd : d ∈ m.deliveries ops) :
    d.session ∈ m.liveIds ∨ (m.counter.next : Int) ≤ d.session.number := by
  induction ops generalizing m with
  | nil => cases hd
  | cons op ops ih =>
    have hcounter := counter_le_step op m
    rcases List.mem_append.mp hd with hnow | hlater
    · exact .inl (liveIds_of_delivery h hnow)
    · rcases ih (h.step op) hlater with hlive | hlater
      · rcases liveIds_step h hlive with hlive | ⟨-, hnew⟩
        · exact .inl hlive
        · exact .inr (by omega)
      · exact .inr (by omega)

/-! ## Sessions that are due -/

/-- The first of the sessions ends if it is live and due, and is as it was otherwise. -/
theorem failDue_cons {s : Session} (h : s.Regular) (due : Session → Bool)
    (cause : Session → StreamError) (ss : List Session) :
    let r := failDue due cause ss
    let ends := s.live && due s
    ∃ t, t.id = s.id ∧ t.live = (s.live && !due s) ∧ (ends = false → t = s) ∧
      (failDue due cause (s :: ss)).1 = t :: r.1 ∧
      (failDue due cause (s :: ss)).2.1.deliveries =
        (if ends && s.owed then [⟨s.id, ⟨.error, Utf8.encode (cause s).message⟩⟩] else []) ++
          r.2.1.deliveries ∧
      (failDue due cause (s :: ss)).2.2 = r.2.2 + if ends then 1 else 0 := by
  dsimp only [failDue]
  cases hends : s.live && due s with
  | true =>
    obtain ⟨hlive, hdue⟩ := Bool.and_eq_true_iff.mp hends
    obtain ⟨t, ht, hid, hframes, hretired⟩ := h.fail_of_live hlive (cause s)
    refine ⟨t.session, hid, ?_, nofun, ?_⟩
    · rw [hretired, hlive, hdue]
      rfl
    · simp only [if_true, ht, Bool.true_and, Activity.deliveries_append, true_and]
      cases howed : s.owed <;> simp [Turn.activity, hframes, howed, hid]
  | false =>
    refine ⟨s, rfl, ?_, fun _ => rfl, by simp⟩
    cases hlive : s.live <;> simp_all

/-- Those that are live and due are counted, and told the cause if they are still owed
something. The others are live afterwards that were so before. -/
theorem failDue_eq {ss : List Session} (h : ∀ s ∈ ss, s.Regular) (due : Session → Bool)
    (cause : Session → StreamError) :
    let r := failDue due cause ss
    r.2.2 = ((ss.filter (·.live)).filter due).length ∧
    r.2.1.deliveries = (((ss.filter (·.live)).filter due).filter (·.owed)).map
      (fun s => ⟨s.id, ⟨.error, Utf8.encode (cause s).message⟩⟩) ∧
    r.1.filter (·.live) = (ss.filter (·.live)).filter (!due ·) := by
  induction ss with
  | nil => simp [failDue]
  | cons s ss ih =>
    obtain ⟨hcount, hdeliveries, hregistry⟩ := ih fun t ht => h t (List.mem_cons_of_mem s ht)
    obtain ⟨t, -, hlive, hkept, hsessions, hmade, hcounted⟩ :=
      failDue_cons (h s List.mem_cons_self) due cause ss
    dsimp only
    rw [hsessions, hmade, hcounted, hcount, hdeliveries]
    cases hs : s.live with
    | false => simp [hs, hlive, hregistry]
    | true =>
      cases hdue : due s with
      | true => cases howed : s.owed <;> simp [hs, hdue, howed, hlive, hregistry]
      | false =>
        rw [hkept (by simp [hdue])]
        simp [hs, hdue, hregistry]

/-! ## The shutdown, and after it -/

theorem failDue_all {ss : List Session} (h : ∀ s ∈ ss, s.Regular) (cause : StreamError) :
    let r := failDue (fun _ => true) (fun _ => cause) ss
    r.2.2 = (ss.filter (·.live)).length ∧
    r.2.1.deliveries = ((ss.filter (·.live)).filter (·.owed)).map
      (fun s => ⟨s.id, ⟨.error, Utf8.encode cause.message⟩⟩) ∧
    ∀ t ∈ r.1, t.live = false := by
  obtain ⟨hcount, hdeliveries, hregistry⟩ := failDue_eq h (fun _ => true) fun _ => cause
  have hall : (ss.filter (·.live)).filter (fun _ => true) = ss.filter (·.live) :=
    List.filter_eq_self.mpr fun _ _ => rfl
  rw [hall] at hcount hdeliveries
  refine ⟨hcount, hdeliveries, fun t ht => Bool.eq_false_iff.mpr fun hlive => ?_⟩
  have hmem : t ∈ (failDue (fun _ => true) (fun _ => cause) ss).1.filter (·.live) :=
    List.mem_filter.mpr ⟨ht, hlive⟩
  rw [hregistry] at hmem
  exact absurd (List.mem_filter.mp hmem).2 (by simp)

/-- The manager opens no more sessions, and none is live. -/
structure Over (m : Manager) : Prop where
  shuttingDown : m.shuttingDown = true
  empty : m.liveIds = []

theorem over_shutdown (h : m.Regular) : m.shutdown.state.Over where
  shuttingDown := rfl
  empty := by
    obtain ⟨-, -, hretired⟩ := failDue_all h .shuttingDown
    refine List.map_eq_nil_iff.mpr (List.filter_eq_nil_iff.mpr fun t ht => ?_)
    simp [hretired t ht]

/-- The shutdown counts the live sessions, and tells those of its cause that are still owed
something. -/
theorem shutdown_eq (h : m.Regular) :
    m.shutdown.answer = m.liveCount ∧
      m.shutdown.activity.deliveries = (m.registry.filter (·.owed)).map
        (fun s => ⟨s.id, ⟨.error, Utf8.encode StreamError.shuttingDown.message⟩⟩) :=
  ⟨(failDue_all h .shuttingDown).1, (failDue_all h .shuttingDown).2.1⟩

theorem Over.step (hover : m.Over) (h : m.Regular) (op : Operation) :
    (m.step op).state.Over ∧ (m.step op).activity.deliveries = [] := by
  refine ⟨⟨?_, List.eq_nil_iff_forall_not_mem.mpr fun id hid => ?_⟩,
    List.eq_nil_iff_forall_not_mem.mpr fun d hd => ?_⟩
  · rcases step_opens_or_touches op m with ⟨now, shape, -, hopen, -⟩ | htouches
    · exact absurd (hopen.symm.trans hover.shuttingDown) (by simp)
    · exact htouches.stops hover.shuttingDown
  · rcases liveIds_step h hid with hlive | ⟨hopen, -⟩
    · simp [hover.empty] at hlive
    · simp [hover.shuttingDown] at hopen
  · have hlive := liveIds_of_delivery h hd
    simp [hover.empty] at hlive

/-- **Nothing comes after it.** -/
theorem Over.after (hover : m.Over) (h : m.Regular) (ops : List Operation) :
    (m.after ops).Over ∧ m.deliveries ops = [] := by
  induction ops generalizing m with
  | nil => exact ⟨hover, rfl⟩
  | cons op ops ih =>
    obtain ⟨hstep, hnothing⟩ := hover.step h op
    obtain ⟨hafter, hnever⟩ := ih hstep (h.step op)
    refine ⟨hafter, ?_⟩
    rw [deliveries, hnothing, hnever, List.append_nil]

end Manager
end Switchboard
