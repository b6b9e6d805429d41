import Switchboard.Proofs.Stream.Again

/-!
# Rest — between operations every handler has gone on as far as it can

An operation on one session sets the handler of that session going and no other; one on all
sessions sets all of them going. Either way, when it is done every handler rests again. That
is why an operation that is refused does nothing: it leaves the manager as it was, and then
nobody has anything to go on with.
-/

namespace Switchboard

/-! ## What is done to one session -/

namespace Manager

variable {m : Manager} {id other : SessionId}

/-- What was done to the manager was done to one session at most. -/
structure Spares (id : SessionId) (m m' : Manager) : Prop where
  others : ∀ other ≠ id, m'.find? other = m.find? other
  shuttingDown : m'.shuttingDown = m.shuttingDown

theorem Spares.refl (id : SessionId) (m : Manager) : Spares id m m := ⟨fun _ _ => rfl, rfl⟩

theorem spares_put {s : Session} (hs : s.id = id) (m : Manager) : Spares id m (m.put s) :=
  ⟨fun _ hne => find?_put_of_ne (hs ▸ hne.symm), rfl⟩

theorem spares_onLive {f : Session → Turn} (hid : ∀ s, (f s).session.id = s.id)
    (id : SessionId) (m : Manager) : Spares id m (m.onLive id f).state := by
  unfold onLive
  split
  · exact .refl id m
  · exact .refl id m
  · next s hlookup => exact spares_put ((hid s).trans (id_of_lookup hlookup)) m

theorem spares_send (now : Instant) (id : SessionId) (chunk : Bytes) (m : Manager) :
    Spares id m (m.send now id chunk).state := by
  unfold send
  split
  · exact .refl id m
  · exact .refl id m
  · next s hlookup =>
    split
    · exact .refl id m
    · next taken t hsend =>
      exact spares_put ((Session.id_send hsend).trans (id_of_lookup hlookup)) m

end Manager

/-! ## Who rests -/

namespace Host

open Manager (Spares)

variable {first : Nat} {h : Host} {id other : SessionId} {now : Instant}

/-- Every handler has gone on as far as it can. -/
def Resting (h : Host) : Prop := ∀ id, h.Rests id

theorem task?_putTask_of_ne {t : Task} (hne : t.session ≠ id) (h : Host) :
    (h.putTask t).task? id = h.task? id := by
  have hcomp : ((fun u : Task => decide (u.session = id)) ∘
      fun u => if u.session = t.session then t else u) = fun u => decide (u.session = id) := by
    funext u
    by_cases hu : u.session = t.session <;> simp [hu]
  simp only [task?]
  rw [putTask, List.find?_map, hcomp]
  cases hfind : h.tasks.find? fun u => decide (u.session = id) with
  | none => rfl
  | some u =>
    have hu : u.session = id := by simpa using List.find?_some hfind
    rw [Option.map_some, if_neg fun heq => hne (heq.symm.trans hu)]

theorem spares_settle (now : Instant) (id : SessionId) (h : Host) :
    Spares id h.manager (h.settle now id).state.manager := by
  unfold settle
  split
  · next t s htask hfind =>
    exact Manager.spares_put ((Desk.precedes_run t _).id.trans (Manager.id_of_find? hfind)) _
  · exact .refl id h.manager

theorem task?_settle_of_ne (now : Instant) (hne : other ≠ id) (h : Host) :
    (h.settle now id).state.task? other = h.task? other := by
  unfold settle
  split
  · next t s htask hfind =>
    have hsession := (Task.session_run t ({ session := s, now } : Desk)).trans
      (session_of_task? htask)
    exact task?_putTask_of_ne (fun heq => hne (heq.symm.trans hsession)) _
  · rfl

/-- A handler whose session was spared still rests. -/
theorem Rests.spared {h' : Host} (hrests : h.Rests id) (htask : h'.task? id = h.task? id)
    (hfind : h'.manager.find? id = h.manager.find? id) : h'.Rests id := by
  intro t s ht hs
  rw [htask] at ht
  rw [hfind] at hs
  exact hrests t s ht hs

theorem Rests.settle_of_ne (hrests : h.Rests other) (now : Instant) (hne : other ≠ id) :
    (h.settle now id).state.Rests other :=
  hrests.spared (task?_settle_of_ne now hne h) ((spares_settle now id h).others other hne)

/-- After the turn of the one handler that may have something to do, every handler rests. -/
theorem resting_settle (now : Instant) (hothers : ∀ other ≠ id, h.Rests other) :
    (h.settle now id).state.Resting := by
  intro other
  by_cases hid : other = id
  · subst hid
    exact rests_settle now other h
  · exact (hothers other hid).settle_of_ne now hid

/-! ## Operations -/

/-- When the operation is done every handler rests, and the manager opens sessions as it did
before. -/
structure Calm {α : Type} (h : Host) (o : Outcome Host α) : Prop where
  resting : h.Resting → o.state.Resting
  shuttingDown : o.state.manager.shuttingDown = h.manager.shuttingDown

theorem calm_perform {α : Type} {op : Manager → Outcome Manager α} (now : Instant)
    (hop : Spares id h.manager (op h.manager).state) : Calm h (h.perform now id op) where
  resting := by
    intro hrests
    refine resting_settle now fun other hne => ?_
    exact (hrests other).spared rfl (hop.others other hne)
  shuttingDown := (spares_settle now id _).shuttingDown.trans hop.shuttingDown

/-- After every handler had its turn, every handler rests. -/
theorem settleAll_eq (now : Instant) (h : Host) :
    (h.settleAll now).state.Resting ∧
      (h.settleAll now).state.manager.shuttingDown = h.manager.shuttingDown := by
  have hfold : ∀ (tasks : List Task) (o : Outcome Host Unit),
      (∀ id ∉ tasks.map (·.session), o.state.Rests id) →
      let o' := tasks.foldl (fun o t => o.andThen (settle now t.session)) o
      o'.state.Resting ∧ o'.state.manager.shuttingDown = o.state.manager.shuttingDown := by
    intro tasks
    induction tasks with
    | nil => exact fun o hrests => ⟨fun id => hrests id List.not_mem_nil, rfl⟩
    | cons t tasks ih =>
      intro o hrests
      have hturn : ∀ id ∉ tasks.map (·.session),
          (settle now t.session o.state).state.Rests id := by
        intro id hid
        by_cases heq : id = t.session
        · subst heq
          exact rests_settle now t.session o.state
        · refine (hrests id ?_).settle_of_ne now heq
          rw [List.map_cons, List.mem_cons]
          exact fun hmem => hmem.elim heq hid
      obtain ⟨hresting, hdown⟩ := ih (o.andThen (settle now t.session)) hturn
      exact ⟨hresting, hdown.trans (spares_settle now t.session o.state).shuttingDown⟩
  refine hfold h.tasks { answer := (), state := h } fun id hid => ?_
  intro t s ht
  exact absurd (List.mem_map.mpr ⟨t, List.mem_of_find?_eq_some ht, session_of_task? ht⟩) hid

theorem calm_send (now : Instant) (id : SessionId) (chunk : Bytes) (h : Host) :
    Calm h (h.send now id chunk) := calm_perform now (Manager.spares_send now id chunk _)

theorem calm_closeInput (now : Instant) (id : SessionId) (h : Host) :
    Calm h (h.closeInput now id) :=
  calm_perform now (Manager.spares_onLive (Session.id_closeInput now) id _)

theorem calm_close (now : Instant) (id : SessionId) (h : Host) : Calm h (h.close now id) :=
  calm_perform now (Manager.spares_onLive Session.id_close id _)

theorem calm_markReady (now : Instant) (id : SessionId) (h : Host) :
    Calm h (h.markReady now id) :=
  calm_perform now (Manager.spares_onLive (Session.id_markReady now) id _)

theorem calm_expireIdle (now asOf : Instant) (timeout : Duration) (h : Host) :
    Calm h (h.expireIdle now asOf timeout) where
  resting := fun _ => (settleAll_eq now _).1
  shuttingDown := (settleAll_eq now _).2

theorem resting_shutdown (now : Instant) (h : Host) : (h.shutdown now).state.Resting :=
  (settleAll_eq now _).1

theorem calm_instruct (now : Instant) (id : SessionId) (i : Instruction) (h : Host) :
    Calm h (h.instruct now id i) := by
  unfold instruct
  split
  · exact ⟨fun hrests => hrests, rfl⟩
  · next t ht =>
    obtain ⟨u, htask, hgive⟩ := Option.bind_eq_some_iff.mp ht
    have hsession : t.session = id := by
      rw [← session_of_task? htask]
      unfold Task.give at hgive
      grind
    refine ⟨fun hrests => ?_, (spares_settle now id _).shuttingDown⟩
    refine resting_settle now fun other hne => ?_
    exact (hrests other).spared (task?_putTask_of_ne (hsession ▸ hne.symm) h) rfl

theorem calm_openSession (now : Instant) (shape : Shape) (handler : Handler) (h : Host) :
    Calm h (h.openSession now shape handler) := by
  unfold openSession Manager.openSession
  cases hdown : h.manager.shuttingDown with
  | true =>
    simp only [if_true]
    exact ⟨fun hrests id => (hrests id).spared rfl rfl, hdown.symm⟩
  | false =>
    simp only [Bool.false_eq_true, if_false]
    refine ⟨fun hrests => ?_, (spares_settle now _ _).shuttingDown.trans hdown.symm⟩
    refine resting_settle now fun other hne => ?_
    refine (hrests other).spared ?_ ?_
    · simp [task?, List.find?_append, Task.ofHandler, hne.symm]
    · simp [Manager.find?, List.find?_append, Session.fresh, hne.symm]

theorem resting_setHeard (hrests : h.Resting) (heard : Bool) :
    ({ h with manager := h.manager.setHeard heard } : Host).Resting := by
  intro id t s ht hs now
  have hmap : (h.manager.setHeard heard).find? id =
      (h.manager.find? id).map fun s => { s with heard } := by
    rw [Manager.find?, Manager.setHeard, List.find?_map]
    rfl
  obtain ⟨u, hu, rfl⟩ := Option.map_eq_some_iff.mp (hmap.symm.trans hs)
  exact step_eq_none_of_inbox (d := { session := u, now }) rfl (hrests id t u ht hu now)

end Host
end Switchboard
