import Switchboard.Proofs.Stream.Hosting

/-!
# Again — what the front end says twice

The front end may close a session, close its input or signal readiness at any time, also
for a session that is closed for ever. What it gets for an answer depends on the identity
alone: it is an error if that was never given out. And to say the same again at once changes
nothing any more, but for the idle clock of a live session that is ready once more.
-/

namespace Switchboard

namespace Session

variable {s : Session} {now : Instant}

/-- Sets the idle clock. -/
def touch (now : Instant) (s : Session) : Session := { s with lastActivity := now }

theorem Regular.touch (h : s.Regular) (now : Instant) : (s.touch now).Regular :=
  ⟨⟨h.untouched, h.mute, h.ready, h.flushed⟩, h.undrained⟩

theorem Precedes.retired {t : Session} (h : s.Precedes t) (hlive : s.live = false) :
    t.live = false := Bool.eq_false_iff.mpr fun ht => by simp [h.live ht] at hlive

theorem Precedes.shut {t : Session} (h : s.Precedes t) (hshut : s.halves.inputOpen = false) :
    t.halves.inputOpen = false := Bool.eq_false_iff.mpr fun ht => by simp [h.inputOpen ht] at hshut

theorem deliver_nil (s : Session) : s.deliver [] = .still s := by
  have hquiet : s.hangsUpWithin 0 = false := by
    simp only [hangsUpWithin, Nat.add_zero, Bool.and_eq_false_iff, List.any_eq_false]
    refine .inr fun k _ => ?_
    simp only [Bool.and_eq_true, decide_eq_true_eq]
    omega
  unfold Session.deliver
  split
  · simp [hquiet, Turn.still]
  · rfl

theorem inputOpen_closeInput (now : Instant) (s : Session) :
    (s.closeInput now).halves.inputOpen = false := by
  unfold Session.closeInput retireIfDrained
  split <;> split <;> simp_all [Halves.closeInput]

theorem ready_markReady (now : Instant) (s : Session) :
    (s.markReady now).session.halves.ready = true := by
  simp only [Session.markReady, Turn.thenSet]
  refine (precedes_retireIfDrained _).ready ?_
  split
  · rfl
  · exact (precedes_deliver _ _).ready rfl

theorem Regular.retireIfDrained_of_live (h : s.Regular) (hlive : s.live = true) :
    s.retireIfDrained = s := by
  rw [Session.retireIfDrained, if_neg (by simp [h.undrained hlive])]

theorem Regular.closeInput_again (h : s.Regular) (hlive : s.live = true)
    (hshut : s.halves.inputOpen = false) (now : Instant) : s.closeInput now = s := by
  rw [Session.closeInput, if_neg (by simp [hshut]), h.retireIfDrained_of_live hlive]

theorem Regular.markReady_again (h : s.Regular) (hlive : s.live = true)
    (hready : s.halves.ready = true) (now : Instant) :
    s.markReady now = .still (s.touch now) := by
  have houtbox : s.outbox.ready = true := h.ready.symm.trans hready
  have hhalves : s.halves.markReady.2 = s.halves := by
    rw [Halves.markReady]
    exact congrArg (fun r => { s.halves with ready := r }) hready.symm
  have hstaged : { s.outbox with ready := true } = s.outbox :=
    congrArg (fun r => { s.outbox with ready := r }) houtbox.symm
  have hflush : s.outbox.flush = ([], s.outbox) := by
    have hempty := h.flushed houtbox
    rw [Outbox.flush, if_pos houtbox, hempty]
    exact congrArg (fun p => ([], { s.outbox with pending := p })) hempty.symm
  have haudible : ¬s.silenced = true := by simp [(h.untouched hlive).2]
  rw [Session.markReady]
  dsimp only
  rw [hhalves, hstaged, if_neg haudible, hflush, deliver_nil]
  exact congrArg Turn.still ((h.touch now).retireIfDrained_of_live hlive)

end Session

/-! ## Who is known to the front end -/

namespace Manager

variable {m : Manager} {s : Session} {first : Nat} {id : SessionId} {f : Session → Turn}

theorem issued_of_mem (hm : m.Numbered first) (hfirst : 0 < first) (hid : id ∈ m.ids) :
    m.counter.issued id.number = true := by
  have hwithin := hm.within id hid
  rw [Counter.issued_iff]
  omega

theorem find?_of_live? (h : m.live? id = some s) : m.find? id = some s ∧ s.live = true :=
  Option.filter_eq_some_iff.mp h

theorem live?_eq_some_iff (hm : m.Numbered first) :
    m.live? id = some s ↔ s ∈ m.registry ∧ s.id = id := by
  rw [registry, List.mem_filter]
  constructor
  · intro h
    obtain ⟨hfind, hlive⟩ := find?_of_live? h
    exact ⟨⟨mem_sessions_of_find? hfind, hlive⟩, id_of_find? hfind⟩
  · rintro ⟨⟨hs, hlive⟩, rfl⟩
    exact Option.filter_eq_some_iff.mpr ⟨find?_of_mem hm.increasing hs, hlive⟩

theorem live?_eq_none_iff (hm : m.Numbered first) : m.live? id = none ↔ id ∉ m.liveIds := by
  simp only [← Option.not_isSome_iff_eq_none, Option.isSome_iff_exists, live?_eq_some_iff hm,
    liveIds, List.mem_map]

/-- What the front end gets for an operation that is no error on a closed session. -/
def verdict (id : SessionId) (m : Manager) : Except StreamError Unit :=
  if m.counter.issued id.number then .ok () else .error (.sessionNotFound id)

theorem lookup_of_live (h : m.live? id = some s) : m.lookup id = .ok (some s) := by
  rw [lookup, h]

theorem lookup_of_retired (h : m.live? id = none) (hissued : m.counter.issued id.number = true) :
    m.lookup id = .ok none := by
  rw [lookup, h]
  exact if_pos hissued

theorem lookup_of_unissued (hm : m.Numbered first) (hfirst : 0 < first)
    (hissued : m.counter.issued id.number = false) :
    m.lookup id = .error (.sessionNotFound id) := by
  have hnone : m.live? id = none := by
    rw [live?_eq_none_iff hm]
    intro hlive
    rw [issued_of_mem hm hfirst (m.liveIds_sublist.mem hlive)] at hissued
    cases hissued
  rw [lookup, hnone]
  exact if_neg (by simp [hissued])

theorem onLive_of_live (h : m.live? id = some s) : m.onLive id f = m.commit (.ok ()) (f s) := by
  rw [onLive, lookup_of_live h]

theorem onLive_of_retired (h : m.live? id = none) :
    m.onLive id f = { answer := m.verdict id, state := m } := by
  unfold onLive verdict lookup
  rw [h]
  dsimp only
  cases m.counter.issued id.number <;> rfl

theorem answer_onLive (hm : m.Numbered first) (hfirst : 0 < first) :
    (m.onLive id f).answer = m.verdict id := by
  cases h : m.live? id with
  | none => rw [onLive_of_retired h]
  | some s =>
    obtain ⟨hs, rfl⟩ := (live?_eq_some_iff hm).mp h
    have hmem : s.id ∈ m.ids := m.liveIds_sublist.mem (List.mem_map_of_mem hs)
    rw [onLive_of_live h, verdict, issued_of_mem hm hfirst hmem]
    rfl

theorem onLive_of_still (hm : m.Numbered first) (hfirst : 0 < first) {t : Session}
    (h : m.live? id = some s) (hf : f s = .still t) :
    m.onLive id f = { answer := m.verdict id, state := m.put t } := by
  rw [← answer_onLive hm hfirst, onLive_of_live h, hf]
  rfl

/-- Sets the idle clock of a session, if it is live. -/
def touch (now : Instant) (id : SessionId) (m : Manager) : Manager :=
  match m.live? id with
  | some s => m.put (s.touch now)
  | none => m

end Manager

/-! ## What the front end says twice -/

namespace Host

variable {first : Nat} {h : Host} {s : Session} {id : SessionId} {f : Session → Turn}

theorem precedes_settle (now : Instant) (hfind : h.manager.find? id = some s) :
    ∃ t, (h.settle now id).state.manager.find? id = some t ∧ s.Precedes t := by
  unfold settle
  split
  · next u s' htask hfind' =>
    cases hfind.symm.trans hfind'
    have hprecedes := Desk.precedes_run u { session := s, now }
    exact ⟨_, Manager.find?_put hfind hprecedes.id, hprecedes⟩
  · exact ⟨s, hfind, .refl s⟩

/-- No handler brings a session back. -/
theorem live?_settle (now : Instant) (hnone : h.manager.live? id = none) :
    (h.settle now id).state.manager.live? id = none := by
  cases hfind : h.manager.find? id with
  | none =>
    have hidle : h.settle now id = { answer := (), state := h } := by
      unfold settle
      rw [hfind]
      split <;> simp_all
    rw [hidle]
    exact hnone
  | some s =>
    obtain ⟨t, ht, hprecedes⟩ := precedes_settle now hfind
    rw [Manager.live?, hfind, Option.filter_some] at hnone
    rw [Manager.live?, ht, Option.filter_some]
    cases hlive : t.live with
    | false => rfl
    | true =>
      rw [hprecedes.live hlive] at hnone
      cases hnone

/-- What an operation makes true of a session for good is true of it once the operation is
done, if it is live then. -/
theorem live?_perform {P : Session → Prop} {now : Instant} (hid : ∀ s, (f s).session.id = s.id)
    (hmakes : ∀ s, P (f s).session) (hkeeps : ∀ s t, s.Precedes t → P s → P t)
    (hs : (h.perform now id (Manager.onLive id f)).state.manager.live? id = some s) : P s := by
  change (settle now id { h with manager := _ }).state.manager.live? id = some s at hs
  cases hlive : h.manager.live? id with
  | none =>
    rw [Manager.onLive_of_retired hlive, live?_settle now hlive] at hs
    cases hs
  | some s₀ =>
    rw [Manager.onLive_of_live hlive] at hs
    have hput := Manager.find?_put (Manager.find?_of_live? hlive).1 (hid s₀)
    obtain ⟨t, ht, hprecedes⟩ := precedes_settle (h := { h with manager := _ }) now hput
    cases ht.symm.trans (Manager.find?_of_live? hs).1
    exact hkeeps _ _ hprecedes (hmakes s₀)

theorem verdict_perform (now : Instant) :
    (h.perform now id (Manager.onLive id f)).state.manager.verdict id = h.manager.verdict id := by
  have hcounter : (h.perform now id (Manager.onLive id f)).state.manager.counter =
      h.manager.counter := by
    refine (counter_settle now id _).trans ?_
    show (h.manager.onLive id f).state.counter = _
    unfold Manager.onLive
    split <;> rfl
  rw [Manager.verdict, hcounter]
  rfl

/-- How a host stands when an operation on a session was done. -/
structure Settled (first : Nat) (id : SessionId) (answer : Except StreamError Unit) (h : Host) :
    Prop where
  ordered : h.Ordered first
  rests : h.Rests id
  verdict : h.manager.verdict id = answer

theorem settled_perform (hh : h.Ordered first) (hfirst : 0 < first) (now : Instant)
    (mop : Operation) (hop : ∀ now shape, mop ≠ .openSession now shape)
    (hstate : (h.manager.onLive id f).state = (h.manager.step mop).state)
    (hactivity : (h.manager.onLive id f).activity = (h.manager.step mop).activity) :
    let o := h.perform now id (Manager.onLive id f)
    o.state.Settled first id o.answer where
  ordered := (carried_perform hh mop hop hstate hactivity).ordered
  rests := rests_settle now id _
  verdict := (verdict_perform now).trans (Manager.answer_onLive hh.numbered hfirst).symm

theorem Ordered.touch (hh : h.Ordered first) (now : Instant) (id : SessionId) :
    ({ h with manager := h.manager.touch now id } : Host).Ordered first := by
  unfold Manager.touch
  split
  · next s hlive =>
    have hs := Manager.mem_sessions_of_find? (Manager.find?_of_live? hlive).1
    have hids := (Manager.keeps_put (s.touch now) h.manager).ids
    refine ⟨⟨hids ▸ hh.numbered.increasing, hids ▸ hh.numbered.within, hh.numbered.counted⟩,
      fun t ht => ?_, hids ▸ hh.aligned⟩
    rcases Manager.mem_put ht with rfl | ht
    · exact (hh.regular s hs).touch now
    · exact hh.regular t ht
  · exact hh

theorem Rests.touch (hrests : h.Rests id) (now : Instant) :
    ({ h with manager := h.manager.touch now id } : Host).Rests id := by
  unfold Manager.touch
  split
  · next s hlive =>
    have hfind := (Manager.find?_of_live? hlive).1
    intro t u ht hu now'
    cases (Manager.find?_put (t := s.touch now) hfind rfl).symm.trans hu
    exact step_eq_none_of_inbox (d := { session := s, now := now' }) rfl (hrests t s ht hfind now')
  · exact hrests

/-- Where the handler still rests after what was done to the manager, that is all. -/
theorem perform_of_rests {α : Type} {op : Manager → Outcome Manager α} {m : Manager} {answer : α}
    (now : Instant) (hh : ({ h with manager := m } : Host).Ordered first)
    (hrests : ({ h with manager := m } : Host).Rests id)
    (hdone : op h.manager = { answer, state := m }) :
    h.perform now id op = { answer, state := { h with manager := m } } := by
  rw [perform, hdone]
  show Outcome.andThen { answer, state := { h with manager := m } } (settle now id) = _
  rw [Outcome.andThen]
  dsimp only
  rw [settle_of_rests hh hrests]
  rfl

/-- An operation that changes nothing sets nothing going. -/
theorem Settled.perform {answer : Except StreamError Unit} (hh : h.Settled first id answer)
    (hfirst : 0 < first) (now : Instant)
    (hf : ∀ s, s.Regular → h.manager.live? id = some s → f s = .still s) :
    h.perform now id (Manager.onLive id f) = { answer, state := h } := by
  have hm := hh.ordered.numbered
  refine perform_of_rests now hh.ordered hh.rests ?_
  rw [← hh.verdict]
  cases hlive : h.manager.live? id with
  | none => exact Manager.onLive_of_retired hlive
  | some s =>
    have hfind := (Manager.find?_of_live? hlive).1
    have hregular := hh.ordered.regular s (Manager.mem_sessions_of_find? hfind)
    rw [Manager.onLive_of_still hm hfirst hlive (hf s hregular hlive), Manager.put_eq_self hm]
    rwa [Manager.id_of_find? hfind]

/-- **A session that was closed is closed.** -/
theorem close_again (hh : h.Ordered first) (hfirst : 0 < first) (now now' : Instant)
    (id : SessionId) :
    let o := h.close now id
    o.state.close now' id = { answer := o.answer, state := o.state } := by
  intro o
  have ho : o.state.Settled first id o.answer :=
    settled_perform hh hfirst now (.close id) nofun rfl rfl
  refine ho.perform hfirst now' fun s _ hlive => ?_
  have hdead : s.live = false :=
    live?_perform (P := fun s => s.live = false) Session.id_close (fun _ => rfl)
      (fun _ _ => Session.Precedes.retired) hlive
  rw [(Manager.find?_of_live? hlive).2] at hdead
  cases hdead

theorem closeInput_again (hh : h.Ordered first) (hfirst : 0 < first) (now now' : Instant)
    (id : SessionId) :
    let o := h.closeInput now id
    o.state.closeInput now' id = { answer := o.answer, state := o.state } := by
  intro o
  have ho : o.state.Settled first id o.answer :=
    settled_perform hh hfirst now (.closeInput now id) nofun rfl rfl
  refine ho.perform hfirst now' fun s hregular hlive => ?_
  have hshut : s.halves.inputOpen = false :=
    live?_perform (P := fun s => s.halves.inputOpen = false) (Session.id_closeInput now)
      (Session.inputOpen_closeInput now) (fun _ _ => Session.Precedes.shut) hlive
  rw [hregular.closeInput_again (Manager.find?_of_live? hlive).2 hshut]

theorem markReady_again (hh : h.Ordered first) (hfirst : 0 < first) (now now' : Instant)
    (id : SessionId) :
    let o := h.markReady now id
    o.state.markReady now' id =
      { answer := o.answer
        state := { o.state with manager := o.state.manager.touch now' id } } := by
  intro o
  have ho : o.state.Settled first id o.answer :=
    settled_perform hh hfirst now (.markReady now id) nofun rfl rfl
  refine perform_of_rests now' (ho.ordered.touch now' id) (ho.rests.touch now') ?_
  rw [← ho.verdict]
  unfold Manager.touch
  cases hlive : o.state.manager.live? id with
  | none => exact Manager.onLive_of_retired hlive
  | some s =>
    obtain ⟨hfind, hlive'⟩ := Manager.find?_of_live? hlive
    have hregular := ho.ordered.regular s (Manager.mem_sessions_of_find? hfind)
    have hready : s.halves.ready = true :=
      live?_perform (P := fun s => s.halves.ready = true) (Session.id_markReady now)
        (Session.ready_markReady now) (fun _ _ => Session.Precedes.ready) hlive
    exact Manager.onLive_of_still ho.ordered.numbered hfirst hlive
      (hregular.markReady_again hlive' hready now')

end Host
end Switchboard
