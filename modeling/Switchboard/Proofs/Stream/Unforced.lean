import Switchboard.Proofs.Stream.Sound
import Switchboard.Proofs.Stream.Stirring

/-!
# Unforced — a session until it is ended by force

The front end may close a session from inside a delivery, and that is a way of ending it by
force. As long as no session was ended so, it is as if nobody would ever do it: the operations
come to the same (`perform_calmed`). So what is known of sessions that nobody closes from inside
a delivery holds of all sessions of all runs, as long as they are not ended by force
(`invariant_unforced`).
-/

namespace Switchboard

namespace Session

/-- The session, but that nobody closes it from inside a delivery. -/
def calmed (s : Session) : Session := { s with hangUps := [] }

end Session

/-- The turn, but that nobody closes the session from inside a delivery later. -/
def Turn.calmed (t : Turn) : Turn := { t with session := t.session.calmed }

namespace Session

variable {s : Session} {now : Instant} {op : Operation} {t t' : Turn}

/-- Unless the turn `t` ends the session by force, `t'` is the same turn of the session that
nobody closes from inside a delivery. -/
def Spared (s : Session) (t t' : Turn) : Prop :=
  t.session.cause = none → s.cause = none ∧ t' = t.calmed

theorem spared_still (s : Session) : s.Spared (.still s) (.still s.calmed) :=
  fun hcause => ⟨hcause, rfl⟩

theorem retireIfDrained_calmed (s : Session) :
    s.calmed.retireIfDrained = s.retireIfDrained.calmed := by
  have hdrained : s.calmed.drained = s.drained := rfl
  unfold retireIfDrained
  rw [hdrained]
  split <;> rfl

theorem cause_retireIfDrained (s : Session) : s.retireIfDrained.cause = s.cause := by
  rw [retireIfDrained_eq]

theorem Spared.retired (h : s.Spared t t') :
    s.Spared (t.thenSet retireIfDrained) (t'.thenSet retireIfDrained) := by
  intro hcause
  obtain ⟨hwas, rfl⟩ := h ((cause_retireIfDrained _).symm.trans hcause)
  exact ⟨hwas, congrArg (fun u => { t with session := u }) (retireIfDrained_calmed _)⟩

theorem Spared.released (h : s.Spared t t') :
    s.Spared (t.andThen release) (t'.andThen release) := by
  intro hcause
  obtain ⟨hwas, rfl⟩ := h hcause
  exact ⟨hwas, rfl⟩

theorem spared_deliver (frames : List Frame) (s : Session) :
    s.Spared (s.deliver frames) (s.calmed.deliver frames) := by
  intro hcause
  have hheard : s.calmed.heard = s.heard := rfl
  have hcalm : ∀ n, s.calmed.hangsUpWithin n = false := fun n => by simp [calmed, hangsUpWithin]
  unfold deliver at hcause ⊢
  rw [hheard, hcalm]
  by_cases hs : s.heard = true
  · rw [if_pos hs] at hcause ⊢
    rw [if_pos hs]
    dsimp only at hcause
    by_cases hhung : s.hangsUpWithin frames.length = true
    · rw [if_pos hhung] at hcause
      cases hwas : s.cause <;> simp [Turn.andThen, close, release, Turn.thenSet, hwas] at hcause
    · rw [if_neg hhung] at hcause ⊢
      exact ⟨hcause, rfl⟩
  · rw [if_neg hs] at hcause ⊢
    rw [if_neg hs]
    exact ⟨hcause, rfl⟩

theorem spared_push (f : Frame) (s : Session) : s.Spared (s.push f) (s.calmed.push f) := by
  have hsilenced : s.calmed.silenced = s.silenced := rfl
  unfold push
  rw [hsilenced]
  split
  · exact spared_still s
  · exact spared_deliver _ { s with outbox := _ }

theorem spared_markReady (now : Instant) (s : Session) :
    s.Spared (s.markReady now) (s.calmed.markReady now) := by
  unfold markReady
  refine Spared.retired ?_
  have hsilenced : s.calmed.silenced = s.silenced := rfl
  dsimp only
  rw [hsilenced]
  split
  · exact spared_still { s with halves := _, outbox := _, lastActivity := now }
  · exact spared_deliver _ { s with halves := _, outbox := _, lastActivity := now }

theorem spared_finish (now : Instant) (outcome : Except StreamError Unit) (s : Session) :
    s.Spared (s.finish now outcome) (s.calmed.finish now outcome) := by
  have htell :
      ({ s.calmed with halves := s.calmed.halves.closeBoth.2, lastActivity := now } :
        Session).farewell s.calmed.halves.outputOpen outcome =
      ({ s with halves := s.halves.closeBoth.2, lastActivity := now } :
        Session).farewell s.halves.outputOpen outcome := rfl
  unfold finish
  refine Spared.retired (Spared.released ?_)
  rw [htell]
  split
  · exact spared_push _ { s with halves := _, lastActivity := now }
  · exact spared_still { s with halves := _, lastActivity := now }

theorem send_calmed (now : Instant) (chunk : Bytes) (s : Session) :
    s.calmed.send now chunk = (s.send now chunk).map fun r => (r.1, r.2.calmed) := by
  have hshape : s.calmed.shape = s.shape := rfl
  have hinbox : s.calmed.inbox = s.inbox := rfl
  unfold send
  rw [hshape, hinbox]
  split
  · rfl
  · split <;> rfl

theorem cause_send {chunk : Bytes} {taken : Bool} {u : Session}
    (h : s.send now chunk = .ok (taken, u)) : u.cause = s.cause := by
  unfold send at h
  split at h
  · cases h
  · split at h
    · cases h
    · cases h
      rfl

theorem cause_offered (now : Instant) (chunk : Bytes) (s : Session) :
    (s.offered now chunk).2.session.cause = s.cause := by
  unfold offered
  split
  · split
    · rfl
    · next hsend => exact cause_send hsend
  · rfl

theorem offered_calmed (now : Instant) (chunk : Bytes) (s : Session) :
    s.calmed.offered now chunk = ((s.offered now chunk).1, (s.offered now chunk).2.calmed) := by
  have hlive : s.calmed.live = s.live := rfl
  unfold offered
  rw [hlive, send_calmed]
  split
  · cases s.send now chunk <;> rfl
  · rfl

theorem spared_closeInput (now : Instant) (s : Session) :
    s.Spared (.still (s.closeInput now)) (.still (s.calmed.closeInput now)) := by
  have hhalves : s.calmed.halves = s.halves := rfl
  unfold closeInput
  rw [hhalves]
  split
  · exact (spared_still
      { s with halves := _, inbox := s.inbox.dropSender, lastActivity := now }).retired
  · exact (spared_still s).retired

theorem spared_close (s : Session) : s.Spared s.close s.calmed.close := by
  intro hcause
  cases hwas : s.cause <;> simp [close, release, Turn.thenSet, hwas] at hcause

/-- Only a session that is not due to end is not ended by force. -/
theorem failIf_of_unforced {due : Bool} {cause : StreamError}
    (h : (s.failIf due cause).session.cause = none) :
    s.cause = none ∧ (s.live && due) = false := by
  unfold failIf at h
  by_cases hdue : (s.live && due) = true
  · rw [if_pos hdue] at h
    cases hcause : s.cause with
    | some e => simp [fail, hcause, Turn.still] at h
    | none =>
      simp only [fail, hcause, Option.getD_some, Turn.thenSet, Turn.andThen] at h
      split at h
      · have hstruck := (spared_deliver _ _ h).1
        cases hstruck
      · cases h
  · rw [if_neg hdue] at h
    exact ⟨h, Bool.eq_false_iff.mpr hdue⟩

theorem spared_failIf (due : Bool) (cause : StreamError) (s : Session) :
    s.Spared (s.failIf due cause) (s.calmed.failIf due cause) := by
  intro hcause
  obtain ⟨hwas, hkept⟩ := failIf_of_unforced hcause
  have hkept' : (s.calmed.live && due) = false := hkept
  refine ⟨hwas, ?_⟩
  simp [failIf, hkept, hkept', Turn.calmed, Turn.still]

theorem spared_whileLive {f : Session → Turn} (hf : s.Spared (f s) (f s.calmed)) :
    s.Spared (s.whileLive f).2 (s.calmed.whileLive f).2 := by
  have hlive : s.calmed.live = s.live := rfl
  unfold whileLive
  rw [hlive]
  dsimp only
  split
  · exact hf
  · exact spared_still s

/-- What a handler's call comes to that may be refused. -/
def Admitted (s : Session) (r r' : Except StreamError Turn) : Prop :=
  (∃ e, r = .error e ∧ r' = .error e) ∨ ∃ t t', r = .ok t ∧ r' = .ok t' ∧ s.Spared t t'

theorem admitted_emit (now : Instant) (payload : Bytes) (s : Session) :
    s.Admitted (s.emit now payload) (s.calmed.emit now payload) := by
  have hcause : s.calmed.cause = s.cause := rfl
  have hhalves : s.calmed.halves = s.halves := rfl
  have honce : (s.calmed.shape = .clientStream ∧ s.calmed.responded = true) =
      (s.shape = .clientStream ∧ s.responded = true) := rfl
  unfold emit
  rw [hcause, hhalves]
  simp only [honce]
  split
  · exact .inl ⟨_, rfl, rfl⟩
  · split
    · exact .inl ⟨_, rfl, rfl⟩
    · split
      · exact .inl ⟨_, rfl, rfl⟩
      · exact .inr ⟨_, _, rfl, rfl, spared_push _ { s with responded := _, lastActivity := now }⟩

theorem admitted_closeOutput (now : Instant) (s : Session) :
    s.Admitted (s.closeOutput now) (s.calmed.closeOutput now) := by
  have hcause : s.calmed.cause = s.cause := rfl
  have hhalves : s.calmed.halves = s.halves := rfl
  unfold closeOutput
  rw [hcause, hhalves]
  split
  · exact .inl ⟨_, rfl, rfl⟩
  · split
    · exact .inr ⟨_, _, rfl, rfl, spared_still s⟩
    · exact .inr ⟨_, _, rfl, rfl,
        (spared_push _ { s with halves := _, lastActivity := now }).retired⟩

theorem call_calmed (now : Instant) (c : Call) (s : Session) :
    (s.call now c = none ∧ s.calmed.call now c = none) ∨
      ∃ a t t', s.call now c = some (a, t) ∧ s.calmed.call now c = some (a, t') ∧
        s.Spared t t' := by
  cases c with
  | receive =>
    have hinbox : s.calmed.inbox = s.inbox := rfl
    simp only [call, receive, hinbox]
    cases s.inbox.take with
    | notYet => exact .inl ⟨rfl, rfl⟩
    | chunk | ended => exact .inr ⟨_, _, _, rfl, rfl, fun hcause => ⟨hcause, rfl⟩⟩
  | send payload =>
    rcases admitted_emit now payload s with ⟨e, hs, hs'⟩ | ⟨t, t', hs, hs', hspared⟩
    · simp only [call, hs, hs']
      exact .inr ⟨_, _, _, rfl, rfl, spared_still s⟩
    · simp only [call, hs, hs']
      exact .inr ⟨_, _, _, rfl, rfl, hspared⟩
  | closeSend =>
    rcases admitted_closeOutput now s with ⟨e, hs, hs'⟩ | ⟨t, t', hs, hs', hspared⟩
    · simp only [call, hs, hs']
      exact .inr ⟨_, _, _, rfl, rfl, spared_still s⟩
    · simp only [call, hs, hs']
      exact .inr ⟨_, _, _, rfl, rfl, hspared⟩
  | setHeader key value | setTrailer key value =>
    exact .inr ⟨_, _, _, rfl, rfl, fun hcause => ⟨hcause, rfl⟩⟩
  | finish ending =>
    simp only [call]
    cases ending.verdict with
    | none => exact .inr ⟨_, _, _, rfl, rfl, spared_still s⟩
    | some outcome => exact .inr ⟨_, _, _, rfl, rfl, spared_finish now outcome s⟩

/-- Unless an operation ends a session by force, it comes to the same where nobody closes the
session from inside a delivery. -/
theorem undergo_calmed (op : Operation) (s : Session)
    (hcause : (s.undergo op).2.session.cause = none) :
    s.cause = none ∧ s.calmed.undergo op = ((s.undergo op).1, (s.undergo op).2.calmed) := by
  have hthen : ∀ {r : Response} {t t' : Turn}, s.Spared t t' → t.session.cause = none →
      s.cause = none ∧ (r, t') = (r, t.calmed) := by
    intro r t t' hspared hcause
    obtain ⟨hwas, rfl⟩ := hspared hcause
    exact ⟨hwas, rfl⟩
  cases op with
  | openSession now shape => exact ⟨hcause, rfl⟩
  | send now id chunk =>
    exact ⟨(cause_offered now chunk s).symm.trans hcause, offered_calmed now chunk s⟩
  | closeInput now id => exact hthen (spared_whileLive (spared_closeInput now s)) hcause
  | close id => exact hthen (spared_whileLive (spared_close s)) hcause
  | markReady now id => exact hthen (spared_whileLive (spared_markReady now s)) hcause
  | expireIdle now timeout => exact hthen (spared_failIf _ _ s) hcause
  | shutdown => exact hthen (spared_failIf _ _ s) hcause
  | call now id c =>
    simp only [undergo] at hcause ⊢
    rcases call_calmed now c s with ⟨hs, hs'⟩ | ⟨a, t, t', hs, hs', hspared⟩
    · rw [hs] at hcause
      rw [hs, hs']
      exact ⟨hcause, rfl⟩
    · rw [hs] at hcause
      rw [hs, hs']
      exact hthen hspared hcause
  | interrupt id =>
    have hsame : s.calmed.cause = s.cause := rfl
    simp only [undergo, hsame] at hcause ⊢
    cases hs : s.cause with
    | none => exact ⟨rfl, rfl⟩
    | some e =>
      rw [hs] at hcause
      cases hs.symm.trans hcause

theorem perform_calmed (hcause : (s.next op).cause = none) :
    s.cause = none ∧ s.calmed.perform op = ((s.perform op).1, (s.perform op).2.calmed) := by
  have hid : s.calmed.id = s.id := rfl
  unfold next perform at hcause
  unfold perform
  rw [hid]
  split
  · next hop =>
    rw [if_pos hop] at hcause
    exact undergo_calmed op s hcause
  · next hop =>
    rw [if_neg hop] at hcause
    exact ⟨hcause, rfl⟩

end Session

namespace Manager

variable {m : Manager} {id : SessionId} {s : Session} {op : Operation} {past : History}
variable {P : History → Session → Prop}

theorem numbered_fresh (capacity earlier : Nat) (heard : Bool)
    (hangUps : List (SessionId × Nat)) :
    Numbered 1 { fresh capacity earlier with heard, hangUps } where
  increasing := .nil
  within := fun _ hid => absurd hid List.not_mem_nil
  counted := Nat.succ_pos earlier

/-- What an operation that names a session comes to. -/
theorem Numbered.undergo_of_find? (hm : m.Numbered 1) (h : m.find? id = some s)
    (hop : op.subject? = some id) :
    (m.step op).state.find? id = some (s.undergo op).2.session ∧
      m.episode id op = s.episodeOf op (s.undergo op).1 (s.undergo op).2 ∧
      (m.step op).answer = (s.undergo op).1 := by
  have hconcerns : op.concerns s.id = true := by
    simp [Operation.concerns, hop, id_of_find? h]
  obtain ⟨hbears, hanswer⟩ := hm.step_bears h op
  have hepisode : m.episode id op = s.episodeOf op (s.perform op).1 (s.perform op).2 :=
    episode_of_bears h hbears hanswer
  rw [← Session.perform_of_concerns hconcerns]
  exact ⟨hbears.session, hepisode, hanswer hop⟩

/-! ## A run -/

/-- The session, if it is there and was not ended by force, is sound and has the property, where
nobody closes it from inside a delivery; before it is there nothing comes of anything. -/
structure Upholds (P : History → Session → Prop) (id : SessionId) (past : History)
    (m : Manager) : Prop where
  void : m.find? id = none → m.counter.issued id.number = false → ∀ e ∈ past, e.Void
  unforced : ∀ s, m.find? id = some s → s.cause = none → s.calmed.Sound ∧ P past s.calmed

/-- A session that is opened starts with the property. -/
def Starts (P : History → Session → Prop) (id : SessionId) (m : Manager) : Prop :=
  ∀ (past : History) (shape : Shape) (now : Instant), (∀ e ∈ past, e.Void) →
    P past (.fresh id shape m.capacity m.heard [] now)

theorem Upholds.void_concat (h : m.Upholds P id past) (hnone : m.find? id = none)
    (hissued : m.counter.issued id.number = false) (op : Operation) :
    ∀ e ∈ past ++ [m.episode id op], e.Void := by
  intro e he
  rcases List.mem_append.mp he with hold | hnew
  · exact h.void hnone hissued e hold
  · rw [List.mem_singleton.mp hnew]
    exact void_episode hnone hissued op

theorem Upholds.step (h : m.Upholds P id past) (hm : m.Numbered 1) (hstart : m.Starts P id)
    (hstep : ∀ {past : History} {s : Session} {op : Operation} {r : Response} {t : Turn},
      s.Sound → s.Effect op r t → P past s → P (past ++ [s.episodeOf op r t]) t.session)
    (op : Operation) : (m.step op).state.Upholds P id (past ++ [m.episode id op]) where
  void := by
    intro hlater hissued
    have hnone : m.find? id = none := by
      cases hfind : m.find? id with
      | none => rfl
      | some u =>
        have hthere := (hm.step_bears hfind op).1.session
        cases hlater.symm.trans hthere
    have hearlier : m.counter.issued id.number = false := by
      rw [Bool.eq_false_iff] at hissued ⊢
      exact fun hwas => hissued (issued_mono (counter_le_step op m) hwas)
    exact h.void_concat hnone hearlier op
  unforced := by
    intro s hs hcause
    cases hfind : m.find? id with
    | none =>
      obtain ⟨now, shape, rfl, hnumber, rfl⟩ := fresh_of_find? hfind hs
      have hissued : m.counter.issued id.number = false := by
        rw [Bool.eq_false_iff, ne_eq, Counter.issued_iff]
        omega
      exact ⟨Session.sound_fresh .., hstart _ shape now (h.void_concat hfind hissued _)⟩
    | some u =>
      obtain ⟨hbears, hanswer⟩ := hm.step_bears hfind op
      have hnext : u.next op = s := Option.some.inj (hbears.session.symm.trans hs)
      subst hnext
      obtain ⟨hwas, hcalmed⟩ := Session.perform_calmed hcause
      obtain ⟨hsound, hp⟩ := h.unforced u hfind hwas
      have hepisode : m.episode id op =
          u.calmed.episodeOf op (u.perform op).1 (u.perform op).2.calmed :=
        episode_of_bears hfind hbears hanswer
      have heffect := hsound.effect op
      rw [hcalmed] at heffect
      rw [hepisode]
      exact ⟨heffect.sound hsound, hstep hsound heffect hp⟩

/-- **Invariants of a session until it is ended by force.** What holds of a session when it is
opened, and is kept by every effect on a sound session, holds of every session of every run that
was not ended by force, whomever the front end closes from inside a delivery. -/
theorem invariant_unforced {capacity earlier : Nat} {heard : Bool}
    {hangUps : List (SessionId × Nat)} {ops : List Operation}
    (hstart : ∀ (past : History) (shape : Shape) (now : Instant), (∀ e ∈ past, e.Void) →
      P past (.fresh id shape capacity heard [] now))
    (hstep : ∀ {past : History} {s : Session} {op : Operation} {r : Response} {t : Turn},
      s.Sound → s.Effect op r t → P past s → P (past ++ [s.episodeOf op r t]) t.session)
    (h : ({ fresh capacity earlier with heard, hangUps }.after ops).find? id = some s)
    (hcause : s.cause = none) :
    s.calmed.Sound ∧
      P ({ fresh capacity earlier with heard, hangUps }.history id ops) s.calmed := by
  let m₀ : Manager := { fresh capacity earlier with heard, hangUps }
  have hrun : ∀ (ops : List Operation) (m : Manager) (past : History), m.Numbered 1 →
      m.capacity = capacity → m.heard = heard → m.Upholds P id past →
      (m.after ops).Upholds P id (past ++ m.history id ops) := by
    intro ops
    induction ops with
    | nil =>
      intro m past _ _ _ hpast
      show m.Upholds P id (past ++ [])
      rw [List.append_nil]
      exact hpast
    | cons op ops ih =>
      intro m past hm hcapacity hheard hpast
      obtain ⟨hcapacity', hheard'⟩ := capacity_step op m
      have hstart : m.Starts P id := by
        unfold Starts
        rw [hcapacity, hheard]
        exact hstart
      have hnext := ih _ _ (hm.step op) (hcapacity'.trans hcapacity) (hheard'.trans hheard)
        (hpast.step hm hstart hstep op)
      rw [List.append_assoc] at hnext
      exact hnext
  have habsent : m₀.find? id = none := rfl
  have hnew : m₀.Upholds P id [] :=
    ⟨fun _ _ _ he => absurd he List.not_mem_nil, fun s hs => nomatch habsent.symm.trans hs⟩
  exact (hrun ops m₀ [] (numbered_fresh ..) rfl rfl hnew).unforced s h hcause

end Manager
end Switchboard
