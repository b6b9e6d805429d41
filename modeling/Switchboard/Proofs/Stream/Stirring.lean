import Switchboard.Proofs.Stream.Heard

/-!
# Stirring — what keeps a session from being idle

The idle clock of a session is set by what stirs the session (`Episode.stirs?`): its opening, a
chunk that the front end sends or the handler emits, the close of a half that was open, every
signal that the front end is ready, and the end of the handler. What is refused does not stir,
nor does receiving. So the clock shows when the session was last stirred (`lastStir?`).
-/

namespace Switchboard

/-! ## What stirs a session -/

/-- The reading of the clock, if the session was stirred. A half that closes shows in the
phase; the end of a handler counts once it has an outcome. -/
def Episode.stirs? (e : Episode) : Option Instant :=
  match e.op, e.response with
  | .openSession now _, _ => if e.before.isNone && e.after.isSome then some now else none
  | .send now _ _, .sent (.ok _) => some now
  | .call now _ (.send _), .answered (.ok _) => some now
  | .closeInput now _, _ => if e.before = e.after then none else some now
  | .call now _ .closeSend, _ => if e.before = e.after then none else some now
  | .markReady now _, .done (.ok _) => if e.before.isSome then some now else none
  | .call now _ (.finish ending), .answered _ => if ending.verdict.isSome then some now else none
  | _, _ => none

/-- The reading of the clock when the session was stirred for the last time. -/
def History.lastStir? (h : History) : Option Instant := (h.filterMap Episode.stirs?).getLast?

/-- Nothing was said and nothing shows: nothing stirred. -/
theorem Episode.stirs?_of_still {e : Episode} (hresponse : e.response = .nothing)
    (hphase : e.before = e.after) : e.stirs? = none := by
  unfold stirs?
  rw [hresponse, hphase]
  cases e.after <;> split <;> simp_all

namespace Halves

theorem phase_closeInput_ne {h : Halves} (hopen : h.inputOpen = true)
    (hshape : h.shape.acceptsInput = true) : h.closeInput.2.phase ≠ h.phase := by
  rcases h with ⟨shape, i, o, r⟩
  cases hopen
  cases shape <;> cases o <;> cases r <;> first | decide | cases hshape

theorem phase_closeOutput_ne {h : Halves} (hopen : h.outputOpen = true) :
    h.closeOutput.2.phase ≠ h.phase := by
  rcases h with ⟨shape, i, o, r⟩
  cases hopen
  cases shape <;> cases i <;> cases r <;> decide

end Halves

namespace Session

variable {s t : Session} {now : Instant} {op : Operation}

/-! ## The idle clock -/

@[simp] theorem lastActivity_close (s : Session) :
    s.close.session.lastActivity = s.lastActivity := rfl

@[simp] theorem lastActivity_release (s : Session) :
    s.release.session.lastActivity = s.lastActivity := rfl

@[simp] theorem lastActivity_deliver (frames : List Frame) (s : Session) :
    (s.deliver frames).session.lastActivity = s.lastActivity := by
  unfold deliver
  dsimp only
  split
  · split <;> rfl
  · rfl

@[simp] theorem lastActivity_push (f : Frame) (s : Session) :
    (s.push f).session.lastActivity = s.lastActivity := by
  unfold push
  split
  · rfl
  · exact lastActivity_deliver _ _

@[simp] theorem lastActivity_retireIfDrained (s : Session) :
    s.retireIfDrained.lastActivity = s.lastActivity := by
  unfold retireIfDrained
  split <;> rfl

theorem lastActivity_fail {cause : StreamError} {u : Turn} (h : s.fail cause = some u) :
    u.session.lastActivity = s.lastActivity := by
  unfold fail at h
  split at h
  · cases h
  · cases h
    dsimp only [Turn.andThen]
    split
    · exact lastActivity_deliver _ _
    · rfl

@[simp] theorem lastActivity_failIf (due : Bool) (cause : StreamError) (s : Session) :
    (s.failIf due cause).session.lastActivity = s.lastActivity := by
  unfold failIf
  split
  · cases hfail : s.fail cause with
    | none => rfl
    | some u => exact lastActivity_fail hfail
  · rfl

@[simp] theorem lastActivity_finish (now : Instant) (outcome : Except StreamError Unit)
    (s : Session) : (s.finish now outcome).session.lastActivity = now := by
  simp only [finish, Turn.thenSet, Turn.andThen, lastActivity_retireIfDrained,
    lastActivity_release]
  split
  · exact lastActivity_push _ _
  · rfl

@[simp] theorem lastActivity_markReady (now : Instant) (s : Session) :
    (s.markReady now).session.lastActivity = now := by
  simp only [markReady, Turn.thenSet, lastActivity_retireIfDrained]
  split
  · rfl
  · exact lastActivity_deliver _ _

theorem lastActivity_receive {a : Answer} {u : Turn} (h : s.receive = some (a, u)) :
    u.session.lastActivity = s.lastActivity := by
  unfold receive at h
  split at h <;> cases h <;> rfl

theorem lastActivity_emit {payload : Bytes} {u : Turn} (h : s.emit now payload = .ok u) :
    u.session.lastActivity = now := by
  unfold emit at h
  split at h
  · cases h
  · split at h
    · cases h
    · split at h
      · cases h
      · cases h
        exact lastActivity_push _ _

theorem lastActivity_send {chunk : Bytes} {taken : Bool} (h : s.send now chunk = .ok (taken, t)) :
    t.lastActivity = now := by
  unfold send at h
  split at h
  · cases h
  · split at h
    · cases h
    · cases h
      rfl

/-! ## Halves that close -/

/-- Only a session whose shape takes input has its input open. -/
def Admits (s : Session) : Prop := s.halves.inputOpen = true → s.shape.acceptsInput = true

theorem admits_fresh (id : SessionId) (shape : Shape) (capacity : Nat) (heard : Bool)
    (hangUps : List Nat) (now : Instant) : (fresh id shape capacity heard hangUps now).Admits :=
  fun hopen => hopen

theorem Admits.of_precedes (h : s.Admits) (hlater : s.Precedes t) : t.Admits := by
  intro hopen
  rw [hlater.shape]
  exact h (hlater.inputOpen hopen)

theorem precedes_whileLive {f : Session → Turn} (hf : s.Precedes (f s).session) :
    s.Precedes (s.whileLive f).2.session := by
  unfold whileLive
  dsimp only
  split
  · exact hf
  · exact .refl s

theorem precedes_send {chunk : Bytes} {taken : Bool} (h : s.send now chunk = .ok (taken, t)) :
    s.Precedes t := by
  unfold Session.send at h
  split at h
  · cases h
  · split at h <;> cases h
    exact { Precedes.refl s with }

theorem precedes_closeInput (now : Instant) (s : Session) : s.Precedes (s.closeInput now) := by
  refine Precedes.trans ?_ (precedes_retireIfDrained _)
  split
  · exact { Precedes.refl s with inputOpen := fun hopen => by cases hopen }
  · exact .refl s

theorem precedes_markReady (now : Instant) (s : Session) :
    s.Precedes (s.markReady now).session := by
  refine Precedes.trans ?_ (precedes_retireIfDrained _)
  have hready : ∀ o : Outbox, s.Precedes { s with
      halves := s.halves.markReady.2, lastActivity := now, outbox := o } := fun _ =>
    { Precedes.refl s with ready := fun _ => rfl }
  split
  · exact hready _
  · exact (hready _).trans (precedes_deliver _ _)

theorem precedes_fail {cause : StreamError} {u : Turn} (h : s.fail cause = some u) :
    s.Precedes u.session := by
  unfold fail at h
  split at h
  · cases h
  · have hended : ∀ o : Outbox, s.Precedes { s with
        cause := some cause, halves := s.halves.closeBoth.2,
        inbox := s.inbox.shut, outbox := o } := fun _ =>
      { Precedes.refl s with inputOpen := nofun, outputOpen := nofun }
    have hretired : ∀ u : Session, u.Precedes { u with silenced := true, live := false } :=
      fun u => { Precedes.refl u with live := nofun }
    cases h
    refine Precedes.trans ?_ (hretired _)
    dsimp only [Turn.andThen, release]
    split
    · exact (hended _).trans (precedes_deliver _ _)
    · exact hended _

theorem precedes_failIf (due : Bool) (cause : StreamError) (s : Session) :
    s.Precedes (s.failIf due cause).session := by
  unfold failIf
  split
  · cases hfail : s.fail cause with
    | none => exact .refl s
    | some u => exact precedes_fail hfail
  · exact .refl s

/-- Whatever is done to a session, it goes one way. -/
theorem precedes_undergo (op : Operation) (s : Session) : s.Precedes (s.undergo op).2.session := by
  cases op with
  | openSession now shape => exact .refl s
  | send now id chunk =>
    simp only [undergo, offered]
    split
    · split
      · exact .refl s
      · next hsend => exact precedes_send hsend
    · exact .refl s
  | closeInput now id => exact precedes_whileLive (precedes_closeInput now s)
  | close id => exact precedes_whileLive (precedes_close s)
  | markReady now id => exact precedes_whileLive (precedes_markReady now s)
  | expireIdle now timeout => exact precedes_failIf _ _ s
  | shutdown => exact precedes_failIf _ _ s
  | call now id c =>
    simp only [undergo]
    split
    · next hcall => exact precedes_call hcall
    · exact .refl s
  | interrupt id =>
    simp only [undergo]
    split <;> exact .refl s

/-- A session that changes its phase while it is live is seen to do so. -/
theorem phase?_ne (hlive : s.live = true) (ht : t.live = true → t.phase ≠ s.phase) :
    s.phase? ≠ t.phase? := by
  intro heq
  unfold phase? at heq
  rw [if_pos hlive] at heq
  cases htlive : t.live with
  | false => simp [htlive] at heq
  | true =>
    rw [if_pos htlive] at heq
    exact ht htlive (Option.some.inj heq).symm

theorem eq_of_live_retireIfDrained (h : s.retireIfDrained.live = true) :
    s.retireIfDrained = s := by
  unfold retireIfDrained at h ⊢
  by_cases hdrained : s.drained = true
  · rw [if_pos hdrained] at h
    cases h
  · rw [if_neg hdrained]

/-- To close the input stirs if it was open, and changes nothing if not. -/
theorem closeInput_cases (h : s.Regular) (hadmits : s.Admits) (hlive : s.live = true)
    (now : Instant) :
    (s.phase? ≠ (s.closeInput now).phase? ∧ (s.closeInput now).lastActivity = now) ∨
      s.closeInput now = s := by
  by_cases hopen : s.halves.inputOpen = true
  · refine .inl ⟨phase?_ne hlive fun ht => ?_, ?_⟩
    · unfold Session.closeInput at ht ⊢
      rw [if_pos hopen] at ht ⊢
      rw [eq_of_live_retireIfDrained ht]
      exact Halves.phase_closeInput_ne hopen (hadmits hopen)
    · rw [Session.closeInput, lastActivity_retireIfDrained, if_pos hopen]
  · refine .inr ?_
    have hundrained : ¬s.drained = true := by simp [h.undrained hlive]
    rw [Session.closeInput, if_neg hopen, retireIfDrained, if_neg hundrained]

/-- To close the output stirs if it was open, and changes nothing if not. -/
theorem closeOutput_cases (h : s.Regular) {u : Turn} (hu : s.closeOutput now = .ok u) :
    (s.phase? ≠ u.session.phase? ∧ u.session.lastActivity = now) ∨ u.session = s := by
  unfold Session.closeOutput at hu
  split at hu
  · cases hu
  next hcause =>
  by_cases hopen : s.halves.outputOpen = false
  · rw [if_pos hopen] at hu
    cases hu
    exact .inr rfl
  · rw [if_neg hopen] at hu
    cases hu
    have hopen : s.halves.outputOpen = true := by simpa using hopen
    have hlive : s.live = true := by
      cases hretired : s.live with
      | true => rfl
      | false =>
        rcases h.mute hretired with hended | hshut
        · exact absurd hcause hended
        · rw [hshut] at hopen
          cases hopen
    refine .inl ⟨phase?_ne hlive fun ht => ?_, ?_⟩
    · have hsame := eq_of_live_retireIfDrained ht
      simp only [Turn.thenSet] at ht ⊢
      rw [hsame] at ht ⊢
      rw [phase, halves_push ht]
      exact Halves.phase_closeOutput_ne hopen
    · simp only [Turn.thenSet, lastActivity_retireIfDrained]
      exact lastActivity_push _ _

/-- **What stirs a session sets its clock, and nothing else does.** -/
theorem lastActivity_next (h : s.Regular) (hadmits : s.Admits) (op : Operation) :
    (s.next op).lastActivity = (s.episode op).stirs?.getD s.lastActivity := by
  cases hop : op.concerns s.id with
  | false =>
    have hnothing := perform_of_not_concerns hop
    have hnext : s.next op = s := by rw [next, hnothing, Turn.session_still]
    have hstill : (s.episode op).stirs? = none := by
      refine Episode.stirs?_of_still ?_ ?_
      · simp only [episode, hnothing]
      · simp only [episode, hnext]
    rw [hstill, hnext]
    rfl
  | true =>
  have hperform := perform_of_concerns hop
  simp only [episode, next, hperform]
  cases op with
  | openSession now shape => simp [undergo, Episode.stirs?]
  | send now id chunk =>
    simp only [undergo, offered]
    cases hlive : s.live with
    | false => simp [Episode.stirs?]
    | true =>
      cases hsend : s.send now chunk with
      | error e => simp [Episode.stirs?]
      | ok r =>
        obtain ⟨taken, t⟩ := r
        simpa [Episode.stirs?] using lastActivity_send hsend
  | closeInput now id =>
    simp only [undergo, whileLive]
    cases hlive : s.live with
    | false => simp [Episode.stirs?]
    | true =>
      rcases closeInput_cases h hadmits hlive now with ⟨hphase, hclock⟩ | hsame
      · simp [Episode.stirs?, hphase, hclock]
      · simp [Episode.stirs?, hsame]
  | markReady now id =>
    simp only [undergo, whileLive]
    cases hlive : s.live with
    | false => simp [Episode.stirs?, hlive]
    | true => simp [Episode.stirs?, hlive]
  | close id =>
    simp only [undergo, whileLive]
    cases hlive : s.live <;> simp [Episode.stirs?]
  | expireIdle now timeout | shutdown => simp [undergo, Episode.stirs?]
  | interrupt id =>
    simp only [undergo]
    cases s.cause <;> simp [Episode.stirs?]
  | call now id c =>
    simp only [undergo]
    cases c with
    | receive =>
      cases hcall : s.receive with
      | none => simp [call, hcall, Episode.stirs?]
      | some r =>
        obtain ⟨a, u⟩ := r
        simpa [call, hcall, Episode.stirs?] using lastActivity_receive hcall
    | send payload =>
      cases hemit : s.emit now payload with
      | error e => simp [call, hemit, Episode.stirs?]
      | ok u => simpa [call, hemit, Episode.stirs?] using lastActivity_emit hemit
    | closeSend =>
      cases hclose : s.closeOutput now with
      | error e => simp [call, hclose, Episode.stirs?]
      | ok u =>
        rcases closeOutput_cases h hclose with ⟨hphase, hclock⟩ | hsame
        · simp [call, hclose, Episode.stirs?, hphase, hclock]
        · simp [call, hclose, Episode.stirs?, hsame]
    | setHeader key value | setTrailer key value => simp [call, Episode.stirs?]
    | finish ending =>
      cases hverdict : ending.verdict with
      | none => simp [call, hverdict, Episode.stirs?]
      | some outcome => simp [call, hverdict, Episode.stirs?]

end Session

namespace Manager

variable {m : Manager} {op : Operation} {id : SessionId} {s : Session}

/-! ## Closes from inside deliveries

Which deliveries the front end closes a session from inside is settled when the session is
opened. So in an operation on sessions that are there it makes no difference what is settled
for others, and what `Share` says of managers that are well-formed is true of all. -/

/-- The manager, but that nobody closes from inside a delivery a session that is opened later. -/
def quieted (m : Manager) : Manager := { m with hangUps := [] }

theorem onLive_quieted (id : SessionId) (f : Session → Turn) (m : Manager) :
    m.quieted.onLive id f = (m.onLive id f).within quieted := by
  have hlookup : m.quieted.lookup id = m.lookup id := rfl
  rw [onLive, onLive, hlookup]
  rcases m.lookup id with e | ⟨⟨⟩⟩ <;> rfl

theorem step_quieted (hop : ∀ now shape, op ≠ .openSession now shape) (m : Manager) :
    m.quieted.step op = (m.step op).within quieted := by
  cases op with
  | openSession now shape => exact absurd rfl (hop now shape)
  | send now id chunk =>
    have hlookup : m.quieted.lookup id = m.lookup id := rfl
    simp only [step, send, hlookup]
    rcases m.lookup id with e | ⟨⟨⟩⟩
    · rfl
    · rfl
    · next s =>
      dsimp only
      cases s.send now chunk <;> rfl
  | closeInput now id | close id | markReady now id =>
    exact congrArg (Outcome.map Response.done) (onLive_quieted id _ m)
  | expireIdle now timeout | shutdown => rfl
  | call now id c =>
    have hfind : m.quieted.find? id = m.find? id := rfl
    simp only [step, call, hfind]
    cases m.find? id with
    | none => rfl
    | some s =>
      dsimp only
      cases s.call now c <;> rfl
  | interrupt id =>
    have hfind : m.quieted.find? id = m.find? id := rfl
    simp only [step, hfind]
    cases (m.find? id).bind (·.cause) <;> rfl

theorem Numbered.step_bears (hm : m.Numbered 1) (h : m.find? id = some s) (op : Operation) :
    Bears (m.step op) id (s.perform op).2 ∧
      (op.subject? = some id → (m.step op).answer = (s.perform op).1) := by
  by_cases hop : ∃ now shape, op = .openSession now shape
  · obtain ⟨now, shape, rfl⟩ := hop
    rw [Session.perform_of_concerns rfl]
    exact ⟨(bears_openSession h now shape).map _, nofun⟩
  · have hquiet : m.quieted.WellFormed :=
      wellFormed_iff.mpr ⟨⟨hm.increasing, hm.within, hm.counted⟩, rfl⟩
    have hbears := Manager.step_bears (m := m.quieted) hquiet h op
    rw [step_quieted fun now shape heq => hop ⟨now, shape, heq⟩] at hbears
    exact ⟨⟨hbears.1.session, hbears.1.frames, hbears.1.woken⟩, hbears.2⟩

/-! ## A session that is not there -/

theorem live?_of_absent (h : m.find? id = none) : m.live? id = none := by rw [live?, h]; rfl

/-- A session that is there for the first time was opened by the operation. -/
theorem opens_of_absent (h : m.find? id = none) (hs : (m.step op).state.find? id = some s) :
    ∃ now shape, op = .openSession now shape ∧ s.lastActivity = now ∧ s.live = true := by
  obtain ⟨now, shape, rfl, -, rfl⟩ := fresh_of_find? h hs
  exact ⟨now, shape, rfl, rfl, rfl⟩

theorem send_of_absent (h : m.find? id = none) (now : Instant) (chunk : Bytes) :
    ∃ e, (m.send now id chunk).answer = .error e := by
  rw [send, lookup, live?_of_absent h]
  by_cases hissued : m.counter.issued id.number = true
  · simp [hissued]
  · simp [hissued]

theorem call_of_absent (h : m.find? id = none) (now : Instant) (c : Call) :
    (m.step (.call now id c)).answer = .nothing := by
  simp only [step, call, h]

/-- Nothing but its opening stirs a session that is not there. -/
theorem stirs?_of_absent (h : m.find? id = none) (op : Operation) :
    (m.episode id op).stirs? =
      ((m.step op).state.find? id).map (·.lastActivity) := by
  have hbefore : m.phase? id = none := by rw [phase?, live?_of_absent h]; rfl
  cases hfind : (m.step op).state.find? id with
  | some s =>
    obtain ⟨now, shape, rfl, hclock, hlive⟩ := opens_of_absent h hfind
    have hafter : (m.step (.openSession now shape)).state.phase? id = some s.phase := by
      rw [phase?_of_find? hfind, Session.phase?, if_pos hlive]
    simp [Episode.stirs?, episode, hbefore, hafter, hclock]
  | none =>
    have hafter : (m.step op).state.phase? id = none := by
      rw [phase?, live?_of_absent hfind]
      rfl
    cases op with
    | send now other chunk =>
      by_cases hid : other = id
      · subst hid
        obtain ⟨e, he⟩ := send_of_absent h now chunk
        simp [Episode.stirs?, episode, step, Outcome.map, he, Operation.subject?]
      · simp [Episode.stirs?, episode, Operation.subject?, hid]
    | call now other c =>
      have hnothing : (m.episode id (.call now other c)).response = .nothing := by
        by_cases hid : other = id
        · subst hid
          exact (if_pos rfl).trans (call_of_absent h now c)
        · exact if_neg (by simpa [Operation.subject?] using hid)
      exact Episode.stirs?_of_still hnothing (hbefore.trans hafter.symm)
    | markReady now other =>
      simp only [Episode.stirs?, episode, hbefore]
      split <;> simp_all
    | openSession | closeInput => simp [Episode.stirs?, episode, hbefore, hafter]
    | close | expireIdle | shutdown | interrupt => simp [Episode.stirs?, episode]

/-! ## A run -/

/-- Every session is as operations leave it, and only such as take input have theirs open. -/
def Clocked (m : Manager) : Prop := ∀ s ∈ m.sessions, s.Regular ∧ s.Admits

theorem Clocked.step (h : m.Clocked) (op : Operation) : (m.step op).state.Clocked :=
  every_step
    (fun id shape capacity heard hangUps now =>
      ⟨Session.regular_fresh .., Session.admits_fresh id shape capacity heard hangUps now⟩)
    (fun s op hs => ⟨hs.1.undergo op, hs.2.of_precedes (Session.precedes_undergo op s)⟩) h op

/-- One operation moves the clock of a session exactly if it stirs it. -/
theorem lastActivity_step (hm : m.Numbered 1) (h : m.Clocked) (id : SessionId) (op : Operation) :
    ((m.step op).state.find? id).map (·.lastActivity) =
      (m.episode id op).stirs?.or ((m.find? id).map (·.lastActivity)) := by
  cases hfind : m.find? id with
  | none =>
    rw [stirs?_of_absent hfind, Option.map_none, Option.or_none]
  | some s =>
    obtain ⟨hregular, hadmits⟩ := h s (mem_sessions_of_find? hfind)
    obtain ⟨hbears, hanswer⟩ := hm.step_bears hfind op
    have hnext : (m.step op).state.find? id = some (s.next op) := hbears.session
    rw [hnext, episode_of_bears hfind hbears hanswer, Option.map_some,
      s.lastActivity_next hregular hadmits op]
    cases (s.episode op).stirs? <;> rfl

/-- **The clock shows when the session was last stirred**, or where it stood before the run. -/
theorem lastActivity_after (hm : m.Numbered 1) (h : m.Clocked) (id : SessionId)
    (ops : List Operation) :
    ((m.after ops).find? id).map (·.lastActivity) =
      (m.history id ops).lastStir?.or ((m.find? id).map (·.lastActivity)) := by
  induction ops generalizing m with
  | nil => rfl
  | cons op ops ih =>
    show (((m.step op).state.after ops).find? id).map _ = _
    rw [ih (hm.step op) (h.step op), lastActivity_step hm h]
    show _ = (List.getLast? (List.filterMap Episode.stirs?
      (m.episode id op :: (m.step op).state.history id ops))).or _
    cases hstirs : (m.episode id op).stirs? with
    | none => simp [hstirs, History.lastStir?]
    | some now =>
      simp only [List.filterMap_cons, hstirs, History.lastStir?, List.getLast?_cons]
      cases (List.filterMap Episode.stirs? ((m.step op).state.history id ops)).getLast? <;> rfl

end Manager
end Switchboard
