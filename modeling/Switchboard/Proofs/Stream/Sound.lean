import Switchboard.Proofs.Stream.Birth
import Switchboard.Proofs.Stream.Effect

/-!
# Sound — what a run keeps true of a session

`Sound` holds of a fresh session and no operation breaks it, so it holds after every run.
What can only go one way is here too: halves close, readiness is gained, and a session
that was ended by force stays as it is and says nothing more.
-/

namespace Switchboard

theorem Frame.isTerminal_closing (outcome : Except StreamError Unit) :
    (Frame.closing outcome).kind.isTerminal = true := by
  cases outcome <;> rfl

/-- Taking a chunk moves chunks and changes nothing else. -/
theorem Inbox.eq_of_take {b rest : Inbox} {chunk : Bytes} {moved : Nat}
    (htake : b.take = .chunk chunk moved rest) :
    rest = { b with chunks := rest.chunks, waiting := rest.waiting } := by
  unfold take at htake
  split at htake
  · cases htake
    rfl
  · cases htake
    rfl
  · split at htake <;> cases htake

theorem Inbox.sender_take {b rest : Inbox} {chunk : Bytes} {moved : Nat}
    (htake : b.take = .chunk chunk moved rest) : rest.sender = b.sender := by
  rw [eq_of_take htake]

namespace Outbox

@[simp] theorem ready_setHeader (key value : String) (o : Outbox) :
    (o.setHeader key value).ready = o.ready := by
  unfold setHeader
  split <;> rfl

@[simp] theorem pending_setHeader (key value : String) (o : Outbox) :
    (o.setHeader key value).pending = o.pending := by
  unfold setHeader
  split <;> rfl

theorem exists_pending_stage (f : Frame) (o : Outbox) :
    ∃ front, (o.stage f).pending = front ++ [f] := by
  rw [pending_stage, staged, ← List.append_assoc]
  exact ⟨_, rfl⟩

end Outbox

namespace Session

variable {s : Session} {op : Operation} {r : Response} {t : Turn}

/-! ## One operation -/

theorem Sound.ready_staged (h : s.Sound) (f : Frame) :
    (s.outbox.stage f).flush.2.ready = s.halves.ready := by
  rw [Outbox.ready_flush, Outbox.ready_stage, h.ready]

theorem Sound.flushed_staged (h : s.Sound) (f : Frame) (hready : s.halves.ready = true) :
    (s.outbox.stage f).flush.2.pending = [] := by
  rw [Outbox.pending_flush, Outbox.ready_stage, h.ready, if_pos hready]

/-- Before the front end is ready, the end of the output is kept back. -/
theorem Sound.closing_staged (h : s.Sound) (outcome : Except StreamError Unit)
    (hunready : s.halves.ready = false) :
    ∃ front last, (s.outbox.stage (.closing outcome)).flush.2.pending = front ++ [last] ∧
      last.kind.isTerminal = true := by
  have hkept : (s.outbox.stage (.closing outcome)).flush.2.pending =
      (s.outbox.stage (.closing outcome)).pending := by
    rw [Outbox.pending_flush, Outbox.ready_stage, h.ready, hunready]
    rfl
  obtain ⟨front, hstaged⟩ := s.outbox.exists_pending_stage (.closing outcome)
  exact ⟨front, .closing outcome, hkept.trans hstaged, Frame.isTerminal_closing outcome⟩

/-- **No operation makes a session unsound.** -/
theorem Effect.sound (heffect : Effect s op r t) (h : s.Sound) : t.session.Sound := by
  cases heffect with
  | refused | gone | inputWasClosed | denied | interrupted | exhausted | outputWasClosed
  | escaped => exact h
  | accepted | blocked => exact { h with }
  | closedInput hlive hopen =>
    have hcause := h.cause_of_live hlive
    refine { h with live := ?_, terminal := ?_, sender := rfl, accepts := ?_ }
    · simp [Turn.still, Halves.closeInput, hcause]
    · intro hforced
      exact absurd hcause hforced
    · intro hopen
      cases hopen
  | closed hlive =>
    refine { h with silenced := rfl, live := ?_, terminal := ?_, sender := rfl,
                    accepts := ?_, closing := ?_ }
    · simp
    · intro _
      rfl
    · intro hopen
      cases hopen
    · intro hcause
      cases hcause
  | readied hlive =>
    have hcause := h.cause_of_live hlive
    refine { h with live := ?_, ready := rfl, flushed := ?_, closing := ?_ }
    · cases hopen : s.halves.inputOpen <;>
        simp [Halves.markReady, Halves.isTerminal, hcause, hopen]
    · intro _
      rfl
    · intro _ _ hunready
      cases hunready
  | expired hlive | stopped hlive =>
    refine { h with silenced := rfl, live := ?_, terminal := ?_, flushed := ?_, sender := rfl,
                    accepts := ?_, closing := ?_ }
    · simp [struck]
    · intro _
      rfl
    · intro _
      rfl
    · intro hopen
      cases hopen
    · intro hcause
      cases hcause
  | received htake => exact { h with sender := (Inbox.sender_take htake).trans h.sender }
  | sent hcause hopen honce =>
    have hlive : s.live = true := h.live.mpr ⟨hcause, .inr (.inl hopen)⟩
    refine { h with live := ?_, ready := h.ready_staged _, flushed := h.flushed_staged _,
                    closing := ?_ }
    · simp [hlive, hcause, hopen]
    · intro _ hclosed
      rw [hopen] at hclosed
      cases hclosed
  | closedOutput hcause hopen =>
    refine { h with live := ?_, terminal := ?_, ready := h.ready_staged _,
                    flushed := h.flushed_staged _, closing := ?_ }
    · cases hready : s.outbox.ready <;>
        simp [Halves.closeOutput, hcause, hready, Outbox.pending_stage_ne_nil]
    · intro hforced
      exact absurd hcause hforced
    · intro _ _ hunready
      exact h.closing_staged _ hunready
  | headerSet =>
    refine { h with live := ?_, ready := ?_, flushed := ?_, closing := ?_ }
    · simpa using h.live
    · simpa using h.ready
    · simpa using h.flushed
    · simpa using h.closing
  | trailerSet => exact { h with }
  | @finished _ _ _ outcome _ hverdict hcause hopen =>
    -- With both halves closed the session stays only for what is kept back.
    refine { h with live := ?_, terminal := ?_, ready := h.ready_staged _,
                    flushed := h.flushed_staged _, sender := rfl, accepts := ?_,
                    closing := ?_ }
    · cases hready : s.outbox.ready <;>
        simp [Halves.closeBoth, hcause, hready, Outbox.pending_stage_ne_nil]
    · intro _
      rfl
    · intro hopen'
      cases hopen'
    · intro _ _ hunready
      exact h.closing_staged outcome hunready
  | departed hverdict hclosed =>
    refine { h with live := ?_, terminal := ?_, sender := rfl, accepts := ?_, closing := ?_ }
    · -- Pending output kept the session before, and is all that keeps it now.
      show (s.live && !s.outbox.pending.isEmpty) = true ↔ _
      simp only [Bool.and_eq_true, h.live, Halves.closeBoth]
      by_cases hpending : s.outbox.pending = [] <;> simp [hpending]
    · intro _
      rfl
    · intro hopen
      cases hopen
    · intro hcause _ hready
      rcases hclosed with hforced | hclosed
      · exact absurd hcause hforced
      · exact h.closing hcause hclosed hready

theorem Sound.next (h : s.Sound) (op : Operation) : (s.next op).Sound := (h.effect op).sound h

/-- Only what ends sessions by force ends a session by force, and it retires it. -/
theorem Effect.cause_eq_none_iff (heffect : Effect s op r t) :
    t.session.cause = none ↔
      s.cause = none ∧ ¬ (s.live = true ∧ t.session.live = false ∧ op.forces = true) := by
  cases heffect with
  | refused | gone | inputWasClosed | denied | interrupted | exhausted | outputWasClosed
  | escaped =>
    cases hlive : s.live <;> simp [Turn.still, hlive]
  | closed hlive | expired hlive | stopped hlive =>
    simp [hlive, struck, Operation.forces]
  | accepted | blocked | closedInput | readied | received | sent | closedOutput | headerSet
  | trailerSet | finished | departed => simp [Turn.still, Operation.forces]

theorem Sound.live_of_cause (h : s.Sound) {cause : StreamError} (hcause : s.cause = some cause) :
    s.live = false := by
  cases hlive : s.live with
  | false => rfl
  | true =>
    rw [h.cause_of_live hlive] at hcause
    cases hcause

/-- The first cause stays. -/
theorem Effect.cause_eq_some (heffect : Effect s op r t) (h : s.Sound) {cause : StreamError}
    (hcause : s.cause = some cause) : t.session.cause = some cause := by
  cases heffect with
  | closed hlive | expired hlive | stopped hlive =>
    rw [h.cause_of_live hlive] at hcause
    cases hcause
  | _ => exact hcause

theorem Effect.eq_of_cause (heffect : Effect s op r t) (h : s.Sound)
    {first cause : StreamError} (hwas : s.cause = some first)
    (hcause : t.session.cause = some cause) : first = cause :=
  Option.some.inj ((heffect.cause_eq_some h hwas).symm.trans hcause)

theorem Sound.shut_of_retired (h : s.Sound) (hcause : s.cause = none) (hlive : s.live = false) :
    s.halves.outputOpen = false := by
  cases hopen : s.halves.outputOpen with
  | false => rfl
  | true => exact (h.live.mpr ⟨hcause, .inr (.inl hopen)⟩).symm.trans hlive

/-- **Of a session that is not live nothing is delivered, and it stays so.** -/
theorem Effect.quiet (heffect : Effect s op r t) (h : s.Sound) (hlive : s.live = false) :
    t.frames = [] ∧ t.session.live = false := by
  cases heffect with
  | refused | gone | inputWasClosed | denied | interrupted | received | exhausted | outputWasClosed
  | headerSet | trailerSet | escaped => exact ⟨rfl, hlive⟩
  | accepted halive | blocked halive | closedInput halive | closed halive | readied halive
  | expired halive | stopped halive =>
    rw [hlive] at halive
    cases halive
  | sent hcause hopen | closedOutput hcause hopen | finished _ hcause hopen =>
    rw [h.shut_of_retired hcause hlive] at hopen
    cases hopen
  | departed =>
    refine ⟨rfl, ?_⟩
    simp [hlive]

/-- What can only go one way: halves close, readiness is gained, sessions are retired. -/
structure Precedes (s s' : Session) : Prop where
  id : s'.id = s.id
  shape : s'.shape = s.shape
  inputOpen : s'.halves.inputOpen = true → s.halves.inputOpen = true
  outputOpen : s'.halves.outputOpen = true → s.halves.outputOpen = true
  ready : s.halves.ready = true → s'.halves.ready = true
  live : s'.live = true → s.live = true

theorem Precedes.refl (s : Session) : s.Precedes s :=
  ⟨rfl, rfl, fun h => h, fun h => h, fun h => h, fun h => h⟩

theorem Precedes.trans {s s' s'' : Session} (h : s.Precedes s') (h' : s'.Precedes s'') :
    s.Precedes s'' where
  id := h'.id.trans h.id
  shape := h'.shape.trans h.shape
  inputOpen := fun hopen => h.inputOpen (h'.inputOpen hopen)
  outputOpen := fun hopen => h.outputOpen (h'.outputOpen hopen)
  ready := fun hready => h'.ready (h.ready hready)
  live := fun hlive => h.live (h'.live hlive)

/-- **No operation opens a half again, withdraws readiness or revives a session.** -/
theorem Effect.precedes (heffect : Effect s op r t) (h : s.Sound) : s.Precedes t.session := by
  have hlive : t.session.live = true → s.live = true := by
    intro hlive
    cases hwas : s.live with
    | true => rfl
    | false => exact (heffect.quiet h hwas).2.symm.trans hlive
  have hshut : ∀ b : Bool, false = true → b = true := by
    intro b hopen
    cases hopen
  cases heffect with
  | readied => exact { Precedes.refl s with ready := fun _ => rfl, live := hlive }
  | closedInput => exact { Precedes.refl s with inputOpen := hshut _, live := hlive }
  | closedOutput => exact { Precedes.refl s with outputOpen := hshut _, live := hlive }
  | closed | expired | stopped | finished | departed =>
    exact { Precedes.refl s with inputOpen := hshut _, outputOpen := hshut _, live := hlive }
  | _ => exact { Precedes.refl s with }

/-- What retires a session in its own time has found the front end ready. -/
theorem Sound.ready_of_retired (h : s.Sound) (hcause : s.cause = none)
    (hlive : s.live = false) : s.halves.ready = true := by
  cases hready : s.halves.ready with
  | true => rfl
  | false =>
    obtain ⟨front, last, hpending, -⟩ := h.closing hcause (h.shut_of_retired hcause hlive) hready
    have howed : s.outbox.pending ≠ [] := by simp [hpending]
    exact hlive.symm.trans (h.live.mpr ⟨hcause, .inr (.inr howed)⟩)

/-- As long as a session is not ended by force, it is ready from the signal on. -/
theorem Effect.ready_iff (heffect : Effect s op r t) (h : s.Sound)
    (hcause : t.session.cause = none) :
    t.session.halves.ready = true ↔
      s.halves.ready = true ∨ (op.isMarkReady && !r.refused) = true := by
  cases heffect with
  | refused hrefused => simp [Turn.still, hrefused]
  | gone hlive => simp [h.ready_of_retired hcause hlive]
  | readied => simp [Halves.markReady, Operation.isMarkReady, Response.refused]
  | closed | expired | stopped => cases hcause
  | _ =>
    simp [Operation.isMarkReady, Turn.still, Halves.closeInput, Halves.closeOutput,
      Halves.closeBoth]

/-! ## A run -/

/-- What an operation with the answer `r` and the turn `t` comes to for a session. -/
def episodeOf (op : Operation) (r : Response) (t : Turn) (s : Session) : Episode :=
  { op, response := r, frames := t.frames, woken := t.woken, before := s.phase?,
    after := t.session.phase? }

@[simp] theorem left_episodeOf : (s.episodeOf op r t).left = (s.live && !t.session.live) := by
  simp [episodeOf, Episode.left]

theorem Effect.isSome_cause (heffect : Effect s op r t) :
    t.session.cause.isSome =
      (s.cause.isSome || ((s.episodeOf op r t).left && op.forces)) := by
  have hiff := heffect.cause_eq_none_iff
  rw [left_episodeOf]
  by_cases hcause : t.session.cause = none
  · obtain ⟨hwas, hnot⟩ := hiff.mp hcause
    have hkept : (s.live && !t.session.live && op.forces) = false := by
      simpa using hnot
    rw [hcause, hwas, hkept]
    rfl
  · have hsome : t.session.cause.isSome = true := Option.isSome_iff_ne_none.mpr hcause
    rw [hsome]
    cases hwas : s.cause with
    | some first => rfl
    | none =>
      -- The cause is new, so the session was live and was ended by force.
      have hforced : s.live = true ∧ t.session.live = false ∧ op.forces = true := by
        simpa [hwas, hcause] using hiff
      rw [hforced.1, hforced.2.1, hforced.2.2]
      rfl

/-- A session that was ready from the signal on still is. -/
theorem Effect.ready_concat {past : History} (heffect : Effect s op r t) (h : s.Sound)
    (hpast : s.cause = none → s.halves.ready = past.readied) (hcause : t.session.cause = none) :
    t.session.halves.ready = History.readied (past ++ [s.episodeOf op r t]) := by
  have hwas : s.cause = none := (heffect.cause_eq_none_iff.mp hcause).1
  have hiff := heffect.ready_iff h hcause
  rw [hpast hwas] at hiff
  rw [History.readied_append, History.readied_singleton, Bool.eq_iff_iff, hiff,
    Bool.or_eq_true]
  rfl

/-- What holds of a sound session and is kept by every effect holds after every run. -/
theorem history_induction {P : History → Session → Prop} {past : History} (h : s.Sound)
    (hstart : P past s)
    (hstep : ∀ {past : History} {s : Session} {op : Operation} {r : Response} {t : Turn},
      s.Sound → Effect s op r t → P past s → P (past ++ [s.episodeOf op r t]) t.session)
    (ops : List Operation) :
    (s.after ops).Sound ∧ P (past ++ s.history ops) (s.after ops) := by
  induction ops generalizing past s with
  | nil =>
    show s.Sound ∧ P (past ++ []) s
    rw [List.append_nil]
    exact ⟨h, hstart⟩
  | cons op ops ih =>
    have hnext := ih (h.next op) (hstep h (h.effect op) hstart)
    rw [List.append_assoc] at hnext
    exact hnext

end Session

namespace History

variable {past : History}

/-- While a session is not there nothing is delivered, the handler makes no call and the
front end neither closes it nor is ready for it. -/
theorem delivered_of_void (hvoid : ∀ e ∈ past, e.Void) : past.delivered = [] :=
  List.flatMap_eq_nil_iff.mpr fun e he => (hvoid e he).frames

theorem calls_of_void (hvoid : ∀ e ∈ past, e.Void) : past.calls = [] := by
  refine List.filterMap_eq_nil_iff.mpr fun e he => ?_
  have hrefused := (hvoid e he).refused
  unfold Episode.accepted?
  split
  · next hresponse =>
    rw [hresponse] at hrefused
    cases hrefused
  · rfl

theorem ended_of_void (hvoid : ∀ e ∈ past, e.Void) : past.ended = false := by
  refine List.any_eq_false.mpr fun e he => ?_
  simp [Episode.left, (hvoid e he).before]

theorem closed_of_void (hvoid : ∀ e ∈ past, e.Void) : past.closed = false := by
  refine List.any_eq_false.mpr fun e he => ?_
  simp [Episode.left, (hvoid e he).before]

theorem readied_of_void (hvoid : ∀ e ∈ past, e.Void) : past.readied = false := by
  refine List.any_eq_false.mpr fun e he => ?_
  simp [(hvoid e he).refused]

end History

namespace Manager

/-- **Invariants of a session in a run.** What holds of a session when it is opened, and
is kept by every effect on a sound session, holds of every session of every run. -/
theorem invariant {P : History → Session → Prop} {capacity earlier : Nat}
    {ops : List Operation} {id : SessionId} {s : Session}
    (hstart : ∀ {past : History} {shape : Shape} {now : Instant}, (∀ e ∈ past, e.Void) →
      P past (.fresh id shape capacity true [] now))
    (hstep : ∀ {past : History} {s : Session} {op : Operation} {r : Response} {t : Turn},
      s.Sound → s.Effect op r t → P past s → P (past ++ [s.episodeOf op r t]) t.session)
    (h : ((fresh capacity earlier).after ops).find? id = some s) :
    s.Sound ∧ P ((fresh capacity earlier).history id ops) s := by
  obtain ⟨before, now, shape, tail, past, -, -, rfl, hvoid, hhistory⟩ :=
    exists_history (wellFormed_fresh capacity earlier) rfl h
  rw [hhistory]
  exact Session.history_induction (Session.sound_fresh id shape capacity true now)
    (hstart hvoid) hstep tail

variable {capacity earlier : Nat} {ops : List Operation} {id : SessionId} {s : Session}

theorem sound (h : ((fresh capacity earlier).after ops).find? id = some s) : s.Sound :=
  (invariant (P := fun _ _ => True) (fun _ => trivial) (fun _ _ _ => trivial) h).1

/-- A session has a cause to tell exactly if it was ended by force. -/
theorem isSome_cause (h : ((fresh capacity earlier).after ops).find? id = some s) :
    s.cause.isSome = ((fresh capacity earlier).history id ops).ended := by
  refine (invariant (P := fun past s => s.cause.isSome = past.ended) ?_ ?_ h).2
  · intro past shape now hvoid
    rw [History.ended_of_void hvoid]
    rfl
  · intro past s op r t _ heffect hpast
    rw [heffect.isSome_cause, hpast, History.ended_append, History.ended_singleton]
    rfl

/-- While a session is not ended by force, it is ready from the front end's signal on. -/
theorem ready_eq_readied (h : ((fresh capacity earlier).after ops).find? id = some s)
    (hcause : s.cause = none) :
    s.halves.ready = ((fresh capacity earlier).history id ops).readied := by
  refine (invariant (P := fun past s => s.cause = none → s.halves.ready = past.readied)
    ?_ ?_ h).2 hcause
  · intro past shape now hvoid _
    rw [History.readied_of_void hvoid]
    rfl
  · intro past s op r t hs heffect hpast
    exact heffect.ready_concat hs hpast

end Manager
end Switchboard
