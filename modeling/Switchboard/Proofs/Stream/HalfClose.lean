import Switchboard.Proofs.Stream.Input
import Switchboard.Proofs.Stream.Trace
import Switchboard.Proofs.Stream.Unforced

/-!
# HalfClose — each half is closed by its own side

The front end closes the input and the handler ends the output, and while the session goes on
neither touches the half of the other. So which halves are open can be read off the history,
each from the calls of one side (`Parted`), and what the two sides are answered follows.
-/

namespace Switchboard

/-! ## The two sides in a history -/

/-- The front end asks to close the input. -/
def Operation.isCloseInput : Operation → Bool
  | closeInput .. => true
  | _ => false

namespace Call

def isCloseSend : Call → Bool
  | closeSend => true
  | _ => false

/-- The handler ends with the call. -/
def isFinish : Call → Bool
  | finish _ => true
  | _ => false

end Call

namespace History

/-- The front end closed the input. -/
def inputShut (h : History) : Bool := h.any fun e => e.op.isCloseInput && !e.response.refused

/-- The handler ended the output. -/
def outputShut (h : History) : Bool := h.calls.any Call.isCloseSend

/-- The handler itself ended. -/
def finished (h : History) : Bool := h.calls.any Call.isFinish

theorem inputShut_concat (h : History) (e : Episode) :
    inputShut (h ++ [e]) = (inputShut h || (e.op.isCloseInput && !e.response.refused)) := by
  simp [inputShut]

theorem outputShut_concat (h : History) (e : Episode) :
    outputShut (h ++ [e]) = (outputShut h || e.accepted?.any Call.isCloseSend) := by
  unfold outputShut
  cases hcall : e.accepted? <;> simp [hcall]

theorem finished_concat (h : History) (e : Episode) :
    finished (h ++ [e]) = (finished h || e.accepted?.any Call.isFinish) := by
  unfold finished
  cases hcall : e.accepted? <;> simp [hcall]

theorem inputShut_of_void {h : History} (hvoid : ∀ e ∈ h, e.Void) : h.inputShut = false := by
  refine List.any_eq_false.mpr fun e he => ?_
  simp [(hvoid e he).refused]

theorem outputShut_of_void {h : History} (hvoid : ∀ e ∈ h, e.Void) : h.outputShut = false := by
  rw [outputShut, calls_of_void hvoid]
  rfl

end History

namespace Session

variable {s : Session} {op : Operation} {r : Response} {t : Turn} {past : History}

/-! ## One operation -/

/-- Until the session is ended by force or its handler ends, each half is open unless its own
side has closed it. -/
def Parted (s : Session) (past : History) : Prop :=
  s.cause = none → past.finished = false →
    s.halves.inputOpen = (s.shape.acceptsInput && !past.inputShut) ∧
      s.halves.outputOpen = !past.outputShut

theorem parted_fresh {id : SessionId} {shape : Shape} {capacity : Nat} {heard : Bool}
    {now : Instant} (hvoid : ∀ e ∈ past, e.Void) :
    (fresh id shape capacity heard [] now).Parted past := by
  intro _ _
  rw [History.inputShut_of_void hvoid, History.outputShut_of_void hvoid]
  exact ⟨(Bool.and_true _).symm, rfl⟩

/-- A session that was not ended by force has both halves closed if it is not live. -/
theorem Sound.halves_of_retired (h : s.Sound) (hcause : s.cause = none)
    (hlive : s.live = false) :
    s.halves.inputOpen = false ∧ s.halves.outputOpen = false := by
  refine ⟨?_, h.shut_of_retired hcause hlive⟩
  cases hopen : s.halves.inputOpen with
  | false => rfl
  | true => exact (h.live.mpr ⟨hcause, .inl hopen⟩).symm.trans hlive

theorem accepted?_of_refused (hrefused : r.refused = true) :
    (s.episodeOf op r t).accepted? = none := by
  unfold Episode.accepted?
  split
  · next hresponse =>
    rw [show r = _ from hresponse] at hrefused
    cases hrefused
  · rfl

/-- An input that is not open is not opened by what is added to the history. -/
theorem shut_still {accepts shut : Bool} (h : false = (accepts && !shut)) (more : Bool) :
    false = (accepts && !(shut || more)) := by
  cases accepts <;> cases shut <;> first | rfl | cases h

theorem Parted.step (h : s.Parted past) (hs : s.Sound) (heffect : Effect s op r t) :
    t.session.Parted (past ++ [s.episodeOf op r t]) := by
  intro hcause hgoing
  have hwas : s.cause = none := (heffect.cause_eq_none_iff.mp hcause).1
  rw [History.finished_concat, Bool.or_eq_false_iff] at hgoing
  obtain ⟨hin, hout⟩ := h hwas hgoing.1
  have hgoing := hgoing.2
  rw [History.inputShut_concat, History.outputShut_concat, (heffect.precedes hs).shape]
  cases heffect with
  | refused hrefused =>
    rw [accepted?_of_refused hrefused]
    simp [episodeOf, hrefused, hin, hout]
  | gone hlive =>
    -- The session was retired in its own time, so there was nothing left to close.
    obtain ⟨hinput, houtput⟩ := hs.halves_of_retired hwas hlive
    rw [hinput] at hin
    rw [houtput] at hout
    refine ⟨hinput.trans (shut_still hin _), ?_⟩
    simp [episodeOf, Episode.accepted?, Turn.still, houtput, ← hout]
  | inputWasClosed hclosed =>
    rw [hclosed] at hin
    refine ⟨hclosed.trans (shut_still hin _), ?_⟩
    simp [episodeOf, Episode.accepted?, Turn.still, hout]
  | outputWasClosed _ hclosed =>
    rw [hclosed] at hout
    simp [episodeOf, Episode.accepted?, Operation.isCloseInput, Turn.still, hclosed, hin, ← hout]
  | closed | expired | stopped => cases hcause
  | finished | departed | escaped => cases hgoing
  | _ =>
    simp [episodeOf, Episode.accepted?, Operation.isCloseInput, Call.isCloseSend, Turn.still,
      Response.refused, Halves.closeInput, Halves.closeOutput, Halves.markReady, hin, hout]

/-- The session as its history left it, until it is ended by force: each half as its own side
did, the queue within its bound, and ready from the front end's signal on. -/
structure AsLeft (bound : Nat) (s : Session) (past : History) : Prop where
  parted : s.Parted past
  stocked : s.Stocked bound past
  ready : s.cause = none → s.halves.ready = past.readied

theorem asLeft_fresh {id : SessionId} {shape : Shape} {capacity : Nat} {heard : Bool}
    {now : Instant} (hvoid : ∀ e ∈ past, e.Void) :
    (fresh id shape capacity heard [] now).AsLeft (max capacity 1) past where
  parted := parted_fresh hvoid
  stocked := by
    have hqueue : (fresh id shape capacity true [] now).Stocked (max capacity 1) past :=
      stocked_fresh hvoid
    exact hqueue
  ready := fun _ => (History.readied_of_void hvoid).symm

theorem AsLeft.step {bound : Nat} (h : s.AsLeft bound past) (hs : s.Sound)
    (heffect : Effect s op r t) :
    t.session.AsLeft bound (past ++ [s.episodeOf op r t]) where
  parted := h.parted.step hs heffect
  stocked := h.stocked.step hs heffect
  ready := heffect.ready_concat hs h.ready

/-! ## What either side is answered -/

/-- The front end is refused only if the input is closed. -/
theorem answer_offered (hlive : s.halves.inputOpen = true → s.live = true)
    (hsender : s.inbox.sender = s.halves.inputOpen) (haccepts : s.shape.acceptsInput = true)
    (now : Instant) (id : SessionId) (chunk : Bytes) :
    (s.undergo (.send now id chunk)).1 =
      .sent (if s.halves.inputOpen then .ok (if s.inbox.full then .blocked else .accepted)
        else .error (.inputClosed s.id)) := by
  simp only [undergo, offered, send, haccepts, hsender]
  cases hopen : s.halves.inputOpen with
  | true =>
    rw [hlive hopen]
    cases hfull : s.inbox.full <;> simp [Inbox.offer, hfull]
  | false => cases s.live <;> rfl

/-- A handler that may send more than once is refused only if its output is closed. -/
theorem answer_send (hcause : s.cause = none) (hshape : s.shape ≠ .clientStream) (now : Instant)
    (id : SessionId) (payload : Bytes) :
    (s.undergo (.call now id (.send payload))).1 =
      .answered (if s.halves.outputOpen then .ok none else .error (.sessionClosed s.id)) := by
  have honce : ¬ (s.shape = .clientStream ∧ s.responded = true) := fun h => hshape h.1
  simp only [undergo, call, emit, hcause]
  cases hopen : s.halves.outputOpen with
  | false => rfl
  | true => simp [honce]

/-- To close the input is nothing to the output. -/
theorem undergo_closeInput (now : Instant) (id : SessionId) (s : Session) :
    (s.undergo (.closeInput now id)).2.frames = [] ∧
      (s.undergo (.closeInput now id)).2.session.outbox = s.outbox ∧
      (s.undergo (.closeInput now id)).2.session.halves.outputOpen = s.halves.outputOpen := by
  simp only [undergo, whileLive, closeInput, retireIfDrained_eq]
  cases s.live <;> cases s.halves.inputOpen <;> exact ⟨rfl, rfl, rfl⟩

/-- To end the output is nothing to the input. -/
theorem Effect.of_closeSend {now : Instant} {id : SessionId}
    (heffect : Effect s (.call now id .closeSend) r t) :
    t.woken = [] ∧ t.session.inbox = s.inbox ∧
      t.session.halves.inputOpen = s.halves.inputOpen := by
  cases heffect with
  | refused | gone | denied | closedOutput | outputWasClosed => exact ⟨rfl, rfl, rfl⟩

/-- An output that has ended is pending until the front end is ready. -/
theorem Sound.pending_of_shut (hs : s.Sound) (hcause : s.cause = none)
    (hclosed : s.halves.outputOpen = false) :
    s.outbox.pending ≠ [] ↔ s.halves.ready = false := by
  constructor
  · intro hpending
    cases hready : s.halves.ready with
    | false => rfl
    | true => exact absurd (hs.flushed hready) hpending
  · intro hunready
    obtain ⟨front, last, hpending, -⟩ := hs.closing hcause hclosed hunready
    simp [hpending]

/-- To end an output again is to do nothing. -/
theorem call_closeSend_again (hcause : s.cause = none) (hclosed : s.halves.outputOpen = false)
    (now : Instant) : s.call now .closeSend = some (.ok none, .still s) := by
  simp [call, closeOutput, hcause, hclosed]

end Session

namespace Manager

variable {capacity earlier : Nat} {heard : Bool} {hangUps : List (SessionId × Nat)}
variable {ops : List Operation} {id : SessionId} {s : Session}

theorem asLeft (h : ({ fresh capacity earlier with heard, hangUps }.after ops).find? id = some s)
    (hcause : s.cause = none) :
    s.calmed.Sound ∧ s.calmed.AsLeft (max capacity 1)
      (({ fresh capacity earlier with heard, hangUps } : Manager).history id ops) := by
  refine invariant_unforced (P := fun past s => s.AsLeft (max capacity 1) past) ?_ ?_ h hcause
  · intro past shape now hvoid
    exact Session.asLeft_fresh hvoid
  · intro past s op r t hs heffect hpast
    exact hpast.step hs heffect

/-- **The two halves of a bidirectional session close independently.** As long as the session
is not ended by force and its handler has not ended, what the front end may do depends on
whether it closed the input, and what the handler may do on whether it ended the output. To
close one half leaves the other half and its buffer as they are, unless the front end closes
the session from inside the delivery of the end; to end the output again does nothing at all.
The session stays until both halves are closed, and then for as long as it has output pending,
which is until the front end is ready. -/
theorem halves_close_independently
    (h : ({ fresh capacity earlier with heard, hangUps }.after ops).find? id = some s)
    (hshape : s.shape = .bidi) (hcause : s.cause = none)
    (hfinished : (({ fresh capacity earlier with heard, hangUps } : Manager).history
      id ops).finished = false) :
    let m₀ : Manager := { fresh capacity earlier with heard, hangUps }
    let m := m₀.after ops
    let past := m₀.history id ops
    s.halves.inputOpen = !past.inputShut ∧ s.halves.outputOpen = !past.outputShut ∧
    (∀ now chunk, (m.step (.send now id chunk)).answer =
      .sent (if past.inputShut then .error (.inputClosed id)
        else .ok (if s.inbox.chunks.length = max capacity 1 then .blocked else .accepted))) ∧
    (∀ now payload, (m.step (.call now id (.send payload))).answer =
      .answered (if past.outputShut then .error (.sessionClosed id) else .ok none)) ∧
    (∀ now, (m.episode id (.closeInput now id)).frames = [] ∧
      ∃ s', (m.step (.closeInput now id)).state.find? id = some s' ∧ s'.outbox = s.outbox ∧
        s'.halves.outputOpen = s.halves.outputOpen) ∧
    (∀ now, ∃ s', (m.step (.call now id .closeSend)).state.find? id = some s' ∧
      (s'.cause = none → (m.episode id (.call now id .closeSend)).woken = [] ∧
        s'.inbox = s.inbox ∧ s'.halves.inputOpen = s.halves.inputOpen)) ∧
    (past.outputShut = true → ∀ now,
      m.step (.call now id .closeSend) = { answer := .answered (.ok none), state := m }) ∧
    (id ∈ m.liveIds ↔
      past.inputShut = false ∨ past.outputShut = false ∨ s.outbox.pending ≠ []) ∧
    (past.inputShut = true → past.outputShut = true →
      (s.outbox.pending ≠ [] ↔ past.readied = false)) := by
  intro m₀ m past
  obtain ⟨hs, hparted, hstocked, hready⟩ := asLeft h hcause
  have hstock : Stock (max capacity 1) past.intake past.offered s.inbox := hstocked
  have hready : s.halves.ready = past.readied := hready hcause
  have hm : m.Numbered 1 := (numbered_fresh capacity earlier heard hangUps).after ops
  obtain rfl : s.id = id := id_of_find? h
  have haccepts : s.shape.acceptsInput = true := by rw [hshape]; rfl
  have hout : s.halves.outputOpen = !past.outputShut := (hparted hcause hfinished).2
  have hin : s.halves.inputOpen = !past.inputShut := by
    have hboth : s.halves.inputOpen = (s.shape.acceptsInput && !past.inputShut) :=
      (hparted hcause hfinished).1
    rw [hboth, haccepts, Bool.true_and]
  have hlive : s.live = true ↔ s.cause = none ∧
      (s.halves.inputOpen = true ∨ s.halves.outputOpen = true ∨ s.outbox.pending ≠ []) := hs.live
  have hfull : s.inbox.full = decide (s.inbox.chunks.length = max capacity 1) := by
    rw [Bool.eq_iff_iff, hstock.full_iff, decide_eq_true_iff]
  refine ⟨hin, hout, ?_, ?_, ?_, ?_, ?_, ?_, ?_⟩
  · intro now chunk
    rw [(hm.undergo_of_find? h rfl).2.2,
      Session.answer_offered (fun hopen => hlive.mpr ⟨hcause, .inl hopen⟩) hs.sender haccepts, hin,
      hfull]
    cases past.inputShut <;> simp
  · intro now payload
    rw [(hm.undergo_of_find? h rfl).2.2, Session.answer_send hcause (by rw [hshape]; decide), hout]
    cases past.outputShut <;> rfl
  · intro now
    obtain ⟨hframes, houtbox, hopen⟩ := s.undergo_closeInput now s.id
    obtain ⟨hthere, hepisode, -⟩ :=
      hm.undergo_of_find? h (show (Operation.closeInput now s.id).subject? = some s.id from rfl)
    rw [hepisode]
    exact ⟨hframes, _, hthere, houtbox, hopen⟩
  · intro now
    obtain ⟨hbears, hanswer⟩ := hm.step_bears h (.call now s.id .closeSend)
    refine ⟨_, hbears.session, fun hkept => ?_⟩
    obtain ⟨-, hcalmed⟩ := Session.perform_calmed hkept
    have heffect := hs.effect (.call now s.id .closeSend)
    rw [hcalmed] at heffect
    obtain ⟨hwoken, hinbox, hopen⟩ := heffect.of_closeSend
    rw [episode_of_bears h hbears hanswer]
    exact ⟨hwoken, hinbox, hopen⟩
  · intro hshut now
    have hclosed : s.halves.outputOpen = false := by rw [hout, hshut]; rfl
    exact step_call_still hm h (Session.call_closeSend_again hcause hclosed now)
  · rw [mem_liveIds_iff hm.increasing h, hlive, hin, hout]
    simp [hcause]
  · intro hinput houtput
    have hclosed : s.halves.outputOpen = false := by rw [hout, houtput]; rfl
    rw [← hready]
    exact hs.pending_of_shut hcause hclosed

/-- The handler ended the output, and the front end still sends; the input is closed while a
chunk is queued, and the handler still answers. -/
theorem halves_close_independently_either :
    let quiet : List Operation := [.openSession ⟨0⟩ .bidi, .call ⟨1⟩ ⟨1⟩ .closeSend]
    let shut : List Operation :=
      [.openSession ⟨0⟩ .bidi, .send ⟨1⟩ ⟨1⟩ [7], .closeInput ⟨2⟩ ⟨1⟩]
    (((fresh 1 0).after quiet).step (.send ⟨3⟩ ⟨1⟩ [7])).answer = .sent (.ok .accepted) ∧
      (((fresh 1 0).after shut).step (.call ⟨3⟩ ⟨1⟩ (.send [8]))).answer = .answered (.ok none) ∧
      (⟨1⟩ : SessionId) ∈ ((fresh 1 0).after shut).liveIds := by
  intro quiet shut
  have hquiet : ((fresh 1 0).after quiet).find? ⟨1⟩ =
    some (((fresh 1 0).after quiet).find? ⟨1⟩ |>.get rfl) := rfl
  have hshut : ((fresh 1 0).after shut).find? ⟨1⟩ =
    some (((fresh 1 0).after shut).find? ⟨1⟩ |>.get rfl) := rfl
  obtain ⟨-, -, hsend, -⟩ := halves_close_independently hquiet rfl rfl rfl
  obtain ⟨-, -, -, hemit, -, -, -, hlive, -⟩ := halves_close_independently hshut rfl rfl rfl
  exact ⟨hsend ⟨3⟩ [7], hemit ⟨3⟩ [8], hlive.mpr (.inr (.inl rfl))⟩

end Manager
end Switchboard
