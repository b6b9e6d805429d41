import Switchboard.Proofs.Stream.Sound

/-!
# Input — what the handler receives is what was accepted

An `Intake` follows the sends of a front end through a history: a chunk was accepted when
its send ended well, at once or later, and refused when its send ended with an error; in
between its sender waits. `Stock` ties the intake to the queue. What was accepted and not
received is in the queue, in order, and what waits is outside it.
-/

namespace Switchboard

/-- The chunks of a front end's sends, and those that the handler received. -/
structure Intake where
  -- Of sends that ended well, in the order in which they did.
  accepted : List Bytes := []
  -- Of sends that ended with an error.
  refused : List Bytes := []
  -- Of sends that have not ended, oldest first.
  waiting : List Bytes := []
  received : List Bytes := []

namespace Intake

/-- The oldest send that was waiting ends. -/
def wake (l : Intake) (result : SendResult) : Intake :=
  match l.waiting with
  | [] => l
  | chunk :: rest =>
    match result with
    | .ok () => { l with accepted := l.accepted ++ [chunk], waiting := rest }
    | .error _ => { l with refused := l.refused ++ [chunk], waiting := rest }

/-- What an operation and its answer add to the intake. -/
def enter (l : Intake) (op : Operation) (r : Response) : Intake :=
  match op, r with
  | .send _ _ chunk, .sent (.ok .accepted) => { l with accepted := l.accepted ++ [chunk] }
  | .send _ _ chunk, .sent (.ok .blocked) => { l with waiting := l.waiting ++ [chunk] }
  | .send _ _ chunk, .sent (.error _) => { l with refused := l.refused ++ [chunk] }
  | .call _ _ .receive, .answered (.ok (some chunk)) =>
    { l with received := l.received ++ [chunk] }
  | _, _ => l

/-- What an episode adds to the intake: first its answer, then the sends that it woke. -/
def record (l : Intake) (e : Episode) : Intake := e.woken.foldl wake (l.enter e.op e.response)

/-- Sends that are woken with errors were all refused. -/
theorem foldl_wake_error (e : StreamError) (l : Intake) :
    (l.waiting.map fun _ => (.error e : SendResult)).foldl wake l =
      { l with refused := l.refused ++ l.waiting, waiting := [] } := by
  obtain ⟨accepted, refused, waiting, received⟩ := l
  induction waiting generalizing refused with
  | nil => simp
  | cons chunk rest ih =>
    rw [List.map_cons, List.foldl_cons]
    show List.foldl wake (⟨accepted, refused ++ [chunk], rest, received⟩ : Intake) _ = _
    rw [ih]
    simp

end Intake

namespace History

/-- What became of the input, by the history alone. -/
def intake (h : History) : Intake := h.foldl Intake.record {}

/-- The chunk that the front end sent to the session, whatever came of it. -/
def sentChunk? (e : Episode) : Option Bytes :=
  match e.op, e.response with
  | .send _ _ chunk, .sent _ => some chunk
  | _, _ => none

/-- Every chunk that the front end sent to the session, in order. -/
def offered (h : History) : List Bytes := h.filterMap sentChunk?

theorem intake_concat (h : History) (e : Episode) :
    intake (h ++ [e]) = (intake h).record e := by simp [intake]

theorem offered_concat (h : History) (e : Episode) :
    offered (h ++ [e]) = offered h ++ (sentChunk? e).toList := by
  rw [offered, List.filterMap_append, offered]
  cases hchunk : sentChunk? e <;> simp [hchunk]

end History
/-! ## The intake and the queue -/

/-- The intake of a session's sends agrees with its queue, and the queue keeps its bound. -/
structure Stock (bound : Nat) (l : Intake) (offered : List Bytes) (b : Inbox) : Prop where
  -- What was accepted was received, or is still queued.
  conserved : l.accepted = l.received ++ b.chunks
  waiting : l.waiting = b.waiting
  -- Every chunk sent is accounted for once.
  complete : (l.accepted ++ l.refused ++ l.waiting).Perm offered
  capacity : b.capacity = bound
  bounded : b.chunks.length ≤ bound
  -- Nobody waits for room unless there is none.
  full : b.waiting ≠ [] → b.chunks.length = bound
  settled : b.isOver = true → b.waiting = [] ∧ b.sender = false

namespace Stock

variable {bound : Nat} {l : Intake} {offered : List Bytes} {b : Inbox} {chunk : Bytes}

theorem full_iff (h : Stock bound l offered b) :
    b.full = true ↔ b.chunks.length = bound := by
  have hbounded := h.bounded
  simp only [Inbox.full, h.capacity, decide_eq_true_eq]
  omega

/-- Moving one chunk to the end of the chunks before it changes the order only. -/
theorem perm_insert (xs ys : List Bytes) (chunk : Bytes) :
    (xs ++ [chunk] ++ ys).Perm (xs ++ ys ++ [chunk]) := by
  rw [List.append_assoc, List.append_assoc]
  exact List.Perm.append_left xs List.perm_append_comm

theorem refuse (h : Stock bound l offered b) (chunk : Bytes) :
    Stock bound { l with refused := l.refused ++ [chunk] } (offered ++ [chunk]) b := by
  refine { h with complete := ?_ }
  show (l.accepted ++ (l.refused ++ [chunk]) ++ l.waiting).Perm _
  rw [← List.append_assoc]
  exact (perm_insert _ _ chunk).trans (h.complete.append_right [chunk])

theorem accept (h : Stock bound l offered b) (hroom : b.full = false)
    (chunk : Bytes) :
    Stock bound { l with accepted := l.accepted ++ [chunk] } (offered ++ [chunk])
      { b with chunks := b.chunks ++ [chunk] } := by
  have hspace : b.chunks.length < bound := by
    have hne : b.chunks.length ≠ bound := fun heq => by
      rw [h.full_iff.mpr heq] at hroom
      cases hroom
    exact Nat.lt_of_le_of_ne h.bounded hne
  refine { h with conserved := ?_, complete := ?_, bounded := ?_, full := ?_ }
  · show l.accepted ++ [chunk] = l.received ++ (b.chunks ++ [chunk])
    rw [h.conserved, List.append_assoc]
  · show (l.accepted ++ [chunk] ++ l.refused ++ l.waiting).Perm _
    rw [List.append_assoc (l.accepted ++ [chunk])]
    refine (perm_insert _ _ chunk).trans ?_
    rw [← List.append_assoc]
    exact h.complete.append_right [chunk]
  · show (b.chunks ++ [chunk]).length ≤ _
    rw [List.length_append]
    exact hspace
  · intro hwaiting
    exact absurd (h.full hwaiting) (Nat.ne_of_lt hspace)

theorem block (h : Stock bound l offered b) (hfull : b.full = true) (hopen : b.sender = true)
    (chunk : Bytes) :
    Stock bound { l with waiting := l.waiting ++ [chunk] } (offered ++ [chunk])
      { b with waiting := b.waiting ++ [chunk] } := by
  refine { h with waiting := ?_, complete := ?_, full := ?_, settled := ?_ }
  · show l.waiting ++ [chunk] = b.waiting ++ [chunk]
    rw [h.waiting]
  · show (l.accepted ++ l.refused ++ (l.waiting ++ [chunk])).Perm _
    rw [← List.append_assoc]
    exact h.complete.append_right [chunk]
  · intro _
    exact h.full_iff.mp hfull
  · intro hover
    have hclosed := (h.settled hover).2
    rw [hopen] at hclosed
    cases hclosed

theorem dropSender (h : Stock bound l offered b) : Stock bound l offered b.dropSender :=
  { h with settled := fun hover => ⟨(h.settled hover).1, rfl⟩ }

theorem shut (h : Stock bound l offered b) (e : StreamError) :
    Stock bound ((b.waiting.map fun _ => (.error e : SendResult)).foldl Intake.wake l) offered
      b.shut := by
  rw [← h.waiting, Intake.foldl_wake_error]
  refine { h with waiting := rfl, complete := ?_, full := ?_, settled := fun _ => ⟨rfl, rfl⟩ }
  · show (l.accepted ++ (l.refused ++ l.waiting) ++ []).Perm _
    rw [List.append_nil, ← List.append_assoc]
    exact h.complete
  · intro hwaiting
    exact absurd rfl hwaiting

theorem take (h : Stock bound l offered b) {moved : Nat} {rest : Inbox}
    (htake : b.take = .chunk chunk moved rest) :
    Stock bound
      ((List.replicate moved (.ok () : SendResult)).foldl Intake.wake
        { l with received := l.received ++ [chunk] }) offered rest := by
  unfold Inbox.take at htake
  split at htake
  · next c cs hchunks hwaiting =>
    cases htake
    have hconserved := h.conserved
    have hbounded := h.bounded
    rw [hchunks] at hconserved hbounded
    refine { h with conserved := ?_, bounded := ?_, full := ?_ }
    · rw [List.append_cons] at hconserved
      exact hconserved
    · exact Nat.le_of_succ_le hbounded
    · intro hsome
      exact absurd hwaiting hsome
  · next c cs w ws hchunks hwaiting =>
    cases htake
    have hintake : l.waiting = w :: ws := h.waiting.trans hwaiting
    -- Somebody waited, so the queue was full, and it is full again with the chunk moved in.
    have hfull : b.chunks.length = bound := h.full (by simp [hwaiting])
    have hlength : (cs ++ [w]).length = bound := by
      rw [← hfull, hchunks, List.length_append]
      rfl
    have hwake : (List.replicate 1 (.ok () : SendResult)).foldl Intake.wake
        { l with received := l.received ++ [chunk] } =
        { l with received := l.received ++ [chunk], accepted := l.accepted ++ [w],
                 waiting := ws } := by
      simp [Intake.wake, hintake]
    rw [hwake]
    refine { h with conserved := ?_, waiting := rfl, complete := ?_, bounded := ?_, full := ?_,
                    settled := ?_ }
    · show l.accepted ++ [w] = l.received ++ [chunk] ++ (cs ++ [w])
      rw [h.conserved, hchunks]
      simp
    · show (l.accepted ++ [w] ++ l.refused ++ ws).Perm _
      have hcomplete := h.complete
      rw [hintake, List.append_cons] at hcomplete
      exact ((perm_insert _ _ w).append_right ws).trans hcomplete
    · exact Nat.le_of_eq hlength
    · intro _
      exact hlength
    · intro hover
      have hnone := (h.settled hover).1
      rw [hwaiting] at hnone
      cases hnone
  · split at htake <;> cases htake

/-- Who comes to the end of the input has received all that was accepted. -/
theorem ended (h : Stock bound l offered b) (htake : b.take = .ended) :
    b.sender = false ∧ l.accepted = l.received ∧ l.waiting = [] := by
  unfold Inbox.take at htake
  split at htake
  · cases htake
  · cases htake
  · next hchunks =>
    -- The input is at its end if nobody can send and nobody waits, or if the session is over.
    have hnone : b.sender = false ∧ b.waiting = [] := by
      cases hover : b.isOver with
      | true => exact ⟨(h.settled hover).2, (h.settled hover).1⟩
      | false => simpa [hover] using htake
    refine ⟨hnone.1, ?_, h.waiting.trans hnone.2⟩
    rw [h.conserved, hchunks, List.append_nil]

end Stock
/-! ## One operation -/

namespace Session

variable {s : Session} {op : Operation} {r : Response} {t : Turn} {past : History}
variable {bound : Nat}

/-- The intake of a history and the queue of the session agree. -/
def Stocked (bound : Nat) (s : Session) (past : History) : Prop :=
  Stock bound past.intake past.offered s.inbox

theorem stocked_of_unsent {e : Episode} {l : Intake} (h : Stock bound l past.offered s.inbox)
    (hintake : past.intake.record e = l) (hunsent : History.sentChunk? e = none) :
    s.Stocked bound (past ++ [e]) := by
  unfold Stocked
  rw [History.intake_concat, History.offered_concat, hintake, hunsent]
  show Stock bound l (past.offered ++ []) _
  rw [List.append_nil]
  exact h

/-- An answer that is neither to a send nor to a call is nothing to the intake. -/
theorem Stocked.aside {e : Episode} (h : s.Stocked bound past) (hwoken : e.woken = [])
    (hsent : ∀ result, e.response ≠ .sent result)
    (hanswered : ∀ answer, e.response ≠ .answered answer) : s.Stocked bound (past ++ [e]) := by
  refine stocked_of_unsent h ?_ ?_
  · rw [Intake.record, hwoken]
    show past.intake.enter e.op e.response = past.intake
    unfold Intake.enter
    split
    · next hresponse => exact absurd hresponse (hsent _)
    · next hresponse => exact absurd hresponse (hsent _)
    · next hresponse => exact absurd hresponse (hsent _)
    · next hresponse => exact absurd hresponse (hanswered _)
    · rfl
  · unfold History.sentChunk?
    split
    · next hresponse => exact absurd hresponse (hsent _)
    · rfl

/-- A chunk that was refused is in the intake as such, and never in the queue. -/
theorem Stocked.refused {e : Episode} (h : s.Stocked bound past) (hwoken : e.woken = [])
    (hrefused : e.response.refused = true) : s.Stocked bound (past ++ [e]) := by
  obtain ⟨op, r, frames, woken, before, after⟩ := e
  obtain rfl : woken = [] := hwoken
  cases r with
  | answered answer => cases hrefused
  | opened | done | counted | nothing => exact h.aside rfl nofun nofun
  | sent result =>
    cases result with
    | ok status => cases hrefused
    | error e =>
      have hstock : Stock bound past.intake past.offered s.inbox := h
      cases op with
      | send now id chunk =>
        unfold Stocked
        rw [History.intake_concat, History.offered_concat]
        exact hstock.refuse chunk
      | call now id c => exact stocked_of_unsent hstock (by cases c <;> rfl) rfl
      | _ => exact stocked_of_unsent hstock rfl rfl

theorem stocked_fresh {id : SessionId} {shape : Shape} {capacity : Nat} {now : Instant}
    (hvoid : ∀ e ∈ past, e.Void) :
    (fresh id shape capacity true [] now).Stocked (max capacity 1) past := by
  -- What is sent before the session is there is refused.
  have hgrow : ∀ rest : History, (∀ e ∈ rest, e.Void) → ∀ past : History,
      (fresh id shape capacity true [] now).Stocked (max capacity 1) past →
      (fresh id shape capacity true [] now).Stocked (max capacity 1) (past ++ rest) := by
    intro rest
    induction rest with
    | nil =>
      intro _ past h
      rw [List.append_nil]
      exact h
    | cons e rest ih =>
      intro hrest past h
      have he := hrest e List.mem_cons_self
      rw [List.append_cons]
      exact ih (fun e' he' => hrest e' (List.mem_cons_of_mem e he')) _
        (h.refused he.woken he.refused)
  refine hgrow past hvoid [] ?_
  exact ⟨rfl, rfl, .refl _, rfl, Nat.zero_le _, nofun, nofun⟩

theorem Stocked.step (h : s.Stocked bound past) (hs : s.Sound) (heffect : Effect s op r t) :
    t.session.Stocked bound (past ++ [s.episodeOf op r t]) := by
  have hstock : Stock bound past.intake past.offered s.inbox := h
  cases heffect with
  | refused hrefused => exact h.refused rfl hrefused
  | gone => exact h.aside rfl nofun nofun
  | accepted hlive hopen hroom =>
    unfold Stocked
    rw [History.intake_concat, History.offered_concat]
    exact hstock.accept hroom _
  | blocked hlive hopen hfull =>
    unfold Stocked
    rw [History.intake_concat, History.offered_concat]
    exact hstock.block hfull (hs.sender.trans hopen) _
  | closedInput => exact stocked_of_unsent hstock.dropSender rfl rfl
  | closed | expired | stopped | finished | departed =>
    exact stocked_of_unsent (hstock.shut _) rfl rfl
  | received htake => exact stocked_of_unsent (hstock.take htake) rfl rfl
  | @denied _ _ c => exact stocked_of_unsent hstock (by cases c <;> rfl) rfl
  | _ => exact stocked_of_unsent hstock rfl rfl

/-! ## What sends and receives are answered -/

/-- A send into an open input waits exactly if there is no room. -/
theorem offered_of_open (hs : s.Sound) (hopen : s.halves.inputOpen = true) (now : Instant)
    (chunk : Bytes) :
    (s.offered now chunk).1 = .sent (.ok (if s.inbox.full then .blocked else .accepted)) := by
  have hcause : s.cause = none := by
    cases hcause : s.cause with
    | none => rfl
    | some e =>
      have hshut := hs.terminal (by simp [hcause])
      simp [Halves.isTerminal, hopen] at hshut
  have hlive : s.live = true := hs.live.mpr ⟨hcause, .inl hopen⟩
  have hsender : s.inbox.sender = true := hs.sender.trans hopen
  unfold offered send Inbox.offer
  cases hfull : s.inbox.full <;> simp [hlive, hs.accepts hopen, hsender]

/-- A handler learns that the input is at its end only if it is. -/
theorem ended_of_answer (hs : s.Sound) {now : Instant} {id : SessionId}
    (hanswer : (s.undergo (.call now id .receive)).1 = .answered (.ok none)) :
    s.inbox.take = .ended := by
  have heffect := effect_undergo hs (.call now id .receive)
  rw [hanswer] at heffect
  generalize (s.undergo (.call now id .receive)).2 = t at heffect
  cases heffect with
  | refused hrefused => cases hrefused
  | exhausted _ htake => exact htake

end Session

namespace Manager

variable {capacity earlier : Nat} {ops : List Operation} {id : SessionId} {s : Session}

theorem stocked (h : ((fresh capacity earlier).after ops).find? id = some s) :
    s.Sound ∧ s.Stocked (max capacity 1) ((fresh capacity earlier).history id ops) := by
  refine invariant (P := fun past s => s.Stocked (max capacity 1) past) ?_ ?_ h
  · intro past shape now hvoid
    exact Session.stocked_fresh hvoid
  · intro past s op r t hs heffect hpast
    exact hpast.step hs heffect

/-- **Input is first in, first out; it is bounded, and no chunk is lost.** What was accepted
is what was received and what is queued, in this order, and the queue keeps its bound. The
chunks of sends that wait are outside the queue, and every chunk sent is accounted for
once: accepted, refused or waiting. A send into an open input waits exactly if the queue
is full. The handler is told of the end of the input only if the front end can send no
more and everything accepted was received, with nobody waiting. -/
theorem accepted_eq_received_append_queue
    (h : ((fresh capacity earlier).after ops).find? id = some s) :
    let m := (fresh capacity earlier).after ops
    let past := (fresh capacity earlier).history id ops
    past.intake.accepted = past.intake.received ++ s.inbox.chunks ∧
    s.inbox.chunks.length ≤ max capacity 1 ∧
    past.intake.waiting = s.inbox.waiting ∧
    (past.intake.accepted ++ past.intake.refused ++ past.intake.waiting).Perm past.offered ∧
    (s.halves.inputOpen = true → ∀ now chunk, (m.step (.send now id chunk)).answer =
      .sent (.ok (if s.inbox.chunks.length = max capacity 1 then .blocked else .accepted))) ∧
    (∀ now, (m.step (.call now id .receive)).answer = .answered (.ok none) →
      s.halves.inputOpen = false ∧ past.intake.accepted = past.intake.received ∧
        past.intake.waiting = []) := by
  intro m past
  obtain ⟨hs, hstocked⟩ := stocked h
  have hstock : Stock (max capacity 1) past.intake past.offered s.inbox := hstocked
  have hm : m.WellFormed := wellFormed_after (wellFormed_fresh capacity earlier) ops
  refine ⟨hstock.conserved, hstock.bounded, hstock.waiting, hstock.complete, ?_, ?_⟩
  · intro hopen now chunk
    rw [answer_of_find? hm h rfl]
    show (s.offered now chunk).1 = _
    rw [Session.offered_of_open hs hopen]
    by_cases hfull : s.inbox.full = true
    · rw [if_pos hfull, if_pos (hstock.full_iff.mp hfull)]
    · rw [if_neg hfull, if_neg fun hlength => hfull (hstock.full_iff.mpr hlength)]
  · intro now hanswer
    rw [answer_of_find? hm h rfl] at hanswer
    obtain ⟨hsender, hreceived, hwaiting⟩ := hstock.ended (Session.ended_of_answer hs hanswer)
    exact ⟨hs.sender.symm.trans hsender, hreceived, hwaiting⟩

/-- A chunk whose sender still waits as the input is closed goes through, and the handler
is told of the end only after it. -/
theorem accepted_eq_received_append_queue_drained :
    let ops : List Operation :=
      [.openSession ⟨0⟩ .bidi, .send ⟨1⟩ ⟨1⟩ [7], .send ⟨2⟩ ⟨1⟩ [8], .closeInput ⟨3⟩ ⟨1⟩,
        .call ⟨4⟩ ⟨1⟩ .receive, .call ⟨5⟩ ⟨1⟩ .receive]
    let past := (fresh 0 0).history ⟨1⟩ ops
    past.intake.received = [[7], [8]] ∧ past.intake.accepted = past.intake.received ∧
      past.intake.waiting = [] := by
  intro ops past
  have hfind : ((fresh 0 0).after ops).find? ⟨1⟩ =
    some (((fresh 0 0).after ops).find? ⟨1⟩ |>.get rfl) := rfl
  obtain ⟨-, -, -, -, -, hended⟩ := accepted_eq_received_append_queue hfind
  obtain ⟨-, hreceived, hwaiting⟩ := hended ⟨6⟩ rfl
  exact ⟨rfl, hreceived, hwaiting⟩

end Manager
end Switchboard
