import Switchboard.Proofs.Gateway.Slots

/-!
# Escape — the breaks that only the interface contains

A server contains the breaks of its dispatcher, and those of stream handlers end with whoever
runs them. Only a break that breaks off again when it is disposed of comes through to the
interface (`escaped?_step`), which keeps its text. So the text that is kept is that of the last
break that came through, and it can be read into a buffer of any size.
-/

namespace Switchboard

/-- What the attempt broke off with, if it did. -/
def Attempt.panic? {α : Type} : Attempt α → Option Panic
  | returned _ => none
  | panicked panic => some panic

namespace Server

/-- What code of the dispatcher broke off with while the server was operated, if it did. A server
that was stopped asks for nothing, and the handler of a stream is run by somebody else. -/
def panic? (op : Operation) (s : Server) : Option Panic :=
  if s.stopped then none
  else match op with
    | .invoke method payload metadata => (s.dispatcher.invoke method payload metadata).panic?
    | .openStream _ shape method request => (s.dispatcher.openStream shape method request).panic?
    | _ => none

/-- The text of a break that came through to whoever operates the server. -/
def Response.escaped? : Response → Option String
  | replied (.escaped text) | opened (.escaped text) => some text
  | _ => none

/-- **A break comes through exactly if it breaks off again.** -/
theorem escaped?_step (op : Operation) (s : Server) :
    (s.step op).answer.escaped? = (s.panic? op).bind Panic.rebound? := by
  unfold panic?
  cases op with
  | invoke method payload metadata =>
    simp only [step, invoke]
    by_cases hstopped : s.stopped = true
    · rw [if_pos hstopped, if_pos hstopped]
      rfl
    · rw [if_neg hstopped, if_neg hstopped]
      rcases s.dispatcher.invoke method payload metadata with result | panic
      · rfl
      · cases panic <;> rfl
  | openStream now shape method request =>
    simp only [step, openStream, handlerFor]
    by_cases hstopped : s.stopped = true
    · rw [if_pos hstopped, if_pos hstopped]
      rfl
    · rw [if_neg hstopped, if_neg hstopped]
      rcases s.dispatcher.openStream shape method request with result | panic
      · rfl
      · cases panic <;> rfl
  | _ => rw [ite_self]; rfl

end Server

namespace Gateway

variable {g : Gateway} {s : Server} {op : Operation} {sop : Server.Operation}
  {message buffer memory : Bytes} {cap : Nat}

/-! ## What comes through -/

/-- What code of the dispatcher broke off with in the course of a call, if it did. -/
def Operation.panic? (op : Operation) (g : Gateway) : Option Panic :=
  match g.server, op.entry with
  | some s, some (.ok sop) => s.panic? sop
  | _, _ => none

/-- The text of a break that came through to the interface in the course of a call. -/
def Operation.escaped? (op : Operation) (g : Gateway) : Option String :=
  match g.server, op.entry with
  | some s, some (.ok sop) => (s.step sop).answer.escaped?
  | _, _ => none

/-- The texts of all breaks that came through in the course of a run. -/
def escapes : List Operation → Gateway → List String
  | [], _ => []
  | op :: ops, g => (op.escaped? g).toList ++ escapes ops (g.step op).gateway

theorem escaped?_of_ok (hs : g.server = some s) (h : op.entry = some (.ok sop)) :
    op.escaped? g = (s.step sop).answer.escaped? := by
  simp only [Operation.escaped?, hs, h]

theorem escaped?_of_error {status : Status} (h : op.entry = some (.error status)) :
    op.escaped? g = none := by
  unfold Operation.escaped?
  rw [h]
  cases g.server <;> rfl

theorem escaped?_of_idle (hs : g.server = none) : op.escaped? g = none := by
  unfold Operation.escaped?
  rw [hs]

theorem exists_of_escaped {text : String} (h : op.escaped? g = some text) :
    ∃ s sop, g.server = some s ∧ op.entry = some (.ok sop) ∧
      (s.step sop).answer.escaped? = some text := by
  unfold Operation.escaped? at h
  split at h
  · next s sop hs hentry => exact ⟨s, sop, hs, hentry, h⟩
  · cases h

theorem escaped?_eq (op : Operation) (g : Gateway) :
    op.escaped? g = (op.panic? g).bind Panic.rebound? := by
  unfold Operation.escaped? Operation.panic?
  split
  · exact Server.escaped?_step _ _
  · rfl

/-! ## What is kept -/

/-- Nothing but a unary call and the opening of a stream has the dispatcher do anything. -/
def Operation.asksDispatcher : Operation → Bool
  | invoke _ _ _ | openStream _ _ _ _ => true
  | _ => false

theorem panic?_of_ok (h : op.entry = some (.ok sop)) (hop : op.asksDispatcher = false)
    (s : Server) : s.panic? sop = none := by
  have hquiet : ∀ x : Option Panic, x = none → (if s.stopped then none else x) = none := by
    intro x hx
    rw [hx, ite_self]
  cases op with
  | invoke | openStream => cases hop
  | send | deliver =>
    obtain ⟨bytes, -, rfl⟩ := eq_ok_of_map h
    exact hquiet _ rfl
  | closeInput | close | markReady =>
    cases h
    exact hquiet _ rfl
  | cacheGet | cacheContains | cacheDelete =>
    obtain ⟨storeName, keyName, rfl, -⟩ := cacheArguments_of_ok (Option.some.inj h)
    exact hquiet _ rfl
  | cachePut =>
    obtain ⟨value, storeName, keyName, -, rfl, -⟩ := eq_ok_of_put h
    exact hquiet _ rfl
  | _ => cases h

theorem escaped?_of_asksNobody (hop : op.asksDispatcher = false) (g : Gateway) :
    op.escaped? g = none := by
  have hnone : op.panic? g = none := by
    unfold Operation.panic?
    split
    · next hentry => exact panic?_of_ok hentry hop _
    · rfl
  rw [escaped?_eq, hnone]
  rfl

theorem lastPanic_after {α : Type} (g : Gateway) (o : Outcome Server α) :
    (g.after o).gateway.lastPanic = g.lastPanic :=
  same_handOver Gateway.lastPanic (fun _ _ => rfl) _ _

theorem lastPanic_onServer (f : Server → Outcome Server (Except StreamError Unit)) (g : Gateway) :
    (g.onServer f).gateway.lastPanic = g.lastPanic := by
  unfold onServer
  split
  · rfl
  · exact lastPanic_after g _

theorem lastPanic_stop (now : Instant) (g : Gateway) :
    (g.stop now).gateway.lastPanic = g.lastPanic := by
  unfold stop
  split
  · rfl
  · exact same_handOver Gateway.lastPanic (fun _ _ => rfl) _ _

theorem lastPanic_instruct (now : Instant) (id : SessionId) (i : Instruction) (g : Gateway) :
    (g.instruct now id i).gateway.lastPanic = g.lastPanic := by
  unfold instruct
  split
  · exact lastPanic_after g _
  · exact same_handOver Gateway.lastPanic (fun _ _ => rfl) _ _

theorem lastPanic_reverseCall (method : String) (payload : Bytes) (g : Gateway) :
    (g.reverseCall method payload).gateway.lastPanic = g.lastPanic := by
  have hsame : ∀ (g : Gateway) (rs : List Reverse.Request),
      (g.handCalls rs).2.lastPanic = g.lastPanic := by
    intro g rs
    obtain ⟨ledger, hledger⟩ := handCalls_eq g rs
    rw [hledger]
  unfold reverseCall
  split
  · rfl
  · dsimp only
    split
    · exact hsame _ _
    · split <;> exact hsame _ _

theorem lastPanic_deliver (id : RequestId) (data : Span) (g : Gateway) :
    (g.deliver id data).gateway.lastPanic = g.lastPanic := by
  unfold deliver
  split
  · rfl
  · rfl
  · dsimp only
    split <;> rfl

theorem lastPanic_start (settings : Option Settings) (g : Gateway) :
    (g.start settings).2.lastPanic = g.lastPanic := by
  have hstarts := starts g settings
  generalize g.start settings = result at hstarts
  cases hstarts <;> rfl

theorem lastPanic_of_asksNobody (hop : op.asksDispatcher = false) (g : Gateway) :
    (g.step op).gateway.lastPanic = g.lastPanic := by
  cases op with
  | invoke | openStream => cases hop
  | register dispatcher =>
    simp only [step, register]
    split <;> rfl
  | takeDispatcher =>
    simp only [step, takeDispatcher]
    split <;> rfl
  | registerStreamCallback callback =>
    simp only [step, registerStreamCallback]
    split <;> rfl
  | registerReverseCallback callback =>
    simp only [step, registerReverseCallback]
    split <;> rfl
  | start settings => exact lastPanic_start settings g
  | stop now => exact lastPanic_stop now g
  | send now id data =>
    simp only [step, send]
    split
    · rfl
    · rfl
    · exact lastPanic_after g _
  | closeInput | close | markReady => exact lastPanic_onServer _ g
  | reap now =>
    simp only [step, reap]
    split
    · rfl
    · exact lastPanic_after g _
  | instruct now id i => exact lastPanic_instruct now id i g
  | reverseCall method payload => exact lastPanic_reverseCall method payload g
  | deliver id data => exact lastPanic_deliver id data g
  | cacheGet now store key =>
    simp only [step, cacheGet, refuse_eq]
    split
    · rfl
    · split <;> rfl
  | cachePut now store key data ttlSeconds =>
    simp only [step, cachePut]
    split <;> rfl
  | cacheDelete store key =>
    simp only [step, cacheDelete]
    split <;> rfl
  | cacheContains | free | lastPanicMessage => rfl

theorem lastPanic_invoke (method : CText) (data : Span) (metadata : Option Span) (g : Gateway) :
    (g.invoke method data metadata).2.lastPanic =
      ((Operation.invoke method data metadata).escaped? g).getD g.lastPanic := by
  unfold invoke
  cases hargs : unaryArguments method data metadata with
  | error status =>
    have hentry : (Operation.invoke method data metadata).entry = some (.error status) := by
      rw [Operation.entry, hargs]
      rfl
    rw [escaped?_of_error hentry]
    rfl
  | ok arguments =>
    obtain ⟨name, payload, values⟩ := arguments
    have hentry : (Operation.invoke method data metadata).entry =
        some (.ok (.invoke name payload values)) := by
      rw [Operation.entry, hargs]
      rfl
    cases hs : g.server with
    | none =>
      rw [escaped?_of_idle hs]
      rfl
    | some s =>
      rw [escaped?_of_ok hs hentry]
      simp only [Server.step]
      cases s.invoke name payload values <;> rfl

theorem lastPanic_openStream (now : Instant) (shape : Shape) (method : CText) (data : Span)
    (g : Gateway) : (g.openStream now shape method data).gateway.lastPanic =
      ((Operation.openStream now shape method data).escaped? g).getD g.lastPanic := by
  unfold openStream
  cases hargs : openArguments shape method data with
  | error status =>
    have hentry : (Operation.openStream now shape method data).entry = some (.error status) := by
      rw [Operation.entry, hargs]
      rfl
    rw [escaped?_of_error hentry]
    rfl
  | ok arguments =>
    obtain ⟨name, request⟩ := arguments
    have hentry : (Operation.openStream now shape method data).entry =
        some (.ok (.openStream now shape name request)) := by
      rw [Operation.entry, hargs]
      rfl
    cases hs : g.server with
    | none =>
      rw [escaped?_of_idle hs, current, hs]
      rfl
    | some s =>
      rw [escaped?_of_ok hs hentry, current_of_server hs]
      simp only [Server.step]
      cases s.openStream now shape name request with
      | escaped text => rfl
      | done o => exact lastPanic_after g _

/-- **A call keeps the text of the break that came through in its course, if one did.** -/
theorem lastPanic_step (op : Operation) (g : Gateway) :
    (g.step op).gateway.lastPanic = (op.escaped? g).getD g.lastPanic := by
  cases hop : op.asksDispatcher with
  | false =>
    rw [escaped?_of_asksNobody hop, Option.getD_none]
    exact lastPanic_of_asksNobody hop g
  | true =>
    cases op with
    | invoke method data metadata => exact lastPanic_invoke method data metadata g
    | openStream now shape method data => exact lastPanic_openStream now shape method data g
    | _ => cases hop

/-- **The text of the last break that came through is kept.** -/
theorem lastPanic_run (ops : List Operation) (g : Gateway) :
    (g.run ops).lastPanic = (escapes ops g).getLast?.getD g.lastPanic := by
  induction ops generalizing g with
  | nil => rfl
  | cons op ops ih =>
    have hlater : (g.run (op :: ops)).lastPanic =
        (escapes ops (g.step op).gateway).getLast?.getD ((op.escaped? g).getD g.lastPanic) := by
      rw [← lastPanic_step]
      exact ih (g.step op).gateway
    rw [hlater, escapes, List.getLast?_append]
    cases (escapes ops (g.step op).gateway).getLast? with
    | some text => rfl
    | none => cases op.escaped? g <;> rfl

/-- What the front end reads of a call in the course of which a break came through. -/
def Operation.broken : Operation → Reading
  | invoke _ _ _ => .failure "panic at ffi boundary"
  | _ => .number Status.panicked.code

theorem reading_of_escaped (hl : g.ledger.Sound) {text : String} (h : op.escaped? g = some text) :
    (g.step op).answer.reading (g.step op).gateway.ledger = op.broken := by
  have hop : op.asksDispatcher = true := by
    refine (Bool.not_eq_false _).mp fun hquiet => ?_
    cases (escaped?_of_asksNobody hquiet g).symm.trans h
  obtain ⟨s, sop, hs, hentry, hescaped⟩ := exists_of_escaped h
  rw [(serves_entry hl hs hentry).reading]
  cases op with
  | invoke method data metadata =>
    obtain ⟨⟨name, payload, values⟩, -, rfl⟩ := eq_ok_of_map hentry
    simp only [Server.step] at hescaped ⊢
    cases hreply : s.invoke name payload values with
    | escaped text => rfl
    | done reply =>
      rw [hreply] at hescaped
      cases hescaped
  | openStream now shape method data =>
    obtain ⟨⟨name, request⟩, -, rfl⟩ := eq_ok_of_map hentry
    simp only [Server.step] at hescaped ⊢
    cases ho : s.openStream now shape name request with
    | escaped text => rfl
    | done o =>
      rw [ho] at hescaped
      cases hescaped
  | _ => cases hop

/-! ## Reading it -/

/-- The memory that a buffer of `cap` bytes is the beginning of, when the message was copied: as
much of the message as leaves room for a NUL, the NUL, and all that was there behind it. -/
theorem copyMessage_append (hcap : cap ≤ memory.length) (hroom : cap ≠ 0) :
    copyMessage message (memory.take cap) ++ memory.drop cap =
      message.take (cap - 1) ++ 0 :: memory.drop (min message.length (cap - 1) + 1) := by
  have htaken : (memory.take cap).length = cap := List.length_take_of_le hcap
  have hbuffer : memory.take cap ≠ [] := List.ne_nil_of_length_pos (by omega)
  have hrest : (memory.take cap).drop (min (cap - 1) message.length + 1) ++ memory.drop cap =
      memory.drop (min (cap - 1) message.length + 1) := by
    rw [← List.drop_append_of_le_length (by omega), List.take_append_drop]
  unfold copyMessage
  rw [if_neg hbuffer, htaken]
  dsimp only
  rw [List.length_take, List.append_assoc, List.append_assoc, hrest, Nat.min_comm]
  rfl

theorem getElem?_copyMessage_append (hcap : cap ≤ memory.length) (i : Nat) :
    (copyMessage message (memory.take cap) ++ memory.drop cap)[i]? =
      if cap = 0 then memory[i]?
      else if i < min message.length (cap - 1) then message[i]?
      else if i = min message.length (cap - 1) then some 0
      else memory[i]? := by
  by_cases hroom : cap = 0
  · rw [if_pos hroom, hroom]
    rfl
  have hlength : (message.take (cap - 1)).length = min message.length (cap - 1) := by
    rw [List.length_take, Nat.min_comm]
  rw [if_neg hroom, copyMessage_append hcap hroom, List.getElem?_append, hlength]
  by_cases hcopied : i < min message.length (cap - 1)
  · rw [if_pos hcopied, if_pos hcopied]
    exact List.getElem?_take_of_lt (by omega)
  rw [if_neg hcopied, if_neg hcopied]
  by_cases hend : i = min message.length (cap - 1)
  · rw [if_pos hend, hend, Nat.sub_self]
    rfl
  · obtain ⟨j, rfl⟩ : ∃ j, i = min message.length (cap - 1) + 1 + j :=
      Nat.exists_eq_add_of_le (by omega)
    rw [if_neg hend, Nat.add_assoc, Nat.add_sub_cancel_left, Nat.add_comm 1,
      List.getElem?_cons_succ, List.getElem?_drop, Nat.add_assoc, Nat.add_comm 1]

theorem copyMessage_of_room (h : buffer.length = message.length + 1) :
    copyMessage message buffer = message ++ [0] := by
  have hroom : buffer.length ≠ 0 := by omega
  have hcopied : copyMessage message (buffer.take buffer.length) ++ buffer.drop buffer.length = _ :=
    copyMessage_append (Nat.le_refl buffer.length) hroom
  rw [List.take_length, List.drop_length, List.append_nil] at hcopied
  rw [hcopied, h, Nat.add_sub_cancel, Nat.min_self, List.take_length, ← h, List.drop_length]

/-! ## The last break -/

/-- **The text of the last break that came through is kept, and told in full.** At any time,
however servers were started and stopped before:

What is kept is the text of the last break that came through to the interface, or nothing if none
did. A call keeps the text of the break that comes through in its course, and otherwise leaves
what is kept as it was: one in which a break of the dispatcher was contained, one that is answered
in any other way than a broken one, and all that the handlers of streams do.

A text of `n` bytes, less than two to the thirty-first, is told as `n`. Nothing is written through
a null pointer or into no room at all. Otherwise of memory the first `cap` bytes of which are the
buffer just so much is overwritten as there is of the text and a NUL behind it, cut to the room
that there is. So whoever asks for the length first, and then comes with room for a NUL more, has
the whole text. -/
theorem last_break_kept (hangUps : List (SessionId × Nat)) (past : List Operation) :
    let g := ({ hangUps } : Gateway).run past
    let message := Utf8.encode g.lastPanic
    g.lastPanic = (escapes past { hangUps }).getLast?.getD "" ∧
    (∀ op, let c := g.step op
      op.escaped? g = (op.panic? g).bind Panic.rebound? ∧
      c.gateway.lastPanic = (op.escaped? g).getD g.lastPanic ∧
      ((∀ panic ∈ op.panic? g, panic.rebound? = none) → c.gateway.lastPanic = g.lastPanic) ∧
      (c.answer.reading c.gateway.ledger ≠ op.broken → c.gateway.lastPanic = g.lastPanic)) ∧
    (∀ now id i, (g.step (.instruct now id i)).gateway.lastPanic = g.lastPanic) ∧
    (message.length < 0x80000000 →
      (g.step (.lastPanicMessage none)).answer = .message (message.length, none) ∧
      (∀ (memory : Bytes) (cap : Nat), cap ≤ memory.length → ∃ buffer,
        (g.step (.lastPanicMessage (some (memory.take cap)))).answer =
          .message (message.length, some buffer) ∧
        ∀ i, (buffer ++ memory.drop cap)[i]? =
          if cap = 0 then memory[i]?
          else if i < min message.length (cap - 1) then message[i]?
          else if i = min message.length (cap - 1) then some 0
          else memory[i]?) ∧
      ∀ buffer : Bytes, buffer.length = message.length + 1 →
        let g' := (g.step (.lastPanicMessage none)).gateway
        (g'.step (.lastPanicMessage (some buffer))).answer =
          .message (message.length, some (message ++ [0]))) := by
  intro g message
  have hl : g.ledger.Sound := sound_ledger_run (sound_ledger_idle hangUps) past
  refine ⟨lastPanic_run past _, fun op => ⟨escaped?_eq op g, lastPanic_step op g, ?_, ?_⟩,
    fun now id i => lastPanic_instruct now id i g, fun hsmall => ?_⟩
  · intro hcontained
    have hnone : op.escaped? g = none := by
      rw [escaped?_eq]
      exact Option.bind_eq_none_iff.mpr hcontained
    rw [lastPanic_step, hnone, Option.getD_none]
  · intro hanswer
    cases hescaped : op.escaped? g with
    | some text => exact absurd (reading_of_escaped hl hescaped) hanswer
    | none => rw [lastPanic_step, hescaped, Option.getD_none]
  · have htold : ∀ buffer, (g.step (.lastPanicMessage buffer)).answer =
        .message (message.length, buffer.map (copyMessage message)) := by
      intro buffer
      have hlength : min message.length maxLength = message.length :=
        Nat.min_eq_left (by unfold maxLength; omega)
      show Response.message (min message.length maxLength, _) = _
      rw [hlength]
    refine ⟨htold none, fun memory cap hcap => ?_, fun buffer hroom => ?_⟩
    · exact ⟨_, htold (some (memory.take cap)), getElem?_copyMessage_append hcap⟩
    · have hwhole := copyMessage_of_room hroom
      intro g'
      rw [← hwhole]
      exact htold (some buffer)

/-- A unary call breaks off and again when it is disposed of, then the opening of a stream breaks
off and is contained. Four bytes have room for three of the first text. -/
theorem last_break_kept_of_two :
    let d : Dispatcher :=
      { invoke := fun _ _ _ => .panicked (.defiant "spring")
        openStream := fun _ _ _ => .panicked (.message "door") }
    let past : List Operation :=
      [.register d, .start (some {}), .invoke (some (Utf8.encode "m")) {} none,
        .openStream ⟨0⟩ .bidi (some (Utf8.encode "m")) {}]
    let g := ({} : Gateway).run past
    let memory : Bytes := List.replicate 9 7
    g.lastPanic = (escapes past {}).getLast?.getD "" ∧ g.lastPanic = "spring" ∧
      (g.step (.lastPanicMessage none)).answer = .message (6, none) ∧
      (∃ buffer, (g.step (.lastPanicMessage (some (memory.take 4)))).answer =
          .message (6, some buffer) ∧
        let after := buffer ++ memory.drop 4
        (after[2]?, after[3]?, after[4]?) = (some 114, some 0, some 7)) ∧
      (g.step (.lastPanicMessage (some (memory.take 7)))).answer =
        .message (6, some [115, 112, 114, 105, 110, 103, 0]) := by
  intro d past g memory
  obtain ⟨hkept, -, -, hread⟩ := last_break_kept [] past
  have htext : (({} : Gateway).run past).lastPanic = "spring" := by decide +kernel
  have hbytes : Utf8.encode "spring" = [115, 112, 114, 105, 110, 103] := by decide +kernel
  rw [htext, hbytes] at hread
  obtain ⟨hlength, hpart, hwhole⟩ := hread (by decide)
  obtain ⟨buffer, hanswer, hmemory⟩ := hpart memory 4 (by decide)
  refine ⟨hkept, htext, hlength, ⟨buffer, hanswer, ?_⟩, hwhole (memory.take 7) rfl⟩
  dsimp only
  rw [hmemory, hmemory, hmemory]
  rfl

end Gateway
end Switchboard
