import Switchboard.Proofs.Server.Run
import Switchboard.Proofs.Stream.Breaks

/-!
# Breaks — a server does not tell a broken handler from a failed one

What `Proofs.Stream.Breaks` says of a host is carried over to a server: its dispatcher gives
handlers that are alike, and its handlers are given instructions that are alike. All that can be
seen of an operation is its `Showing`, and two such runs show the same.
-/

namespace Switchboard

namespace Attempt

/-- Changes the result of an attempt that did not break. -/
def map {α β : Type} (f : α → β) : Attempt α → Attempt β
  | returned result => returned (result.map f)
  | panicked p => panicked p

end Attempt

/-- The dispatcher, but that its handlers fail where they break off and it can be contained. -/
def Dispatcher.contained (d : Dispatcher) : Dispatcher :=
  { d with openStream := fun shape method request =>
      (d.openStream shape method request).map Handler.contained }

namespace Server

open Outcome (Same)

/-- The operation, but that a break that can be contained is a failure. -/
def Operation.contained : Operation → Operation
  | instruct now id i => instruct now id i.contained
  | op => op

/-- The servers are the same, but that handlers break off in one which fail in the other. -/
structure Alike (s s' : Server) : Prop where
  config : s.config = s'.config
  dispatcher : s.dispatcher.contained = s'.dispatcher.contained
  host : s.host.Alike s'.host
  channel : s.channel = s'.channel
  cache : s.cache = s'.cache
  stopped : s.stopped = s'.stopped

variable {s s' : Server}

theorem Alike.heard (h : Alike s s') : s.heard = s'.heard :=
  congrArg Manager.heard h.host.manager

/-! ## Streams -/

theorem stream_alike {α : Type} (h : Alike s s') {o o' : Outcome Host α}
    (ho : Same Host.Alike o o') : Same Alike (s.stream o) (s'.stream o') := by
  have hstate : Alike { s with host := o.state } { s' with host := o'.state } :=
    { h with host := ho.state }
  unfold stream
  rw [← h.heard]
  cases s.heard with
  | true => exact ⟨ho.answer, hstate, ho.deliveries, ho.woken⟩
  | false => exact ⟨ho.answer, hstate, rfl, ho.woken⟩

theorem contain_map {α β : Type} (f : α → β) (a : Attempt α) :
    contain id .error (a.map f) = (contain id .error a).map (Except.map f) := by
  cases a with
  | returned result => rfl
  | panicked p => cases p <;> rfl

/-- The handlers that are given for a stream are alike. -/
theorem Alike.handlerFor (h : Alike s s') (shape : Shape) (method : String) (request : Bytes) :
    (s.handlerFor shape method request).map (Except.map Handler.contained) =
      (s'.handlerFor shape method request).map (Except.map Handler.contained) := by
  have hopen : (s.dispatcher.openStream shape method request).map Handler.contained =
      (s'.dispatcher.openStream shape method request).map Handler.contained :=
    congrFun (congrFun (congrFun (congrArg Dispatcher.openStream h.dispatcher) shape) method)
      request
  rw [Server.handlerFor, Server.handlerFor, ← contain_map, ← contain_map, hopen]

/-- Handlers that are alike are either both refused, and in the same way, or both given. -/
theorem handlers_cases {c c' : Contained (Except DispatchError Handler)}
    (h : c.map (Except.map Handler.contained) = c'.map (Except.map Handler.contained)) :
    (∃ text, c = .escaped text ∧ c' = .escaped text) ∨
      (∃ e, c = .done (.error e) ∧ c' = .done (.error e)) ∨
        ∃ handler handler', c = .done (.ok handler) ∧ c' = .done (.ok handler') ∧
          handler.contained = handler'.contained := by
  rcases c with (e | handler) | text <;> rcases c' with (e' | handler') | text' <;>
    simp_all [Contained.map, Except.map]

theorem idle_alike {α : Type} (h : Alike s s') (answer : α) :
    Same Alike ({ answer, state := s } : Outcome Server α) { answer, state := s' } :=
  ⟨rfl, h, rfl, rfl⟩

theorem step_openStream_alike (h : Alike s s') (now : Instant) (shape : Shape) (method : String)
    (request : Bytes) :
    Same Alike (s.step (.openStream now shape method request))
      (s'.step (.openStream now shape method request)) := by
  unfold step openStream
  rw [← h.stopped]
  cases s.stopped with
  | true => exact idle_alike h _
  | false =>
    obtain ⟨text, hs, hs'⟩ | ⟨e, hs, hs'⟩ | ⟨handler, handler', hs, hs', hhandler⟩ :=
      handlers_cases (h.handlerFor shape method request)
    · simp only [hs, hs', Contained.map]
      exact idle_alike h _
    · simp only [hs, hs', Contained.map]
      exact idle_alike h _
    · simp only [hs, hs', Contained.map]
      exact (stream_alike h (Host.openSession_alike now shape hhandler h.host)).map _

theorem expireIdle_alike (h : Alike s s') (now asOf : Instant) (timeout : Duration) :
    Same Alike (s.expireIdle now asOf timeout) (s'.expireIdle now asOf timeout) :=
  stream_alike h (Host.performAll_alike now _ h.host)

theorem reap_alike (h : Alike s s') (now : Instant) : Same Alike (s.reap now) (s'.reap now) := by
  unfold reap
  rw [← h.config, ← h.stopped]
  cases s.config.streamTimeout with
  | none => exact idle_alike h _
  | some timeout =>
    cases s.stopped with
    | true => exact idle_alike h _
    | false => exact expireIdle_alike h now now timeout

theorem instruct_alike (h : Alike s s') (now : Instant) (id : SessionId) {i i' : Instruction}
    (hi : i.contained = i'.contained) : Same Alike (s.instruct now id i) (s'.instruct now id i') :=
  stream_alike h (Host.instruct_alike now id hi h.host)

/-! ## Beside the streams -/

theorem invoke_alike (h : Alike s s') (method : String) (payload : Bytes) (metadata : Metadata) :
    s.invoke method payload metadata = s'.invoke method payload metadata := by
  have hinvoke := congrArg Dispatcher.invoke h.dispatcher
  change s.dispatcher.invoke = s'.dispatcher.invoke at hinvoke
  rw [invoke, invoke, h.stopped, hinvoke]

theorem setHeard_alike (h : Alike s s') (heard : Bool) :
    Alike (s.setHeard heard) (s'.setHeard heard) :=
  { h with host := ⟨congrArg (Manager.setHeard heard) h.host.manager, h.host.tasks⟩ }

theorem onChannel_alike {α : Type} (h : Alike s s') (op : Reverse.Channel → α × Reverse.Channel)
    (f : α → Response) : Same Alike (quietly f (s.onChannel op)) (quietly f (s'.onChannel op)) := by
  unfold onChannel
  rw [← h.channel]
  exact ⟨rfl, { h with channel := rfl }, rfl, rfl⟩

theorem Alike.cacheStore (h : Alike s s') : s.cacheStore = s'.cacheStore := by
  rw [Server.cacheStore, Server.cacheStore, h.cache]

theorem cached_alike (h : Alike s s') (answer : Response) (cache : Option CacheStore) :
    Same Alike { answer, state := { s with cache } } { answer, state := { s' with cache } } :=
  ⟨rfl, { h with cache := rfl }, rfl, rfl⟩

theorem cacheGet_alike (h : Alike s s') (now : Instant) (store key : String) :
    Same Alike (quietly .fetched (s.cacheGet now store key))
      (quietly .fetched (s'.cacheGet now store key)) := by
  unfold cacheGet
  rw [← h.cacheStore]
  split
  · exact idle_alike h _
  · exact cached_alike h _ _

theorem cachePut_alike (h : Alike s s') (now : Instant) (store key : String) (value : Bytes)
    (ttlSeconds : Int) :
    Same Alike (quietly .stored (s.cachePut now store key value ttlSeconds))
      (quietly .stored (s'.cachePut now store key value ttlSeconds)) := by
  unfold cachePut
  rw [← h.cacheStore]
  split
  · exact idle_alike h _
  · exact cached_alike h _ _

theorem cacheDelete_alike (h : Alike s s') (store key : String) :
    Same Alike (quietly .stored (s.cacheDelete store key))
      (quietly .stored (s'.cacheDelete store key)) := by
  unfold cacheDelete
  rw [← h.cacheStore]
  split
  · exact idle_alike h _
  · exact cached_alike h _ _

theorem shutdown_alike (h : Alike s s') (now : Instant) :
    Same Alike (s.shutdown now) (s'.shutdown now) := by
  unfold shutdown
  rw [← h.stopped, ← h.channel, ← h.config]
  cases s.stopped with
  | true => exact idle_alike h _
  | false =>
    obtain ⟨hanswer, hstate, hdeliveries, hwoken⟩ :=
      stream_alike h (Host.performAll_alike now Manager.shutdown h.host)
    refine ⟨?_, { hstate with channel := rfl, stopped := rfl }, hdeliveries, hwoken⟩
    exact congrArg (fun closed : Nat => ShutdownReport.mk closed _ _) hanswer

/-! ## A run -/

/-- **Every operation does the same to servers that are alike.** -/
theorem step_alike (h : Alike s s') (op : Operation) : Same Alike (s.step op) (s'.step op) := by
  cases op with
  | invoke method payload metadata =>
    simp only [step, invoke_alike h]
    exact idle_alike h _
  | openStream now shape method request => exact step_openStream_alike h now shape method request
  | send now id chunk => exact (stream_alike h (Host.perform_alike now id _ h.host)).map _
  | closeInput now id => exact (stream_alike h (Host.perform_alike now id _ h.host)).map _
  | close now id => exact (stream_alike h (Host.perform_alike now id _ h.host)).map _
  | markReady now id => exact (stream_alike h (Host.perform_alike now id _ h.host)).map _
  | expireIdle now asOf timeout => exact (expireIdle_alike h now asOf timeout).map _
  | reap now => exact (reap_alike h now).map _
  | instruct now id i => exact (instruct_alike h now id rfl).map _
  | setHeard heard => exact idle_alike (setHeard_alike h heard) _
  | reverse op => exact onChannel_alike h _ _
  | callFrontEnd method payload =>
    exact onChannel_alike h (Reverse.Channel.call method payload) (.called ·.1)
  | cacheGet now store key => exact cacheGet_alike h now store key
  | cachePut now store key value ttlSeconds => exact cachePut_alike h now store key value ttlSeconds
  | cacheContains now store key =>
    simp only [step, cacheContains, h.cacheStore]
    exact idle_alike h _
  | cacheDelete store key => exact cacheDelete_alike h store key
  | shutdown now => exact (shutdown_alike h now).map _

/-- Operations that are alike are the same, unless they instruct a handler. -/
theorem contained_cases {op op' : Operation} (h : op.contained = op'.contained) :
    op = op' ∨ ∃ now id i i', op = .instruct now id i ∧ op' = .instruct now id i' ∧
      i.contained = i'.contained := by
  cases op with
  | instruct now id i =>
    cases op' with
    | instruct now' id' i' =>
      simp only [Operation.contained, Operation.instruct.injEq] at h
      obtain ⟨rfl, rfl, hi⟩ := h
      exact .inr ⟨now, id, i, i', rfl, rfl, hi⟩
    | _ => cases h
  | _ =>
    cases op' with
    | instruct now' id' i' => cases h
    | _ => exact .inl h

theorem step_congr (h : Alike s s') {op op' : Operation} (hop : op.contained = op'.contained) :
    Same Alike (s.step op) (s'.step op') := by
  rcases contained_cases hop with rfl | ⟨now, id, i, i', rfl, rfl, hi⟩
  · exact step_alike h op
  · exact (instruct_alike h now id hi).map _

/-- All that can be seen of an operation: its answer, what it brought about, and all the sessions
after it. -/
structure Showing where
  answer : Response
  deliveries : List Delivery
  woken : List (SessionId × SendResult)
  streams : Manager

/-- What an operation shows: its answer, what is heard of it, and the streams afterwards. -/
def showing (o : Outcome Server Response) : Showing :=
  { answer := o.answer, deliveries := o.activity.deliveries, woken := o.activity.woken,
    streams := o.state.host.manager }

/-- What can be seen of a run, operation by operation. -/
def showings : List Operation → Server → List Showing
  | [], _ => []
  | op :: ops, s => showing (s.step op) :: showings ops (s.step op).state

theorem showing_congr {o o' : Outcome Server Response} (h : Same Alike o o') :
    showing o = showing o' := by
  rw [showing, showing, h.answer, h.deliveries, h.woken, h.state.host.manager]

theorem showings_congr {ops ops' : List Operation} (h : Alike s s')
    (hops : ops.map Operation.contained = ops'.map Operation.contained) :
    s.showings ops = s'.showings ops' := by
  induction ops generalizing s s' ops' with
  | nil => rw [List.map_eq_nil_iff.mp hops.symm]; rfl
  | cons op ops ih =>
    obtain ⟨op', ops', rfl, hop, hrest⟩ := List.map_eq_cons_iff.mp hops.symm
    have hstep := step_congr h hop.symm
    rw [showings, showings, showing_congr hstep, ih hstep.state hrest.symm]

/-- Servers that are started with dispatchers that are alike are alike. -/
theorem start_alike {config : Config} {d d' : Dispatcher} {around : Surroundings}
    (hd : d.contained = d'.contained) (h : start config d around = .ok s) :
    ∃ s', start config d' around = .ok s' ∧ Alike s s' := by
  unfold start at h ⊢
  cases hvalid : config.validate with
  | error e =>
    rw [hvalid] at h
    cases h
  | ok =>
    rw [hvalid] at h
    cases h
    exact ⟨_, rfl, rfl, hd, ⟨rfl, rfl⟩, rfl, rfl, rfl⟩

/-- **A handler that breaks off is a handler that fails.** Whatever is done to a manager, and
whatever is done to a server: if it is done once more, with some of the handlers' breaks that can
be contained taken for the failures that describe them, then step by step the answers, the
deliveries, the woken sends and the sessions with their phases are the same. -/
theorem break_is_failure :
    (∀ (m : Manager) (ops ops' : List Switchboard.Operation),
      ops.map Switchboard.Operation.contained = ops'.map Switchboard.Operation.contained →
        m.trace ops = m.trace ops') ∧
      ∀ (config : Config) (d d' : Dispatcher) (around : Surroundings) (s : Server)
        (ops ops' : List Operation), d.contained = d'.contained →
        ops.map Operation.contained = ops'.map Operation.contained →
        start config d around = .ok s →
          ∃ s', start config d' around = .ok s' ∧ s.showings ops = s'.showings ops' := by
  constructor
  · intro m ops ops' hops
    rw [← Manager.trace_contained ops, hops, Manager.trace_contained]
  · intro config d d' around s ops ops' hd hops hstart
    obtain ⟨s', hstart', halike⟩ := start_alike hd hstart
    exact ⟨s', hstart', showings_congr halike hops⟩

/-- A handler sends a chunk and breaks off; another sends the chunk and fails with the reason that
describes the break. The servers that run them show the same: the chunk, then an error. -/
theorem break_is_failure_boom :
    let d (act : Act) : Dispatcher :=
      { invoke := fun method _ _ => .returned (.error (.methodNotFound method))
        openStream := fun _ _ _ => .returned (.ok { script := [{ act := .send [7] }, { act }] }) }
    let ops : List Operation := [.openStream ⟨0⟩ .bidi "talk" [], .markReady ⟨1⟩ ⟨1⟩]
    ∃ s s', start {} (d (.panic (.message "boom"))) {} = .ok s ∧
      start {} (d (.fail "handler panicked: boom")) {} = .ok s' ∧
      s.showings ops = s'.showings ops ∧
      ((s.showings ops).flatMap Showing.deliveries).map (·.frame.kind) = [.data, .error] := by
  intro d ops
  obtain ⟨s', hstart', hsame⟩ := break_is_failure.2 {} (d (.panic (.message "boom")))
    (d (.fail "handler panicked: boom")) {} _ ops ops rfl rfl rfl
  refine ⟨_, s', rfl, hstart', hsame, ?_⟩
  decide +kernel

end Server
end Switchboard
