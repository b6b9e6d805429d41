import Switchboard.Proofs.Server.Run

/-!
# Stop — a server is stopped once and for all

The shutdown ends every session and every call into the front end, and counts them. The
sessions that are still owed something are told, and that is the last that is heard of any:
from then on nothing is delivered, no stream is opened and no call is answered, whatever the
front end and the handlers go on to do.
-/

namespace Switchboard.Server

variable {first : Nat} {s : Server} {op : Operation}

/-! ## Who is stopped -/

theorem stopped_step (op : Operation) (s : Server) :
    (s.step op).state.stopped = (s.stopped || op.isShutdown) := by
  cases op with
  | openStream now shape method request =>
    simp only [step, Operation.isShutdown, Bool.or_false]
    split
    · next ho => rcases openStream_cases ho with ⟨handler, rfl⟩ | ⟨e, rfl⟩ <;> rfl
    · rfl
  | reap now =>
    simp only [step, reap, Operation.isShutdown, Bool.or_false]
    split
    · split <;> rfl
    · rfl
  | cacheGet now store key =>
    simp only [step, quietly, cacheGet, Operation.isShutdown, Bool.or_false]
    split <;> rfl
  | cachePut now store key value ttlSeconds =>
    simp only [step, quietly, cachePut, Operation.isShutdown, Bool.or_false]
    split <;> rfl
  | cacheDelete store key =>
    simp only [step, quietly, cacheDelete, Operation.isShutdown, Bool.or_false]
    split <;> rfl
  | shutdown now =>
    simp only [step, shutdown, Operation.isShutdown, Bool.or_true]
    split
    · assumption
    · rfl
  | _ => exact (Bool.or_false _).symm

theorem stopped_after (ops : List Operation) (s : Server) :
    (s.after ops).stopped = (s.stopped || ops.any (·.isShutdown)) := by
  induction ops generalizing s with
  | nil => exact (Bool.or_false _).symm
  | cons op ops ih =>
    show ((s.step op).state.after ops).stopped = _
    rw [ih, stopped_step, List.any_cons, Bool.or_assoc]

/-! ## A stopped server -/

theorem Kept.deliveries_of_stopped (hs : s.Kept first) (hstopped : s.stopped = true)
    (ops : List Operation) : s.deliveries ops = [] := by
  induction ops generalizing s with
  | nil => rfl
  | cons op ops ih =>
    obtain ⟨-, hnothing⟩ := (hs.step op).follows.ended (hs.over_of_stopped hstopped)
    have hstopped' : (s.step op).state.stopped = true := by
      rw [stopped_step, hstopped, Bool.true_or]
    rw [deliveries, hnothing, ih (hs.step op).kept hstopped', List.append_nil]

theorem openStream_of_stopped (hstopped : s.stopped = true) (now : Instant) (shape : Shape)
    (method : String) (request : Bytes) :
    s.openStream now shape method request =
      .done { answer := .error .shuttingDown, state := s } := by
  rw [openStream, if_pos hstopped]

theorem invoke_of_stopped (hstopped : s.stopped = true) (method : String) (payload : Bytes)
    (metadata : Metadata) : s.invoke method payload metadata = .done (.failed .unavailable) := by
  rw [invoke, if_pos hstopped]

theorem shutdown_of_stopped (hstopped : s.stopped = true) (now : Instant) :
    s.shutdown now = { answer := {}, state := s } := by
  rw [shutdown, if_pos hstopped]

/-! ## The shutdown -/

/-- What the first shutdown reports, and what is delivered on the way. -/
theorem shutdown_of_running (hs : s.Kept first) (hrunning : s.stopped = false) (now : Instant) :
    (s.shutdown now).answer =
      { sessionsClosed := s.host.manager.liveCount
        pendingCallsCancelled := s.channel.pendingCount
        reaperJoined := s.config.streamTimeout.isSome } ∧
    (s.shutdown now).activity.deliveries =
      (if s.heard then
        (s.host.manager.registry.filter (·.owed)).map fun t =>
          ⟨t.id, ⟨.error, Utf8.encode StreamError.shuttingDown.message⟩⟩
      else []) := by
  obtain ⟨hcount, hdeliveries, -⟩ := Host.shutdown_eq hs.ordered now
  rw [shutdown, if_neg (by simp [hrunning])]
  refine ⟨?_, ?_⟩
  · show ShutdownReport.mk (s.host.shutdown now).answer _ _ = _
    rw [hcount]
    rfl
  · rw [← hdeliveries]
    show (s.stream (s.host.shutdown now)).activity.deliveries = _
    unfold stream
    dsimp only
    split <;> rfl

/-- **The shutdown is the end of all streams.** The first shutdown in a run counts the live
sessions and the pending calls. It leaves none live. Those that were still owed something are
told of it, in opening order, if anybody hears. Whatever is done to the server after that, or
its handlers call, no session is live and nothing is delivered; another shutdown has nothing
to report, a stream is refused and a call is not answered, and no dispatcher is asked. -/
theorem shutdown_ends_streams {config : Config} {dispatcher : Dispatcher}
    {around : Surroundings} {s₀ : Server} (hstart : start config dispatcher around = .ok s₀)
    {past : List Operation} (hfirst : ∀ op ∈ past, op.isShutdown = false) (now : Instant) :
    let s := s₀.after past
    let o := s.shutdown now
    o.answer =
      { sessionsClosed := s.host.manager.liveCount
        pendingCallsCancelled := s.channel.pendingCount
        reaperJoined := s.config.streamTimeout.isSome } ∧
    o.state.host.manager.registry = [] ∧
    o.activity.deliveries =
      (if s.heard then
        (s.host.manager.registry.filter (·.owed)).map fun t =>
          ⟨t.id, ⟨.error, Utf8.encode StreamError.shuttingDown.message⟩⟩
      else []) ∧
    s.host.manager.liveIds.Pairwise (fun a b => a.number < b.number) ∧
    ∀ later : List Operation,
      let t := o.state.after later
      t.host.manager.registry = [] ∧
      o.state.deliveries later = [] ∧
      (∀ calls, (t.host.manager.after calls).registry = [] ∧
        t.host.manager.deliveries calls = []) ∧
      (∀ now, t.shutdown now = { answer := {}, state := t }) ∧
      ∀ d method,
        let t' : Server := { t with dispatcher := d }
        (∀ now shape request, t'.openStream now shape method request =
          .done { answer := .error .shuttingDown, state := t' }) ∧
        ∀ payload metadata, t'.invoke method payload metadata = .done (.failed .unavailable) := by
  intro s o
  have hs : s.Kept around.sessions.next := (kept_start hstart).after past
  have hrunning : s.stopped = false := by
    rw [stopped_after, (host_start hstart).2, Bool.false_or, List.any_eq_false]
    exact fun op hop => by simp [hfirst op hop]
  obtain ⟨hreport, hdeliveries⟩ := shutdown_of_running hs hrunning now
  have hkept : o.state.Kept around.sessions.next := (sound_shutdown hs now).kept
  have hstopped : o.state.stopped = true := (stopped_step (.shutdown now) s).trans (Bool.or_true _)
  refine ⟨hreport, List.map_eq_nil_iff.mp (hkept.over_of_stopped hstopped).empty, hdeliveries,
    hs.ordered.numbered.increasing.sublist s.host.manager.liveIds_sublist, fun later => ?_⟩
  intro t
  have ht : t.Kept around.sessions.next := hkept.after later
  have hstill : t.stopped = true := by
    rw [stopped_after, hstopped, Bool.true_or]
  refine ⟨List.map_eq_nil_iff.mp (ht.over_of_stopped hstill).empty,
    hkept.deliveries_of_stopped hstopped later, fun calls => ?_, shutdown_of_stopped hstill,
    fun d method => ⟨fun now shape request => ?_, fun payload metadata => ?_⟩⟩
  · obtain ⟨hover, hnothing⟩ := (ht.over_of_stopped hstill).after ht.ordered.regular calls
    exact ⟨List.map_eq_nil_iff.mp hover.empty, hnothing⟩
  · exact openStream_of_stopped (s := { t with dispatcher := d }) hstill now shape method request
  · exact invoke_of_stopped (s := { t with dispatcher := d }) hstill method payload metadata

/-- A dispatcher whose every stream is served by a handler that waits to be told what to do. -/
def waiting : Dispatcher where
  invoke _ _ _ := .returned (.ok [])
  openStream _ _ _ := .returned (.ok { attended := true })

/-- One stream is open when the server is stopped. -/
theorem shutdown_ends_streams_one :
    ∃ s₀, start {} waiting {} = .ok s₀ ∧
      let s := s₀.after [.openStream ⟨0⟩ .bidi "/m" []]
      let o := s.shutdown ⟨1⟩
      o.answer = { sessionsClosed := 1, pendingCallsCancelled := 0, reaperJoined := false } ∧
      o.activity.deliveries =
        [⟨⟨1⟩, ⟨.error, Utf8.encode StreamError.shuttingDown.message⟩⟩] ∧
      o.state.host.manager.registry = [] := by
  refine ⟨_, rfl, ?_⟩
  intro s o
  -- The handler rests from the start, so that opening the stream is all that happens.
  have hs : s = { config := {}, dispatcher := waiting, cache := none,
                  channel := { timeout := .ofSeconds 10 },
                  host :=
                    { manager := { capacity := 100, counter := ⟨2⟩,
                                   sessions := [Session.fresh ⟨1⟩ .bidi 100 true [] ⟨0⟩] }
                      tasks := [Task.ofHandler ⟨1⟩ .bidi { attended := true }] } } := by
    simp [s, after, step, openStream, handlerFor, contain, waiting, stream, Host.openSession,
      Manager.openSession, Host.settle, Host.task?, Manager.find?, Task.run_of_rest, Task.move,
      Task.ofHandler, Session.fresh, Manager.put, Host.putTask, Contained.map, Outcome.map,
      Outcome.andThen, Config.cacheActive, Counter.advance]
  have hfirst : ∀ op ∈ [Operation.openStream ⟨0⟩ .bidi "/m" []], op.isShutdown = false := by
    simp [Operation.isShutdown]
  obtain ⟨hreport, hnone, hdeliveries, -, -⟩ :=
    @shutdown_ends_streams {} waiting {} _ rfl _ hfirst ⟨1⟩
  refine ⟨hreport.trans ?_, hdeliveries.trans ?_, hnone⟩
  · show ShutdownReport.mk s.host.manager.liveCount s.channel.pendingCount _ = _
    rw [hs]
    rfl
  · show (if s.heard then (s.host.manager.registry.filter (·.owed)).map _ else []) = _
    rw [hs]
    rfl

end Switchboard.Server
