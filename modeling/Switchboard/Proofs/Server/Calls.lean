import Switchboard.Proofs.Reverse.Attempt
import Switchboard.Proofs.Server.Stop

/-!
# Calls — what a server has going with its front end

All that a server does to its channel is a run of the channel, `Server.calls`. The shutdown
has one place in it, where every call that is pending is cancelled. The channel knows nothing
of the shutdown, however: a call that is made later goes to the front end as before, and it
stays pending until it is answered, cancelled or given up.
-/

namespace Switchboard.Server

/-! ## The channel of a server -/

open Reverse (Channel)

/-- What the operation does to the channel. -/
def Operation.calls (s : Server) : Operation → List Reverse.Operation
  | reverse op => [op]
  | callFrontEnd method payload => [.begin method payload, .wait ⟨s.channel.counter.next⟩]
  | shutdown _ => if s.stopped then [] else [.cancelAll]
  | _ => []

/-- A call is made that nobody waits for yet. -/
def Operation.begins : Operation → Bool
  | reverse op => op.begins
  | _ => false

/-- What a run of the server does to the channel. -/
def calls : List Operation → Server → List Reverse.Operation
  | [], _ => []
  | op :: ops, s => op.calls s ++ calls ops (s.step op).state

theorem channel_step (op : Operation) (s : Server) :
    (s.step op).state.channel = s.channel.after (op.calls s) := by
  cases op with
  | openStream now shape method request =>
    simp only [step]
    split
    · next ho => rcases openStream_cases ho with ⟨handler, rfl⟩ | ⟨e, rfl⟩ <;> rfl
    · rfl
  | reap now =>
    simp only [step, reap]
    split
    · split <;> rfl
    · rfl
  | callFrontEnd method payload => exact Reverse.Channel.call_eq method payload s.channel
  | cacheGet now store key =>
    simp only [step, quietly, cacheGet]
    split <;> rfl
  | cachePut now store key value ttlSeconds =>
    simp only [step, quietly, cachePut]
    split <;> rfl
  | cacheDelete store key =>
    simp only [step, quietly, cacheDelete]
    split <;> rfl
  | shutdown now =>
    simp only [step, shutdown, Operation.calls]
    split <;> rfl
  | _ => rfl

theorem channel_after (ops : List Operation) (s : Server) :
    (s.after ops).channel = s.channel.after (s.calls ops) := by
  induction ops generalizing s with
  | nil => rfl
  | cons op ops ih =>
    show ((s.step op).state.after ops).channel = _
    rw [ih, channel_step, calls]
    exact List.foldl_append.symm

/-- Nothing is pending on a stopped server with which nobody begins a call. -/
theorem pending_of_stopped {s : Server} (hs : s.channel.Sound) (hstopped : s.stopped = true)
    (hnone : s.channel.pending = []) {ops : List Operation}
    (hops : ∀ op ∈ ops, op.begins = false) : (s.after ops).channel.pending = [] := by
  induction ops generalizing s with
  | nil => exact hnone
  | cons op ops ih =>
    have hsound : (s.step op).state.channel.Sound := by
      rw [channel_step]
      exact hs.after _
    refine ih hsound ?_ ?_ fun op' hop' => hops op' (List.mem_cons_of_mem _ hop')
    · rw [stopped_step, hstopped, Bool.true_or]
    rw [channel_step]
    have hquiet := hops op List.mem_cons_self
    cases op with
    | callFrontEnd method payload =>
      show (s.channel.after [_, _]).pending = []
      rw [← Channel.call_eq, hs.pending_call, hnone]
      rfl
    | reverse op =>
      have hsublist := hs.pending_perform hquiet
      rw [hnone] at hsublist
      exact List.sublist_nil.mp hsublist
    | shutdown now =>
      simp only [Operation.calls, if_pos hstopped]
      exact hnone
    | _ => exact hnone

/-! ## The shutdown -/

variable {config : Config} {dispatcher : Dispatcher} {around : Surroundings} {s s₀ : Server}

/-- A server is started with no calls, and numbers them where the servers before it stopped. -/
theorem sound_channel_start (hstart : start config dispatcher around = .ok s₀)
    (hcounter : 0 < around.requests.next) : s₀.channel.Sound := by
  unfold start at hstart
  cases hvalid : config.validate with
  | error e =>
    rw [hvalid] at hstart
    cases hstart
  | ok =>
    rw [hvalid] at hstart
    cases hstart
    exact ⟨hcounter, nofun, nofun⟩

theorem channel_shutdown_of_running (hrunning : s.stopped = false) (now : Instant) :
    (s.shutdown now).answer.pendingCallsCancelled = s.channel.pendingCount ∧
      (s.shutdown now).state.channel = s.channel.cancelAll.2 := by
  unfold shutdown
  rw [if_neg (by simp [hrunning])]
  exact ⟨rfl, rfl⟩

/-- **The shutdown leaves no call pending, and later calls are not its concern.** The first
shutdown in a run counts the pending calls and leaves none: whoever waits for one is told that
it was cancelled. Whatever is done to the server after that, no call is pending that was made
before. Pending are the calls begun since and not settled since; so as long as no call is begun,
with nobody waiting for it, none is pending.

A call that is made on the stopped server goes to the front end all the same. If it is waited
for it leaves nothing pending. If it is only begun it is refused exactly if the sink refuses it,
and otherwise stays pending unless it is answered from inside the forwarding. -/
theorem shutdown_cancels_calls (hstart : start config dispatcher around = .ok s₀)
    (hcounter : 0 < around.requests.next) {past : List Operation}
    (hfirst : ∀ op ∈ past, op.isShutdown = false) (now : Instant) :
    let s := s₀.after past
    let o := s.shutdown now
    o.answer.pendingCallsCancelled = s.channel.pendingCount ∧
    o.state.channel.pendingCount = 0 ∧
    (∀ id ∈ s.channel.pending, (o.state.channel.wait id).1 = some (.error (.cancelled id))) ∧
    ∀ later : List Operation,
      let t := o.state.after later
      (∀ id ∈ t.channel.pending, s.channel.counter.next ≤ id.number) ∧
      t.channel.pending = (o.state.channel.log (o.state.calls later)).pending ∧
      ((∀ op ∈ later, op.begins = false) → t.channel.pendingCount = 0) ∧
      ∀ method payload,
        let id : RequestId := ⟨t.channel.counter.next⟩
        let reaction := t.channel.sink ⟨id, method, payload⟩
        (t.callFrontEnd method payload).2.channel.pending =
          t.channel.pending.filter (reaction.leaves id) ∧
        (t.beginCall method payload).1.answer =
          (match reaction.refusal with
          | some e => .error e
          | none => .ok id) ∧
        (t.beginCall method payload).2.channel.pending =
          (t.channel.pending ++ [id]).filter (reaction.leaves id) := by
  intro s o
  have hrunning : s.stopped = false := by
    rw [stopped_after, (host_start hstart).2, Bool.false_or, List.any_eq_false]
    exact fun op hop => by simp [hfirst op hop]
  have hsound : s.channel.Sound := by
    rw [channel_after]
    exact (sound_channel_start hstart hcounter).after _
  obtain ⟨hcount, hchannel⟩ := channel_shutdown_of_running hrunning now
  have hnone : o.state.channel.pending = [] := by
    rw [hchannel]
    rfl
  have hcancelled : o.state.channel.Sound := by
    rw [hchannel]
    exact Channel.Effect.cancelled.sound hsound
  have hstopped : o.state.stopped = true := (stopped_step (.shutdown now) s).trans (Bool.or_true _)
  refine ⟨hcount, List.length_eq_zero_iff.mpr hnone, fun id hid => ?_, fun later => ?_⟩
  · rw [hchannel]
    exact hsound.wait_cancelAll hid
  intro t
  have htrace := Channel.trace_log (o.state.calls later) o.state.channel
  rw [← channel_after] at htrace
  have hpending : t.channel.pending = (o.state.channel.log (o.state.calls later)).pending := by
    rw [htrace.pending_eq hcancelled, hnone]
    rfl
  have ht : t.channel.Sound := htrace.sound hcancelled
  refine ⟨fun id hid => ?_, hpending, fun hquiet => ?_, fun method payload => ⟨?_, ?_, ?_⟩⟩
  · have hnext : o.state.channel.counter = s.channel.counter := by
      rw [hchannel]
      rfl
    rw [hpending] at hid
    rw [← hnext]
    exact htrace.next_le.2 id ((Reverse.Chronicle.pending_sublist_ids _).subset hid)
  · exact List.length_eq_zero_iff.mpr (pending_of_stopped hcancelled hstopped hnone hquiet)
  · exact ht.pending_call method payload
  · exact Channel.answer_begin method payload t.channel
  · exact Channel.pending_begin method payload t.channel

/-- The first call is cancelled by the shutdown. The second is made when the server is stopped,
and stays pending. -/
theorem shutdown_cancels_calls_begun :
    ∃ s₀, start {} waiting { reverseSink := fun _ => {} } = .ok s₀ ∧
      let s := s₀.after [.reverse (.begin "before" [1])]
      let o := s.shutdown ⟨0⟩
      s.channel.pending = [⟨1⟩] ∧ o.state.channel.pending = [] ∧
      (o.state.channel.wait ⟨1⟩).1 = some (.error (.cancelled ⟨1⟩)) ∧
      (o.state.beginCall "after" [2]).1.answer = .ok ⟨2⟩ ∧
      (o.state.beginCall "after" [2]).2.channel.pending = [⟨2⟩] := by
  refine ⟨_, rfl, ?_⟩
  intro s o
  have hfirst : ∀ op ∈ [Operation.reverse (.begin "before" [1])], op.isShutdown = false := by
    simp [Operation.isShutdown]
  obtain ⟨-, hnone, hcancelled, hlater⟩ :=
    @shutdown_cancels_calls {} waiting { reverseSink := fun _ => {} } _ rfl (by decide) _ hfirst
      ⟨0⟩
  obtain ⟨-, -, -, hcalls⟩ := hlater []
  obtain ⟨-, hanswer, hpending⟩ := hcalls "after" [2]
  exact ⟨rfl, List.length_eq_zero_iff.mp hnone, hcancelled ⟨1⟩ List.mem_cons_self, hanswer,
    hpending⟩

end Switchboard.Server
