import Switchboard.Proofs.Server.Calls
import Switchboard.Proofs.Stream.Refusal

/-!
# Refusal — whoever gets an error from a server has changed nothing

Between operations every handler of a server rests, and its manager opens sessions as long as
the server is not stopped (`Poised`). So an error that the manager answers is the end of the
matter, and an error that the server answers itself was answered before anybody was asked to
do anything. The one thing that is spent on a refusal is the number of a call into the front
end: its sink had to see the call to refuse it.
-/

namespace Switchboard.Server

open Reverse (Channel)

variable {first : Nat} {s : Server} {op : Operation}

/-! ## Between operations -/

/-- The sessions of the server and their handlers are ready for what comes next. -/
structure Ready (s : Server) : Prop where
  resting : s.host.Resting
  opens : s.stopped = false → s.host.manager.shuttingDown = false

/-- What a server keeps true between operations. -/
structure Poised (first : Nat) (s : Server) : Prop extends Ready s where
  kept : s.Kept first
  calls : s.channel.Sound

theorem Ready.beside {s' : Server} (hs : s.Ready) (hhost : s'.host = s.host)
    (hstopped : s'.stopped = s.stopped) : s'.Ready := by
  refine ⟨hhost ▸ hs.resting, fun hrunning => ?_⟩
  rw [hhost]
  exact hs.opens (hstopped ▸ hrunning)

theorem Ready.stream {α : Type} {o : Outcome Host α} (hs : s.Ready) (ho : Host.Calm s.host o) :
    (s.stream o).state.Ready :=
  ⟨ho.resting hs.resting, fun hrunning => ho.shuttingDown.trans (hs.opens hrunning)⟩

theorem Ready.step (hs : s.Ready) (op : Operation) : (s.step op).state.Ready := by
  cases op with
  | invoke | cacheContains => exact hs
  | openStream now shape method request =>
    simp only [Server.step]
    split
    · next ho =>
      rcases openStream_cases ho with ⟨handler, rfl⟩ | ⟨e, rfl⟩
      · exact hs.stream (Host.calm_openSession now shape handler s.host)
      · exact hs
    · exact hs
  | send now id chunk => exact hs.stream (Host.calm_send now id chunk s.host)
  | closeInput now id => exact hs.stream (Host.calm_closeInput now id s.host)
  | close now id => exact hs.stream (Host.calm_close now id s.host)
  | markReady now id => exact hs.stream (Host.calm_markReady now id s.host)
  | expireIdle now asOf timeout => exact hs.stream (Host.calm_expireIdle now asOf timeout s.host)
  | reap now =>
    simp only [Server.step, reap]
    split
    · split
      · exact hs
      · exact hs.stream (Host.calm_expireIdle now now _ s.host)
    · exact hs
  | instruct now id i => exact hs.stream (Host.calm_instruct now id i s.host)
  | setHeard heard => exact ⟨Host.resting_setHeard hs.resting heard, hs.opens⟩
  | reverse | callFrontEnd => exact hs.beside (by rfl) (by rfl)
  | cacheGet now store key =>
    refine hs.beside ?_ ?_ <;>
      (simp only [Server.step, quietly, cacheGet]; split <;> rfl)
  | cachePut now store key value ttlSeconds =>
    refine hs.beside ?_ ?_ <;>
      (simp only [Server.step, quietly, cachePut]; split <;> rfl)
  | cacheDelete store key =>
    refine hs.beside ?_ ?_ <;>
      (simp only [Server.step, quietly, cacheDelete]; split <;> rfl)
  | shutdown now =>
    have hstopped := stopped_step (.shutdown now) s
    rw [Operation.isShutdown, Bool.or_true] at hstopped
    refine ⟨?_, fun hrunning => ?_⟩
    · simp only [Server.step, shutdown]
      split
      · exact hs.resting
      · exact Host.resting_shutdown now s.host
    · rw [hstopped] at hrunning
      cases hrunning

theorem Ready.after (hs : s.Ready) (ops : List Operation) : (s.after ops).Ready := by
  induction ops generalizing s with
  | nil => exact hs
  | cons op ops ih => exact ih (hs.step op)

theorem Poised.step (hs : s.Poised first) (op : Operation) : (s.step op).state.Poised first := by
  refine ⟨hs.toReady.step op, (hs.kept.step op).kept, ?_⟩
  rw [channel_step]
  exact hs.calls.after _

theorem Poised.after (hs : s.Poised first) (ops : List Operation) :
    (s.after ops).Poised first := by
  induction ops generalizing s with
  | nil => exact hs
  | cons op ops ih => exact ih (hs.step op)

variable {config : Config} {dispatcher : Dispatcher} {around : Surroundings} {s₀ : Server}

theorem ready_start (hstart : start config dispatcher around = .ok s₀) : s₀.Ready := by
  obtain ⟨hhost, -⟩ := host_start hstart
  refine ⟨fun id t s ht => ?_, fun _ => ?_⟩
  · rw [hhost] at ht
    cases ht
  · rw [hhost]

theorem poised_start (hstart : start config dispatcher around = .ok s₀)
    (hcounter : 0 < around.requests.next) : s₀.Poised around.sessions.next :=
  ⟨ready_start hstart, kept_start hstart, sound_channel_start hstart hcounter⟩

/-! ## Refusals -/

/-- The operation was answered with an error, or broke off. -/
def Response.fails : Response → Bool
  | replied (.done (.failed _)) | replied (.escaped _) => true
  | opened (.done (.error _)) | opened (.escaped _) => true
  | sent (.error _) | done (.error _) | called (.error _) => true
  | fetched (.error _) | stored (.error _) | found (.error _) => true
  | reversed log => log.fails
  | _ => false

/-- The server as it is left by an operation that is refused. -/
def refusing (op : Operation) (s : Server) : Server :=
  match op with
  | .reverse op => { s with channel := s.channel.refusing op }
  | .callFrontEnd method payload => { s with channel := s.channel.spent method payload }
  | _ => s

/-- A server that runs refuses a stream only if its dispatcher does. -/
theorem Poised.openStream_of_error (hs : s.Poised first) {now : Instant} {shape : Shape}
    {method : String} {request : Bytes} {o : Outcome Server (Except StreamError SessionId)}
    {e : StreamError} (ho : s.openStream now shape method request = .done o)
    (hfails : o.answer = .error e) : o = { answer := .error e, state := s } := by
  cases hstopped : s.stopped with
  | true =>
    rw [openStream_of_stopped hstopped] at ho
    cases ho
    cases hfails
    rfl
  | false =>
    rcases openStream_cases ho with ⟨handler, rfl⟩ | ⟨e', rfl⟩
    · have hopened : (s.host.openSession now shape handler).answer =
          .ok ⟨s.host.manager.counter.next⟩ := by
        simp only [Host.openSession, Manager.openSession, hs.opens hstopped, Bool.false_eq_true,
          if_false]
        rfl
      cases hopened.symm.trans hfails
    · cases hfails
      rfl

/-- An error of the host is the end of the matter. -/
theorem stream_of_error {α : Type} {o : Outcome Host (Except StreamError α)}
    (f : Except StreamError α → Response) (hf : ∀ result, (f (.ok result)).fails = false)
    (hquiet : ∀ e, o.answer = .error e → o = { answer := .error e, state := s.host })
    (hfails : ((s.stream o).map f).answer.fails = true) :
    ((s.stream o).map f).activity = {} ∧ ((s.stream o).map f).state = s := by
  cases hanswer : o.answer with
  | ok result =>
    have hfine : ((s.stream o).map f).answer.fails = false := by
      show (f o.answer).fails = false
      rw [hanswer]
      exact hf result
    rw [hfails] at hfine
    cases hfine
  | error e =>
    rw [hquiet e hanswer, stream_of_quiet]
    exact ⟨rfl, rfl⟩

/-- **A server that refuses an operation is as it was before.** -/
theorem Poised.step_of_fails (hs : s.Poised first) (hfails : (s.step op).answer.fails = true) :
    (s.step op).activity = {} ∧ (s.step op).state = s.refusing op := by
  have hh := hs.kept.ordered
  cases op with
  | invoke | cacheContains => exact ⟨rfl, rfl⟩
  | openStream now shape method request =>
    simp only [Server.step] at hfails ⊢
    cases ho : s.openStream now shape method request with
    | escaped text => exact ⟨rfl, rfl⟩
    | done o =>
      rw [ho] at hfails
      cases hanswer : o.answer with
      | ok id =>
        simp only [Outcome.map, hanswer] at hfails
        cases hfails
      | error e =>
        rw [hs.openStream_of_error ho hanswer]
        exact ⟨rfl, rfl⟩
  | send now id chunk =>
    exact stream_of_error .sent (fun _ => rfl) (fun _ => hs.resting.send_of_error hh) hfails
  | closeInput now id =>
    exact stream_of_error .done (fun _ => rfl) (fun _ => hs.resting.onLive_of_error hh) hfails
  | close now id =>
    exact stream_of_error .done (fun _ => rfl) (fun _ => hs.resting.onLive_of_error hh) hfails
  | markReady now id =>
    exact stream_of_error .done (fun _ => rfl) (fun _ => hs.resting.onLive_of_error hh) hfails
  | expireIdle | reap | instruct | setHeard | shutdown => cases hfails
  | reverse op =>
    refine ⟨rfl, ?_⟩
    show { s with channel := (s.channel.perform op).2 } = _
    rw [hs.calls.perform_of_fails hfails]
    rfl
  | callFrontEnd method payload =>
    refine ⟨rfl, ?_⟩
    show { s with channel := (s.channel.call method payload).2 } = _
    rw [hs.calls.call_eq_spent]
    rfl
  | cacheGet now store key =>
    refine ⟨rfl, ?_⟩
    simp only [Server.step, quietly, cacheGet] at hfails ⊢
    split at hfails
    · rfl
    · cases hfails
  | cachePut now store key value ttlSeconds =>
    refine ⟨rfl, ?_⟩
    simp only [Server.step, quietly, cachePut] at hfails ⊢
    split at hfails
    · rfl
    · cases hfails
  | cacheDelete store key =>
    refine ⟨rfl, ?_⟩
    simp only [Server.step, quietly, cacheDelete] at hfails ⊢
    split at hfails
    · rfl
    · cases hfails

/-! ## At any time -/

/-- **Refused operations change nothing.** At any time, whatever is answered with an error has
delivered nothing and left everything as it was, on a server, by the handlers of its sessions,
on a manager by itself and on a channel by itself. Two things are spent on a refusal. A call
into the front end that is refused has spent its number, and nothing else unless the sink
answers other calls from inside the forwarding; the same holds of a call that was waited for and
got no answer. A manager that is shutting down spends the number of the session that it
refuses; a server that is stopped does not come to that. -/
theorem refused_changes_nothing (hstart : start config dispatcher around = .ok s₀)
    (hcounter : 0 < around.requests.next) (past : List Operation) :
    let s := s₀.after past
    (∀ op, (s.step op).answer.fails = true →
      (s.step op).activity = {} ∧ (s.step op).state = s.refusing op) ∧
    (∀ (calls : List Switchboard.Operation) op,
      let m := s.host.manager.after calls
      (m.step op).answer.fails = true →
        (m.step op).activity = {} ∧ (m.step op).state = m.refusing op) ∧
    (∀ method payload,
      (∀ a ∈ (s.channel.reactionTo method payload).answers, a.1 = ⟨s.channel.counter.next⟩) →
      s.channel.spent method payload = { s.channel with counter := s.channel.counter.advance }) ∧
    (∀ m₀ : Manager, m₀.sessions = [] → ∀ (ops : List Switchboard.Operation) op,
      let m := m₀.after ops
      (m.step op).answer.fails = true →
        (m.step op).activity = {} ∧ (m.step op).state = m.refusing op) ∧
    ∀ (sink : Reverse.Sink) timeout earlier (ops : List Reverse.Operation) op,
      let c := (Channel.fresh sink timeout earlier).after ops
      (c.perform op).1.fails = true → (c.perform op).2 = c.refusing op := by
  intro s
  have hs : s.Poised around.sessions.next := (poised_start hstart hcounter).after past
  refine ⟨fun op hfails => hs.step_of_fails hfails, fun calls op hfails => ?_,
    fun method payload hsilent => Channel.spent_of_silent hsilent,
    fun m₀ hnone ops op hfails => ?_, fun sink timeout earlier ops op hfails => ?_⟩
  · exact (hs.kept.ordered.numbered.after calls).step_of_fails hfails
  · have hm₀ : m₀.Numbered m₀.counter.next := by
      refine ⟨?_, fun id hid => ?_, Nat.le_refl _⟩
      · rw [Manager.ids, hnone]
        exact .nil
      · rw [Manager.ids, hnone] at hid
        cases hid
    exact (hm₀.after ops).step_of_fails hfails
  · exact ((Channel.tally_fresh sink timeout earlier).sound.after ops).perform_of_fails hfails

/-- A server that is stopped refuses a stream and spends no number on it; its channel refuses a
call and spends one. -/
theorem refused_changes_nothing_stopped :
    ∃ s₀, start {} waiting {} = .ok s₀ ∧
      let s := s₀.after [.shutdown ⟨0⟩]
      (s.step (.openStream ⟨1⟩ .bidi "/m" [])).answer =
        .opened (.done (.error .shuttingDown)) ∧
      (s.step (.openStream ⟨1⟩ .bidi "/m" [])).state = s ∧
      (s.step (.reverse (.begin "m" [1]))).state =
        { s with channel := { s.channel with counter := ⟨2⟩ } } ∧
      (s.host.manager.step (.openSession ⟨1⟩ .bidi)).state =
        { s.host.manager with counter := ⟨2⟩ } := by
  refine ⟨_, rfl, ?_⟩
  intro s
  obtain ⟨hserver, hmanager, hsilent, -, -⟩ :=
    @refused_changes_nothing {} waiting {} _ rfl (by decide) [.shutdown ⟨0⟩]
  refine ⟨rfl, (hserver _ rfl).2, (hserver (.reverse (.begin "m" [1])) rfl).2.trans ?_,
    (hmanager [] (.openSession ⟨1⟩ .bidi) rfl).2⟩
  show { s with channel := s.channel.spent "m" [1] } = _
  exact congrArg (fun channel => { s with channel }) (hsilent "m" [1] nofun)

end Switchboard.Server
