import Switchboard.Proofs.Stream.Trace

/-!
# Breaks — a handler that breaks off has failed

A handler may break off instead of returning. A break that can be contained counts as a failure,
with a reason that describes it: to the front end, to other sessions and to all that comes later
it makes no difference whether the handler broke off or returned this failure. So the two are
told apart by nobody but the handler, and `contained` puts the failure in the place of the break.

The same is said of calls, of a script, of a handler at work and of a host: two of them are
alike if they agree once breaks are contained.
-/

namespace Switchboard

/-! ## Failures in the place of breaks -/

/-- The reason with which a handler fails that broke off. -/
def Panic.reason (p : Panic) : String := "handler panicked: " ++ p.describe

namespace Ending

/-- The ending, but that a break that can be contained is a failure. -/
def contained : Ending → Ending
  | returned outcome => returned outcome
  | panicked p =>
    match p.rebound? with
    | none => returned (.error (.handlerFailed p.reason))
    | some _ => panicked p

theorem verdict_contained (e : Ending) : e.contained.verdict = e.verdict := by
  cases e with
  | returned outcome => rfl
  | panicked p => cases p <;> rfl

end Ending

/-- The call, but that a handler that breaks off in it has failed. -/
def Call.contained : Call → Call
  | finish ending => finish ending.contained
  | c => c

/-- The act, but that a break that can be contained is a failure. -/
def Act.contained : Act → Act
  | .panic p =>
    match p.rebound? with
    | none => .fail p.reason
    | some _ => .panic p
  | act => act

/-- The instruction with its act contained. -/
def Instruction.contained (i : Instruction) : Instruction := { i with act := i.act.contained }

/-- The handler with every instruction contained. -/
def Handler.contained (h : Handler) : Handler :=
  { h with script := h.script.map Instruction.contained }

namespace Session

theorem call_contained (now : Instant) (c : Call) (s : Session) :
    s.call now c.contained = s.call now c := by
  cases c with
  | finish ending => simp only [Call.contained, call, Ending.verdict_contained]
  | receive | send | closeSend | setHeader | setTrailer => rfl

end Session

/-! ## A run of a manager -/

/-- The operation, but that a break that can be contained is a failure. -/
def Operation.contained : Operation → Operation
  | call now id c => call now id c.contained
  | op => op

namespace Manager

theorem step_contained (op : Operation) (m : Manager) : m.step op.contained = m.step op := by
  cases op with
  | call now id c => simp only [Operation.contained, step, call, Session.call_contained]
  | openSession | send | closeInput | close | markReady | expireIdle | shutdown | interrupt => rfl

theorem trace_contained (ops : List Operation) (m : Manager) :
    m.trace (ops.map Operation.contained) = m.trace ops := by
  induction ops generalizing m with
  | nil => rfl
  | cons op ops ih => rw [List.map_cons, trace, trace, step_contained, ih]

end Manager

/-! ## A handler at work -/

namespace Task

/-- The task, but that a break that can be contained is a failure. -/
def contained (t : Task) : Task :=
  { t with agenda := t.agenda.map Instruction.contained
           ending := t.ending.map Ending.contained }

end Task

/-- The move, with what is left of the handler contained. -/
def Move.contained : Move → Move
  | rest => rest
  | note event t => note event t.contained
  | call c => call c.contained

namespace Task

variable {t u : Task}

theorem move_contained (t : Task) : t.contained.move = t.move.contained := by
  obtain ⟨session, shape, request, attended, agenda, carried, collected, passedOver, ending,
    isOver⟩ := t
  cases isOver with
  | true => rfl
  | false =>
    cases ending with
    | some e => rfl
    | none =>
      cases agenda with
      | nil => cases attended <;> rfl
      | cons i agenda =>
        obtain ⟨act, strict⟩ := i
        cases act with
        | echo => cases carried <;> rfl
        | panic p => cases p <;> rfl
        | _ => rfl

theorem proceed_contained (i : Instruction) (agenda : List Instruction) (a : Answer) (t : Task) :
    t.contained.proceed i.contained (agenda.map Instruction.contained) a =
      (t.proceed i agenda a).contained := by
  cases a with
  | ok chunk => rfl
  | error e =>
    have hsame : i.contained.strict = i.strict := rfl
    unfold proceed
    rw [hsame]
    cases i.strict <;> rfl

theorem answered_contained (c : Call) (a : Answer) (t : Task) :
    t.contained.answered c.contained a = (t.answered c a).contained := by
  cases c with
  | finish e => rfl
  | receive | send | closeSend | setHeader | setTrailer =>
    obtain ⟨session, shape, request, attended, agenda, carried, collected, passedOver, ending,
      isOver⟩ := t
    cases agenda with
    | nil => rfl
    | cons i agenda =>
      obtain ⟨act, strict⟩ := i
      cases act with
      | echo => rcases a with e | (_ | chunk) <;> cases carried <;> rfl
      | collect => rcases a with e | (_ | chunk) <;> rfl
      | panic p => cases p <;> exact proceed_contained ..
      | _ => exact proceed_contained ..

theorem answer_contained (d : Desk) (c : Call) :
    Peer.answer d c.contained = Peer.answer d c := by
  show d.answer c.contained = d.answer c
  rw [Desk.answer, Session.call_contained]
  rfl

/-- A step is the same but for what the handler sees of its own end. -/
theorem step_contained (t : Task) (d : Desk) :
    (t.contained.step d).map (fun r => (r.1, r.2.1)) =
      (t.step d).map fun r => (r.1.contained, r.2.1) := by
  unfold step
  rw [move_contained]
  cases t.move with
  | rest | note => rfl
  | call c =>
    simp only [Move.contained, answer_contained]
    cases Peer.answer d c with
    | none => rfl
    | some r =>
      rw [Option.map_some, Option.map_some, answered_contained]

theorem run_contained (t : Task) (d : Desk) :
    (t.contained.run d).1 = (t.run d).1.contained ∧ (t.contained.run d).2.1 = (t.run d).2.1 := by
  fun_induction Task.run t d with
  | case1 t d hstep =>
    have hcontained := step_contained t d
    rw [hstep] at hcontained
    rw [run_of_step (Option.map_eq_none_iff.mp hcontained)]
    exact ⟨rfl, rfl⟩
  | case2 t d u q events hstep v r more hrun ih =>
    have hcontained := step_contained t d
    rw [hstep] at hcontained
    obtain ⟨⟨u', q', events'⟩, hsome, heq⟩ := Option.map_eq_some_iff.mp hcontained
    cases heq
    rw [run_of_some hsome]
    rw [hrun] at ih
    exact ih

/-- Handlers that are alike do the same to their session, and they are alike afterwards. -/
theorem run_alike (h : t.contained = u.contained) (d : Desk) :
    (t.run d).1.contained = (u.run d).1.contained ∧ (t.run d).2.1 = (u.run d).2.1 := by
  obtain ⟨htask, hdesk⟩ := run_contained t d
  obtain ⟨htask', hdesk'⟩ := run_contained u d
  rw [← htask, ← htask', ← hdesk, ← hdesk', h]
  exact ⟨rfl, rfl⟩

theorem contained_ofHandler (session : SessionId) (shape : Shape) (h : Handler) :
    (ofHandler session shape h).contained = ofHandler session shape h.contained := rfl

/-- Handlers that are alike are given instructions that are alike. -/
theorem give_contained (i : Instruction) (t : Task) :
    t.contained.give i.contained = (t.give i).map contained := by
  unfold give
  cases hover : t.isOver with
  | true => simp [contained, hover]
  | false => cases hattended : t.attended <;> simp [contained, hover, hattended]

end Task

/-! ## A host -/

/-- Two outcomes are the same to whoever does not see what the handlers see, and the states are
alike. -/
structure Outcome.Same {σ α : Type} (alike : σ → σ → Prop) (o o' : Outcome σ α) : Prop where
  answer : o.answer = o'.answer
  state : alike o.state o'.state
  deliveries : o.activity.deliveries = o'.activity.deliveries
  woken : o.activity.woken = o'.activity.woken

namespace Outcome

variable {σ α β : Type} {alike : σ → σ → Prop} {o o' : Outcome σ α}

theorem Same.map (h : Same alike o o') (f : α → β) : Same alike (o.map f) (o'.map f) :=
  ⟨congrArg f h.answer, h.state, h.deliveries, h.woken⟩

theorem Same.andThen (h : Same alike o o') {f : σ → Outcome σ β}
    (hf : ∀ s s', alike s s' → Same alike (f s) (f s')) :
    Same alike (o.andThen f) (o'.andThen f) := by
  have hnext := hf _ _ h.state
  refine ⟨h.answer, hnext.state, ?_, ?_⟩
  · show _ ++ _ = o'.activity.deliveries ++ _
    rw [h.deliveries, hnext.deliveries]
  · show _ ++ _ = o'.activity.woken ++ _
    rw [h.woken, hnext.woken]

end Outcome

namespace Host

/-- The hosts have the same sessions, with handlers that are alike. -/
structure Alike (h h' : Host) : Prop where
  manager : h.manager = h'.manager
  tasks : h.tasks.map Task.contained = h'.tasks.map Task.contained

variable {h h' : Host} {t t' : Task}

theorem Alike.task? (halike : Alike h h') (id : SessionId) :
    (h.task? id).map Task.contained = (h'.task? id).map Task.contained := by
  have hfind : ∀ ts : List Task, (ts.find? (·.session = id)).map Task.contained =
      (ts.map Task.contained).find? (·.session = id) := by
    intro ts
    rw [List.find?_map]
    rfl
  rw [Host.task?, Host.task?, hfind, hfind, halike.tasks]

theorem Alike.putTask (halike : Alike h h') (htask : t.contained = t'.contained) :
    Alike (h.putTask t) (h'.putTask t') := by
  refine ⟨halike.manager, ?_⟩
  have hput : ∀ (t : Task) (h : Host), (h.putTask t).tasks.map Task.contained =
      (h.tasks.map Task.contained).map fun u =>
        if u.session = t.contained.session then t.contained else u := by
    intro t h
    simp only [Host.putTask, List.map_map]
    refine List.map_congr_left fun u _ => ?_
    by_cases hu : u.session = t.session
    · simp [hu, Task.contained]
    · simp [hu, Task.contained]
  rw [hput, hput, halike.tasks, htask]

theorem settle_alike (now : Instant) (id : SessionId) (halike : Alike h h') :
    Outcome.Same Alike (h.settle now id) (h'.settle now id) := by
  have htask := halike.task? id
  unfold settle
  rw [← halike.manager]
  cases ht : h.task? id with
  | none =>
    rw [ht] at htask
    rw [Option.map_eq_none_iff.mp htask.symm]
    exact ⟨rfl, halike, rfl, rfl⟩
  | some t =>
    rw [ht] at htask
    obtain ⟨t', ht', hcontained⟩ := Option.map_eq_some_iff.mp htask.symm
    rw [ht']
    cases hs : h.manager.find? id with
    | none => exact ⟨rfl, halike, rfl, rfl⟩
    | some s =>
      obtain ⟨hran, hdesk⟩ := Task.run_alike hcontained.symm ({ session := s, now } : Desk)
      refine ⟨rfl, Alike.putTask ⟨?_, halike.tasks⟩ hran, ?_, ?_⟩
      · exact congrArg (fun d : Desk => h.manager.put d.session) hdesk
      · exact congrArg (fun d : Desk => d.activity.deliveries ++ []) hdesk
      · exact congrArg (fun d : Desk => d.activity.woken ++ []) hdesk

theorem Alike.sessions (halike : Alike h h') :
    h.tasks.map (·.session) = h'.tasks.map (·.session) := by
  have hsame : ∀ ts : List Task, ts.map (·.session) = (ts.map Task.contained).map (·.session) := by
    intro ts
    rw [List.map_map]
    rfl
  rw [hsame h.tasks, halike.tasks, ← hsame]

theorem settleAll_alike (now : Instant) (halike : Alike h h') :
    Outcome.Same Alike (h.settleAll now) (h'.settleAll now) := by
  -- The handlers have their turns one after another, each named by its session.
  have hturns : ∀ h : Host, h.settleAll now = (h.tasks.map (·.session)).foldl
      (fun o id => o.andThen (settle now id)) { answer := (), state := h } := by
    intro h
    rw [settleAll, List.foldl_map]
  have hfold : ∀ (ids : List SessionId) (o o' : Outcome Host Unit), Outcome.Same Alike o o' →
      Outcome.Same Alike (ids.foldl (fun o id => o.andThen (settle now id)) o)
        (ids.foldl (fun o id => o.andThen (settle now id)) o') := by
    intro ids
    induction ids with
    | nil => exact fun o o' ho => ho
    | cons id ids ih =>
      exact fun o o' ho => ih _ _ (ho.andThen fun _ _ => settle_alike now id)
  rw [hturns, hturns, halike.sessions]
  exact hfold _ _ _ ⟨rfl, halike, rfl, rfl⟩

/-- What is done to the manager does not look at the handlers. -/
theorem within_alike {α : Type} (op : Manager → Outcome Manager α) (halike : Alike h h') :
    Outcome.Same Alike ((op h.manager).within fun manager => { h with manager })
      ((op h'.manager).within fun manager => { h' with manager }) := by
  rw [halike.manager]
  exact ⟨rfl, ⟨rfl, halike.tasks⟩, rfl, rfl⟩

theorem perform_alike {α : Type} (now : Instant) (id : SessionId)
    (op : Manager → Outcome Manager α) (halike : Alike h h') :
    Outcome.Same Alike (h.perform now id op) (h'.perform now id op) :=
  (within_alike op halike).andThen fun _ _ => settle_alike now id

theorem performAll_alike {α : Type} (now : Instant) (op : Manager → Outcome Manager α)
    (halike : Alike h h') : Outcome.Same Alike (h.performAll now op) (h'.performAll now op) :=
  (within_alike op halike).andThen fun _ _ => settleAll_alike now

theorem settled_alike {α : Type} (now : Instant) (id : SessionId) (answer : α)
    (halike : Alike h h') :
    Outcome.Same Alike (Outcome.andThen { answer, state := h } (settle now id))
      (Outcome.andThen { answer, state := h' } (settle now id)) := by
  have hidle : Outcome.Same Alike ({ answer, state := h } : Outcome Host α)
      { answer, state := h' } := ⟨rfl, halike, rfl, rfl⟩
  exact hidle.andThen fun _ _ => settle_alike now id

theorem openSession_alike (now : Instant) (shape : Shape) {handler handler' : Handler}
    (hhandler : handler.contained = handler'.contained) (halike : Alike h h') :
    Outcome.Same Alike (h.openSession now shape handler) (h'.openSession now shape handler') := by
  unfold openSession
  rw [← halike.manager]
  dsimp only
  cases (h.manager.openSession now shape).answer with
  | error e => exact ⟨rfl, ⟨rfl, halike.tasks⟩, rfl, rfl⟩
  | ok id =>
    dsimp only
    refine settled_alike now id _ ⟨rfl, ?_⟩
    rw [List.map_append, List.map_append, halike.tasks, List.map_singleton, List.map_singleton,
      Task.contained_ofHandler, Task.contained_ofHandler, hhandler]

theorem instruct_alike (now : Instant) (id : SessionId) {i i' : Instruction}
    (hi : i.contained = i'.contained) (halike : Alike h h') :
    Outcome.Same Alike (h.instruct now id i) (h'.instruct now id i') := by
  have hgiven : ∀ (h : Host) i, ((h.task? id).bind (·.give i)).map Task.contained =
      ((h.task? id).map Task.contained).bind (·.give i.contained) := by
    intro h i
    cases h.task? id with
    | none => rfl
    | some t => exact (Task.give_contained i t).symm
  have hsame : ((h.task? id).bind (·.give i)).map Task.contained =
      ((h'.task? id).bind (·.give i')).map Task.contained := by
    rw [hgiven, hgiven, halike.task?, hi]
  unfold instruct
  cases ht : (h.task? id).bind (·.give i) with
  | none =>
    rw [ht] at hsame
    rw [Option.map_eq_none_iff.mp hsame.symm]
    exact ⟨rfl, halike, rfl, rfl⟩
  | some t =>
    rw [ht] at hsame
    obtain ⟨t', ht', hcontained⟩ := Option.map_eq_some_iff.mp hsame.symm
    rw [ht']
    exact settled_alike now id _ (halike.putTask hcontained.symm)

end Host

end Switchboard
