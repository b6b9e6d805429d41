import Switchboard.Reverse.Channel

/-!
# Run — a channel in the course of time

A run is a list of operations on one channel, done one at a time. `Channel.log` is what a
run comes to: a list of occurrences, in the order in which they happen. A call that is
forwarded may be answered from inside the forwarding, so that one operation can come to
several occurrences. Waits are operations like others and take effect as they end.

`Effect` lists all that can happen to a channel, one case for each occurrence and its guard,
and `Trace` chains effects. That every run is a trace is `trace_log`; later modules take
traces apart and never unfold the operations of a channel.
-/

namespace Switchboard.Reverse

/-! ## Operations and occurrences -/

/-- One thing done to a channel. -/
inductive Operation where
  | begin (method : String) (payload : Bytes)
  | complete (id : RequestId) (payload : Bytes)
  | cancelAll
  -- What the callers do with the calls that they hold.
  | wait (id : RequestId)
  | take (id : RequestId)
  | drop (id : RequestId)
  -- Another channel gives out an identity.
  | elsewhere
  deriving Repr

/-- One thing that happens to a channel. -/
inductive Occurrence where
  | issued (id : RequestId)
  | spent (id : RequestId)
  -- The call was refused, and with it the attempt to make it.
  | refused (id : RequestId) (error : ReverseError)
  | answered (id : RequestId) (payload : Bytes) (result : Except ReverseError Unit)
  | cancelled (number : Nat)
  | waited (id : RequestId) (result : Result)
  | taken (id : RequestId) (outcome : Option Result)
  | dropped (id : RequestId)

namespace Occurrence

/-- The call that was made. -/
def issued? : Occurrence → Option RequestId
  | issued id => some id
  | _ => none

/-- The call whose answer was accepted. -/
def accepted? : Occurrence → Option RequestId
  | answered id _ (.ok ()) => some id
  | _ => none

/-- The call is pending no longer: it was completed, cancelled or refused, it timed out, or
its caller dropped it. -/
def settles (id : RequestId) : Occurrence → Bool
  | answered other _ (.ok ()) => other = id
  | cancelled _ => true
  | waited other (.error (.timeout _)) => other = id
  | refused other _ | dropped other => other = id
  | _ => false

/-- The caller parts with the outcome of the call, or with the call itself. -/
def parts (id : RequestId) : Occurrence → Bool
  | refused other _ | waited other _ | taken other _ | dropped other => other = id
  | _ => false

/-- The occurrence brings the caller an outcome; `pending` are the calls pending before. -/
def Brings (pending : List RequestId) (id : RequestId) (result : Result) : Occurrence → Prop
  | answered other payload (.ok ()) => other = id ∧ result = .ok payload
  | cancelled _ => id ∈ pending ∧ result = .error (.cancelled id)
  | _ => False

end Occurrence

/-! ## What a log tells -/

/-- What occurred, in order. -/
abbrev Chronicle := List Occurrence

namespace Chronicle

/-- The identities given out for calls of the channel, in order. -/
def ids (log : Chronicle) : List RequestId := log.filterMap Occurrence.issued?

/-- The calls whose answers were accepted, in order. -/
def accepted (log : Chronicle) : List RequestId := log.filterMap Occurrence.accepted?

/-- The calls that were issued and not settled since, in order. -/
def pending : Chronicle → List RequestId
  | [] => []
  | .issued id :: log => if log.any (·.settles id) then pending log else id :: pending log
  | _ :: log => pending log

/-- The identity was given out, by this channel, by another, or by one before them. -/
def Issued (earlier : Nat) (log : Chronicle) (id : RequestId) : Prop :=
  (0 < id.number ∧ id.number ≤ earlier) ∨ .issued id ∈ log ∨ .spent id ∈ log

/-- An outcome was brought to the caller of the call, who has not parted with it since. -/
def Brings (log : Chronicle) (id : RequestId) (result : Result) : Prop :=
  ∃ before o after, log = before ++ o :: after ∧ o.Brings (pending before) id result ∧
    ∀ o' ∈ after, o'.parts id = false

variable (log : Chronicle) (o : Occurrence) (id : RequestId)

theorem ids_concat : ids (log ++ [o]) = ids log ++ o.issued?.toList := by
  rw [ids, List.filterMap_append, ids]
  cases hid : o.issued? <;> simp [hid]

theorem accepted_concat : accepted (log ++ [o]) = accepted log ++ o.accepted?.toList := by
  rw [accepted, List.filterMap_append, accepted]
  cases hid : o.accepted? <;> simp [hid]

theorem pending_concat :
    pending (log ++ [o]) = (pending log).filter (!o.settles ·) ++ o.issued?.toList := by
  induction log with
  | nil => cases o <;> rfl
  | cons first log ih =>
    cases first with
    | issued id =>
      simp only [List.cons_append, pending, List.any_append, List.any_cons, List.any_nil,
        Bool.or_false, ih]
      cases hsettled : log.any (·.settles id) with
      | true => simp
      | false => cases hnow : o.settles id <;> simp [hnow]
    | _ => exact ih

theorem issued_concat (earlier : Nat) :
    Issued earlier (log ++ [o]) id ↔ Issued earlier log id ∨ o = .issued id ∨ o = .spent id := by
  simp only [Issued, List.mem_append, List.mem_singleton, eq_comm (b := o)]
  grind

/-- What is found in a log with one more occurrence is that one, or was found before. -/
theorem exists_of_concat_eq {log before after : Chronicle} {o last : Occurrence}
    (h : log ++ [last] = before ++ o :: after) :
    (before = log ∧ o = last) ∨
      ∃ middle, log = before ++ o :: middle ∧ after = middle ++ [last] := by
  rcases List.eq_nil_or_concat after with rfl | ⟨middle, final, rfl⟩
  · obtain ⟨hlog, hlast⟩ := List.append_inj' h rfl
    exact .inl ⟨hlog.symm, (List.cons.inj hlast).1.symm⟩
  · rw [List.concat_eq_append] at h ⊢
    rw [← List.cons_append, ← List.append_assoc] at h
    obtain ⟨hlog, hlast⟩ := List.append_inj' h rfl
    exact .inr ⟨middle, hlog, by rw [hlast]⟩

theorem brings_concat (result : Result) :
    Brings (log ++ [o]) id result ↔
      o.Brings (pending log) id result ∨ (Brings log id result ∧ o.parts id = false) := by
  constructor
  · rintro ⟨before, o', after, hlog, hbrings, hkept⟩
    rcases exists_of_concat_eq hlog with ⟨rfl, rfl⟩ | ⟨middle, rfl, rfl⟩
    · exact .inl hbrings
    · refine .inr ⟨⟨before, o', middle, rfl, hbrings, fun o'' ho'' => ?_⟩, ?_⟩
      · exact hkept o'' (List.mem_append_left _ ho'')
      · exact hkept o (List.mem_append_right _ (List.mem_singleton_self o))
  · rintro (hbrings | ⟨⟨before, o', after, rfl, hbrings, hkept⟩, hparts⟩)
    · exact ⟨log, o, [], rfl, hbrings, fun o' ho' => absurd ho' List.not_mem_nil⟩
    · refine ⟨before, o', after ++ [o], by simp, hbrings, fun o'' ho'' => ?_⟩
      rcases List.mem_append.mp ho'' with hin | hlast
      · exact hkept o'' hin
      · rw [List.mem_singleton.mp hlast]
        exact hparts

end Chronicle

/-! ## A run -/

namespace Channel

/-- A channel as it is created, after `earlier` calls of channels before it. -/
def fresh (sink : Sink) (timeout : Duration) (earlier : Nat) : Channel :=
  { sink, timeout, counter := ⟨earlier + 1⟩ }

/-- What an operation comes to. Operations on calls that are not held come to nothing. -/
def perform (op : Operation) (c : Channel) : Chronicle × Channel :=
  match op with
  | .begin method payload =>
    let id : RequestId := ⟨c.counter.next⟩
    let answers := (c.sink { id, method, payload }).answers
    let (begun, c) := c.begin method payload
    let refusal := match begun.answer with
      | .ok _ => []
      | .error e => [.refused id e]
    (.issued id :: answers.zipWith (fun (id, payload) => .answered id payload) begun.answers ++
      refusal, c)
  | .complete id payload =>
    let (result, c) := c.complete id payload
    ([.answered id payload result], c)
  | .cancelAll =>
    let (number, c) := c.cancelAll
    ([.cancelled number], c)
  | .wait id =>
    let (result?, c) := c.wait id
    (result?.toList.map (.waited id), c)
  | .take id =>
    let (outcome?, c) := c.take id
    (outcome?.toList.map (.taken id), c)
  | .drop id => if (c.slot? id).isSome then ([.dropped id], c.abandon id) else ([], c)
  | .elsewhere => ([.spent ⟨c.counter.next⟩], { c with counter := c.counter.advance })

/-- The channel after operations, one after the other. -/
def after (ops : List Operation) (c : Channel) : Channel :=
  ops.foldl (fun c op => (c.perform op).2) c

/-- What occurs in the course of a run. -/
def log : List Operation → Channel → Chronicle
  | [], _ => []
  | op :: ops, c => (c.perform op).1 ++ log ops (c.perform op).2

/-! ## All that can happen to a channel -/

/-- The channel with one more pending call, and somebody who holds it. -/
def enlist (c : Channel) : Channel :=
  { c with counter := c.counter.advance, pending := c.pending ++ [⟨c.counter.next⟩],
           slots := c.slots ++ [{ id := ⟨c.counter.next⟩ }] }

/-- What can happen to a channel, case by case. -/
inductive Effect (c : Channel) : Occurrence → Channel → Prop where
  | issued : Effect c (.issued ⟨c.counter.next⟩) c.enlist
  | spent : Effect c (.spent ⟨c.counter.next⟩) { c with counter := c.counter.advance }
  | refused {id : RequestId} {e : ReverseError} : Effect c (.refused id e) (c.abandon id)
  | answered {id : RequestId} {payload : Bytes} (h : id ∈ c.pending) :
      Effect c (.answered id payload (.ok ()))
        ((c.unlist id).setOutcome id (some (.ok payload)))
  | late {id : RequestId} {payload : Bytes} (h : id ∉ c.pending)
      (hissued : c.counter.issued id.number = true) :
      Effect c (.answered id payload (.error (.alreadyCompleted id))) c
  | unknown {id : RequestId} {payload : Bytes} (h : id ∉ c.pending)
      (hissued : c.counter.issued id.number = false) :
      Effect c (.answered id payload (.error (.unknownRequest id))) c
  | cancelled : Effect c (.cancelled c.pending.length) c.cancelAll.2
  | taken {id : RequestId} {s : Slot} (h : c.slot? id = some s) :
      Effect c (.taken id s.outcome) (c.setOutcome id none)
  | waited {id : RequestId} {s : Slot} (h : c.slot? id = some s) :
      Effect c (.waited id (c.outcomeOfWait s)) (c.abandon id)
  | dropped {id : RequestId} {s : Slot} (h : c.slot? id = some s) :
      Effect c (.dropped id) (c.abandon id)

/-- A chain of effects and its log. -/
inductive Trace (c : Channel) : Chronicle → Channel → Prop where
  | start : Trace c [] c
  | next {log : Chronicle} {o : Occurrence} {d d' : Channel} (h : Trace c log d)
      (heffect : d.Effect o d') : Trace c (log ++ [o]) d'

variable {c d d' : Channel} {log log' : Chronicle} {o : Occurrence}

theorem Effect.trace (h : c.Effect o d) : Trace c [o] d := .next .start h

theorem Trace.append (h : Trace c log d) (h' : Trace d log' d') : Trace c (log ++ log') d' := by
  induction h' with
  | start =>
    rw [List.append_nil]
    exact h
  | next _ heffect ih =>
    rw [← List.append_assoc]
    exact .next ih heffect

/-- What happened in the course of a trace was an effect on the channel as it was then. -/
theorem Trace.exists_effect {before after : Chronicle}
    (h : Trace c (before ++ o :: after) d) :
    ∃ u u', Trace c before u ∧ u.Effect o u' := by
  generalize hlog : before ++ o :: after = log at h
  induction h generalizing after with
  | start => exact absurd hlog (by simp)
  | @next log last u u' htrace heffect ih =>
    rcases Chronicle.exists_of_concat_eq hlog.symm with ⟨rfl, rfl⟩ | ⟨middle, hmiddle, -⟩
    · exact ⟨u, u', htrace, heffect⟩
    · exact ih hmiddle.symm

theorem effect_complete (c : Channel) (id : RequestId) (payload : Bytes) :
    c.Effect (.answered id payload (c.complete id payload).1) (c.complete id payload).2 := by
  unfold complete
  by_cases hpending : id ∈ c.pending
  · rw [if_pos hpending]
    exact .answered hpending
  · rw [if_neg hpending]
    cases hissued : c.counter.issued id.number with
    | true => exact .late hpending hissued
    | false => exact .unknown hpending hissued

theorem trace_completeAll (answers : List (RequestId × Bytes)) (c : Channel) :
    Trace c (answers.zipWith (fun (id, payload) => .answered id payload)
      (completeAll answers c).1) (completeAll answers c).2 := by
  induction answers generalizing c with
  | nil => exact .start
  | cons first rest ih =>
    exact (effect_complete c first.1 first.2).trace.append (ih (c.complete first.1 first.2).2)

/-- **The list of effects is complete.** -/
theorem trace_perform (op : Operation) (c : Channel) :
    Trace c (c.perform op).1 (c.perform op).2 := by
  cases op with
  | begin method payload =>
    have hissued : Trace c [.issued ⟨c.counter.next⟩] c.enlist := Effect.issued.trace
    have hanswers := trace_completeAll
      (c.sink ⟨⟨c.counter.next⟩, method, payload⟩).answers c.enlist
    have htrace := hissued.append hanswers
    simp only [perform, begin]
    cases hrefusal : (c.sink ⟨⟨c.counter.next⟩, method, payload⟩).refusal with
    | none =>
      simp only [List.append_nil]
      exact htrace
    | some e => exact htrace.append Effect.refused.trace
  | complete id payload => exact (effect_complete c id payload).trace
  | cancelAll => exact Effect.cancelled.trace
  | wait id =>
    simp only [perform, wait]
    cases hslot : c.slot? id with
    | none => exact .start
    | some s => exact (Effect.waited hslot).trace
  | take id =>
    simp only [perform, take]
    cases hslot : c.slot? id with
    | none => exact .start
    | some s => exact (Effect.taken hslot).trace
  | drop id =>
    simp only [perform]
    cases hslot : c.slot? id with
    | none => exact .start
    | some s => exact (Effect.dropped hslot).trace
  | elsewhere => exact Effect.spent.trace

theorem trace_log (ops : List Operation) (c : Channel) :
    Trace c (c.log ops) (c.after ops) := by
  induction ops generalizing c with
  | nil => exact .start
  | cons op ops ih => exact (trace_perform op c).append (ih (c.perform op).2)

end Channel
end Switchboard.Reverse
