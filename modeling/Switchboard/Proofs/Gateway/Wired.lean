import Switchboard.Proofs.Gateway.Slots
import Switchboard.Proofs.Server.Calls

/-!
# Wired — a reverse call that is refused never reaches the callback

The calls of a server that the interface started go to a sink of the interface (`sinkOf`), which
hears a call or refuses it, and not both. A call is also answered at once if its result is kept
already, and what is kept is no refusal. So whoever is told that there is no callback, or that the
name is invalid, knows that nothing was handed over.
-/

namespace Switchboard.Gateway

open Reverse (Channel)

variable {g : Gateway} {op : Operation}

/-! ## Channels that the interface has wired -/

/-- Calls go where the interface has them go, and what was kept for a caller is no refusal. -/
structure Wired (c : Channel) : Prop where
  sink : ∃ callback, c.sink = sinkOf callback
  settled : ∀ slot ∈ c.slots, ∀ e, slot.outcome = some (.error e) → e = .cancelled slot.id

theorem Wired.effect {c d : Channel} {o : Reverse.Occurrence} (h : Wired c)
    (heffect : c.Effect o d) : Wired d := by
  have habandon : ∀ id, Wired (c.abandon id) := fun id =>
    ⟨h.sink, fun slot hslot => h.settled slot (List.mem_filter.mp hslot).1⟩
  have houtcome : ∀ id (outcome : Option Reverse.Result) (pending : List RequestId),
      (∀ e, outcome ≠ some (.error e)) → Wired ({ c with pending }.setOutcome id outcome) := by
    intro id outcome pending hfine
    refine ⟨h.sink, fun slot hslot e he => ?_⟩
    obtain ⟨old, hold, rfl⟩ := List.mem_map.mp hslot
    split at he
    · exact absurd he (hfine e)
    · next hne =>
      rw [if_neg hne]
      exact h.settled old hold e he
  cases heffect with
  | issued =>
    refine ⟨h.sink, fun slot hslot e he => ?_⟩
    rcases List.mem_append.mp hslot with hold | hnew
    · exact h.settled slot hold e he
    · rw [List.mem_singleton.mp hnew] at he
      cases he
  | spent => exact ⟨h.sink, h.settled⟩
  | refused | waited | dropped => exact habandon _
  | answered => exact houtcome _ _ _ nofun
  | taken => exact houtcome _ _ _ nofun
  | late | unknown => exact h
  | cancelled =>
    -- The one error that is kept for a caller: its own call was given up.
    refine ⟨h.sink, fun slot hslot e he => ?_⟩
    obtain ⟨old, hold, rfl⟩ := List.mem_map.mp hslot
    split at he
    · next hpending =>
      rw [if_pos hpending]
      cases he
      rfl
    · next hpending =>
      rw [if_neg hpending]
      exact h.settled old hold e he

theorem Wired.trace {c d : Channel} {log : Reverse.Chronicle} (h : Wired c)
    (htrace : Channel.Trace c log d) : Wired d := by
  induction htrace with
  | start => exact h
  | next _ heffect ih => exact ih.effect heffect

theorem Wired.after {c : Channel} (h : Wired c) (calls : List Reverse.Operation) :
    Wired (c.after calls) := h.trace (Channel.trace_log calls c)

theorem Wired.prompted {s : Server} {ps : List Prompt} (h : Wired s.channel)
    (hps : ∀ sink, .redirect sink ∈ ps → ∃ callback, sink = sinkOf callback) :
    Wired (s.prompted ps).channel := by
  induction ps generalizing s with
  | nil => exact h
  | cons p ps ih =>
    refine ih (s := s.prompt p) ?_ fun sink hsink => hps sink (List.mem_cons_of_mem p hsink)
    cases p with
    | perform sop =>
      show Wired (s.step sop).state.channel
      rw [Server.channel_step]
      exact h.after _
    | redirect sink => exact ⟨hps sink List.mem_cons_self, h.settled⟩

/-- Only the interface's own sinks are put in. -/
theorem sinkOf_of_redirect {s : Server} {sink : Reverse.Sink}
    (h : Prompt.redirect sink ∈ op.prompts g s) : ∃ callback, sink = sinkOf callback := by
  have hwaits : ∀ ids : List RequestId, .redirect sink ∉ waits ids := by
    intro ids hmem
    obtain ⟨id, -, hid⟩ := List.mem_map.mp hmem
    cases hid
  cases op with
  | registerReverseCallback callback =>
    simp only [Operation.prompts] at h
    split at h
    · cases h
    · cases List.mem_singleton.mp h
      exact ⟨callback, rfl⟩
  | stop now => simp [Operation.prompts, hwaits] at h
  | reverseCall method payload => simp [Operation.prompts, hwaits] at h
  | deliver id data =>
    simp only [Operation.prompts] at h
    split at h
    · cases h
    · split at h
      · cases List.mem_singleton.mp h
      · rcases List.mem_cons.mp h with hfirst | hlater
        · cases hfirst
        · exact absurd hlater (hwaits _)
  | registerStreamCallback | instruct =>
    simp only [Operation.prompts] at h
    split at h <;> simp at h
  | reap => simp [Operation.prompts] at h
  | _ =>
    simp only [Operation.prompts] at h
    split at h <;> simp at h

/-! ## The server that runs -/

/-- The server that runs, if one does, has its calls go where the interface has them go. -/
def CallsWired (g : Gateway) : Prop := ∀ s, g.server = some s → Wired s.channel

theorem wired_start {config : Config} {dispatcher : Dispatcher} {s : Server}
    (h : Server.start config dispatcher g.surroundings = .ok s) : Wired s.channel := by
  unfold Server.start at h
  cases hvalid : config.validate with
  | error e =>
    rw [hvalid] at h
    cases h
  | ok =>
    rw [hvalid] at h
    cases h
    exact ⟨⟨g.reverseCallback, rfl⟩, nofun⟩

theorem CallsWired.step (h : g.CallsWired) (hg : g.Orderly) (hl : g.ledger.Sound)
    (op : Operation) : (g.step op).gateway.CallsWired := by
  intro s' hs'
  cases hs : g.server with
  | some s =>
    by_cases hstop : op.isStop = true
    · cases op with
      | stop now =>
        have hnone : (g.stop now).gateway.server = none := (halts_stop hl hs now).server
        cases hnone.symm.trans hs'
      | _ => cases hstop
    · have hmirrors := mirrors_step hg hl hs (Bool.eq_false_iff.mpr hstop)
      cases hmirrors.server.symm.trans hs'
      exact (h s hs).prompted fun sink hsink => sinkOf_of_redirect hsink
  | none =>
    by_cases hstart : op.isStart = true
    · cases op with
      | start settings =>
        have hstarts := starts g settings
        simp only [Gateway.step, plainly] at hs'
        generalize g.start settings = result at hstarts hs'
        cases hstarts with
        | started hconfig hidle hdispatcher hvalid hserver hmade =>
          cases hs'
          exact wired_start hserver
        | _ => exact h s' hs'
      | _ => cases hstart
    · have hidles := idles_step hg hl hs (Bool.eq_false_iff.mpr hstart)
      cases hidles.server.symm.trans hs'

theorem CallsWired.run (h : g.CallsWired) (hg : g.Orderly) (hl : g.ledger.Sound)
    (ops : List Operation) : (g.run ops).CallsWired := by
  induction ops generalizing g with
  | nil => exact h
  | cons op ops ih => exact ih (h.step hg hl op) (hg.step op).orderly (sound_ledger_step hl op)

/-! ## Calls that are refused -/

/-- How the channel has a call answered. -/
inductive Settles (c : Channel) (method : String) (payload : Bytes) : CallAnswer → Prop where
  | refused {e : ReverseError} (hbegun : (c.begin method payload).1.answer = .error e) :
    Settles c method payload (.finished (.error e))
  | answered {id : RequestId} {result : Reverse.Result}
    (hkept : ((c.begin method payload).2.slot? id).bind (·.outcome) = some result) :
    Settles c method payload (.finished result)
  | waits {id : RequestId} : Settles c method payload (.waiting id)

/-- How a call comes out. However it is answered, what the callback hears is what was begun. -/
inductive Dials (g : Gateway) (method : String) (payload : Bytes) : Crossing CallAnswer → Prop where
  | idle (hidle : g.server = none) :
    Dials g method payload { answer := .finished (.error .noCallback), gateway := g }
  | begun {s : Server} {g' : Gateway} {answer : CallAnswer} {callers : List RequestId}
    (hs : g.server = some s) (hledger : g'.ledger = g.ledger)
    (hsettles : Settles s.channel method payload answer) :
    Dials g method payload
      { answer
        gateway :=
          { (g'.handCalls (s.channel.begin method payload).1.heard).2 with callers }
        report := { called := (g'.handCalls (s.channel.begin method payload).1.heard).1 } }

theorem dials (g : Gateway) (method : String) (payload : Bytes) :
    Dials g method payload (g.reverseCall method payload) := by
  unfold reverseCall
  split
  · next hidle => exact .idle hidle
  · next s hs =>
    dsimp only
    split
    · next hbegun => exact .begun hs rfl (.refused hbegun)
    · split
      · next hkept => exact .begun hs rfl (.answered hkept)
      · exact .begun hs rfl .waits

/-- The call never left the interface: there is no callback, or the name has a NUL in it. -/
def CallAnswer.Unheard (method : String) (answer : CallAnswer) : Prop :=
  answer = .finished (.error .noCallback) ∨ answer = .finished (.error (.invalidMethod method))

/-- A sink of the interface hears a call or refuses it, and not both. -/
theorem Wired.heard_of_refused {c : Channel} (h : Wired c) {method : String} {payload : Bytes}
    {e : ReverseError} (hrefused : (c.begin method payload).1.answer = .error e) :
    (c.begin method payload).1.heard = [] := by
  have hsink : ∀ callback request, (sinkOf callback request).refusal ≠ none →
      (sinkOf callback request).heard = false := by
    intro callback request hrefusal
    cases callback with
    | none => rfl
    | some callback =>
      unfold sinkOf at hrefusal ⊢
      by_cases hnul : '\x00' ∈ request.method.toList
      · simp [hnul]
      · simp [hnul] at hrefusal
  obtain ⟨callback, hcallback⟩ := h.sink
  have hrefusal : (c.reactionTo method payload).refusal ≠ none := by
    intro hnone
    rw [Channel.answer_begin, hnone] at hrefused
    cases hrefused
  have hunheard : (c.reactionTo method payload).heard = false := by
    rw [Channel.reactionTo, hcallback] at hrefusal ⊢
    exact hsink callback _ hrefusal
  rw [Channel.reactionTo] at hunheard hrefusal
  unfold Channel.begin
  dsimp only
  cases hreaction : (c.sink ⟨⟨c.counter.next⟩, method, payload⟩).refusal with
  | none => exact absurd hreaction hrefusal
  | some e => simp only [hunheard, Bool.false_eq_true, if_false]

/-- What is kept for a caller is no refusal. -/
theorem Wired.finished_not_unheard {c : Channel} (h : Wired c) {id : RequestId}
    {result : Reverse.Result} (houtcome : (c.slot? id).bind (·.outcome) = some result)
    (method : String) : ¬(CallAnswer.finished result).Unheard method := by
  obtain ⟨slot, hslot, hresult⟩ := Option.bind_eq_some_iff.mp houtcome
  have hkept := h.settled slot (List.mem_of_find?_eq_some hslot)
  intro hrefused
  rcases hrefused with hrefused | hrefused
  · cases hrefused
    cases hkept _ hresult
  · cases hrefused
    cases hkept _ hresult

/-- What was refused was not begun. -/
theorem Wired.heard_of_unheard {c : Channel} (h : Wired c) {method : String} {payload : Bytes}
    {answer : CallAnswer} (hsettles : Settles c method payload answer)
    (hrefused : answer.Unheard method) : (c.begin method payload).1.heard = [] := by
  cases hsettles with
  | refused hbegun => exact h.heard_of_refused hbegun
  | answered hkept =>
    have hlater : Wired (c.begin method payload).2 := h.after [.begin method payload]
    exact absurd hrefused (hlater.finished_not_unheard hkept method)
  | waits => rcases hrefused with hrefused | hrefused <;> cases hrefused

/-- What was refused was not handed to the callback. -/
theorem called_of_unheard (h : g.CallsWired) {method : String} {payload : Bytes}
    (hrefused : (g.reverseCall method payload).answer.Unheard method) :
    (g.reverseCall method payload).report.called = [] := by
  have hdials := dials g method payload
  generalize g.reverseCall method payload = c at hdials hrefused ⊢
  cases hdials with
  | idle => rfl
  | begun hs hledger hsettles =>
    dsimp only
    rw [(h _ hs).heard_of_unheard hsettles hrefused]
    rfl

end Switchboard.Gateway
