import Mathlib.Data.List.Basic
import Switchboard.Proofs.Gateway.Ownership
import Switchboard.Proofs.Gateway.Wired

/-!
# Conserved — no envelope is lost behind the interface

The front end gets envelopes in three ways: as the answer to a call, with a delivery for its
stream callback, and with a call for its reverse callback. `made_step` says that these are all
the envelopes that an operation makes. So what is live at any time is what was handed out and
not given back since; what is dropped, discarded or refused never had an envelope.
-/

namespace Switchboard.Gateway

/-! ## What is handed out -/

/-- The envelope that an answer hands to the front end. -/
def Response.envelope? : Response → Option Envelope
  | .replied envelope => some envelope
  | _ => none

/-- The envelopes that the callbacks were handed. -/
def Report.envelopes (r : Report) : List Envelope :=
  r.handed.map (·.envelope) ++ r.called.map (·.envelope)

/-- The envelopes that the front end gets in the course of an operation. -/
def Crossing.handedOut (c : Crossing Response) : List Envelope :=
  c.answer.envelope?.toList ++ c.report.envelopes

/-- The operation is giving back what is at the pointer. -/
def Operation.frees (p : Pointer) : Operation → Bool
  | free q => q = p
  | _ => false

def Operation.isFree : Operation → Bool
  | free _ => true
  | _ => false

/-- All that the front end gets in the course of a run. -/
def handedOut : List Operation → Gateway → List Envelope
  | [], _ => []
  | op :: ops, g => (g.step op).handedOut ++ handedOut ops (g.step op).gateway

/-- What of it has bytes and is given back in the course of the run. -/
def released : List Operation → Gateway → List Envelope
  | [], _ => []
  | op :: ops, g =>
    (g.step op).handedOut.filter (fun e => e.data ≠ .null ∧ ops.any (·.frees e.data)) ++
      released ops (g.step op).gateway

/-- What of it has bytes and is not given back. -/
def kept : List Operation → Gateway → List Envelope
  | [], _ => []
  | op :: ops, g =>
    (g.step op).handedOut.filter (fun e => e.data ≠ .null ∧ ¬ops.any (·.frees e.data)) ++
      kept ops (g.step op).gateway

/-! ## Making envelopes one after another -/

/-- The envelopes are all that is made on the way from one ledger to another. -/
def Made (l l' : Ledger) (es : List Envelope) : Prop :=
  ∃ ms : List Making, l' = l.run (ms.map .make) ∧ es = l.made (ms.map .make)

variable {l l' l'' : Ledger} {es es' : List Envelope}

theorem Ledger.made_append (l : Ledger) (before acts : List Ledger.Act) :
    l.made (before ++ acts) = l.made before ++ (l.run before).made acts := by
  induction before generalizing l with
  | nil => rfl
  | cons a before ih =>
    cases a with
    | make m =>
      simp only [List.cons_append, made, ih]
      rfl
    | free p => exact ih _

theorem Made.refl (l : Ledger) : Made l l [] := ⟨[], rfl, rfl⟩

theorem Made.one (m : Making) (l : Ledger) : Made l (l.make m).2 [(l.make m).1] :=
  ⟨[m], rfl, rfl⟩

theorem Made.append (h : Made l l' es) (h' : Made l' l'' es') : Made l l'' (es ++ es') := by
  obtain ⟨ms, rfl, rfl⟩ := h
  obtain ⟨ms', rfl, rfl⟩ := h'
  refine ⟨ms ++ ms', ?_, ?_⟩
  · rw [List.map_append, Ledger.run_append]
  · rw [List.map_append, Ledger.made_append]

/-- A block is taken for each of them that has bytes. -/
theorem Made.pointers (h : Made l l' es) :
    l'.pointers = l.pointers ++ (es.map (·.data)).filter (· ≠ .null) := by
  obtain ⟨ms, rfl, rfl⟩ := h
  induction ms generalizing l with
  | nil => exact (List.append_nil _).symm
  | cons m ms ih =>
    have hlater := ih (l := l.step (.make m))
    simp only [List.map_cons, Ledger.run_cons, Ledger.made]
    rw [hlater]
    by_cases hbytes : m.content.bytes = []
    · simp [Ledger.step, Ledger.make_of_nil hbytes]
    · simp [Ledger.step, Ledger.make_of_ne_nil hbytes, Ledger.pointers_place]

/-- An envelope without a failure is null exactly if it is empty. -/
theorem Made.null_iff (h : Made l l' es) {e : Envelope} (he : e ∈ es) (hsuccess : 0 ≤ e.length) :
    e.data = .null ↔ e.length = 0 := by
  obtain ⟨ms, rfl, rfl⟩ := h
  induction ms generalizing l with
  | nil => cases he
  | cons m ms ih =>
    rcases List.mem_cons.mp he with rfl | hlater
    · rw [Ledger.length_make] at hsuccess ⊢
      rw [Ledger.data_make_eq_null]
      cases hcontent : m.content with
      | payload bytes => simp [Content.bytes, Content.length]
      | diagnostic bytes =>
        rw [hcontent, Content.length] at hsuccess
        by_cases hbytes : bytes = []
        · rw [if_pos hbytes] at hsuccess
          omega
        · rw [if_neg hbytes] at hsuccess
          have hpos : 0 < bytes.length := List.length_pos_iff.mpr hbytes
          omega
    · exact ih hlater

/-! ## Every operation -/

variable {g : Gateway} {op : Operation}

/-- Deliveries that are handed over have an envelope each; those that are not have none. -/
theorem made_handOver (g : Gateway) (ds : List Delivery) :
    Made g.ledger (g.handOver ds).2.ledger ((g.handOver ds).1.map (·.envelope)) := by
  induction ds generalizing g with
  | nil => exact .refl _
  | cons d ds ih =>
    unfold handOver
    split
    · exact .refl _
    · have hlater := ih { g with ledger := (g.ledger.success d.frame.payload).2 }
      exact (Made.one (.taken d.frame.payload) g.ledger).append hlater

theorem made_handCalls (g : Gateway) (rs : List Reverse.Request) :
    Made g.ledger (g.handCalls rs).2.ledger ((g.handCalls rs).1.map (·.envelope)) := by
  induction rs generalizing g with
  | nil => exact .refl _
  | cons r rs ih =>
    have hlater := ih { g with ledger := (g.ledger.success r.payload).2 }
    exact (Made.one (.taken r.payload) g.ledger).append hlater

/-- What an operation is to do to the ledger: it makes what it hands out. -/
abbrev Conserves (g : Gateway) (c : Crossing Response) : Prop :=
  Made g.ledger c.gateway.ledger c.handedOut

/-- Nothing is made and nothing is handed out. -/
theorem conserves_nothing {c : Crossing Response} (hanswer : c.answer.envelope? = none)
    (hreport : c.report.envelopes = []) (hledger : c.gateway.ledger = g.ledger) :
    Conserves g c := by
  rw [Conserves, Crossing.handedOut, hanswer, hreport, hledger]
  exact .refl _

/-- What is handed out is what is handed over. -/
theorem conserves_handOver {c : Crossing Response} (hanswer : c.answer.envelope? = none)
    {g' : Gateway} {ds : List Delivery} (hhanded : c.report.handed = (g'.handOver ds).1)
    (hcalled : c.report.called = []) (hgateway : c.gateway.ledger = (g'.handOver ds).2.ledger)
    (hledger : g'.ledger = g.ledger) : Conserves g c := by
  rw [Conserves, Crossing.handedOut, Report.envelopes, hanswer, hhanded, hcalled, hgateway,
    ← hledger]
  simpa using made_handOver g' ds

theorem conserves_after {α : Type} {f : α → Response} (hf : ∀ a, (f a).envelope? = none)
    (o : Outcome Server α) : Conserves g ((g.after o).map f) :=
  conserves_handOver (hf _) rfl rfl rfl rfl

theorem conserves_onServer (f : Server → Outcome Server (Except StreamError Unit)) :
    Conserves g ((g.onServer f).map .status) := by
  unfold onServer
  split
  · exact conserves_nothing rfl rfl rfl
  · exact conserves_after (fun _ => rfl) _

/-- The answer is the one envelope that is made. -/
theorem conserves_reply {m : Making} {g' : Gateway} (hledger : g'.ledger = (g.ledger.make m).2) :
    Conserves g (plainly .replied ((g.ledger.make m).1, g')) := by
  have hone := Made.one m g.ledger
  rw [← hledger] at hone
  exact hone

theorem conserves_refuse {g' : Gateway} (text : String) (hledger : g'.ledger = g.ledger) :
    Conserves g (plainly .replied (g'.refuse text)) := by
  rw [Conserves, ← hledger]
  exact conserves_reply (m := .failure text) rfl

theorem conserves_reverseCall (g : Gateway) (method : String) (payload : Bytes) :
    Conserves g ((g.reverseCall method payload).map .called) := by
  have hdials := dials g method payload
  generalize g.reverseCall method payload = c at hdials ⊢
  cases hdials with
  | idle => exact conserves_nothing rfl rfl rfl
  | @begun s g' answer callers hs hledger hsettles =>
    have hmade := made_handCalls g' (s.channel.begin method payload).1.heard
    rw [hledger] at hmade
    exact hmade

/-- **What an operation makes is what it hands out.** -/
theorem made_step (g : Gateway) (hop : op.isFree = false) : Conserves g (g.step op) := by
  cases op with
  | register dispatcher =>
    simp only [step, register]
    split <;> exact conserves_nothing rfl rfl rfl
  | takeDispatcher =>
    simp only [step, takeDispatcher]
    split <;> exact conserves_nothing rfl rfl rfl
  | registerStreamCallback callback =>
    simp only [step, registerStreamCallback]
    split <;> exact conserves_nothing rfl rfl rfl
  | registerReverseCallback callback =>
    simp only [step, registerReverseCallback]
    split <;> exact conserves_nothing rfl rfl rfl
  | start settings =>
    simp only [step, start]
    repeat' split
    all_goals exact conserves_nothing rfl rfl rfl
  | stop now =>
    simp only [step, stop]
    split
    · exact conserves_nothing rfl rfl rfl
    · exact conserves_handOver rfl rfl rfl rfl rfl
  | invoke method data metadata =>
    simp only [step, invoke]
    split
    · exact conserves_refuse _ rfl
    · split
      · exact conserves_refuse _ rfl
      · split
        · exact conserves_refuse _ rfl
        · exact conserves_reply (m := .reply _) rfl
  | openStream now shape method data =>
    simp only [step, openStream]
    split
    · exact conserves_nothing rfl rfl rfl
    · exact conserves_nothing rfl rfl rfl
    · split
      · exact conserves_nothing rfl rfl rfl
      · exact conserves_after (fun _ => rfl) _
  | send now id data =>
    simp only [step, send]
    split
    · exact conserves_nothing rfl rfl rfl
    · exact conserves_nothing rfl rfl rfl
    · exact conserves_after (fun _ => rfl) _
  | closeInput now id | close now id | markReady now id => exact conserves_onServer _
  | reap now =>
    simp only [step, reap]
    split
    · exact conserves_nothing rfl rfl rfl
    · exact conserves_after (fun _ => rfl) _
  | instruct now id i =>
    simp only [step, instruct]
    split
    · exact conserves_after (fun _ => rfl) _
    · exact conserves_handOver rfl rfl rfl rfl rfl
  | reverseCall method payload => exact conserves_reverseCall g method payload
  | deliver id data =>
    simp only [step, deliver]
    repeat' split
    all_goals exact conserves_nothing rfl rfl rfl
  | cacheGet now store key =>
    simp only [step, cacheGet]
    split
    · exact conserves_refuse _ rfl
    · split
      · exact conserves_refuse _ rfl
      · exact conserves_reply (m := .taken _) rfl
  | cachePut now store key data ttlSeconds =>
    simp only [step, cachePut]
    split <;> exact conserves_nothing rfl rfl rfl
  | cacheDelete store key =>
    simp only [step, cacheDelete]
    split <;> exact conserves_nothing rfl rfl rfl
  | cacheContains | lastPanicMessage => exact conserves_nothing rfl rfl rfl
  | free p => cases hop

/-! ## A run -/

variable {ops : List Operation} {p : Pointer}

theorem step_of_isFree (hop : op.isFree = true) (g : Gateway) :
    ∃ q, op = .free q ∧ (g.step op).gateway.ledger = g.ledger.release q ∧
      (g.step op).handedOut = [] := by
  cases op with
  | free q => exact ⟨q, rfl, rfl, rfl⟩
  | _ => cases hop

theorem frees_of_not_isFree (hop : op.isFree = false) (p : Pointer) : op.frees p = false := by
  cases op with
  | free q => cases hop
  | _ => rfl

/-- What is done to the ledger in the course of a run. -/
theorem acts_run (g : Gateway) (ops : List Operation) :
    ∃ acts, (g.run ops).ledger = g.ledger.run acts ∧ handedOut ops g = g.ledger.made acts := by
  induction ops generalizing g with
  | nil => exact ⟨[], rfl, rfl⟩
  | cons op ops ih =>
    obtain ⟨acts, hledger, hmade⟩ := ih (g.step op).gateway
    cases hop : op.isFree with
    | true =>
      obtain ⟨q, rfl, hreleased, hnothing⟩ := step_of_isFree hop g
      refine ⟨.free q :: acts, ?_, ?_⟩
      · exact hledger
      · rw [handedOut, hnothing, hmade]
        rfl
    | false =>
      obtain ⟨ms, hstep, hout⟩ := made_step g hop
      refine ⟨ms.map .make ++ acts, ?_, ?_⟩
      · rw [Ledger.run_append, ← hstep]
        exact hledger
      · rw [handedOut, hout, hmade, hstep, Ledger.made_append]

/-- **What is out after a run**: what was out before and was not given back, and then what was
handed out and not given back. -/
theorem pointers_run (g : Gateway) (ops : List Operation) :
    (g.run ops).ledger.pointers =
      g.ledger.pointers.filter (fun p => ¬ops.any (·.frees p)) ++
        (kept ops g).map (·.data) := by
  induction ops generalizing g with
  | nil =>
    have hall : g.ledger.pointers.filter (fun p => ¬([] : List Operation).any (·.frees p)) =
        g.ledger.pointers := List.filter_eq_self.mpr fun _ _ => rfl
    rw [hall]
    exact (List.append_nil _).symm
  | cons op ops ih =>
    show ((g.step op).gateway.run ops).ledger.pointers = _
    rw [ih]
    cases hop : op.isFree with
    | true =>
      obtain ⟨q, rfl, hreleased, hnothing⟩ := step_of_isFree hop g
      -- The free strikes what was out before; what comes later is judged by what follows it.
      rw [kept, hreleased, hnothing, Ledger.pointers_release, List.filter_filter]
      congr 1
      refine List.filter_congr fun p _ => ?_
      by_cases hp : p = q
      · simp [hp, Operation.frees]
      · simp [hp, Operation.frees, Ne.symm hp]
    | false =>
      rw [kept, (made_step g hop).pointers, List.filter_append, List.append_assoc,
        List.map_append]
      congr 1
      · refine List.filter_congr fun p _ => ?_
        rw [List.any_cons, frees_of_not_isFree hop, Bool.false_or]
      · congr 1
        rw [List.filter_filter, List.filter_map]
        congr 1
        refine List.filter_congr fun e _ => ?_
        simp [Bool.and_comm]

/-- What has bytes is kept or given back. -/
theorem length_kept_add_released (ops : List Operation) (g : Gateway) :
    (kept ops g).length + (released ops g).length =
      ((handedOut ops g).filter (·.data ≠ .null)).length := by
  induction ops generalizing g with
  | nil => rfl
  | cons op ops ih =>
    have hlater := ih (g.step op).gateway
    have hnow := ((g.step op).handedOut.filter (·.data ≠ .null)).length_eq_length_filter_add
      fun e => ops.any (·.frees e.data)
    simp only [List.filter_filter] at hnow
    simp only [kept, released, handedOut, List.filter_append, List.length_append]
    simp only [Bool.decide_and, decide_not, Bool.decide_eq_true, Bool.and_comm] at hnow hlater ⊢
    omega

/-! ## What makes nothing -/

theorem handed_reverseCall (g : Gateway) (method : String) (payload : Bytes) :
    (g.reverseCall method payload).report.handed = [] := by
  have hdials := dials g method payload
  generalize g.reverseCall method payload = c at hdials ⊢
  cases hdials <;> rfl

theorem handOver_of_unheard (h : g.streamCallback = none) (ds : List Delivery) :
    g.handOver ds = ([], g) := by
  cases ds with
  | nil => rfl
  | cons d ds => rw [handOver, h]

/-- With no stream callback, deliveries are dropped. -/
theorem handed_of_unheard (h : g.streamCallback = none) (op : Operation) :
    (g.step op).report.handed = [] := by
  have hafter : ∀ {α : Type} (o : Outcome Server α), (g.after o).report.handed = [] := by
    intro α o
    exact congrArg Prod.fst
      (handOver_of_unheard (g := { g with server := some o.state }) h o.activity.deliveries)
  have honServer : ∀ f, (g.onServer f).report.handed = [] := by
    intro f
    unfold onServer
    split
    · rfl
    · exact hafter _
  cases op with
  | stop now =>
    simp only [step, stop]
    split
    · rfl
    · exact congrArg Prod.fst (handOver_of_unheard (by exact h) _)
  | openStream now shape method data =>
    simp only [step, openStream]
    split
    · rfl
    · rfl
    · split
      · rfl
      · exact hafter _
  | send now id data =>
    simp only [step, send]
    split
    · rfl
    · rfl
    · exact hafter _
  | closeInput | close | markReady => exact honServer _
  | reap now =>
    simp only [step, reap]
    split
    · rfl
    · exact hafter _
  | instruct now id i =>
    simp only [step, instruct]
    split
    · exact hafter _
    · exact congrArg Prod.fst (handOver_of_unheard (by exact h) _)
  | reverseCall method payload => exact handed_reverseCall g method payload
  | deliver id data =>
    simp only [step, deliver]
    repeat' split
    all_goals rfl
  | _ => rfl

/-- The operation is answered by a status or a number and reaches no callback. -/
def Operation.isPlain : Operation → Bool
  | register _ | takeDispatcher | registerStreamCallback _ | registerReverseCallback _ => true
  | start _ | deliver _ _ | lastPanicMessage _ => true
  | cachePut _ _ _ _ _ | cacheContains _ _ _ | cacheDelete _ _ => true
  | _ => false

theorem handedOut_of_isPlain (hop : op.isPlain = true) (g : Gateway) :
    (g.step op).handedOut = [] := by
  cases op with
  | deliver id data =>
    simp only [step, deliver]
    repeat' split
    all_goals rfl
  | register | takeDispatcher | registerStreamCallback | registerReverseCallback => rfl
  | start | cachePut | cacheContains | cacheDelete | lastPanicMessage => rfl
  | _ => cases hop

/-- Two ledgers with nothing made between them are the same. -/
theorem Made.eq_of_nil (h : Made l l' []) : l' = l := by
  obtain ⟨ms, rfl, hnothing⟩ := h
  cases ms with
  | nil => rfl
  | cons m ms => cases hnothing

/-! ## Conservation -/

/-- **No envelope leaks.** What is live is what was handed out with bytes and not given back,
each of it once, and an operation takes exactly the blocks of what it hands out: none if it
hands out nothing or nothing with bytes. -/
theorem nothing_leaks (hangUps : List (SessionId × Nat)) (ops : List Operation) :
    let idle : Gateway := { hangUps }
    let g := idle.run ops
    g.ledger.live + (released ops idle).length =
        ((handedOut ops idle).filter (·.data ≠ .null)).length ∧
      (((handedOut ops idle).map (·.data)).filter (· ≠ .null)).Nodup ∧
      ∀ op : Operation, op.isFree = false →
        let c := g.step op
        c.gateway.ledger.pointers =
            g.ledger.pointers ++ (c.handedOut.map (·.data)).filter (· ≠ .null) ∧
          (c.handedOut = [] → c.gateway.ledger = g.ledger) ∧
          (∀ e ∈ c.handedOut, 0 ≤ e.length → (e.data = .null ↔ e.length = 0)) ∧
          (g.streamCallback = none → c.report.handed = []) ∧
          (∀ method payload answer, op = .reverseCall method payload →
            c.answer = .called answer → answer.Unheard method → c.handedOut = []) ∧
          (op.isPlain = true → c.handedOut = []) := by
  intro idle g
  have hout : g.ledger.live = (kept ops idle).length := by
    have hpointers := congrArg List.length (pointers_run idle ops)
    have hnone : idle.ledger.pointers = [] := rfl
    rw [hnone] at hpointers
    simpa [Ledger.pointers, Ledger.live] using hpointers
  refine ⟨?_, ?_, fun op hop => ?_⟩
  · rw [hout]
    exact length_kept_add_released ops idle
  · obtain ⟨acts, -, hmade⟩ := acts_run idle ops
    rw [hmade]
    exact (Ledger.nodup_made idle.ledger acts).1
  intro c
  have hmade : Made g.ledger c.gateway.ledger c.handedOut := made_step g hop
  refine ⟨hmade.pointers, fun hnothing => ?_, fun e he => hmade.null_iff he,
    fun hunheard => handed_of_unheard hunheard op, ?_, fun hplain => handedOut_of_isPlain hplain g⟩
  · rw [hnothing] at hmade
    exact hmade.eq_of_nil
  · rintro method payload answer rfl hanswer hrefused
    have hwired : g.CallsWired :=
      CallsWired.run (fun s hs => by cases hs) (orderly_idle hangUps) Ledger.sound_empty ops
    have hfinished : (g.reverseCall method payload).answer = answer :=
      Response.called.inj hanswer
    have hcalled := called_of_unheard hwired (hfinished ▸ hrefused)
    have hhanded := handed_reverseCall g method payload
    show (_ : List Envelope) ++ Report.envelopes (g.reverseCall method payload).report = []
    rw [Report.envelopes, hcalled, hhanded]
    rfl

end Switchboard.Gateway
