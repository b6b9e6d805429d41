import Switchboard.Proofs.Reverse.Correlation

/-!
# Withdrawal — who is told that a call was cancelled

A call is settled by its answer or, with all that are pending, by a cancellation, and never by
both. Its caller is told which it was by the outcome that arrives. Once the outcome was
collected there is none to arrive any more, and a wait takes that for a cancellation, whatever
the outcome had been. `Fates` says what a log tells of every call that its caller still holds;
the main result reads off it when a wait says that the call was cancelled.
-/

namespace Switchboard.Reverse

/-! ## What the log tells of a call -/

namespace Chronicle

/-- All calls were cancelled while this one was pending. -/
def Withdrawn (log : Chronicle) (id : RequestId) : Prop :=
  ∃ before number after, log = before ++ .cancelled number :: after ∧
    id ∈ pending before

/-- The answer was accepted as the one to this call. -/
def Answered (log : Chronicle) (id : RequestId) (payload : Bytes) : Prop :=
  .answered id payload (.ok ()) ∈ log

/-- The caller took the answer and went on holding the call. -/
def Collected (log : Chronicle) (id : RequestId) : Prop :=
  ∃ payload, .taken id (some (.ok payload)) ∈ log

variable {log : Chronicle} {o : Occurrence} {id : RequestId} {payload : Bytes}

theorem withdrawn_concat (log : Chronicle) (o : Occurrence) (id : RequestId) :
    (log ++ [o]).Withdrawn id ↔
      log.Withdrawn id ∨ ((∃ number, o = .cancelled number) ∧ id ∈ log.pending) := by
  constructor
  · rintro ⟨before, number, after, hlog, hpending⟩
    rcases exists_of_concat_eq hlog with ⟨rfl, rfl⟩ | ⟨middle, hmiddle, -⟩
    · exact .inr ⟨⟨number, rfl⟩, hpending⟩
    · exact .inl ⟨before, number, middle, hmiddle, hpending⟩
  · rintro (⟨before, number, after, rfl, hpending⟩ | ⟨⟨number, rfl⟩, hpending⟩)
    · exact ⟨before, number, after ++ [o], by simp, hpending⟩
    · exact ⟨log, number, [], rfl, hpending⟩

theorem Withdrawn.concat (h : log.Withdrawn id) (o : Occurrence) : (log ++ [o]).Withdrawn id :=
  (withdrawn_concat log o id).mpr (.inl h)

theorem answered_concat (log : Chronicle) (o : Occurrence) (id : RequestId) (payload : Bytes) :
    (log ++ [o]).Answered id payload ↔
      log.Answered id payload ∨ o = .answered id payload (.ok ()) := by
  rw [Answered, List.mem_append, List.mem_singleton, eq_comm (b := o)]
  rfl

theorem collected_concat (log : Chronicle) (o : Occurrence) (id : RequestId) :
    (log ++ [o]).Collected id ↔
      log.Collected id ∨ ∃ payload, o = .taken id (some (.ok payload)) := by
  simp only [Collected, List.mem_append, List.mem_singleton, exists_or, eq_comm (b := o)]

theorem Answered.mem_accepted (h : log.Answered id payload) : id ∈ log.accepted :=
  List.mem_filterMap.mpr ⟨_, h, rfl⟩

end Chronicle

/-! ## The fates of calls -/

namespace Channel

variable {c d : Channel} {o : Occurrence} {log : Chronicle} {id : RequestId} {earlier : Nat}

/-- What became of the calls of a channel, told by its log. -/
structure Fates (log : Chronicle) (c : Channel) : Prop where
  withdrawn : ∀ id, log.Withdrawn id → id ∉ c.pending ∧ c.counter.issued id.number = true
  -- A call is answered or withdrawn, and it is answered once.
  apart : ∀ id payload, log.Answered id payload → ¬ log.Withdrawn id
  single : ∀ id p q, log.Answered id p → log.Answered id q → p = q
  arrived : ∀ id result, c.reply? id = some result →
    (∃ payload, result = .ok payload ∧ log.Answered id payload) ∨
      (result = .error (.cancelled id) ∧ log.Withdrawn id)
  collected : ∀ id, log.Collected id →
    (∃ payload, log.Answered id payload) ∧ c.reply? id = none
  -- There is nothing to collect: the call is pending, or its outcome was collected before.
  blank : ∀ id s, c.slot? id = some s → s.outcome = none →
    id ∈ c.pending ∨ log.Withdrawn id ∨ log.Collected id

theorem fates_fresh (sink : Sink) (timeout : Duration) (earlier : Nat) :
    Fates [] (fresh sink timeout earlier) where
  withdrawn := by
    rintro id ⟨before, number, after, hlog, -⟩
    exact absurd hlog (by simp)
  apart := nofun
  single := nofun
  arrived := nofun
  collected := by
    rintro id ⟨payload, hmem⟩
    cases hmem
  blank := nofun

/-- A call that was settled does not become pending again. -/
theorem Effect.settled (heffect : c.Effect o d) (h : c.Sound) (hfree : id ∉ c.pending)
    (hissued : c.counter.issued id.number = true) :
    id ∉ d.pending ∧ d.counter.issued id.number = true := by
  refine ⟨?_, (heffect.issued_iff h id).mpr (.inl hissued)⟩
  rw [heffect.pending_eq h, List.mem_append, List.mem_filter, Option.mem_toList]
  rintro (⟨hpending, -⟩ | hnew)
  · exact hfree hpending
  · rw [heffect.number_of_issued? hnew, not_issued_next] at hissued
    cases hissued

theorem Effect.pending_of_answered {payload : Bytes}
    (heffect : c.Effect (.answered id payload (.ok ())) d) : id ∈ c.pending := by
  cases heffect with
  | answered hpending => exact hpending

/-- Only a pending call has an outcome arrive. -/
theorem Effect.pending_of_brings {result : Result} (heffect : c.Effect o d)
    (hbrings : o.Brings c.pending id result) : id ∈ c.pending := by
  cases heffect with
  | answered hpending =>
    obtain ⟨rfl, -⟩ := hbrings
    exact hpending
  | cancelled => exact hbrings.1
  | _ => exact hbrings.elim

/-- Nothing arrives any more for a call that was settled and whose outcome is gone. -/
theorem Effect.reply?_eq_none (heffect : c.Effect o d) (h : c.Sound) (hfree : id ∉ c.pending)
    (hreply : c.reply? id = none) : d.reply? id = none := by
  refine Option.eq_none_iff_forall_ne_some.mpr fun result hresult => ?_
  rcases (heffect.reply?_iff h id result).mp hresult with hbrings | ⟨hold, -⟩
  · exact hfree (heffect.pending_of_brings hbrings)
  · rw [hreply] at hold
    cases hold

theorem Fates.withdrawn_step (h : Fates log c) (htally : Tally earlier log c)
    (heffect : c.Effect o d) (hwithdrawn : (log ++ [o]).Withdrawn id) :
    id ∉ d.pending ∧ d.counter.issued id.number = true := by
  rcases (Chronicle.withdrawn_concat log o id).mp hwithdrawn with hold | ⟨⟨number, rfl⟩, hpending⟩
  · obtain ⟨hfree, hissued⟩ := h.withdrawn id hold
    exact heffect.settled htally.sound hfree hissued
  · rw [← htally.pending] at hpending
    have hissued := htally.sound.issued_of_pending hpending
    cases heffect with
    | cancelled => exact ⟨List.not_mem_nil, hissued⟩

theorem Fates.apart_step (h : Fates log c) (htally : Tally earlier log c)
    (heffect : c.Effect o d) {payload : Bytes} (hanswered : (log ++ [o]).Answered id payload) :
    ¬ (log ++ [o]).Withdrawn id := by
  rw [Chronicle.withdrawn_concat, ← htally.pending]
  rcases (Chronicle.answered_concat log o id payload).mp hanswered with hold | rfl
  · rintro (hwithdrawn | ⟨-, hpending⟩)
    · exact h.apart id payload hold hwithdrawn
    · exact (htally.settled id hold.mem_accepted).1 hpending
  · rintro (hwithdrawn | ⟨⟨number, hcancelled⟩, -⟩)
    · exact (h.withdrawn id hwithdrawn).1 heffect.pending_of_answered
    · cases hcancelled

theorem Fates.single_step (h : Fates log c) (htally : Tally earlier log c)
    (heffect : c.Effect o d) {p q : Bytes} (hp : (log ++ [o]).Answered id p)
    (hq : (log ++ [o]).Answered id q) : p = q := by
  -- A call that was answered before is not pending, so that it is not answered now.
  have hbefore : ∀ {payload}, log.Answered id payload →
      ∀ other, o ≠ .answered id other (.ok ()) := by
    rintro payload hanswered other rfl
    exact (htally.settled id hanswered.mem_accepted).1 heffect.pending_of_answered
  rcases (Chronicle.answered_concat log o id p).mp hp with hp | hp <;>
    rcases (Chronicle.answered_concat log o id q).mp hq with hq | hq
  · exact h.single id p q hp hq
  · exact absurd hq (hbefore hp q)
  · exact absurd hp (hbefore hq p)
  · rw [hp] at hq
    cases hq
    rfl

theorem Fates.arrived_step (h : Fates log c) (htally : Tally earlier log c)
    (heffect : c.Effect o d) {result : Result} (hreply : d.reply? id = some result) :
    (∃ payload, result = .ok payload ∧ (log ++ [o]).Answered id payload) ∨
      (result = .error (.cancelled id) ∧ (log ++ [o]).Withdrawn id) := by
  rw [heffect.reply?_iff htally.sound] at hreply
  rcases hreply with hbrings | ⟨hold, -⟩
  · cases heffect with
    | @answered other payload =>
      obtain ⟨rfl, rfl⟩ := hbrings
      exact .inl ⟨payload, rfl, (Chronicle.answered_concat _ _ _ _).mpr (.inr rfl)⟩
    | cancelled =>
      obtain ⟨hpending, rfl⟩ := hbrings
      rw [htally.pending] at hpending
      exact .inr ⟨rfl, (Chronicle.withdrawn_concat _ _ _).mpr (.inr ⟨⟨_, rfl⟩, hpending⟩)⟩
    | _ => exact hbrings.elim
  · rcases h.arrived id result hold with ⟨payload, hresult, hanswered⟩ | ⟨hresult, hwithdrawn⟩
    · exact .inl ⟨payload, hresult, List.mem_append_left _ hanswered⟩
    · exact .inr ⟨hresult, hwithdrawn.concat o⟩

theorem Fates.collected_step (h : Fates log c) (htally : Tally earlier log c)
    (heffect : c.Effect o d) (hcollected : (log ++ [o]).Collected id) :
    (∃ payload, (log ++ [o]).Answered id payload) ∧ d.reply? id = none := by
  rcases (Chronicle.collected_concat log o id).mp hcollected with hold | ⟨payload, rfl⟩
  · obtain ⟨⟨payload, hanswered⟩, hreply⟩ := h.collected id hold
    have hfree := (htally.settled id hanswered.mem_accepted).1
    exact ⟨⟨payload, List.mem_append_left _ hanswered⟩,
      heffect.reply?_eq_none htally.sound hfree hreply⟩
  · have hgone : d.reply? id = none := by
      refine Option.eq_none_iff_forall_ne_some.mpr fun result hresult => ?_
      rcases (heffect.reply?_iff htally.sound id result).mp hresult with hbrings | ⟨-, hkept⟩
      · exact hbrings
      · simp [Occurrence.parts] at hkept
    refine ⟨⟨payload, List.mem_append_left _ ?_⟩, hgone⟩
    have hreply : c.reply? id = some (.ok payload) := by
      generalize hlast : Occurrence.taken id (some (.ok payload)) = o at heffect
      cases heffect with
      | taken hslot =>
        obtain ⟨rfl, houtcome⟩ := Occurrence.taken.inj hlast
        rw [reply?, hslot, Option.bind_some, houtcome]
      | _ => cases hlast
    rcases h.arrived id _ hreply with ⟨other, hother, hanswered⟩ | ⟨hother, -⟩
    · cases hother
      exact hanswered
    · cases hother

theorem Fates.blank_step (h : Fates log c) (heffect : c.Effect o d) {s : Slot}
    (hslot : d.slot? id = some s) (hblank : s.outcome = none) :
    id ∈ d.pending ∨ (log ++ [o]).Withdrawn id ∨ (log ++ [o]).Collected id := by
  -- What was the case before is still so, unless the call left the table.
  have hbefore : ∀ s, c.slot? id = some s → s.outcome = none → (id ∈ c.pending → id ∈ d.pending) →
      id ∈ d.pending ∨ (log ++ [o]).Withdrawn id ∨ (log ++ [o]).Collected id := by
    intro s hslot hblank hstays
    rcases h.blank id s hslot hblank with hpending | hwithdrawn | hcollected
    · exact .inl (hstays hpending)
    · exact .inr (.inl (hwithdrawn.concat o))
    · exact .inr (.inr ((Chronicle.collected_concat log o id).mpr (.inl hcollected)))
  cases heffect with
  | spent | late | unknown => exact hbefore s hslot hblank fun hpending => hpending
  | issued =>
    rw [slot?_enlist] at hslot
    cases hold : c.slot? id with
    | some s' =>
      rw [hold] at hslot
      cases hslot
      exact hbefore s hold hblank fun hpending => List.mem_append_left _ hpending
    | none =>
      rw [hold, Option.none_or] at hslot
      by_cases hid : (⟨c.counter.next⟩ : RequestId) = id
      · exact .inl (List.mem_append_right _ (List.mem_singleton.mpr hid.symm))
      · rw [if_neg hid] at hslot
        cases hslot
  | @refused other | @waited other | @dropped other =>
    rw [slot?_abandon] at hslot
    by_cases hid : other = id
    · rw [if_pos hid] at hslot
      cases hslot
    · rw [if_neg hid] at hslot
      exact hbefore s hslot hblank fun hpending => mem_pending_unlist.mpr ⟨hpending, Ne.symm hid⟩
  | @answered other =>
    rw [slot?_setOutcome] at hslot
    obtain ⟨s', hslot', rfl⟩ := Option.map_eq_some_iff.mp hslot
    by_cases hid : other = id
    · rw [if_pos hid] at hblank
      cases hblank
    · rw [if_neg hid] at hblank
      exact hbefore s' hslot' hblank fun hpending => mem_pending_unlist.mpr ⟨hpending, Ne.symm hid⟩
  | cancelled =>
    rw [slot?_cancelAll] at hslot
    obtain ⟨s', hslot', rfl⟩ := Option.map_eq_some_iff.mp hslot
    by_cases hpending : id ∈ c.pending
    · rw [if_pos hpending] at hblank
      cases hblank
    · rw [if_neg hpending] at hblank
      exact hbefore s' hslot' hblank fun hin => absurd hin hpending
  | @taken other taken htaken =>
    rw [slot?_setOutcome] at hslot
    obtain ⟨s', hslot', -⟩ := Option.map_eq_some_iff.mp hslot
    cases houtcome : s'.outcome with
    | none => exact hbefore s' hslot' houtcome fun hpending => hpending
    | some result =>
      -- Something was there and is gone, so it was this call's outcome that was taken.
      by_cases hid : other = id
      · subst hid
        cases htaken.symm.trans hslot'
        have hreply : c.reply? other = some result := by
          rw [reply?, hslot', Option.bind_some, houtcome]
        rcases h.arrived other result hreply with ⟨payload, rfl, -⟩ | ⟨-, hwithdrawn⟩
        · refine .inr (.inr ((Chronicle.collected_concat _ _ _).mpr (.inr ⟨payload, ?_⟩)))
          rw [houtcome]
        · exact .inr (.inl (hwithdrawn.concat _))
      · rw [hslot', Option.map_some, if_neg hid] at hslot
        cases hslot
        rw [houtcome] at hblank
        cases hblank

theorem Fates.step (h : Fates log c) (htally : Tally earlier log c) (heffect : c.Effect o d) :
    Fates (log ++ [o]) d where
  withdrawn := fun _ => h.withdrawn_step htally heffect
  apart := fun _ _ => h.apart_step htally heffect
  single := fun _ _ _ => h.single_step htally heffect
  arrived := fun _ _ => h.arrived_step htally heffect
  collected := fun _ => h.collected_step htally heffect
  blank := fun _ _ => h.blank_step heffect

theorem Trace.fates (htrace : Trace c log d) (htally : Tally earlier [] c) (h : Fates [] c) :
    Fates log d := by
  induction htrace with
  | start => exact h
  | next htrace heffect ih => exact ih.step (htrace.tally htally) heffect

/-! ## What a caller is told -/

/-- Whoever waits is told that the call was cancelled if it was, or if its answer is gone. -/
theorem Fates.outcomeOfWait_iff (h : Fates log c) (htally : Tally earlier log c) {s : Slot}
    (hslot : c.slot? id = some s) (other : RequestId) :
    c.outcomeOfWait s = .error (.cancelled other) ↔
      other = id ∧ (log.Withdrawn id ∨ log.Collected id) := by
  obtain rfl := id_of_slot? hslot
  cases houtcome : s.outcome with
  | some result =>
    have hreply : c.reply? s.id = some result := by rw [reply?, hslot, Option.bind_some, houtcome]
    have huncollected : ¬ log.Collected s.id := fun hcollected => by
      rw [(h.collected _ hcollected).2] at hreply
      cases hreply
    simp only [outcomeOfWait, houtcome, huncollected, or_false]
    rcases h.arrived _ _ hreply with ⟨payload, rfl, hanswered⟩ | ⟨rfl, hwithdrawn⟩
    · simp [h.apart _ _ hanswered]
    · simp [hwithdrawn, eq_comm]
  | none =>
    simp only [outcomeOfWait, houtcome]
    by_cases hpending : s.id ∈ c.pending
    · have hwaiting : ¬ (log.Withdrawn s.id ∨ log.Collected s.id) := by
        rintro (hwithdrawn | hcollected)
        · exact (h.withdrawn _ hwithdrawn).1 hpending
        · obtain ⟨⟨payload, hanswered⟩, -⟩ := h.collected _ hcollected
          exact (htally.settled _ hanswered.mem_accepted).1 hpending
      simp [hpending, hwaiting]
    · have hgone := (h.blank _ _ hslot houtcome).resolve_left hpending
      simp [hpending, hgone, eq_comm]

/-- Whoever holds a call that was answered finds the answer, unless it was collected. -/
theorem Fates.outcome_of_answered (h : Fates log c) (htally : Tally earlier log c) {s : Slot}
    {payload : Bytes} (hslot : c.slot? id = some s) (hanswered : log.Answered id payload) :
    (log.Collected id ∧ s.outcome = none) ∨
      (¬ log.Collected id ∧ s.outcome = some (.ok payload)) := by
  cases houtcome : s.outcome with
  | some result =>
    have hreply : c.reply? id = some result := by rw [reply?, hslot, Option.bind_some, houtcome]
    refine .inr ⟨fun hcollected => ?_, ?_⟩
    · rw [(h.collected id hcollected).2] at hreply
      cases hreply
    · rcases h.arrived id result hreply with ⟨other, rfl, hother⟩ | ⟨-, hwithdrawn⟩
      · rw [h.single id other payload hother hanswered]
      · exact absurd hwithdrawn (h.apart id payload hanswered)
  | none =>
    rcases h.blank id s hslot houtcome with hpending | hwithdrawn | hcollected
    · exact absurd hpending (htally.settled id hanswered.mem_accepted).1
    · exact absurd hwithdrawn (h.apart id payload hanswered)
    · exact .inl ⟨hcollected, rfl⟩

/-- An answer is collected after it was accepted. -/
theorem Fates.collected_append_iff (h : Fates log c) (htally : Tally earlier log c)
    {payload : Bytes} (heffect : c.Effect (.answered id payload (.ok ())) d) (after : Chronicle) :
    (log ++ .answered id payload (.ok ()) :: after).Collected id ↔ after.Collected id := by
  have hbefore : ¬ log.Collected id := fun hcollected => by
    obtain ⟨⟨other, hanswered⟩, -⟩ := h.collected id hcollected
    exact (htally.settled id hanswered.mem_accepted).1 heffect.pending_of_answered
  unfold Chronicle.Collected at hbefore ⊢
  simp only [List.mem_append, List.mem_cons, exists_or, reduceCtorEq, false_or, hbefore]

/-- **Cancelled, or collected.** In every run of a channel, whatever its sink does from inside
the calls:

A wait says that a call was cancelled exactly if all calls were cancelled while this one was
pending, or if the caller has already taken the answer to it. What a caller takes says so only
of a call that was cancelled.

A call whose answer was accepted is never among those that are cancelled. Whatever its caller
takes is that answer, and so is what a wait comes to, except after the answer was taken: then,
and only then, the wait says that the call was cancelled. -/
theorem cancelled_or_collected (sink : Sink) (timeout : Duration) (earlier : Nat)
    (ops : List Operation) :
    let log := (fresh sink timeout earlier).log ops
    (∀ (before after : Chronicle) id result, log = before ++ .waited id result :: after →
      ∀ other, result = .error (.cancelled other) ↔
        other = id ∧ (before.Withdrawn id ∨ before.Collected id)) ∧
    (∀ (before after : Chronicle) id outcome, log = before ++ .taken id outcome :: after →
      ∀ other, outcome = some (.error (.cancelled other)) → other = id ∧ before.Withdrawn id) ∧
    ∀ (before after : Chronicle) id payload,
      log = before ++ .answered id payload (.ok ()) :: after →
        ¬ log.Withdrawn id ∧
        (∀ outcome, .taken id outcome ∈ after → outcome = none ∨ outcome = some (.ok payload)) ∧
        ∀ middle result rest, after = middle ++ .waited id result :: rest →
          (Chronicle.Collected middle id ∧ result = .error (.cancelled id)) ∨
          (¬ Chronicle.Collected middle id ∧ result = .ok payload) := by
  intro log
  have htrace : Trace (fresh sink timeout earlier) log _ := trace_log ops _
  have hfresh := tally_fresh sink timeout earlier
  have hfates := fates_fresh sink timeout earlier
  -- Whatever happened did so to a channel that agreed with its log until then.
  have hthen : ∀ {before o after}, log = before ++ o :: after →
      ∃ u u', Tally earlier before u ∧ Fates before u ∧ u.Effect o u' := by
    intro before o after hlog
    obtain ⟨u, u', hbefore, heffect⟩ := (hlog ▸ htrace).exists_effect
    exact ⟨u, u', hbefore.tally hfresh, hbefore.fates hfresh hfates, heffect⟩
  refine ⟨?_, ?_, ?_⟩
  · intro before after id result hlog other
    obtain ⟨u, u', htally, hfates, heffect⟩ := hthen hlog
    cases heffect with
    | waited hslot => exact hfates.outcomeOfWait_iff htally hslot other
  · rintro before after id outcome hlog other rfl
    obtain ⟨u, u', htally, hfates, heffect⟩ := hthen hlog
    generalize hlast : Occurrence.taken id (some (.error (.cancelled other))) = o at heffect
    cases heffect with
    | taken hslot =>
      obtain ⟨rfl, houtcome⟩ := Occurrence.taken.inj hlast
      have hreply : u.reply? id = some (.error (.cancelled other)) := by
        rw [reply?, hslot, Option.bind_some, houtcome]
      rcases hfates.arrived id _ hreply with ⟨payload, hpayload, -⟩ | ⟨hcancelled, hwithdrawn⟩
      · cases hpayload
      · cases hcancelled
        exact ⟨rfl, hwithdrawn⟩
    | _ => cases hlast
  · rintro before after id payload hlog
    obtain ⟨u, u', htally, hbefore, heffect⟩ := hthen hlog
    have hanswered : ∀ rest, Chronicle.Answered (before ++ .answered id payload (.ok ()) :: rest)
        id payload := fun rest => List.mem_append_right _ List.mem_cons_self
    refine ⟨?_, fun outcome houtcome => ?_, ?_⟩
    · exact (htrace.fates hfresh hfates).apart id payload (hlog ▸ hanswered after)
    · obtain ⟨middle, rest, rfl⟩ := List.append_of_mem houtcome
      rw [← List.cons_append, ← List.append_assoc] at hlog
      obtain ⟨v, v', htally, hfates, heffect⟩ := hthen hlog
      generalize hlast : Occurrence.taken id outcome = o at heffect
      cases heffect with
      | taken hslot =>
        obtain ⟨rfl, rfl⟩ := Occurrence.taken.inj hlast
        exact (hfates.outcome_of_answered htally hslot (hanswered middle)).imp (·.2) (·.2)
      | _ => cases hlast
    · rintro middle result rest rfl
      rw [← List.cons_append, ← List.append_assoc] at hlog
      obtain ⟨v, v', htally', hfates, heffect'⟩ := hthen hlog
      have hcollected := hbefore.collected_append_iff htally heffect middle
      cases heffect' with
      | @waited _ s hslot =>
        rcases hfates.outcome_of_answered htally' hslot (hanswered middle) with hgone | hthere
        · refine .inl ⟨hcollected.mp hgone.1, ?_⟩
          exact (hfates.outcomeOfWait_iff htally' hslot id).mpr ⟨rfl, .inr hgone.1⟩
        · refine .inr ⟨mt hcollected.mpr hthere.1, ?_⟩
          rw [outcomeOfWait, hthere.2]

/-- The answer is taken and then waited for: nobody cancelled the call, and the wait says that
it was cancelled. -/
theorem cancelled_or_collected_taken :
    let ops : List Operation := [.begin "m" [], .complete ⟨1⟩ [8], .take ⟨1⟩, .wait ⟨1⟩]
    let log := (fresh (fun _ => {}) ⟨5⟩ 0).log ops
    log = [.issued ⟨1⟩, .answered ⟨1⟩ [8] (.ok ()), .taken ⟨1⟩ (some (.ok [8])),
        .waited ⟨1⟩ (.error (.cancelled ⟨1⟩))] ∧
      ¬ log.Withdrawn ⟨1⟩ := by
  intro ops log
  obtain ⟨-, -, hanswered⟩ := cancelled_or_collected (fun _ => {}) ⟨5⟩ 0 ops
  exact ⟨rfl, (hanswered [.issued ⟨1⟩] _ ⟨1⟩ [8] rfl).1⟩

end Channel
end Switchboard.Reverse
