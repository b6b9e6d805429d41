import Switchboard.Proofs.Reverse.Correlation

/-!
# Attempt — what is left of an attempt to call

An attempt to call enters the call into the table of pending ones and into the slots, and
hands it to the sink, which may answer it, and others with it, before it says whether it
takes the call. Here is what remains of that in the tables: in the pending one, operation by
operation, and in all of them when the call is refused or has been waited for. Then nothing
is left of the call but its number.
-/

namespace Switchboard.Reverse

/-! ## Pending calls, operation by operation -/

/-- The reaction to the call `made` leaves a call pending: the call is not answered from inside
the forwarding, and it is not the one that is refused. -/
def Reaction.leaves (made id : RequestId) (reaction : Reaction) : Bool :=
  !reaction.answers.any (·.1 = id) && (reaction.refusal.isNone || id ≠ made)

/-- Whether a call was refused. -/
def Occurrence.isRefusal : Occurrence → Bool
  | refused _ _ => true
  | _ => false

/-- What an operation came to is that it was refused: a call that was to be made, or the answer
to a call. -/
def Chronicle.fails : Chronicle → Bool
  | [.answered _ _ (.error _)] => true
  | log => log.any (·.isRefusal)

/-- A call is made that nobody waits for yet. -/
def Operation.begins : Operation → Bool
  | begin _ _ => true
  | _ => false

namespace Channel

theorem pending_unlist_of_not_mem {c : Channel} {id : RequestId} (h : id ∉ c.pending) :
    (c.unlist id).pending = c.pending := by
  refine List.filter_eq_self.mpr fun j hj => decide_eq_true ?_
  rintro rfl
  exact h hj

theorem pending_complete (id : RequestId) (payload : Bytes) (c : Channel) :
    (c.complete id payload).2.pending = (c.unlist id).pending := by
  unfold complete
  by_cases hpending : id ∈ c.pending
  · rw [if_pos hpending]
    rfl
  · rw [if_neg hpending, pending_unlist_of_not_mem hpending]
    split <;> rfl

theorem pending_completeAll (answers : List (RequestId × Bytes)) (c : Channel) :
    (completeAll answers c).2.pending =
      c.pending.filter fun j => !answers.any (·.1 = j) := by
  induction answers generalizing c with
  | nil => exact (List.filter_eq_self.mpr fun _ _ => rfl).symm
  | cons first rest ih =>
    show (completeAll rest (c.complete first.1 first.2).2).2.pending = _
    rw [ih, pending_complete, unlist, List.filter_filter]
    refine List.filter_congr fun j _ => ?_
    by_cases hj : j = first.1
    · simp [hj]
    · simp [hj, Ne.symm hj]

variable (method : String) (payload : Bytes) (c : Channel)

/-- What the sink does when the next call is made. -/
def reactionTo : Reaction := c.sink ⟨⟨c.counter.next⟩, method, payload⟩

theorem pending_begin :
    (c.begin method payload).2.pending =
      (c.pending ++ [(⟨c.counter.next⟩ : RequestId)]).filter
        ((c.reactionTo method payload).leaves ⟨c.counter.next⟩) := by
  have hanswers := pending_completeAll (c.reactionTo method payload).answers c.enlist
  unfold begin
  dsimp only
  cases hrefusal : (c.reactionTo method payload).refusal with
  | none =>
    rw [reactionTo] at hrefusal
    rw [hrefusal]
    refine hanswers.trans (List.filter_congr fun j _ => ?_)
    simp [Reaction.leaves, reactionTo, hrefusal]
  | some e =>
    rw [reactionTo] at hrefusal
    rw [hrefusal]
    show List.filter _ (completeAll (c.reactionTo method payload).answers c.enlist).2.pending = _
    rw [hanswers, List.filter_filter]
    refine List.filter_congr fun j _ => ?_
    simp [Reaction.leaves, reactionTo, hrefusal, Bool.and_comm]

/-- It is for the sink alone to say whether a call is made. -/
theorem answer_begin :
    (c.begin method payload).1.answer =
      match (c.reactionTo method payload).refusal with
      | some e => .error e
      | none => .ok ⟨c.counter.next⟩ := by
  unfold begin
  dsimp only
  cases hrefusal : (c.reactionTo method payload).refusal with
  | none | some =>
    rw [reactionTo] at hrefusal
    rw [hrefusal]

variable {c}

theorem Sound.pending_wait (h : c.Sound) (id : RequestId) :
    (c.wait id).2.pending = (c.unlist id).pending := by
  unfold wait
  cases hslot : c.slot? id with
  | some s => rfl
  | none =>
    refine (pending_unlist_of_not_mem fun hpending => ?_).symm
    obtain ⟨s, hs, -⟩ := h.blank id hpending
    rw [hslot] at hs
    cases hs

/-- A call that is waited for is made and then waited for; if it is refused, there is nothing
to wait for. -/
theorem call_eq (method : String) (payload : Bytes) (c : Channel) :
    (c.call method payload).2 =
      c.after [.begin method payload, .wait ⟨c.counter.next⟩] := by
  have hanswer := answer_begin method payload c
  show _ = ((c.begin method payload).2.wait ⟨c.counter.next⟩).2
  unfold call
  cases hrefusal : (c.reactionTo method payload).refusal with
  | none =>
    rw [hrefusal] at hanswer
    simp only [hanswer]
  | some e =>
    rw [hrefusal] at hanswer
    have hgone : (c.begin method payload).2.slot? ⟨c.counter.next⟩ = none := by
      rw [reactionTo] at hrefusal
      simp only [begin, hrefusal, slot?_abandon, if_pos]
    simp only [hanswer, wait, hgone]

/-- Only a begin adds to the pending calls. -/
theorem Sound.pending_perform (h : c.Sound) {op : Operation} (hop : op.begins = false) :
    (c.perform op).2.pending.Sublist c.pending := by
  cases op with
  | begin method payload => cases hop
  | complete id payload =>
    show (c.complete id payload).2.pending.Sublist _
    rw [pending_complete]
    exact List.filter_sublist
  | cancelAll => exact List.nil_sublist _
  | wait id =>
    show (c.wait id).2.pending.Sublist _
    rw [h.pending_wait]
    exact List.filter_sublist
  | take id =>
    show (c.take id).2.pending.Sublist _
    unfold take
    split <;> exact List.Sublist.refl _
  | drop id =>
    unfold perform
    dsimp only
    split
    · exact List.filter_sublist
    · exact List.Sublist.refl _
  | elsewhere => exact List.Sublist.refl _

theorem Sound.after (h : c.Sound) (ops : List Operation) : (c.after ops).Sound :=
  (trace_log ops c).sound h

/-! ### Nothing is left but the number -/

variable {id other : RequestId}

theorem abandon_eq {pending : List RequestId} {slots : List Slot}
    (htable : c.pending.filter (· ≠ id) = pending)
    (hslots : c.slots.filter (·.id ≠ id) = slots) : c.abandon id = { c with pending, slots } := by
  rw [← htable, ← hslots]
  rfl

/-- Whoever gives up a call does not mind how it was answered. -/
theorem abandon_complete_self (id : RequestId) (payload : Bytes) (c : Channel) :
    (c.complete id payload).2.abandon id = c.abandon id := by
  unfold complete
  by_cases hpending : id ∈ c.pending
  · rw [if_pos hpending]
    have hslots : ((c.slots.map fun s => if s.id = id then
        { s with outcome := some (.ok payload) } else s).filter (·.id ≠ id)) =
        c.slots.filter (·.id ≠ id) := by
      induction c.slots with
      | nil => rfl
      | cons s slots ih =>
        by_cases hs : s.id = id
        · simpa [hs] using ih
        · simpa [hs] using ih
    have htable : (c.pending.filter (· ≠ id)).filter (· ≠ id) = c.pending.filter (· ≠ id) := by
      simp [List.filter_filter]
    exact abandon_eq htable hslots
  · rw [if_neg hpending]
    split <;> rfl

/-- To give up a call is no matter for the others. -/
theorem abandon_complete_of_ne (hne : other ≠ id) (payload : Bytes) (c : Channel) :
    (c.complete other payload).2.abandon id = ((c.abandon id).complete other payload).2 := by
  have hmem : other ∈ (c.abandon id).pending ↔ other ∈ c.pending :=
    mem_pending_unlist.trans (and_iff_left hne)
  unfold complete
  by_cases hpending : other ∈ c.pending
  · rw [if_pos hpending, if_pos (hmem.mpr hpending)]
    have hslots : ((c.slots.map fun s => if s.id = other then
        { s with outcome := some (.ok payload) } else s).filter (·.id ≠ id)) =
        (c.slots.filter (·.id ≠ id)).map fun s => if s.id = other then
          { s with outcome := some (.ok payload) } else s := by
      rw [List.filter_map]
      congr 1
      refine List.filter_congr fun s _ => ?_
      by_cases hs : s.id = other <;> simp [hs]
    have htable : (c.pending.filter (· ≠ other)).filter (· ≠ id) =
        (c.pending.filter (· ≠ id)).filter (· ≠ other) := by
      simp only [List.filter_filter, Bool.and_comm]
    exact abandon_eq htable hslots
  · rw [if_neg hpending, if_neg (mt hmem.mp hpending)]
    show _ = (if c.counter.issued other.number then _ else _ : Except ReverseError Unit × Channel).2
    split <;> rfl

theorem abandon_completeAll (answers : List (RequestId × Bytes)) (c : Channel) :
    (completeAll answers c).2.abandon id =
      (completeAll (answers.filter (·.1 ≠ id)) (c.abandon id)).2 := by
  induction answers generalizing c with
  | nil => rfl
  | cons first rest ih =>
    show (completeAll rest (c.complete first.1 first.2).2).2.abandon id = _
    rw [ih]
    by_cases hid : first.1 = id
    · rw [List.filter_cons_of_neg (by simp [hid]), ← hid, abandon_complete_self]
    · rw [List.filter_cons_of_pos (by simp [hid]), abandon_complete_of_ne hid]
      rfl

theorem isSome_slot?_completeAll (answers : List (RequestId × Bytes)) (c : Channel) :
    ((completeAll answers c).2.slot? id).isSome = (c.slot? id).isSome := by
  induction answers generalizing c with
  | nil => rfl
  | cons first rest ih =>
    show ((completeAll rest (c.complete first.1 first.2).2).2.slot? id).isSome = _
    rw [ih]
    unfold complete
    by_cases hpending : first.1 ∈ c.pending
    · rw [if_pos hpending, slot?_setOutcome, Option.isSome_map]
      rfl
    · rw [if_neg hpending]
      split <;> rfl

/-- A number is given out, and that is all. -/
def spend (c : Channel) : Channel := { c with counter := c.counter.advance }

/-- An attempt to call of which nothing is left: its number is spent, and what the sink said
from inside the forwarding to other calls stays said. -/
def spent (method : String) (payload : Bytes) (c : Channel) : Channel :=
  (completeAll
    ((c.reactionTo method payload).answers.filter (·.1 ≠ ⟨c.counter.next⟩)) c.spend).2

theorem spent_of_silent {method : String} {payload : Bytes}
    (hsilent : ∀ a ∈ (c.reactionTo method payload).answers, a.1 = ⟨c.counter.next⟩) :
    c.spent method payload = c.spend := by
  have hnone : (c.reactionTo method payload).answers.filter (·.1 ≠ ⟨c.counter.next⟩) = [] := by
    refine List.filter_eq_nil_iff.mpr fun a ha => ?_
    simp [hsilent a ha]
  rw [spent, hnone]
  rfl

theorem Sound.next_not_mem (h : c.Sound) : (⟨c.counter.next⟩ : RequestId) ∉ c.pending := by
  intro hpending
  have hissued := h.issued_of_pending hpending
  rw [not_issued_next] at hissued
  cases hissued

theorem Sound.abandon_enlist (h : c.Sound) : c.enlist.abandon ⟨c.counter.next⟩ = c.spend := by
  have htable : (c.pending ++ [(⟨c.counter.next⟩ : RequestId)]).filter (· ≠ ⟨c.counter.next⟩) =
      c.pending := by
    have hold : c.pending.filter (· ≠ ⟨c.counter.next⟩) = c.pending :=
      List.filter_eq_self.mpr fun j hj => decide_eq_true fun heq => h.next_not_mem (heq ▸ hj)
    rw [List.filter_append, hold]
    simp
  have hslots : (c.slots ++ [({ id := ⟨c.counter.next⟩ } : Slot)]).filter
      (·.id ≠ ⟨c.counter.next⟩) = c.slots := by
    have hold : c.slots.filter (·.id ≠ ⟨c.counter.next⟩) = c.slots := by
      refine List.filter_eq_self.mpr fun s hs => decide_eq_true fun heq => ?_
      have hissued := h.known s hs
      rw [heq, not_issued_next] at hissued
      cases hissued
    rw [List.filter_append, hold]
    simp
  exact abandon_eq htable hslots

theorem Sound.abandon_reaction (h : c.Sound) (method : String) (payload : Bytes) :
    (completeAll (c.reactionTo method payload).answers c.enlist).2.abandon ⟨c.counter.next⟩ =
      c.spent method payload := by
  rw [abandon_completeAll, h.abandon_enlist]
  rfl

/-- Nothing is left of a call that is refused. -/
theorem Sound.begin_of_refused (h : c.Sound) {method : String} {payload : Bytes}
    {e : ReverseError} (hrefused : (c.begin method payload).1.answer = .error e) :
    (c.begin method payload).2 = c.spent method payload := by
  rw [answer_begin] at hrefused
  unfold begin
  dsimp only
  cases hrefusal : (c.reactionTo method payload).refusal with
  | none =>
    rw [hrefusal] at hrefused
    cases hrefused
  | some e' =>
    rw [reactionTo] at hrefusal
    rw [hrefusal]
    exact h.abandon_reaction method payload

/-- Nothing is left of a call that was waited for. -/
theorem Sound.call_eq_spent (h : c.Sound) (method : String) (payload : Bytes) :
    (c.call method payload).2 = c.spent method payload := by
  have hanswer := answer_begin method payload c
  unfold call
  cases hrefusal : (c.reactionTo method payload).refusal with
  | some e =>
    rw [hrefusal] at hanswer
    simp only [hanswer]
    exact h.begin_of_refused hanswer
  | none =>
    rw [hrefusal] at hanswer
    have hbegun : (c.begin method payload).2 =
        (completeAll (c.reactionTo method payload).answers c.enlist).2 := by
      rw [reactionTo] at hrefusal
      unfold begin
      dsimp only
      rw [hrefusal]
      rfl
    have hheld : ((c.begin method payload).2.slot? ⟨c.counter.next⟩).isSome = true := by
      rw [hbegun, isSome_slot?_completeAll, slot?_enlist, if_pos rfl]
      cases c.slot? ⟨c.counter.next⟩ <;> rfl
    obtain ⟨slot, hslot⟩ := Option.isSome_iff_exists.mp hheld
    simp only [hanswer, wait, hslot]
    rw [hbegun]
    exact h.abandon_reaction method payload

/-- A call that is waited for is not pending afterwards. -/
theorem Sound.pending_call (h : c.Sound) (method : String) (payload : Bytes) :
    (c.call method payload).2.pending =
      c.pending.filter ((c.reactionTo method payload).leaves ⟨c.counter.next⟩) := by
  rw [h.call_eq_spent, spent, pending_completeAll]
  refine List.filter_congr fun j hj => ?_
  have hne : j ≠ ⟨c.counter.next⟩ := fun heq => h.next_not_mem (heq ▸ hj)
  have hanswers : ∀ answers : List (RequestId × Bytes),
      ((answers.filter (·.1 ≠ ⟨c.counter.next⟩)).any (·.1 = j)) = answers.any (·.1 = j) := by
    intro answers
    rw [List.any_filter]
    congr 1
    funext a
    by_cases ha : a.1 = j <;> simp [ha, hne]
  rw [hanswers, Reaction.leaves]
  simp [hne]

/-! ### Refusals -/

/-- The channel as it is left by an operation that is refused. -/
def refusing (op : Operation) (c : Channel) : Channel :=
  match op with
  | .begin method payload => c.spent method payload
  | _ => c

theorem complete_of_error {payload : Bytes} {e : ReverseError}
    (h : (c.complete id payload).1 = .error e) : (c.complete id payload).2 = c := by
  unfold complete at h ⊢
  by_cases hpending : id ∈ c.pending
  · rw [if_pos hpending] at h
    cases h
  · rw [if_neg hpending]
    split <;> rfl

/-- Among the answers that a sink gives there is no refusal to make the call. -/
theorem any_isRefusal_answers (answers : List (RequestId × Bytes))
    (results : List (Except ReverseError Unit)) :
    (answers.zipWith (fun (id, payload) => Occurrence.answered id payload) results).any
      (·.isRefusal) = false := by
  induction answers generalizing results with
  | nil => rfl
  | cons first rest ih =>
    cases results with
    | nil => rfl
    | cons result results => exact ih results

theorem refused_of_fails {method : String} {payload : Bytes}
    (hfails : (c.perform (.begin method payload)).1.fails = true) :
    ∃ e, (c.begin method payload).1.answer = .error e := by
  cases hanswer : (c.begin method payload).1.answer with
  | error e => exact ⟨e, rfl⟩
  | ok id =>
    simp only [perform, hanswer, List.append_nil] at hfails
    rw [Chronicle.fails, List.any_cons, any_isRefusal_answers] at hfails
    · cases hfails
    · intro _ _ _ heq
      cases heq

/-- **A refused operation spends at most a number.** -/
theorem Sound.perform_of_fails (h : c.Sound) {op : Operation}
    (hfails : (c.perform op).1.fails = true) : (c.perform op).2 = c.refusing op := by
  cases op with
  | begin method payload =>
    obtain ⟨e, hrefused⟩ := refused_of_fails hfails
    exact h.begin_of_refused hrefused
  | complete id payload =>
    cases hresult : (c.complete id payload).1 with
    | ok =>
      simp only [perform, hresult] at hfails
      cases hfails
    | error e => exact complete_of_error hresult
  | cancelAll | elsewhere => cases hfails
  | wait id =>
    simp only [perform] at hfails
    cases hwait : (c.wait id).1 <;> simp [hwait, Chronicle.fails, Occurrence.isRefusal] at hfails
  | take id =>
    simp only [perform] at hfails
    cases htake : (c.take id).1 <;> simp [htake, Chronicle.fails, Occurrence.isRefusal] at hfails
  | drop id =>
    simp only [perform] at hfails
    split at hfails <;> cases hfails

/-- Whoever waits for a call as all are cancelled is told so. -/
theorem Sound.wait_cancelAll (h : c.Sound) {id : RequestId} (hpending : id ∈ c.pending) :
    (c.cancelAll.2.wait id).1 = some (.error (.cancelled id)) := by
  obtain ⟨slot, hslot, -⟩ := h.blank id hpending
  have hcancelled := slot?_cancelAll id c
  rw [hslot, Option.map_some, if_pos hpending] at hcancelled
  unfold wait
  rw [hcancelled]
  rfl

end Channel

end Switchboard.Reverse
