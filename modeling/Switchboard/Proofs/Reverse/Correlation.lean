import Switchboard.Proofs.Reverse.Run

/-!
# Correlation — an answer reaches its own caller, and does so once

The counter, the pending table and the callers' slots are three views of a channel. For each
there is a lemma that says what an effect makes of it; together with what the log makes of
the same occurrence (`Chronicle.pending_concat` and its siblings) they give `Tally`, the
agreement of a channel with its log, which every run keeps.
-/

namespace Switchboard.Reverse

namespace Channel

variable {c d : Channel} {o : Occurrence} {log : Chronicle} {id : RequestId}

/-! ## Slots and replies -/

/-- The outcome that is there to be collected. -/
def reply? (id : RequestId) (c : Channel) : Option Result := (c.slot? id).bind (·.outcome)

theorem id_of_slot? {s : Slot} (h : c.slot? id = some s) : s.id = id := by
  simpa using List.find?_some h

theorem find?_map_slot {f : Slot → Slot} (hf : ∀ s, (f s).id = s.id) (slots : List Slot)
    (id : RequestId) :
    (slots.map f).find? (·.id = id) = (slots.find? (·.id = id)).map f := by
  rw [List.find?_map]
  simp only [Function.comp_def, hf]

theorem slot?_enlist (id : RequestId) (c : Channel) :
    c.enlist.slot? id =
      (c.slot? id).or (if (⟨c.counter.next⟩ : RequestId) = id then some { id } else none) := by
  rw [slot?, enlist, List.find?_append]
  by_cases hid : (⟨c.counter.next⟩ : RequestId) = id
  · simp [hid, slot?]
  · simp [hid, slot?]

theorem slot?_abandon (other id : RequestId) (c : Channel) :
    (c.abandon other).slot? id = if other = id then none else c.slot? id := by
  simp only [slot?, abandon, List.find?_filter]
  by_cases hid : other = id
  · subst hid
    simp
  · rw [if_neg hid]
    congr 1
    funext s
    by_cases hs : s.id = id
    · simp [hs, Ne.symm hid]
    · simp [hs]

theorem slot?_setOutcome (other id : RequestId) (outcome : Option Result) (c : Channel) :
    (c.setOutcome other outcome).slot? id =
      (c.slot? id).map fun s => if other = id then { s with outcome } else s := by
  have hmap := find?_map_slot (f := fun s => if s.id = other then { s with outcome } else s)
    (fun s => by split <;> rfl) c.slots id
  rw [slot?, setOutcome, hmap]
  refine Option.map_congr fun s hs => ?_
  rw [id_of_slot? hs]
  simp only [eq_comm]

theorem slot?_cancelAll (id : RequestId) (c : Channel) :
    c.cancelAll.2.slot? id = (c.slot? id).map fun s =>
      if id ∈ c.pending then { s with outcome := some (.error (.cancelled id)) } else s := by
  have hmap := find?_map_slot
    (f := fun s => if s.id ∈ c.pending then
      { s with outcome := some (.error (.cancelled s.id)) } else s)
    (fun s => by split <;> rfl) c.slots id
  rw [slot?, cancelAll, hmap]
  refine Option.map_congr fun s hs => ?_
  rw [id_of_slot? hs]

/-! ## What every effect keeps -/

/-- What is true of a channel at any time. -/
structure Sound (c : Channel) : Prop where
  positive : 0 < c.counter.next
  -- A pending call is held by its caller, and there is nothing to collect yet.
  blank : ∀ id ∈ c.pending, ∃ s, c.slot? id = some s ∧ s.outcome = none
  known : ∀ s ∈ c.slots, c.counter.issued s.id.number = true

theorem Sound.issued_of_slot? (h : c.Sound) {s : Slot} (hslot : c.slot? id = some s) :
    c.counter.issued id.number = true := by
  rw [← id_of_slot? hslot]
  exact h.known s (List.mem_of_find?_eq_some hslot)

theorem Sound.issued_of_pending (h : c.Sound) (hpending : id ∈ c.pending) :
    c.counter.issued id.number = true := by
  obtain ⟨s, hslot, -⟩ := h.blank id hpending
  exact h.issued_of_slot? hslot

theorem Sound.reply?_of_pending (h : c.Sound) (hpending : id ∈ c.pending) :
    c.reply? id = none := by
  obtain ⟨s, hslot, hblank⟩ := h.blank id hpending
  simp [reply?, hslot, hblank]

/-- The identity that comes next was not given out. -/
theorem not_issued_next (c : Channel) : c.counter.issued c.counter.next = false := by
  simp [Counter.issued]

theorem Sound.slot?_next (h : c.Sound) : c.slot? ⟨c.counter.next⟩ = none := by
  cases hslot : c.slot? ⟨c.counter.next⟩ with
  | none => rfl
  | some s =>
    have hissued := h.issued_of_slot? hslot
    rw [not_issued_next] at hissued
    cases hissued

/-- Only an effect that gives out an identity changes what was given out. -/
theorem Effect.issued_iff (heffect : c.Effect o d) (h : c.Sound) (id : RequestId) :
    d.counter.issued id.number = true ↔
      c.counter.issued id.number = true ∨ o = .issued id ∨ o = .spent id := by
  have hadvance : c.counter.advance.issued id.number = true ↔
      c.counter.issued id.number = true ∨ (⟨c.counter.next⟩ : RequestId) = id := by
    rw [Counter.issued_advance _ _ h.positive]
    refine or_congr_right ⟨fun hnumber => ?_, fun hid => ?_⟩
    · rw [← hnumber]
    · rw [← hid]
  cases heffect with
  | issued | spent =>
    show c.counter.advance.issued id.number = true ↔ _
    rw [hadvance]
    simp
  | _ =>
    show c.counter.issued id.number = true ↔ _
    simp

theorem issued_advance (h : c.Sound) (hissued : c.counter.issued id.number = true) :
    c.counter.advance.issued id.number = true :=
  (Counter.issued_advance _ _ h.positive).mpr (.inl hissued)

theorem sound_enlist (h : c.Sound) : c.enlist.Sound := by
  refine ⟨Nat.succ_pos _, fun id hid => ?_, fun s hs => ?_⟩
  · rw [slot?_enlist]
    rcases List.mem_append.mp hid with hpending | hnew
    · obtain ⟨s, hslot, hblank⟩ := h.blank id hpending
      exact ⟨s, by rw [hslot]; rfl, hblank⟩
    · obtain rfl := List.mem_singleton.mp hnew
      exact ⟨_, by rw [h.slot?_next, if_pos rfl]; rfl, rfl⟩
  · rcases List.mem_append.mp hs with hold | hnew
    · exact issued_advance h (h.known s hold)
    · obtain rfl := List.mem_singleton.mp hnew
      exact (Counter.issued_advance _ _ h.positive).mpr (.inr rfl)

theorem mem_pending_unlist {j : RequestId} :
    j ∈ (c.unlist id).pending ↔ j ∈ c.pending ∧ j ≠ id := by
  simp [unlist]

theorem sound_abandon (h : c.Sound) (id : RequestId) : (c.abandon id).Sound := by
  refine ⟨h.positive, fun j hj => ?_, fun s hs => h.known s (List.mem_filter.mp hs).1⟩
  obtain ⟨hpending, hne⟩ := mem_pending_unlist.mp hj
  rw [slot?_abandon, if_neg hne.symm]
  exact h.blank j hpending

theorem sound_unlist (h : c.Sound) (id : RequestId) : (c.unlist id).Sound :=
  { h with blank := fun j hj => h.blank j (mem_pending_unlist.mp hj).1 }

/-- Outcomes may be set as long as nothing is brought to a pending call. -/
theorem sound_setOutcome (h : c.Sound) {outcome : Option Result}
    (hfree : id ∈ c.pending → outcome = none) : (c.setOutcome id outcome).Sound := by
  refine ⟨h.positive, fun j hj => ?_, fun s hs => ?_⟩
  · obtain ⟨s, hslot, hblank⟩ := h.blank j hj
    rw [slot?_setOutcome, hslot, Option.map_some]
    by_cases hid : id = j
    · subst hid
      rw [if_pos rfl]
      exact ⟨_, rfl, hfree hj⟩
    · rw [if_neg hid]
      exact ⟨s, rfl, hblank⟩
  · obtain ⟨s', hs', rfl⟩ := List.mem_map.mp hs
    split <;> exact h.known s' hs'

theorem Effect.sound (heffect : c.Effect o d) (h : c.Sound) : d.Sound := by
  cases heffect with
  | late | unknown => exact h
  | issued => exact sound_enlist h
  | spent =>
    exact { h with positive := Nat.succ_pos _
                   known := fun s hs => issued_advance h (h.known s hs) }
  | refused | waited | dropped => exact sound_abandon h _
  | @answered id =>
    refine sound_setOutcome (sound_unlist h id) fun hpending => ?_
    exact absurd rfl (mem_pending_unlist.mp hpending).2
  | cancelled =>
    refine ⟨h.positive, nofun, fun s hs => ?_⟩
    obtain ⟨s', hs', rfl⟩ := List.mem_map.mp hs
    split <;> exact h.known s' hs'
  | taken => exact sound_setOutcome h fun _ => rfl

/-! ## What an effect does to each view -/

theorem filter_of_unsettled (hkept : ∀ id, o.settles id = false) (pending : List RequestId) :
    pending.filter (!o.settles ·) = pending := by
  simp [hkept]

theorem pending_unlist_of_settles (hsettles : ∀ j, o.settles j = decide (id = j)) :
    (c.unlist id).pending = c.pending.filter (!o.settles ·) := by
  refine List.filter_congr fun j _ => ?_
  simp [hsettles, eq_comm]

/-- A wait settles the call if it finds it pending: then it has timed out. -/
theorem Sound.settles_waited (h : c.Sound) {s : Slot} (hslot : c.slot? id = some s)
    {j : RequestId} (hpending : j ∈ c.pending) :
    (Occurrence.waited id (c.outcomeOfWait s)).settles j = decide (id = j) := by
  by_cases hid : id = j
  · subst hid
    obtain ⟨s', hslot', hblank⟩ := h.blank id hpending
    obtain rfl := Option.some.inj (hslot.symm.trans hslot')
    simp [outcomeOfWait, hblank, id_of_slot? hslot, hpending, Occurrence.settles]
  · unfold Occurrence.settles
    split <;> simp_all

/-- The calls that are settled leave the table, and a call that is issued comes into it. -/
theorem Effect.pending_eq (heffect : c.Effect o d) (h : c.Sound) :
    d.pending = c.pending.filter (!o.settles ·) ++ o.issued?.toList := by
  cases heffect with
  | issued =>
    rw [filter_of_unsettled fun _ => rfl]
    rfl
  | spent | taken | late | unknown =>
    rw [filter_of_unsettled fun _ => rfl]
    exact (List.append_nil _).symm
  | cancelled => simp [cancelAll, Occurrence.settles, Occurrence.issued?]
  | answered | refused | dropped =>
    rw [← pending_unlist_of_settles fun _ => rfl]
    exact (List.append_nil _).symm
  | waited hslot =>
    rw [List.filter_congr fun j hj => by rw [h.settles_waited hslot hj]]
    show _ = List.filter _ _ ++ []
    rw [List.append_nil]
    refine List.filter_congr fun j _ => ?_
    simp [eq_comm]

theorem reply?_setOutcome {outcome : Option Result} (hheld : (c.slot? id).isSome = true)
    (j : RequestId) :
    (c.setOutcome id outcome).reply? j = if id = j then outcome else c.reply? j := by
  rw [reply?, slot?_setOutcome]
  by_cases hid : id = j
  · subst hid
    obtain ⟨s, hslot⟩ := Option.isSome_iff_exists.mp hheld
    simp [hslot]
  · simp [hid, reply?]

theorem reply?_abandon (id j : RequestId) (c : Channel) :
    (c.abandon id).reply? j = if id = j then none else c.reply? j := by
  rw [reply?, slot?_abandon]
  split <;> rfl

/-- A pending call gets its outcome, a caller parts with it, and all other outcomes stay. -/
theorem Effect.reply?_iff (heffect : c.Effect o d) (h : c.Sound) (id : RequestId)
    (result : Result) :
    d.reply? id = some result ↔
      o.Brings c.pending id result ∨ (c.reply? id = some result ∧ o.parts id = false) := by
  cases heffect with
  | spent | late | unknown => simp [reply?, slot?, Occurrence.Brings, Occurrence.parts]
  | issued =>
    have hreply : c.enlist.reply? id = c.reply? id := by
      rw [reply?, slot?_enlist, reply?]
      cases c.slot? id with
      | some s => rfl
      | none => split <;> rfl
    simp [hreply, Occurrence.Brings, Occurrence.parts]
  | refused | waited | dropped =>
    rw [reply?_abandon]
    simp [Occurrence.Brings, Occurrence.parts, and_comm]
  | @answered other payload hpending =>
    obtain ⟨s, hslot, -⟩ := h.blank other hpending
    have hheld : ((c.unlist other).slot? other).isSome = true :=
      Option.isSome_iff_exists.mpr ⟨s, hslot⟩
    rw [reply?_setOutcome hheld]
    by_cases hid : other = id
    · subst hid
      simpa [Occurrence.Brings, h.reply?_of_pending hpending] using eq_comm
    · simp [hid, Occurrence.Brings, Occurrence.parts]
      rfl
  | cancelled =>
    rw [reply?, slot?_cancelAll]
    by_cases hpending : id ∈ c.pending
    · obtain ⟨s, hslot, -⟩ := h.blank id hpending
      simpa [hslot, hpending, Occurrence.Brings, h.reply?_of_pending hpending] using eq_comm
    · simp [hpending, Occurrence.Brings, Occurrence.parts, reply?]
  | @taken other s hslot =>
    rw [reply?_setOutcome (Option.isSome_iff_exists.mpr ⟨s, hslot⟩)]
    simp [Occurrence.Brings, Occurrence.parts, and_comm]

theorem Effect.mem_pending_of_accepted? (heffect : c.Effect o d) (hid : o.accepted? = some id) :
    id ∈ c.pending ∧ o.settles id = true := by
  cases heffect with
  | answered hpending =>
    cases hid
    exact ⟨hpending, decide_eq_true rfl⟩
  | _ => cases hid

theorem Effect.number_of_issued? (heffect : c.Effect o d) (hid : o.issued? = some id) :
    id.number = c.counter.next := by
  cases heffect with
  | issued =>
    cases hid
    rfl
  | _ => cases hid

/-! ## From one moment to a later one -/

theorem Trace.sound (htrace : Trace c log d) (h : c.Sound) : d.Sound := by
  induction htrace with
  | start => exact h
  | next _ heffect ih => exact heffect.sound ih

/-- Pending is what was pending before or was issued since, and was not settled since. -/
theorem Trace.pending_eq (htrace : Trace c log d) (h : c.Sound) :
    d.pending = c.pending.filter (fun id => !log.any (·.settles id)) ++ log.pending := by
  induction htrace with
  | start =>
    show c.pending = c.pending.filter (fun _ => true) ++ []
    rw [List.append_nil, List.filter_eq_self.mpr fun _ _ => rfl]
  | @next log o d d' htrace heffect ih =>
    rw [heffect.pending_eq (htrace.sound h), ih, Chronicle.pending_concat, List.filter_append,
      List.filter_filter, List.append_assoc]
    simp only [List.any_append, List.any_cons, List.any_nil, Bool.or_false, Bool.not_or,
      Bool.and_comm]

/-- The identities that are given out are not below the first that was not given out before. -/
theorem Trace.next_le (htrace : Trace c log d) :
    c.counter.next ≤ d.counter.next ∧ ∀ id ∈ log.ids, c.counter.next ≤ id.number := by
  induction htrace with
  | start => exact ⟨Nat.le_refl _, nofun⟩
  | @next log o d d' htrace heffect ih =>
    obtain ⟨hle, hids⟩ := ih
    refine ⟨?_, fun id hid => ?_⟩
    · cases heffect with
      | issued | spent => exact Nat.le_succ_of_le hle
      | _ => exact hle
    · rw [Chronicle.ids_concat, List.mem_append, Option.mem_toList] at hid
      rcases hid with hold | hnew
      · exact hids id hold
      · rw [heffect.number_of_issued? hnew]
        exact Int.ofNat_le.mpr hle

/-! ## A channel and its log -/

/-- A channel agrees with its log. -/
structure Tally (earlier : Nat) (log : Chronicle) (c : Channel) : Prop where
  sound : c.Sound
  issued : ∀ id : RequestId, c.counter.issued id.number = true ↔ log.Issued earlier id
  pending : c.pending = log.pending
  replies : ∀ id result, c.reply? id = some result ↔ log.Brings id result
  increasing : log.ids.Pairwise fun a b => a.number < b.number
  -- A call whose answer was accepted is not pending, so that no other will be accepted.
  single : log.accepted.Nodup
  settled : ∀ id ∈ log.accepted, id ∉ c.pending ∧ c.counter.issued id.number = true

theorem tally_fresh (sink : Sink) (timeout : Duration) (earlier : Nat) :
    Tally earlier [] (fresh sink timeout earlier) where
  sound := ⟨Nat.succ_pos earlier, nofun, nofun⟩
  issued := fun id => by
    rw [Counter.issued_iff]
    simp only [fresh, Chronicle.Issued, List.not_mem_nil, or_false]
    omega
  pending := rfl
  replies := fun id result => by simp [reply?, slot?, fresh, Chronicle.Brings]
  increasing := .nil
  single := .nil
  settled := nofun

variable {earlier : Nat}

theorem Tally.lt_next (h : Tally earlier log c) (hid : id ∈ log.ids) :
    id.number < c.counter.next := by
  obtain ⟨o, ho, hissued⟩ := List.mem_filterMap.mp hid
  have hmem : Occurrence.issued id ∈ log := by
    cases o with
    | issued other =>
      cases hissued
      exact ho
    | _ => cases hissued
  exact ((Counter.issued_iff _ _).mp ((h.issued id).mpr (.inr (.inl hmem)))).2

/-- Whoever was answered before stays answered. -/
theorem Tally.settled_step (h : Tally earlier log c) (heffect : c.Effect o d)
    (hid : id ∈ (log ++ [o]).accepted) :
    id ∉ d.pending ∧ d.counter.issued id.number = true := by
  rw [Chronicle.accepted_concat, List.mem_append, Option.mem_toList] at hid
  have hissued : c.counter.issued id.number = true := by
    rcases hid with hold | hnow
    · exact (h.settled id hold).2
    · exact h.sound.issued_of_pending (heffect.mem_pending_of_accepted? hnow).1
  refine ⟨?_, (heffect.issued_iff h.sound id).mpr (.inl hissued)⟩
  rw [heffect.pending_eq h.sound, List.mem_append, List.mem_filter, Option.mem_toList]
  rintro (⟨hpending, hkept⟩ | hnew)
  · rcases hid with hold | hnow
    · exact (h.settled id hold).1 hpending
    · rw [(heffect.mem_pending_of_accepted? hnow).2] at hkept
      cases hkept
  · rw [heffect.number_of_issued? hnew, not_issued_next] at hissued
    cases hissued

theorem Tally.step (h : Tally earlier log c) (heffect : c.Effect o d) :
    Tally earlier (log ++ [o]) d where
  sound := heffect.sound h.sound
  issued := fun id => by
    rw [heffect.issued_iff h.sound, h.issued, Chronicle.issued_concat]
  pending := by rw [heffect.pending_eq h.sound, h.pending, Chronicle.pending_concat]
  replies := fun id result => by
    rw [heffect.reply?_iff h.sound, h.replies, h.pending, Chronicle.brings_concat]
  increasing := by
    rw [Chronicle.ids_concat, List.pairwise_append]
    refine ⟨h.increasing, ?_, fun a ha b hb => ?_⟩
    · cases o.issued? <;> simp
    · rw [heffect.number_of_issued? (Option.mem_toList.mp hb)]
      exact h.lt_next ha
  single := by
    rw [Chronicle.accepted_concat, List.nodup_append]
    refine ⟨h.single, ?_, fun a ha b hb hab => ?_⟩
    · cases o.accepted? <;> simp
    · subst hab
      have hpending := (heffect.mem_pending_of_accepted? (Option.mem_toList.mp hb)).1
      exact (h.settled a ha).1 hpending
  settled := fun id hid => h.settled_step heffect hid

theorem Trace.tally (htrace : Trace c log d) (h : Tally earlier [] c) : Tally earlier log d := by
  induction htrace with
  | start => exact h
  | next _ heffect ih => exact ih.step heffect

/-- What is said to an answer, by what the log says of the call. -/
theorem Effect.result_iff {payload : Bytes} {result : Except ReverseError Unit}
    (heffect : c.Effect (.answered id payload result) d) (h : Tally earlier log c) :
    (result = .ok () ↔ id ∈ log.pending) ∧
    (result = .error (.alreadyCompleted id) ↔ log.Issued earlier id ∧ id ∉ log.pending) ∧
    (result = .error (.unknownRequest id) ↔ ¬ log.Issued earlier id) := by
  rw [← h.pending, ← h.issued]
  cases heffect with
  | answered hpending => simp [hpending, h.sound.issued_of_pending hpending]
  | late hfree hissued => simp [hfree, hissued]
  | unknown hfree hissued => simp [hfree, hissued]

theorem number_of_begin {method : String} {payload : Bytes}
    (h : (c.begin method payload).1.answer = .ok id) : id.number = c.counter.next := by
  simp only [begin] at h
  split at h
  · cases h
  · cases h
    rfl

theorem take_eq (c : Channel) (id : RequestId) :
    (c.take id).1 = (c.slot? id).map (·.outcome) := by
  unfold take
  cases c.slot? id <;> rfl

theorem wait_eq (c : Channel) (id : RequestId) :
    (c.wait id).1 = (c.take id).1.map fun outcome =>
      outcome.getD (.error (if id ∈ c.pending then .timeout id else .cancelled id)) := by
  unfold wait take
  cases hslot : c.slot? id with
  | none => rfl
  | some s =>
    obtain rfl := id_of_slot? hslot
    cases houtcome : s.outcome with
    | some result => simp [outcomeOfWait, houtcome]
    | none =>
      simp only [outcomeOfWait, houtcome, Option.map_some, Option.getD_none]
      split <;> rfl

end Channel

/-- Every pending call is one call of its own. -/
theorem Chronicle.pending_sublist_ids (log : Chronicle) : log.pending.Sublist log.ids := by
  induction log with
  | nil => exact .slnil
  | cons o log ih =>
    cases o with
    | issued id =>
      simp only [pending]
      split
      · exact ih.cons id
      · exact ih.cons_cons id
    | _ => exact ih

/-- **Every call is answered once, and its answer reaches its own caller.** In every run of a
channel, whatever its sink does from inside the calls:

Identities are given out in increasing order. An answer is accepted exactly if its call is
pending at that moment; it comes too late exactly if the identity was given out and the call
is not pending, and it is unknown exactly if the identity was never given out. No call has
two answers accepted.

What the caller of a call finds is what was brought to this call and not collected since:
the answer that was accepted, or the cancellation if the call was pending as all calls were
cancelled. A wait finds the same, and otherwise says that the call timed out if it is still
pending. Cancelling counts the calls that were pending, and the number of pending calls is
that of the calls issued and not settled since. -/
theorem Channel.answered_once (sink : Sink) (timeout : Duration) (earlier : Nat)
    (ops : List Operation) :
    let c := (fresh sink timeout earlier).after ops
    let log := (fresh sink timeout earlier).log ops
    log.ids.Pairwise (fun a b => a.number < b.number) ∧
    (∀ method payload id, (c.begin method payload).1.answer = .ok id →
      ∀ other ∈ log.ids, other.number < id.number) ∧
    (∀ (before after : Chronicle) id payload result,
      log = before ++ .answered id payload result :: after →
      (result = .ok () ↔ id ∈ before.pending) ∧
      (result = .error (.alreadyCompleted id) ↔
        before.Issued earlier id ∧ id ∉ before.pending) ∧
      (result = .error (.unknownRequest id) ↔ ¬ before.Issued earlier id)) ∧
    log.accepted.Nodup ∧
    (∀ id result, (c.take id).1 = some (some result) ↔ log.Brings id result) ∧
    (∀ id ∈ log.pending, (c.take id).1 = some none) ∧
    (∀ id, (c.wait id).1 = (c.take id).1.map fun outcome =>
      outcome.getD (.error (if id ∈ log.pending then .timeout id else .cancelled id))) ∧
    (∀ (before after : Chronicle) number, log = before ++ .cancelled number :: after →
      number = before.pending.length) ∧
    c.pendingCount = log.pending.length ∧ log.pending.Nodup := by
  intro c log
  have htrace : Trace (fresh sink timeout earlier) log c := trace_log ops _
  have hfresh := tally_fresh sink timeout earlier
  have htally : Tally earlier log c := htrace.tally hfresh
  refine ⟨htally.increasing, ?_, ?_, htally.single, ?_, ?_, ?_, ?_, ?_, ?_⟩
  · intro method payload id hbegun other hother
    rw [number_of_begin hbegun]
    exact htally.lt_next hother
  · intro before after id payload result hlog
    rw [hlog] at htrace
    obtain ⟨u, u', hbefore, heffect⟩ := htrace.exists_effect
    exact heffect.result_iff (hbefore.tally hfresh)
  · intro id result
    rw [take_eq, ← htally.replies, reply?]
    cases c.slot? id <;> simp
  · intro id hpending
    rw [← htally.pending] at hpending
    obtain ⟨s, hslot, hblank⟩ := htally.sound.blank id hpending
    rw [take_eq, hslot, Option.map_some, hblank]
  · intro id
    rw [wait_eq, htally.pending]
  · intro before after number hlog
    rw [hlog] at htrace
    obtain ⟨u, u', hbefore, heffect⟩ := htrace.exists_effect
    rw [← (hbefore.tally hfresh).pending]
    cases heffect with
    | cancelled => rfl
  · rw [pendingCount, htally.pending]
  · have hids : log.ids.Nodup := htally.increasing.imp fun hlt heq => by
      rw [heq] at hlt
      exact absurd hlt (Int.lt_irrefl _)
    exact hids.sublist log.pending_sublist_ids

/-- A call that is answered from inside its forwarding is answered for good. -/
example : (Channel.fresh (fun r => { answers := [(r.id, r.payload)] }) ⟨5⟩ 0).log
    [.begin "echo" [7], .complete ⟨1⟩ [8], .cancelAll, .take ⟨1⟩, .wait ⟨1⟩] =
    [.issued ⟨1⟩, .answered ⟨1⟩ [7] (.ok ()),
      .answered ⟨1⟩ [8] (.error (.alreadyCompleted ⟨1⟩)), .cancelled 0,
      .taken ⟨1⟩ (some (.ok [7])), .waited ⟨1⟩ (.error (.cancelled ⟨1⟩))] := rfl

end Switchboard.Reverse
