import Switchboard.Proofs.Cache.Table

/-!
# Expiring — a cache is a map whose values are seen for a time

A cache drops what has expired, when it comes across it. The map that it stands for drops
nothing: `written` is the last value put in a place and not removed since, and `visibleAt`
says until when it is seen. As long as the clock does not go back, no answer tells the two
apart (`answers_fit`), and neither reads nor purges are noticed later (`same_answer`).
-/

namespace Switchboard.Cache

/-! ## Operations -/

/-- One thing done to a cache, with the clock as it reads then. -/
inductive Operation where
  | put (now : Instant) (store key : String) (value : Bytes) (ttlSeconds : Int)
  | get (now : Instant) (store key : String)
  | contains (now : Instant) (store key : String)
  | delete (store key : String)
  | clear (store : String)
  | keys (now : Instant) (store : String)
  | purge (now : Instant)
  deriving DecidableEq, Repr

/-- The answer to an operation. -/
inductive Answer where
  | done (result : Except CacheError Unit)
  | value (result : Except CacheError (Option Bytes))
  | found (result : Except CacheError Bool)
  | dropped (number : Nat)
  | listed (keys : List String)

/-- The error that an operation was refused with. -/
def Answer.error? : Answer → Option CacheError
  | done (.error e) | value (.error e) | found (.error e) => some e
  | _ => none

namespace Operation

/-- The reading of the clock that an operation takes. -/
def clock? : Operation → Option Instant
  | put now .. | get now .. | contains now .. | keys now _ | purge now => some now
  | delete .. | clear _ => none

/-- The place that the operation names. -/
def place? : Operation → Option (String × String)
  | put _ store key .. | get _ store key | contains _ store key | delete store key =>
    some (store, key)
  | clear _ | keys .. | purge _ => none

/-- The operation may drop entries, but only expired ones. -/
def sweeps : Operation → Bool
  | get .. | purge _ => true
  | _ => false

/-- The operation asks what is in the cache. -/
def asks : Operation → Bool
  | get .. | contains .. | keys .. => true
  | _ => false

end Operation

/-- The cache under an operation; a refused one leaves it as it was. -/
@[simp] def perform : Operation → Cache → Answer × Cache
  | .put now store key value ttlSeconds, c =>
    match c.put now store key value ttlSeconds with
    | .ok c' => (.done (.ok ()), c')
    | .error e => (.done (.error e), c)
  | .get now store key, c =>
    match c.get now store key with
    | .ok (value, c') => (.value (.ok value), c')
    | .error e => (.value (.error e), c)
  | .contains now store key, c => (.found (c.contains now store key), c)
  | .delete store key, c =>
    match c.delete store key with
    | .ok c' => (.done (.ok ()), c')
    | .error e => (.done (.error e), c)
  | .clear store, c => (.dropped (c.clear store).1, (c.clear store).2)
  | .keys now store, c => (.listed (c.keys now store), c)
  | .purge now, c => (.dropped (c.purge now).1, (c.purge now).2)

/-- The cache after a run that begins with an empty one. -/
def after (ops : List Operation) : Cache := ops.foldl (fun c op => (perform op c).2) {}

/-- The clock never reads less than before. -/
def Timely (ops : List Operation) : Prop :=
  (ops.filterMap Operation.clock?).Pairwise fun t u => t.nanos ≤ u.nanos

instance (ops : List Operation) : Decidable (Timely ops) :=
  inferInstanceAs (Decidable (List.Pairwise _ _))

/-! ## The map -/

/-- What was put in a place, and when. -/
structure Written where
  time : Instant
  value : Bytes
  ttlSeconds : Int
  deriving DecidableEq, Repr

/-- The value is still to be seen: for ever if its time to live is not positive or its end
is past the last reading of the clock, else until then. -/
def Written.VisibleAt (now : Instant) (w : Written) : Prop :=
  w.ttlSeconds ≤ 0 ∨
    let due := (w.time.after (.ofSeconds w.ttlSeconds.toNat)).nanos
    Instant.last < due ∨ now.nanos < due

instance (now : Instant) (w : Written) : Decidable (w.VisibleAt now) :=
  inferInstanceAs (Decidable (_ ∨ _ ∨ _))

/-- What the operation leaves in a place, if it settles that. -/
def Operation.leaves? (store key : String) : Operation → Option (Option Written)
  | put time s k value ttlSeconds =>
    if s = store ∧ k = key ∧ admits s k then some (some { time, value, ttlSeconds }) else none
  | delete s k => if s = store ∧ k = key ∧ admits s k then some none else none
  | clear s => if s = store then some none else none
  | _ => none

/-- The last value put in a place that was not deleted or cleared since. -/
def written (store key : String) (past : List Operation) : Option Written :=
  (past.reverse.findSome? (·.leaves? store key)).join

/-- What is seen in a place of the map. -/
def seen (now : Instant) (store key : String) (past : List Operation) : Option Bytes :=
  ((written store key past).filter fun w => w.VisibleAt now).map (·.value)

/-- What the map answers. How many entries are dropped is not its concern. -/
def Answer.Fits (past : List Operation) : Operation → Answer → Prop
  | .put _ store key .., answer | .delete store key, answer =>
    answer = .done (if admits store key then .ok () else .error .invalidKey)
  | .get now store key, answer =>
    answer = .value (if admits store key then .ok (seen now store key past) else .error .invalidKey)
  | .contains now store key, answer =>
    answer = .found
      (if admits store key then .ok (seen now store key past).isSome else .error .invalidKey)
  | .keys now store, answer =>
    ∃ keys, answer = .listed keys ∧ Ascending keys ∧
      ∀ key, key ∈ keys ↔ (seen now store key past).isSome
  | .clear _, answer | .purge _, answer => ∃ number, answer = .dropped number

/-! ## One operation -/

variable {c : Cache} {op : Operation} {past : List Operation} {store key : String}
  {now later : Instant}

/-- A written value as the cache holds it. -/
def Written.entry (store key : String) (w : Written) : Entry :=
  { store, key, value := w.value, expiry := expiryOf w.time w.ttlSeconds }

theorem liveAt_entry (w : Written) :
    (w.entry store key).liveAt now = decide (w.VisibleAt now) := by
  simp only [Written.entry, Entry.liveAt, expiryOf, Written.VisibleAt, Instant.after?,
    Instant.before]
  grind

theorem perform_refused (op : Operation) (hplace : op.place? = some (store, key))
    (h : admits store key = false) : (perform op c).2 = c := by
  cases op <;> cases hplace <;> simp [put, get, delete, h]

theorem error?_perform (hplace : op.place? = some (store, key)) (h : admits store key = false) :
    (perform op c).1.error? = some .invalidKey := by
  cases op <;> cases hplace <;> simp [put, get, contains, delete, h, Answer.error?]

theorem perform_put (h : admits store key = true) (time : Instant) (value : Bytes) (ttl : Int) :
    (perform (.put time store key value ttl) c).2 =
      c.place (Written.entry store key { time, value, ttlSeconds := ttl }) := by
  simp [put, h, place, Written.entry]

theorem perform_delete (h : admits store key = true) :
    (perform (.delete store key) c).2 = c.remove store key := by
  simp [delete, h]

/-- A read drops the entry that it finds expired. -/
theorem perform_get (h : admits store key = true) (c : Cache) :
    (perform (.get now store key) c).2 =
      if (c.find? store key).any (!·.liveAt now) then c.remove store key else c := by
  simp only [perform, get, h]
  cases hfind : c.find? store key with
  | none => simp
  | some e => cases hlive : e.liveAt now <;> simp [hlive]

theorem answer_get (now : Instant) (store key : String) (c : Cache) :
    (perform (.get now store key) c).1 =
      .value (if admits store key then
        .ok (((c.find? store key).filter (·.liveAt now)).map (·.value))
      else .error .invalidKey) := by
  cases hadmits : admits store key with
  | false => simp [get, hadmits]
  | true =>
    simp only [perform, get, hadmits]
    cases hfind : c.find? store key with
    | none => simp
    | some e => cases hlive : e.liveAt now <;> simp [hlive, Option.filter_some]

theorem answer_contains (now : Instant) (store key : String) (c : Cache) :
    (perform (.contains now store key) c).1 =
      .found (if admits store key then
        .ok (((c.find? store key).filter (·.liveAt now)).map (·.value)).isSome
      else .error .invalidKey) := by
  cases hadmits : admits store key with
  | false => simp [contains, hadmits]
  | true =>
    simp only [perform, contains, hadmits]
    cases hfind : c.find? store key with
    | none => simp
    | some e => cases hlive : e.liveAt now <;> simp [hlive, Option.filter_some]

theorem WellFormed.perform (h : c.WellFormed) (op : Operation) : (perform op c).2.WellFormed := by
  cases op with
  | put time store key value ttl =>
    cases hadmits : admits store key with
    | false => rwa [perform_refused _ rfl hadmits]
    | true => exact perform_put hadmits .. ▸ h.place _
  | get now store key =>
    cases hadmits : admits store key with
    | false => rwa [perform_refused _ rfl hadmits]
    | true =>
      rw [perform_get hadmits]
      split
      · exact h.remove _ _
      · exact h
  | delete store key =>
    cases hadmits : admits store key with
    | false => rwa [perform_refused _ rfl hadmits]
    | true => exact perform_delete hadmits ▸ h.remove _ _
  | contains | keys => exact h
  | clear | purge => exact h.filter _

/-- What an operation leaves of the table, seen at its own time or later: where it settles a
place, what it left there; elsewhere what was there. -/
theorem live_perform (h : c.WellFormed) (hlater : ∀ t ∈ op.clock?, t.nanos ≤ later.nanos) :
    ((perform op c).2.find? store key).filter (·.liveAt later) =
      (((op.leaves? store key).map (Option.map (Written.entry store key))).getD
        (c.find? store key)).filter (·.liveAt later) := by
  cases op with
  | put time s k value ttl =>
    cases hadmits : admits s k with
    | false =>
      rw [perform_refused (.put time s k value ttl) rfl hadmits]
      simp [Operation.leaves?, hadmits]
    | true =>
      rw [perform_put hadmits, find?_place h]
      by_cases hplace : s = store ∧ k = key
      · obtain ⟨rfl, rfl⟩ := hplace
        simp [Operation.leaves?, hadmits, Written.entry]
      · simp [Operation.leaves?, hplace, Written.entry, ← and_assoc]
  | get now s k =>
    cases hadmits : admits s k with
    | false =>
      rw [perform_refused (.get now s k) rfl hadmits]
      rfl
    | true =>
      rw [perform_get hadmits]
      split
      · next hexpired =>
        rw [find?_remove h]
        split
        · next hplace =>
          obtain ⟨rfl, rfl⟩ := hplace
          -- The entry that the read dropped had expired, and stays so.
          have hgone : (c.find? s k).filter (·.liveAt now) = none := by
            rw [Option.filter_eq_none_iff]
            obtain ⟨e, hfind, hdead⟩ := (Option.any_eq_true _ _).mp hexpired
            simpa [hfind] using hdead
          change none = (c.find? s k).filter _
          rw [← filter_liveAt_of_later (hlater now rfl), hgone]
          rfl
        · rfl
      · rfl
  | contains | keys => rfl
  | delete s k =>
    cases hadmits : admits s k with
    | false =>
      rw [perform_refused (.delete s k) rfl hadmits]
      simp [Operation.leaves?, hadmits]
    | true =>
      rw [perform_delete hadmits, find?_remove h]
      by_cases hplace : s = store ∧ k = key
      · obtain ⟨rfl, rfl⟩ := hplace
        simp [Operation.leaves?, hadmits]
      · simp [Operation.leaves?, hplace, ← and_assoc]
  | clear s =>
    change ((c.clear s).2.find? store key).filter _ = _
    rw [find?_clear h]
    by_cases hstore : s = store <;> simp [Operation.leaves?, hstore]
  | purge now =>
    change ((c.purge now).2.find? store key).filter _ = _
    rw [find?_purge h, filter_liveAt_of_later (hlater now rfl)]
    rfl

/-! ## A run -/

/-- What the cache holds and is not expired is what the map shows: at the last time that the
clock was read, and at every later one. -/
structure Shows (past : List Operation) (c : Cache) : Prop where
  wellFormed : c.WellFormed
  live : ∀ later : Instant, (∀ t ∈ past.filterMap Operation.clock?, t.nanos ≤ later.nanos) →
    ∀ store key, (c.find? store key).filter (·.liveAt later) =
      ((written store key past).map (Written.entry store key)).filter (·.liveAt later)

theorem written_concat (store key : String) (past : List Operation) (op : Operation) :
    written store key (past ++ [op]) =
      (op.leaves? store key).getD (written store key past) := by
  rw [written, written, List.reverse_concat, List.findSome?_cons]
  cases op.leaves? store key <;> rfl

theorem Shows.step (h : Shows past c) (op : Operation) :
    Shows (past ++ [op]) (perform op c).2 := by
  refine ⟨h.wellFormed.perform op, fun later hlater store key => ?_⟩
  rw [List.filterMap_append, List.forall_mem_append] at hlater
  have hnow : ∀ t ∈ op.clock?, t.nanos ≤ later.nanos := by
    intro t ht
    exact hlater.2 t (by simp [Option.mem_def.mp ht])
  rw [live_perform h.wellFormed hnow, written_concat]
  cases op.leaves? store key with
  | none => exact h.live later hlater.1 store key
  | some left => rfl

theorem Shows.run (h : Shows past c) (ops : List Operation) :
    Shows (past ++ ops) (ops.foldl (fun c op => (perform op c).2) c) := by
  induction ops generalizing past c with
  | nil => simpa using h
  | cons op ops ih => simpa using ih (h.step op)

theorem shows_after (past : List Operation) : Shows past (after past) := by
  have hempty : Shows [] {} := ⟨.nil, fun _ _ _ _ => rfl⟩
  exact hempty.run past

theorem Shows.seen (h : Shows past c)
    (hnow : ∀ t ∈ past.filterMap Operation.clock?, t.nanos ≤ now.nanos) :
    ((c.find? store key).filter (·.liveAt now)).map (·.value) = seen now store key past := by
  rw [h.live now hnow, Cache.seen]
  cases written store key past with
  | none => rfl
  | some w =>
    simp only [Option.map_some, Option.filter_some, liveAt_entry]
    split <;> rfl

/-- The answers of a cache are those of the map. -/
theorem Shows.fits (h : Shows past c)
    (hclock : ∀ now ∈ op.clock?, ∀ t ∈ past.filterMap Operation.clock?, t.nanos ≤ now.nanos) :
    Answer.Fits past op (perform op c).1 := by
  cases op with
  | put now store key value ttl =>
    cases hadmits : admits store key <;> simp [Answer.Fits, put, hadmits]
  | get now store key =>
    rw [Answer.Fits, answer_get, h.seen (hclock now rfl)]
  | contains now store key =>
    rw [Answer.Fits, answer_contains, h.seen (hclock now rfl)]
  | delete store key =>
    cases hadmits : admits store key <;> simp [Answer.Fits, delete, hadmits]
  | clear | purge => exact ⟨_, rfl⟩
  | keys now store =>
    refine ⟨_, rfl, ascending_keys h.wellFormed now store, fun key => ?_⟩
    rw [mem_keys_iff h.wellFormed, ← h.seen (hclock now rfl), Option.isSome_map,
      Option.isSome_iff_exists]
    simp only [Option.filter_eq_some_iff]

theorem timely_concat (h : Timely (past ++ [op])) :
    ∀ now ∈ op.clock?, ∀ t ∈ past.filterMap Operation.clock?, t.nanos ≤ now.nanos := by
  rw [Timely, List.filterMap_append, List.pairwise_append] at h
  intro now hnow t ht
  exact h.2.2 t ht now (by simp [Option.mem_def.mp hnow])

/-! ## Reads and purges are not noticed -/

theorem leaves?_of_sweeps (h : op.sweeps = true) (store key : String) :
    op.leaves? store key = none := by
  cases op <;> first | rfl | cases h

theorem written_filter (store key : String) (past : List Operation) :
    written store key (past.filter (!·.sweeps)) = written store key past := by
  have hskip : ∀ ops : List Operation, (ops.filter (!·.sweeps)).findSome? (·.leaves? store key) =
      ops.findSome? (·.leaves? store key) := by
    intro ops
    induction ops with
    | nil => rfl
    | cons op ops ih =>
      cases hsweeps : op.sweeps with
      | true =>
        rw [List.filter_cons_of_neg (by simp [hsweeps]), List.findSome?_cons,
          leaves?_of_sweeps hsweeps]
        exact ih
      | false =>
        rw [List.filter_cons_of_pos (by simp [hsweeps]), List.findSome?_cons, List.findSome?_cons,
          ih]
  rw [written, written, ← List.filter_reverse, hskip]

/-- Maps that show the same give the same answers. -/
theorem Answer.Fits.eq {past past' : List Operation} {answer answer' : Answer}
    (hasks : op.asks = true)
    (hseen : ∀ now store key, seen now store key past = seen now store key past')
    (h : Answer.Fits past op answer) (h' : Answer.Fits past' op answer') : answer = answer' := by
  cases op with
  | get | contains =>
    simp only [Answer.Fits, hseen] at h h'
    rw [h, h']
  | keys now store =>
    obtain ⟨ks, rfl, hascending, hks⟩ := h
    obtain ⟨ks', rfl, hascending', hks'⟩ := h'
    rw [hascending.eq hascending' fun key => by rw [hks, hks', hseen]]
  | put | delete | clear | purge => cases hasks

/-- **A cache is a map whose values are seen for a time.** While the clock does not go back,
the answers are those of the map in which nothing is dropped for being expired, so reads and
purges anywhere before make no difference. An operation that names no place is refused and
does nothing. What a purge drops is all that has expired, what a read drops is the one expired
entry that it comes across, in every cache. -/
theorem refines_expiring_map {past : List Operation} {op : Operation}
    (htimely : Timely (past ++ [op])) :
    Answer.Fits past op (perform op (after past)).1 ∧
    (∀ past' : List Operation, past'.filter (!·.sweeps) = past.filter (!·.sweeps) →
      Timely (past' ++ [op]) → op.asks = true →
        (perform op (after past')).1 = (perform op (after past)).1) ∧
    (∀ store key, op.place? = some (store, key) → store = "" ∨ key = "" → ∀ c : Cache,
      (perform op c).1.error? = some .invalidKey ∧ (perform op c).2 = c) ∧
    (after past).WellFormed ∧
    ∀ (c : Cache) (now : Instant), c.WellFormed →
      (c.purge now).1 = c.entries.countP (!·.liveAt now) ∧
      (c.purge now).2.size + (c.purge now).1 = c.size ∧
      (c.purge now).2.entries = c.entries.filter (·.liveAt now) ∧
      ∀ store key e, admits store key = true → c.find? store key = some e →
        e.liveAt now = false →
          c.get now store key = .ok (none, { entries := c.entries.erase e }) := by
  have hfits := (shows_after past).fits (timely_concat htimely)
  refine ⟨hfits, fun past' hsame htimely' hasks => ?_, fun store key hplace hempty c => ?_,
    (shows_after past).wellFormed, fun c now h => ⟨?_, size_purge now c, rfl, ?_⟩⟩
  · have hfits' := (shows_after past').fits (timely_concat htimely')
    refine Answer.Fits.eq hasks (fun now store key => ?_) hfits' hfits
    rw [seen, seen, ← written_filter, hsame, written_filter]
  · have hadmits : admits store key = false := by
      rcases hempty with rfl | rfl <;> simp [admits]
    exact ⟨error?_perform hplace hadmits, perform_refused op hplace hadmits⟩
  · rw [List.countP_eq_length_filter]
    rfl
  · intro store key e hadmits hfind hexpired
    have hdropped : c.remove store key = { entries := c.entries.erase e } := by
      rw [← entries_remove h hfind]
    simp [get, hadmits, hfind, hexpired, hdropped]

/-- A value read after its time, with a purge before the read and without. -/
theorem refines_expiring_map_expired :
    let past := [Operation.put ⟨0⟩ "s" "k" [1] 1]
    let op := Operation.get ⟨2000000000⟩ "s" "k"
    Timely (past ++ [op]) ∧ Answer.Fits past op (perform op (after past)).1 ∧
      (perform op (after (past ++ [.purge ⟨1500000000⟩]))).1 = (perform op (after past)).1 := by
  intro past op
  have htimely : Timely (past ++ [op]) := by decide
  have hfits := refines_expiring_map htimely
  exact ⟨htimely, hfits.1, hfits.2.1 (past ++ [.purge ⟨1500000000⟩]) rfl (by decide) rfl⟩

end Switchboard.Cache
