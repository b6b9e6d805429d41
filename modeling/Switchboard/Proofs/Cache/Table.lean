import Switchboard.Cache.Memory
import Switchboard.Proofs.Text.Utf8

/-!
# Table — what stands under a store and key

A cache is a list of entries; read through `find?` it is a table. For each operation this
module says what becomes of that table, at the place the operation names and at all others.
All of it rests on `WellFormed`: no two entries stand in one place.
-/

namespace Switchboard.Cache

variable {c : Cache} {e : Entry} {store key store' key' : String} {now later : Instant}

/-- No two entries stand in one place. -/
def WellFormed (c : Cache) : Prop :=
  c.entries.Pairwise fun e e' => e.stands e'.store e'.key = false

theorem stands_iff : e.stands store key = true ↔ e.store = store ∧ e.key = key := by
  simp [Entry.stands]

theorem stands_self (e : Entry) : e.stands e.store e.key = true := stands_iff.mpr ⟨rfl, rfl⟩

theorem find?_eq_some_iff (h : c.WellFormed) :
    c.find? store key = some e ↔ e ∈ c.entries ∧ e.stands store key = true := by
  refine ⟨fun hfind => ⟨List.mem_of_find?_eq_some hfind, List.find?_some hfind⟩, ?_⟩
  rintro ⟨hmem, hstands⟩
  obtain ⟨first, rest, hsplit⟩ := List.append_of_mem hmem
  rw [WellFormed, hsplit, List.pairwise_append] at h
  refine List.find?_eq_some_iff_append.mpr ⟨hstands, first, rest, hsplit, fun e' he' => ?_⟩
  -- An earlier entry in the same place would stand where `e` stands.
  have hapart := h.2.2 e' he' e List.mem_cons_self
  obtain ⟨rfl, rfl⟩ := stands_iff.mp hstands
  simp [hapart]

/-! ## Each operation -/

theorem WellFormed.filter (h : c.WellFormed) (keep : Entry → Bool) :
    WellFormed { entries := c.entries.filter keep } :=
  h.sublist List.filter_sublist

/-- Dropping entries drops them from the table, and nothing else. -/
theorem find?_filter (h : c.WellFormed) (keep : Entry → Bool) (store key : String) :
    find? store key { entries := c.entries.filter keep } = (c.find? store key).filter keep := by
  refine Option.ext fun e => ?_
  rw [find?_eq_some_iff (h.filter keep), Option.filter_eq_some_iff, find?_eq_some_iff h,
    List.mem_filter]
  grind

theorem WellFormed.remove (h : c.WellFormed) (store key : String) :
    (c.remove store key).WellFormed :=
  h.filter _

theorem find?_remove (h : c.WellFormed) :
    (c.remove store key).find? store' key' =
      if store = store' ∧ key = key' then none else c.find? store' key' := by
  rw [Cache.remove, find?_filter h]
  cases hfind : c.find? store' key' with
  | none => simp
  | some e =>
    obtain ⟨rfl, rfl⟩ := stands_iff.mp ((find?_eq_some_iff h).mp hfind).2
    rw [Option.filter_some]
    by_cases hplace : store = e.store ∧ key = e.key
    · simp [hplace, stands_self]
    · have hapart : e.stands store key = false := by
        rw [← Bool.not_eq_true, stands_iff]
        grind
      simp [hplace, hapart]

/-- Nothing but the one entry goes. -/
theorem entries_remove (h : c.WellFormed) (hfind : c.find? store key = some e) :
    (c.remove store key).entries = c.entries.erase e := by
  have hnodup : c.entries.Nodup := h.imp fun {e e'} hapart heq => by
    rw [heq, stands_self] at hapart
    cases hapart
  rw [hnodup.erase_eq_filter, Cache.remove]
  refine List.filter_congr fun e' he' => ?_
  by_cases hsame : e' = e
  · have hstands := ((find?_eq_some_iff h).mp hfind).2
    simp [hsame, hstands]
  · -- Another entry that stands there would have been found in place of `e`.
    have hapart : e'.stands store key = false := by
      rw [← Bool.not_eq_true]
      intro hstands
      have hother := (find?_eq_some_iff h).mpr ⟨he', hstands⟩
      exact hsame (Option.some.inj (hother.symm.trans hfind))
    simp [hsame, hapart]

/-- The cache with an entry in the place of any that stood there. -/
def place (e : Entry) (c : Cache) : Cache :=
  { entries := (c.remove e.store e.key).entries ++ [e] }

theorem WellFormed.place (h : c.WellFormed) (e : Entry) : (c.place e).WellFormed := by
  refine List.pairwise_append.mpr ⟨h.remove _ _, List.pairwise_singleton _ _, ?_⟩
  intro e' he' e'' he''
  rw [List.mem_singleton.mp he'']
  simpa using (List.mem_filter.mp he').2

theorem find?_place (h : c.WellFormed) :
    (c.place e).find? store key =
      if e.store = store ∧ e.key = key then some e else c.find? store key := by
  rw [Cache.place, Cache.find?, List.find?_append]
  change ((c.remove e.store e.key).find? store key).or _ = _
  rw [find?_remove h]
  split
  · next hplace => simp [stands_iff.mpr hplace]
  · next hplace =>
    have hapart : e.stands store key = false := by
      rw [← Bool.not_eq_true, stands_iff]
      exact hplace
    simp [hapart]

theorem find?_clear (h : c.WellFormed) :
    (c.clear store').2.find? store key = if store' = store then none else c.find? store key := by
  change find? store key { entries := c.entries.filter _ } = _
  rw [find?_filter h]
  cases hfind : c.find? store key with
  | none => simp
  | some e =>
    obtain ⟨rfl, rfl⟩ := stands_iff.mp ((find?_eq_some_iff h).mp hfind).2
    by_cases hstore : store' = e.store
    · simp [hstore]
    · simp [hstore, Ne.symm hstore]

theorem find?_purge (h : c.WellFormed) :
    (c.purge now).2.find? store key = (c.find? store key).filter (·.liveAt now) :=
  find?_filter h _ store key

/-! ## Expiry -/

/-- What has expired stays expired. -/
theorem liveAt_of_later (hlater : now.nanos ≤ later.nanos) (h : e.liveAt later = true) :
    e.liveAt now = true := by
  unfold Entry.liveAt at h ⊢
  split at h
  · rfl
  · simp only [Instant.before, decide_eq_true_eq] at h ⊢
    omega

/-- Dropping the expired is not seen later. -/
theorem filter_liveAt_of_later (hlater : now.nanos ≤ later.nanos) (e : Option Entry) :
    (e.filter (·.liveAt now)).filter (·.liveAt later) = e.filter (·.liveAt later) := by
  cases e with
  | none => rfl
  | some e =>
    cases hnow : e.liveAt now with
    | true => simp [Option.filter, hnow]
    | false =>
      have hgone : e.liveAt later ≠ true := fun h => by
        rw [liveAt_of_later hlater h] at hnow
        cases hnow
      simp [Option.filter, hnow, hgone]

/-! ## The keys of a store -/

theorem byteOrder_iff (a b : String) :
    byteOrder a b = true ↔ Utf8.encode a ≤ Utf8.encode b := by
  simp [byteOrder]

/-- Distinct keys in byte order: none comes before an earlier one, none twice. -/
def Ascending (keys : List String) : Prop :=
  keys.Pairwise fun a b => Utf8.encode a < Utf8.encode b

theorem Ascending.nodup {ks : List String} (h : Ascending ks) : ks.Nodup :=
  h.imp fun hlt => ne_of_apply_ne Utf8.encode fun heq => List.lt_irrefl _ (heq ▸ hlt)

theorem Ascending.eq {ks ls : List String} (hks : Ascending ks) (hls : Ascending ls)
    (h : ∀ key, key ∈ ks ↔ key ∈ ls) : ks = ls := by
  have hperm := (List.perm_ext_iff_of_nodup hks.nodup hls.nodup).mpr @h
  exact hperm.eq_of_pairwise (fun _ _ _ _ hab hba => absurd hba (List.lt_asymm hab)) hks hls

theorem mem_keys_iff (h : c.WellFormed) :
    key ∈ c.keys now store ↔ ∃ e, c.find? store key = some e ∧ e.liveAt now = true := by
  simp only [keys, List.mem_mergeSort, List.mem_map, List.mem_filter, Bool.and_eq_true,
    decide_eq_true_eq, find?_eq_some_iff h, stands_iff]
  constructor
  · rintro ⟨e, ⟨hmem, hstore, hlive⟩, hkey⟩
    exact ⟨e, ⟨hmem, hstore, hkey⟩, hlive⟩
  · rintro ⟨e, ⟨hmem, hstore, hkey⟩, hlive⟩
    exact ⟨e, ⟨hmem, hstore, hlive⟩, hkey⟩

theorem nodup_keys (h : c.WellFormed) (now : Instant) (store : String) :
    (c.keys now store).Nodup := by
  have hplaces :
      ((c.entries.filter fun e => e.store = store && e.liveAt now).map (·.key)).Nodup := by
    refine List.pairwise_map.mpr ((h.filter _).imp_of_mem fun {e e'} he he' hapart hkey => ?_)
    simp only [List.mem_filter, Bool.and_eq_true, decide_eq_true_eq] at he he'
    rw [← hkey, he'.2.1, ← he.2.1, stands_self] at hapart
    cases hapart
  exact (List.mergeSort_perm _ _).nodup_iff.mpr hplaces

theorem ascending_keys (h : c.WellFormed) (now : Instant) (store : String) :
    Ascending (c.keys now store) := by
  have hsorted : (c.keys now store).Pairwise fun a b => byteOrder a b = true := by
    refine List.pairwise_mergeSort (fun a b d hab hbd => ?_) (fun a b => ?_) _
    · rw [byteOrder_iff] at hab hbd ⊢
      exact List.le_trans hab hbd
    · rw [Bool.or_eq_true, byteOrder_iff, byteOrder_iff]
      exact List.le_total _ _
  refine (hsorted.and (nodup_keys h now store)).imp fun {a b} ⟨hle, hne⟩ => ?_
  rw [byteOrder_iff] at hle
  refine List.not_le.mp fun hge => hne (Utf8.encode_injective ?_)
  exact List.le_antisymm hle hge

end Switchboard.Cache
