import Mathlib.Data.List.Induction
import Mathlib.Data.Nat.Digits.Defs
import Switchboard.Text.Numeral

/-!
# Numeral — which texts are read as numbers

`Denotes` says which texts are numerals and what each stands for, without a reader: digits that
are written out one by one, valued by place. Reading finds exactly these (`read?_eq_some_iff`),
and with a limit those that stand for no more than it.
-/

namespace Switchboard.Numeral

variable {cs text : List Char} {ds : List Nat} {n limit : Nat}

/-- The text is one or more decimal digits, with at most one plus sign before them, and the
number is what they stand for. -/
def Denotes (text : List Char) (n : Nat) : Prop :=
  ∃ ds : List Nat, ds ≠ [] ∧ (∀ d ∈ ds, d < 10) ∧
    (text = ds.map Nat.digitChar ∨ text = '+' :: ds.map Nat.digitChar) ∧
    n = Nat.ofDigits 10 ds.reverse

/-! ## Digits -/

theorem exists_digitChar {c : Char} (h : c.isDigit = true) : ∃ d < 10, c = Nat.digitChar d := by
  have hrange : 48 ≤ c.toNat ∧ c.toNat ≤ 57 := by
    simpa [Char.isDigit, UInt32.le_iff_toNat_le] using h
  refine ⟨c.toNat - 48, by omega, ?_⟩
  apply Char.toNat_inj.mp
  rw [Nat.toNat_digitChar_of_lt_ten (by omega)]
  omega

/-- Characters are all digits exactly if they are some digits written out. -/
theorem all_isDigit_iff :
    cs.all Char.isDigit = true ↔
      ∃ ds : List Nat, (∀ d ∈ ds, d < 10) ∧ cs = ds.map Nat.digitChar := by
  constructor
  · intro h
    induction cs with
    | nil => exact ⟨[], nofun, rfl⟩
    | cons c cs ih =>
      rw [List.all_cons, Bool.and_eq_true] at h
      obtain ⟨d, hd, rfl⟩ := exists_digitChar h.1
      obtain ⟨ds, hds, rfl⟩ := ih h.2
      exact ⟨d :: ds, List.forall_mem_cons.mpr ⟨hd, hds⟩, rfl⟩
  · rintro ⟨ds, hds, rfl⟩
    rw [List.all_map, List.all_eq_true]
    intro d hd
    rw [Function.comp_apply, Nat.isDigit_digitChar]
    exact decide_eq_true (hds d hd)

/-- Reading digits from the left comes to their values by place. -/
theorem ofDigitChars_map_digitChar (h : ∀ d ∈ ds, d < 10) :
    Nat.ofDigitChars 10 (ds.map Nat.digitChar) 0 = Nat.ofDigits 10 ds.reverse := by
  induction ds using List.reverseRecOn with
  | nil => rfl
  | append_singleton ds d ih =>
    have hlast : d < 10 := h d (by simp)
    have hfront := ih fun e he => h e (by simp [he])
    rw [List.map_append, Nat.ofDigitChars_append, hfront, List.map_singleton,
      Nat.ofDigitChars_cons_digitChar_of_lt_ten hlast, Nat.ofDigitChars_nil, List.reverse_append,
      List.reverse_singleton, List.singleton_append, Nat.ofDigits_cons]
    omega

/-! ## Reading -/

theorem ofDigits?_eq_some_iff :
    ofDigits? cs = some n ↔ ∃ ds : List Nat, ds ≠ [] ∧ (∀ d ∈ ds, d < 10) ∧
      cs = ds.map Nat.digitChar ∧ n = Nat.ofDigits 10 ds.reverse := by
  rw [ofDigits?]
  constructor
  · intro h
    split at h
    · next hdigits =>
      obtain ⟨ds, hds, rfl⟩ := all_isDigit_iff.mp hdigits.2
      cases h
      exact ⟨ds, by simpa using hdigits.1, hds, rfl, ofDigitChars_map_digitChar hds⟩
    · cases h
  · rintro ⟨ds, hne, hds, rfl, rfl⟩
    have hall := all_isDigit_iff.mpr ⟨ds, hds, rfl⟩
    rw [if_pos ⟨by simpa using hne, hall⟩, ofDigitChars_map_digitChar hds]

theorem ofDigits?_plus : ofDigits? ('+' :: cs) = none := by simp [ofDigits?]

/-- **What is read as a number is a numeral that denotes it.** -/
theorem read?_eq_some_iff : read? text = some n ↔ Denotes text n := by
  unfold read?
  split
  · next rest =>
    rw [ofDigits?_eq_some_iff]
    constructor
    · rintro ⟨ds, hne, hds, rfl, rfl⟩
      exact ⟨ds, hne, hds, .inr rfl, rfl⟩
    · rintro ⟨ds, hne, hds, hunsigned | hsigned, rfl⟩
      · -- A plus sign is no digit.
        have hread := ofDigits?_eq_some_iff.mpr ⟨ds, hne, hds, hunsigned, rfl⟩
        rw [ofDigits?_plus] at hread
        cases hread
      · exact ⟨ds, hne, hds, (List.cons.inj hsigned).2, rfl⟩
  · next hplain =>
    rw [ofDigits?_eq_some_iff]
    constructor
    · rintro ⟨ds, hne, hds, rfl, rfl⟩
      exact ⟨ds, hne, hds, .inl rfl, rfl⟩
    · rintro ⟨ds, hne, hds, hunsigned | hsigned, rfl⟩
      · exact ⟨ds, hne, hds, hunsigned, rfl⟩
      · exact absurd hsigned (hplain _)

theorem readUpTo?_eq_some_iff :
    readUpTo? limit text = some n ↔ Denotes text n ∧ n ≤ limit := by
  rw [readUpTo?, Option.filter_eq_some_iff, read?_eq_some_iff, decide_eq_true_iff]

end Switchboard.Numeral
