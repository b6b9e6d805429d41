import Switchboard.Text.Utf8

/-!
# Utf8 — what is written reads back, and ASCII stands for itself

Two facts about reading are all that the formats built on text need. What was written is
read back (`decode_encode`). And in any bytes, well-formed or not, the ASCII characters of
the text are exactly the ASCII bytes (`mem_decode_iff`): no such byte is ever part of another
character, and no ill-formed stretch yields one. So a separator can be looked for in the
bytes or in the text.
-/

namespace Switchboard.Utf8

variable {b : UInt8} {bs : Bytes} {p : Partial} {c : Char} {n : Nat}

theorem toNat_ofNat (h : n < 0x100) : (UInt8.ofNat n).toNat = n := by
  simpa using Nat.mod_eq_of_lt h

/-! ## One more byte -/

theorem start_ascii (h : b.toNat < 0x80) : start b = ([Char.ofNat b.toNat], none) := by
  rw [start, if_pos (UInt8.lt_iff_toNat_lt.mpr h)]

/-- What a first byte does, by its number. -/
theorem start_ofNat (hascii : 0x80 ≤ n) (h : n < 0x100) :
    start (UInt8.ofNat n) =
      if n < 0xC2 then ([replacement], none)
      else if n < 0xE0 then ([], some ⟨0x80, 0xBF, 0, n - 0xC0⟩)
      else if n < 0xF0 then
        ([], some ⟨if n = 0xE0 then 0xA0 else 0x80, if n = 0xED then 0x9F else 0xBF, 1, n - 0xE0⟩)
      else if n < 0xF5 then
        ([], some ⟨if n = 0xF0 then 0x90 else 0x80, if n = 0xF4 then 0x8F else 0xBF, 2, n - 0xF0⟩)
      else ([replacement], none) := by
  simp only [start, UInt8.lt_iff_toNat_lt, ← UInt8.toNat_inj, toNat_ofNat h, UInt8.reduceToNat]
  grind

theorem feed_last (hafter : p.after = 0) (hlow : p.low.toNat ≤ n) (hhigh : n ≤ p.high.toNat) :
    feed (some p) (UInt8.ofNat n) = ([Char.ofNat (p.bits * 64 + (n - 0x80))], none) := by
  have hn := toNat_ofNat (Nat.lt_of_le_of_lt hhigh p.high.toNat_lt)
  simp only [feed, UInt8.le_iff_toNat_le, hn, hlow, hhigh, and_self, if_true, hafter]

theorem feed_more {k : Nat} (hafter : p.after = k + 1) (hlow : p.low.toNat ≤ n)
    (hhigh : n ≤ p.high.toNat) :
    feed (some p) (UInt8.ofNat n) =
      ([], some ⟨0x80, 0xBF, k, p.bits * 64 + (n - 0x80)⟩) := by
  have hn := toNat_ofNat (Nat.lt_of_le_of_lt hhigh p.high.toNat_lt)
  simp only [feed, UInt8.le_iff_toNat_le, hn, hlow, hhigh, and_self, if_true, hafter]

theorem feed_astray (h : ¬ (p.low ≤ b ∧ b ≤ p.high)) :
    feed (some p) b = (replacement :: (start b).1, (start b).2) := by
  rw [feed, if_neg h]

theorem decodeFrom_cons (p : Option Partial) (b : UInt8) (bs : Bytes) :
    decodeFrom p (b :: bs) = (feed p b).1 ++ decodeFrom (feed p b).2 bs := rfl

/-! ## What is written reads back -/

/-- The numbers of characters: neither a surrogate nor past the last code point. -/
theorem toNat_range (c : Char) :
    c.toNat < 0xD800 ∨ (0xE000 ≤ c.toNat ∧ c.toNat < 0x110000) := by
  rcases c.valid with h | h
  · exact .inl h
  · exact .inr ⟨h.1, h.2⟩

theorem decodeFrom_start (b : UInt8) (bs : Bytes) :
    decodeFrom none (b :: bs) = (start b).1 ++ decodeFrom (start b).2 bs := rfl

theorem decodeFrom_one {v : Nat} (h : v ≤ 0x7F) (bs : Bytes) :
    decodeFrom none (UInt8.ofNat v :: bs) = Char.ofNat v :: decodeFrom none bs := by
  have hv : (UInt8.ofNat v).toNat = v := toNat_ofNat (by omega)
  rw [decodeFrom_start, start_ascii (by omega), hv]
  rfl

theorem decodeFrom_two {v : Nat} (hlow : 0x7F < v) (h : v ≤ 0x7FF) (bs : Bytes) :
    decodeFrom none (UInt8.ofNat (v / 64 % 0x20 + 0xC0) :: UInt8.ofNat (v % 0x40 + 0x80) :: bs) =
      Char.ofNat v :: decodeFrom none bs := by
  rw [decodeFrom_start, start_ofNat (by omega) (by omega), if_neg (by omega), if_pos (by omega)]
  rw [decodeFrom_cons, feed_last rfl (by simp) (by simp; omega)]
  simp only [List.nil_append, List.cons_append]
  rw [show (v / 64 % 0x20 + 0xC0 - 0xC0) * 64 + (v % 0x40 + 0x80 - 0x80) = v by omega]

theorem decodeFrom_three {v : Nat} (hlow : 0x7FF < v) (h : v ≤ 0xFFFF)
    (hrange : v < 0xD800 ∨ 0xE000 ≤ v) (bs : Bytes) :
    decodeFrom none (UInt8.ofNat (v / 4096 % 0x10 + 0xE0) :: UInt8.ofNat (v / 64 % 0x40 + 0x80) ::
        UInt8.ofNat (v % 0x40 + 0x80) :: bs) =
      Char.ofNat v :: decodeFrom none bs := by
  rw [decodeFrom_start, start_ofNat (by omega) (by omega), if_neg (by omega), if_neg (by omega),
    if_pos (by omega)]
  rw [decodeFrom_cons, feed_more rfl (by dsimp only; split <;> simp; omega)
    (by dsimp only; split <;> simp <;> omega)]
  rw [decodeFrom_cons, feed_last rfl (by simp) (by simp; omega)]
  simp only [List.nil_append, List.cons_append]
  rw [show ((v / 4096 % 0x10 + 0xE0 - 0xE0) * 64 + (v / 64 % 0x40 + 0x80 - 0x80)) * 64 +
    (v % 0x40 + 0x80 - 0x80) = v by omega]

theorem decodeFrom_four {v : Nat} (hlow : 0xFFFF < v) (h : v < 0x110000) (bs : Bytes) :
    decodeFrom none (UInt8.ofNat (v / 262144 % 0x08 + 0xF0) ::
        UInt8.ofNat (v / 4096 % 0x40 + 0x80) :: UInt8.ofNat (v / 64 % 0x40 + 0x80) ::
        UInt8.ofNat (v % 0x40 + 0x80) :: bs) =
      Char.ofNat v :: decodeFrom none bs := by
  rw [decodeFrom_start, start_ofNat (by omega) (by omega), if_neg (by omega), if_neg (by omega),
    if_neg (by omega), if_pos (by omega)]
  rw [decodeFrom_cons, feed_more rfl (by dsimp only; split <;> simp; omega)
    (by dsimp only; split <;> simp <;> omega)]
  rw [decodeFrom_cons, feed_more rfl (by simp) (by simp; omega)]
  rw [decodeFrom_cons, feed_last rfl (by simp) (by simp; omega)]
  simp only [List.nil_append, List.cons_append]
  rw [show (((v / 262144 % 0x08 + 0xF0 - 0xF0) * 64 + (v / 4096 % 0x40 + 0x80 - 0x80)) * 64 +
    (v / 64 % 0x40 + 0x80 - 0x80)) * 64 + (v % 0x40 + 0x80 - 0x80) = v by omega]

theorem decodeFrom_encodeChar (c : Char) (bs : Bytes) :
    decodeFrom none (String.utf8EncodeChar c ++ bs) = c :: decodeFrom none bs := by
  have hrange := toNat_range c
  have hback : Char.ofNat c.val.toNat = c := Char.ofNat_toNat c
  unfold String.utf8EncodeChar
  simp only
  split
  · next h => exact (decodeFrom_one h bs).trans (by rw [hback])
  · split
    · next h h' => exact (decodeFrom_two (by omega) h' bs).trans (by rw [hback])
    · split
      · next h' h =>
        exact (decodeFrom_three (by omega) h (by unfold Char.toNat at hrange; omega) bs).trans
          (by rw [hback])
      · next h =>
        exact (decodeFrom_four (by omega) (by unfold Char.toNat at hrange; omega) bs).trans
          (by rw [hback])

theorem decodeFrom_encode (cs : List Char) (bs : Bytes) :
    decodeFrom none (cs.flatMap String.utf8EncodeChar ++ bs) = cs ++ decodeFrom none bs := by
  induction cs with
  | nil => rfl
  | cons c cs ih =>
    rw [List.flatMap_cons, List.append_assoc, decodeFrom_encodeChar, ih, List.cons_append]

/-- **What is written reads back.** -/
@[simp] theorem decode_encode (s : String) : decode (encode s) = s := by
  have hread := decodeFrom_encode s.toList []
  rw [List.append_nil] at hread
  rw [decode, encode, hread]
  simp [decodeFrom, flush]

theorem encode_injective {s t : String} (h : encode s = encode t) : s = t := by
  rw [← decode_encode s, h, decode_encode]

/-! ## ASCII stands for itself -/

namespace Partial

/-- Between how many characters so many more bytes make the difference. -/
def room : Nat → Nat
  | 0 => 1
  | k + 1 => 64 * room k

/-- The least number that a character under way can come to. -/
def least (p : Partial) : Nat := (p.bits * 64 + (p.low.toNat - 0x80)) * room p.after

/-- The greatest number that a character under way can come to. -/
def most (p : Partial) : Nat :=
  (p.bits * 64 + (p.high.toNat - 0x80)) * room p.after + (room p.after - 1)

/-- What reading keeps true of a character under way: no byte of it is ASCII, and what it
comes to is a character that is not. -/
structure Sound (p : Partial) : Prop where
  short : p.after ≤ 2
  low : 0x80 ≤ p.low.toNat
  high : p.high.toNat ≤ 0xBF
  wide : 0x80 ≤ p.least
  valid : p.most < 0xD800 ∨ (0xE000 ≤ p.least ∧ p.most < 0x110000)

end Partial

theorem sound_start {q : Partial} (h : (start b).2 = some q) : q.Sound := by
  by_cases hascii : b.toNat < 0x80
  · rw [start_ascii hascii] at h
    cases h
  · have hb : b = UInt8.ofNat b.toNat := by simp
    have hlt : b.toNat < 0x100 := b.toNat_lt
    rw [hb, start_ofNat (by omega) hlt] at h
    generalize b.toNat = n at *
    split at h
    · cases h
    · split at h
      · cases h
        constructor <;> simp [Partial.least, Partial.most, Partial.room] <;> omega
      · split at h
        · cases h
          -- The lowest and the highest first byte leave less room for the second.
          split <;> split
          all_goals constructor <;> simp [Partial.least, Partial.most, Partial.room] <;> omega
        · split at h
          · cases h
            split <;> split
            all_goals constructor <;> simp [Partial.least, Partial.most, Partial.room] <;> omega
          · cases h

/-- One more byte narrows what a character under way can come to. -/
theorem Partial.Sound.more (h : p.Sound) {k : Nat} (hafter : p.after = k + 1)
    (hlow : p.low.toNat ≤ b.toNat) (hhigh : b.toNat ≤ p.high.toNat) :
    (⟨0x80, 0xBF, k, p.bits * 64 + (b.toNat - 0x80)⟩ : Partial).Sound := by
  obtain ⟨hshort, hascii, hcont, hwide, hvalid⟩ := h
  rw [hafter] at hshort
  obtain rfl | rfl : k = 0 ∨ k = 1 := by omega
  all_goals
    simp only [Partial.least, Partial.most, Partial.room, hafter] at hwide hvalid
    constructor <;> simp [Partial.least, Partial.most, Partial.room] <;> omega

theorem sound_feed {q : Option Partial} (h : ∀ p ∈ q, p.Sound) (b : UInt8) :
    ∀ p ∈ (feed q b).2, p.Sound := by
  intro r hr
  cases q with
  | none => exact sound_start hr
  | some p =>
    by_cases hin : p.low ≤ b ∧ b ≤ p.high
    · have hb : b = UInt8.ofNat b.toNat := by simp
      rw [UInt8.le_iff_toNat_le, UInt8.le_iff_toNat_le] at hin
      cases hafter : p.after with
      | zero =>
        rw [hb, feed_last hafter hin.1 hin.2] at hr
        cases hr
      | succ k =>
        rw [hb, feed_more hafter hin.1 hin.2] at hr
        cases hr
        exact (h p rfl).more hafter hin.1 hin.2
    · rw [feed_astray hin] at hr
      exact sound_start hr

theorem toNat_charOfNat (h : n < 0xD800 ∨ (0xE000 ≤ n ∧ n < 0x110000)) :
    (Char.ofNat n).toNat = n := by
  have hvalid : n.isValidChar := by
    rcases h with h | h
    · exact .inl h
    · exact .inr ⟨by omega, h.2⟩
  rw [Char.ofNat, dif_pos hvalid]
  rfl

/-- A byte as the characters that it is on its own: itself if it is ASCII, else none. -/
def asciiOf (b : UInt8) : List Char := if b.toNat < 0x80 then [Char.ofNat b.toNat] else []

/-- Whether a character is one byte. -/
def isAscii (c : Char) : Bool := c.toNat < 0x80

theorem filter_ascii_start (b : UInt8) : (start b).1.filter isAscii = asciiOf b := by
  by_cases hascii : b.toNat < 0x80
  · have hchar : (Char.ofNat b.toNat).toNat = b.toNat := toNat_charOfNat (by omega)
    rw [start_ascii hascii, asciiOf, if_pos hascii]
    simp [isAscii, hchar, hascii]
  · have hb : b = UInt8.ofNat b.toNat := by simp
    have hnone : [replacement].filter isAscii = [] := rfl
    rw [asciiOf, if_neg hascii, hb, start_ofNat (by omega) b.toNat_lt]
    simp only [apply_ite Prod.fst, apply_ite (List.filter isAscii), hnone, List.filter_nil,
      ite_self]

theorem filter_ascii_feed {q : Option Partial} (h : ∀ p ∈ q, p.Sound) (b : UInt8) :
    (feed q b).1.filter isAscii = asciiOf b := by
  cases q with
  | none => exact filter_ascii_start b
  | some p =>
    obtain ⟨hshort, hlow, hhigh, hwide, hvalid⟩ := h p rfl
    by_cases hin : p.low ≤ b ∧ b ≤ p.high
    · have hb : b = UInt8.ofNat b.toNat := by simp
      rw [UInt8.le_iff_toNat_le, UInt8.le_iff_toNat_le] at hin
      have hnone : asciiOf b = [] := if_neg (by omega)
      rw [hnone]
      cases hafter : p.after with
      | zero =>
        simp only [Partial.least, Partial.most, Partial.room, hafter] at hwide hvalid
        have hchar : (Char.ofNat (p.bits * 64 + (b.toNat - 0x80))).toNat = _ :=
          toNat_charOfNat (by omega)
        rw [hb, feed_last hafter hin.1 hin.2]
        simp [isAscii, hchar]
        omega
      | succ k =>
        rw [hb, feed_more hafter hin.1 hin.2]
        rfl
    · rw [feed_astray hin, List.filter_cons_of_neg (by decide)]
      exact filter_ascii_start b

/-- **ASCII stands for itself**: the ASCII characters of a text are its ASCII bytes. -/
theorem filter_ascii_decodeFrom {q : Option Partial} (h : ∀ p ∈ q, p.Sound) (bs : Bytes) :
    (decodeFrom q bs).filter isAscii = bs.flatMap asciiOf := by
  induction bs generalizing q with
  | nil => cases q <;> rfl
  | cons b bs ih =>
    rw [decodeFrom_cons, List.filter_append, filter_ascii_feed h, ih (sound_feed h b)]
    rfl

theorem mem_decode_iff (h : c.toNat < 0x80) (bs : Bytes) :
    c ∈ (decode bs).toList ↔ UInt8.ofNat c.toNat ∈ bs := by
  have hfilter : (decode bs).toList.filter isAscii = bs.flatMap asciiOf := by
    rw [decode, String.toList_ofList]
    exact filter_ascii_decodeFrom (by simp) bs
  have hmem : c ∈ (decode bs).toList ↔ c ∈ bs.flatMap asciiOf := by
    rw [← hfilter, List.mem_filter, isAscii, decide_eq_true h]
    simp
  rw [hmem, List.mem_flatMap]
  constructor
  · rintro ⟨b, hb, hc⟩
    unfold asciiOf at hc
    split at hc
    · next hascii =>
      obtain rfl := List.mem_singleton.mp hc
      rw [toNat_charOfNat (by omega)]
      simpa using hb
    · cases hc
  · intro hb
    refine ⟨_, hb, ?_⟩
    rw [asciiOf, toNat_ofNat (by omega), if_pos h, Char.ofNat_toNat]
    exact List.mem_singleton_self c

/-- The same of the bytes that a text is written as. -/
theorem mem_encode_iff (h : c.toNat < 0x80) (s : String) :
    UInt8.ofNat c.toNat ∈ encode s ↔ c ∈ s.toList := by
  rw [← mem_decode_iff h, decode_encode]

/-- A text ends in an ASCII character if its bytes end in that byte. -/
theorem getLast?_encode_iff (h : c.toNat < 0x80) (s : String) :
    (encode s).getLast? = some (UInt8.ofNat c.toNat) ↔ s.toList.getLast? = some c := by
  rcases List.eq_nil_or_concat s.toList with hnil | ⟨front, last, hlast⟩
  · simp [encode, hnil]
  have hencode : encode s = encode (String.ofList front) ++ String.utf8EncodeChar last := by
    simp [encode, hlast]
  obtain ⟨bytes, b, hbytes⟩ :=
    (List.eq_nil_or_concat (String.utf8EncodeChar last)).resolve_left String.utf8EncodeChar_ne_nil
  rw [hencode, hlast, hbytes]
  simp only [List.concat_eq_append, ← List.append_assoc, List.getLast?_concat,
    Option.some.injEq]
  constructor
  · rintro rfl
    have hmem : UInt8.ofNat c.toNat ∈ encode (String.ofList [last]) := by
      simp [encode, hbytes]
    rw [mem_encode_iff h, String.toList_ofList, List.mem_singleton] at hmem
    exact hmem.symm
  · rintro rfl
    have hsingle : String.utf8EncodeChar last = [UInt8.ofNat last.toNat] := by
      unfold String.utf8EncodeChar
      exact if_pos (by unfold Char.toNat at h; omega)
    have hsame := congrArg List.getLast? (hsingle.symm.trans hbytes)
    rw [List.getLast?_singleton, List.concat_eq_append, List.getLast?_concat] at hsame
    exact (Option.some.inj hsame).symm

/-! ## Nothing is read as nothing -/

/-- A byte yields a character or leaves one under way. -/
theorem start_yields (b : UInt8) : (start b).1 ≠ [] ∨ ∃ p, (start b).2 = some p := by
  by_cases hascii : b.toNat < 0x80
  · rw [start_ascii hascii]
    exact .inl (List.cons_ne_nil _ _)
  · have hb : b = UInt8.ofNat b.toNat := by simp
    rw [hb, start_ofNat (by omega) b.toNat_lt]
    grind

theorem feed_yields (q : Option Partial) (b : UInt8) :
    (feed q b).1 ≠ [] ∨ ∃ p, (feed q b).2 = some p := by
  cases q with
  | none => exact start_yields b
  | some p =>
    by_cases hin : p.low ≤ b ∧ b ≤ p.high
    · rw [feed, if_pos hin]
      dsimp only
      split
      · exact .inl (List.cons_ne_nil _ _)
      · exact .inr ⟨_, rfl⟩
    · rw [feed_astray hin]
      exact .inl (List.cons_ne_nil _ _)

theorem decodeFrom_ne_nil (q : Option Partial) (b : UInt8) (bs : Bytes) :
    decodeFrom q (b :: bs) ≠ [] := by
  induction bs generalizing q b with
  | nil =>
    rw [decodeFrom_cons]
    rcases feed_yields q b with hchars | ⟨p, hpending⟩
    · exact List.append_ne_nil_of_left_ne_nil hchars _
    · rw [hpending]
      exact List.append_ne_nil_of_right_ne_nil _ (List.cons_ne_nil _ _)
  | cons b' bs ih =>
    rw [decodeFrom_cons]
    exact List.append_ne_nil_of_right_ne_nil _ (ih _ b')

theorem decode_eq_empty_iff (bs : Bytes) : decode bs = "" ↔ bs = [] := by
  constructor
  · intro h
    cases bs with
    | nil => rfl
    | cons b bs =>
      have hnil : (decode (b :: bs)).toList = [] := by rw [h]; rfl
      rw [decode, String.toList_ofList] at hnil
      exact absurd hnil (decodeFrom_ne_nil none b bs)
  · rintro rfl
    rfl

end Switchboard.Utf8
