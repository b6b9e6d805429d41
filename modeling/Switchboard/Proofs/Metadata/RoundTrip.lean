import Switchboard.Metadata
import Switchboard.Proofs.Text.Utf8

/-!
# RoundTrip — which metadata survives being written and read

Lines are forgiving: whatever comes is read as some metadata. They are not faithful to all
metadata in return. What can stand on lines is `Legible`, and reading never yields anything
else. One thing legible is still lost: a line is read without the one carriage return that
may end it, so a value that ends in one comes back shorter (`parse_encode`). The main result
says that nothing else can go wrong.
-/

namespace Switchboard

/-! ## What lines can hold -/

namespace Metadata

/-- The pair can stand on a line of its own and be told from a timeout. -/
structure LegiblePair (p : String × String) : Prop where
  named : p.1 ≠ ""
  separated : '=' ∉ p.1.toList
  keyOnLine : '\n' ∉ p.1.toList
  unreserved : p.1 ≠ timeoutKey
  valueOnLine : '\n' ∉ p.2.toList

/-- A number of milliseconds that a timeout can say. -/
def LegibleTimeout (d : Duration) : Prop :=
  ∃ k, 1 ≤ k ∧ k ≤ Numeral.max64 ∧ d = .ofMillis k

/-- Metadata that can stand on lines, each line saying what it is to say. -/
structure Legible (m : Metadata) : Prop where
  entries : ∀ p ∈ m.entries, LegiblePair p
  timeout : ∀ d, m.timeout = some d → LegibleTimeout d

/-- The value ends in a carriage return, which is lost at the end of a line. -/
def EndsInReturn (value : String) : Prop := value.toList.getLast? = some '\r'

instance (value : String) : Decidable (EndsInReturn value) :=
  inferInstanceAs (Decidable (_ = _))

/-! ## Lines of bytes -/

variable {line rest : Bytes} {p : String × String} {pairs : Pairs} {m : Metadata}

theorem segments_append (h : lineFeed ∉ line) (rest : Bytes) :
    segments (line ++ lineFeed :: rest) = line :: segments rest := by
  induction line with
  | nil => simp [segments]
  | cons b line ih =>
    rw [List.mem_cons, not_or] at h
    rw [List.cons_append, segments, if_neg (Ne.symm h.1), ih h.2]

theorem not_mem_segments {raw : Bytes} (h : line ∈ segments raw) : lineFeed ∉ line := by
  induction raw generalizing line with
  | nil =>
    rw [segments, List.mem_singleton] at h
    simp [h]
  | cons b raw ih =>
    rw [segments] at h
    split at h
    · rcases List.mem_cons.mp h with rfl | h
      · simp
      · exact ih h
    · next hb =>
      split at h
      · rw [List.mem_singleton] at h
        simp [h, Ne.symm hb]
      · next first others hsegments =>
        rw [hsegments] at ih
        rcases List.mem_cons.mp h with rfl | h
        · simp [Ne.symm hb, ih List.mem_cons_self]
        · exact ih (List.mem_cons_of_mem _ h)

/-- A pair as a line, without the line feed that ends it. -/
def body (p : String × String) : Bytes := Utf8.encode p.1 ++ equalsSign :: Utf8.encode p.2

theorem encodePair_eq (p : String × String) : encodePair p = body p ++ [lineFeed] := by
  simp [encodePair, body]

theorem segments_encodePairs (h : ∀ p ∈ pairs, lineFeed ∉ body p) :
    segments (encodePairs pairs) = pairs.map body ++ [[]] := by
  induction pairs with
  | nil => rfl
  | cons p pairs ih =>
    have hrest := ih fun q hq => h q (List.mem_cons_of_mem p hq)
    have hcons : encodePairs (p :: pairs) = body p ++ lineFeed :: encodePairs pairs := by
      simp [encodePairs, encodePair_eq]
    rw [hcons, segments_append (h p List.mem_cons_self), hrest]
    rfl

theorem lineFeed_mem_body (p : String × String) :
    lineFeed ∈ body p ↔ '\n' ∈ p.1.toList ∨ '\n' ∈ p.2.toList := by
  have hfeed : lineFeed = UInt8.ofNat '\n'.toNat := rfl
  have hne : lineFeed ≠ equalsSign := by decide
  rw [body, List.mem_append, List.mem_cons, hfeed, Utf8.mem_encode_iff (by decide),
    Utf8.mem_encode_iff (by decide), ← hfeed]
  simp [hne]

/-! ## The carriage return that may end a line -/

theorem getLast?_encode (value : String) :
    (Utf8.encode value).getLast? = some carriageReturn ↔ EndsInReturn value :=
  Utf8.getLast?_encode_iff (c := '\r') (by decide) value

/-- A value as it is read from a line: without the one carriage return that may end it. -/
def chompText (value : String) : String :=
  if EndsInReturn value then String.ofList value.toList.dropLast else value

theorem chompText_eq_self_iff (value : String) :
    chompText value = value ↔ ¬ EndsInReturn value := by
  unfold chompText
  split
  · next hends =>
    refine iff_of_false (fun hsame => ?_) (not_not_intro hends)
    have hlength := congrArg (·.toList.length) hsame
    simp only [String.toList_ofList, List.length_dropLast] at hlength
    have hne : value.toList ≠ [] := by
      intro hnil
      rw [EndsInReturn, hnil] at hends
      cases hends
    have := List.length_pos_iff.mpr hne
    omega
  · next hends => exact iff_of_true rfl hends

theorem chomp_concat (line : Bytes) : chomp (line ++ [carriageReturn]) = line := by
  rw [chomp, List.getLast?_concat, if_pos rfl, List.dropLast_concat]

/-- A line is read without the carriage return that may end it, which is the value's. -/
theorem chomp_body (key value : String) :
    chomp (body (key, value)) = body (key, chompText value) := by
  by_cases hends : EndsInReturn value
  · obtain ⟨front, hfront⟩ := List.getLast?_eq_some_iff.mp hends
    have hline : body (key, value) = body (key, chompText value) ++ [carriageReturn] := by
      rw [chompText, if_pos hends, hfront]
      simp [body, Utf8.encode, hfront]
      rfl
    rw [hline, chomp_concat]
  · have hlast : (body (key, value)).getLast? ≠ some carriageReturn := by
      intro hlast
      rw [body, List.getLast?_append, List.getLast?_cons] at hlast
      cases hvalue : (Utf8.encode value).getLast? with
      | none => simp [hvalue, equalsSign, carriageReturn] at hlast
      | some b =>
        rw [hvalue] at hlast
        obtain rfl : b = carriageReturn := by simpa using hlast
        exact hends ((getLast?_encode value).mp hvalue)
    rw [chomp, if_neg hlast, chompText, if_neg hends]

/-! ## Reading what was written -/

/-- What a line says is told from the bytes before the first `=` and those after it. -/
theorem read_separated {name : Bytes} (h : equalsSign ∉ name) (text : Bytes) :
    Line.read (name ++ equalsSign :: text) =
      if name = [] then .void
      else if Utf8.decode name = timeoutKey then .timeout (readTimeout (Utf8.decode text))
      else .pair (Utf8.decode name) (Utf8.decode text) := by
  have hname : ∀ b ∈ name, decide (b ≠ equalsSign) = true := fun b hb =>
    decide_eq_true (ne_of_mem_of_not_mem hb h)
  have htake : (name ++ equalsSign :: text).takeWhile (· ≠ equalsSign) = name := by
    rw [List.takeWhile_append_of_pos hname]
    simp
  have hdrop : (name ++ equalsSign :: text).dropWhile (· ≠ equalsSign) = equalsSign :: text := by
    rw [List.dropWhile_append_of_pos hname]
    simp
  rw [Line.read, htake, hdrop]

theorem equalsSign_mem_encode (key : String) :
    equalsSign ∈ Utf8.encode key ↔ '=' ∈ key.toList :=
  Utf8.mem_encode_iff (c := '=') (by decide) key

theorem encode_ne_nil {key : String} (h : key ≠ "") : Utf8.encode key ≠ [] := by
  intro hnil
  refine h ?_
  rw [← Utf8.decode_encode key, hnil]
  rfl

theorem read_body {key value : String} (hnamed : key ≠ "") (hseparated : '=' ∉ key.toList) :
    Line.read (body (key, value)) =
      if key = timeoutKey then .timeout (readTimeout value) else .pair key value := by
  have hkey : equalsSign ∉ Utf8.encode key := mt (equalsSign_mem_encode key).mp hseparated
  rw [body, read_separated hkey, if_neg (encode_ne_nil hnamed), Utf8.decode_encode,
    Utf8.decode_encode]

theorem foldl_apply_pairs (pairs : Pairs) (m : Metadata) :
    (pairs.map fun p => Line.pair p.1 p.2).foldl apply m =
      { m with entries := m.entries ++ pairs } := by
  induction pairs generalizing m with
  | nil => simp
  | cons p pairs ih =>
    rw [List.map_cons, List.foldl_cons, ih]
    simp [apply, insert]

/-! ## The timeout -/

theorem trim_eq_self {s : List Char} (h : ∀ c ∈ s, Blank.isBlank c = false) : Blank.trim s = s := by
  have hkeep : ∀ t : List Char, (∀ c ∈ t, Blank.isBlank c = false) →
      t.dropWhile Blank.isBlank = t := by
    intro t ht
    cases t with
    | nil => rfl
    | cons c t => rw [List.dropWhile_cons_of_neg (by simp [ht c])]
  rw [Blank.trim, hkeep s h, hkeep s.reverse (by simpa using h), List.reverse_reverse]

theorem isDigit_of_mem_digits {n : Nat} {c : Char} (h : c ∈ (Numeral.digits n).toList) :
    c.isDigit = true := by
  rw [Numeral.digits, String.toList_ofList] at h
  exact Nat.isDigit_of_mem_toDigits (by decide) (by decide) h

theorem isBlank_of_isDigit {c : Char} (h : c.isDigit = true) : Blank.isBlank c = false := by
  simp only [Char.isDigit, Bool.and_eq_true, decide_eq_true_eq, UInt32.le_iff_toNat_le] at h
  simp only [Blank.isBlank, Char.toNat]
  simp at h ⊢
  omega

theorem readTimeout_digits {k : Nat} (hpos : 1 ≤ k) (hmax : k ≤ Numeral.max64) :
    readTimeout (Numeral.digits k) = some (.ofMillis k) := by
  have htrim : Blank.trim (Numeral.digits k).toList = (Numeral.digits k).toList :=
    trim_eq_self fun c hc => isBlank_of_isDigit (isDigit_of_mem_digits hc)
  rw [readTimeout, htrim, Numeral.readUpTo?, Numeral.read?_digits]
  simp [Option.filter, hmax, Nat.lt_of_lt_of_le Nat.zero_lt_one hpos]

theorem legibleTimeout_of_readTimeout {value : String} {d : Duration}
    (h : readTimeout value = some d) : LegibleTimeout d := by
  simp only [readTimeout, Numeral.readUpTo?, Option.map_eq_some_iff, Option.filter_eq_some_iff,
    decide_eq_true_eq] at h
  obtain ⟨k, ⟨⟨-, hmax⟩, hpos⟩, rfl⟩ := h
  exact ⟨k, hpos, hmax, rfl⟩

/-- The line of a timeout says that timeout. -/
theorem read_chomp_timeoutPair {d : Duration} (h : LegibleTimeout d) :
    Line.read (chomp (body (timeoutPair d))) = .timeout (some d) := by
  obtain ⟨k, hpos, hmax, rfl⟩ := h
  have hends : ¬ EndsInReturn (Numeral.digits k) := by
    intro hends
    have hdigit := isDigit_of_mem_digits (List.mem_of_getLast? hends)
    revert hdigit
    decide
  rw [timeoutPair, Duration.millis_ofMillis, chomp_body, chompText, if_neg hends,
    read_body (by decide) (by decide), if_pos rfl, readTimeout_digits hpos hmax]

theorem lineFeed_not_mem_timeoutPair (d : Duration) : lineFeed ∉ body (timeoutPair d) := by
  rw [lineFeed_mem_body]
  rintro (hkey | hvalue)
  · have hfree : '\n' ∉ timeoutKey.toList := by decide
    exact hfree hkey
  · have hdigit := isDigit_of_mem_digits hvalue
    revert hdigit
    decide

/-! ## A whole -/

theorem read_chomp_body (h : LegiblePair p) :
    Line.read (chomp (body p)) = .pair p.1 (chompText p.2) := by
  rw [chomp_body, read_body h.named h.separated, if_neg h.unreserved]

theorem lineFeed_not_mem_body (h : LegiblePair p) : lineFeed ∉ body p := by
  rw [lineFeed_mem_body, not_or]
  exact ⟨h.keyOnLine, h.valueOnLine⟩

theorem lines_encode (h : m.Legible) :
    lines (encode m) =
      m.entries.map (chomp ∘ body) ++
        (m.timeout.map (chomp ∘ body ∘ timeoutPair)).toList ++ [[]] := by
  have hbodies : ∀ p ∈ m.entries ++ (m.timeout.map timeoutPair).toList, lineFeed ∉ body p := by
    intro p hp
    rcases List.mem_append.mp hp with hentry | htimeout
    · exact lineFeed_not_mem_body (h.entries p hentry)
    · simp only [Option.mem_toList, Option.map_eq_some_iff] at htimeout
      obtain ⟨d, -, rfl⟩ := htimeout
      exact lineFeed_not_mem_timeoutPair d
  rw [lines, encode, segments_encodePairs hbodies]
  cases m.timeout <;> simp [chomp]

/-- **Legible metadata comes back**, but for the carriage returns at the ends of values. -/
theorem parse_encode (h : m.Legible) :
    parse (encode m) = { m with entries := m.entries.map fun p => (p.1, chompText p.2) } := by
  have hentries : (m.entries.map (chomp ∘ body)).map Line.read =
      (m.entries.map fun p => (p.1, chompText p.2)).map fun p => .pair p.1 p.2 := by
    rw [List.map_map, List.map_map]
    exact List.map_congr_left fun p hp => read_chomp_body (h.entries p hp)
  rw [parse, lines_encode h, List.map_append, List.map_append, hentries, List.foldl_append,
    List.foldl_append, foldl_apply_pairs]
  cases htimeout : m.timeout with
  | none => rfl
  | some d =>
    have hread := read_chomp_timeoutPair (h.timeout d htimeout)
    show apply (apply _ (Line.read (chomp (body (timeoutPair d))))) (Line.read []) = _
    rw [hread]
    rfl

/-! ## Whatever is read is legible -/

/-- What a line says is legible. -/
def Line.Legible : Line → Prop
  | .void => True
  | .pair key value => LegiblePair (key, value)
  | .timeout reading => ∀ d, reading = some d → LegibleTimeout d

theorem legible_read (h : lineFeed ∉ line) : (Line.read line).Legible := by
  unfold Line.read
  dsimp only
  split
  · trivial
  · next b value hdrop =>
    split
    · trivial
    · next hkey =>
      split
      · intro d hd
        exact legibleTimeout_of_readTimeout hd
      · next hunreserved =>
        have hline : line.takeWhile (· ≠ equalsSign) ++ b :: value = line := by
          rw [← hdrop]
          exact List.takeWhile_append_dropWhile
        have hfeed : lineFeed = UInt8.ofNat '\n'.toNat := rfl
        rw [← hline, List.mem_append, List.mem_cons, not_or, not_or, hfeed] at h
        refine ⟨?_, ?_, ?_, hunreserved, ?_⟩
        · rwa [ne_eq, Utf8.decode_eq_empty_iff]
        · rw [Utf8.mem_decode_iff (by decide)]
          intro hequals
          have hbefore := List.all_eq_true.mp List.all_takeWhile _ hequals
          exact of_decide_eq_true hbefore rfl
        · rw [Utf8.mem_decode_iff (by decide)]
          exact h.1
        · rw [Utf8.mem_decode_iff (by decide)]
          exact h.2.2

theorem Legible.apply (h : m.Legible) {l : Line} (hl : l.Legible) : (m.apply l).Legible := by
  cases l with
  | void => exact h
  | pair key value =>
    refine ⟨fun p hp => ?_, h.timeout⟩
    rcases List.mem_append.mp hp with hbefore | hnew
    · exact h.entries p hbefore
    · rw [List.mem_singleton.mp hnew]
      exact hl
  | timeout reading => exact ⟨h.entries, hl⟩

theorem legible_foldl {ls : List Line} (hls : ∀ l ∈ ls, l.Legible) (h : m.Legible) :
    (ls.foldl Metadata.apply m).Legible := by
  induction ls generalizing m with
  | nil => exact h
  | cons l ls ih =>
    exact ih (fun l' hl' => hls l' (List.mem_cons_of_mem l hl'))
      (h.apply (hls l List.mem_cons_self))

theorem not_mem_chomp (h : lineFeed ∉ line) : lineFeed ∉ chomp line := by
  unfold chomp
  split
  · exact fun hmem => h ((List.dropLast_sublist line).mem hmem)
  · exact h

theorem legible_parse (raw : Bytes) : (parse raw).Legible := by
  refine legible_foldl (fun l hl => ?_) ⟨fun p hp => absurd hp List.not_mem_nil, nofun⟩
  obtain ⟨line, hline, rfl⟩ := List.mem_map.mp hl
  obtain ⟨segment, hsegment, rfl⟩ := List.mem_map.mp hline
  exact legible_read (not_mem_chomp (not_mem_segments hsegment))

/-- Legible metadata comes back whole if no value ends in a carriage return. -/
theorem parse_encode_eq_self_iff (h : m.Legible) :
    parse (encode m) = m ↔ ∀ p ∈ m.entries, ¬ EndsInReturn p.2 := by
  rw [parse_encode h]
  constructor
  · intro hsame p hp
    have hentries : m.entries.map (fun p => (p.1, chompText p.2)) = m.entries.map id := by
      rw [List.map_id]
      exact congrArg entries hsame
    have hvalue := congrArg Prod.snd (List.map_inj_left.mp hentries p hp)
    exact (chompText_eq_self_iff p.2).mp hvalue
  · intro hends
    have hentries : m.entries.map (fun p => (p.1, chompText p.2)) = m.entries := by
      refine (List.map_congr_left fun p hp => ?_).trans (List.map_id _)
      rw [(chompText_eq_self_iff p.2).mpr (hends p hp)]
      rfl
    rw [hentries]

/-- **The round trip, exactly.** Metadata that is written and read comes back as it was if
and only if it is legible and no value of it ends in a carriage return. Whatever is read
from any bytes is legible, so that the second condition alone decides whether it survives
another round. -/
theorem parse_encode_iff :
    (∀ m : Metadata, parse (encode m) = m ↔
      m.Legible ∧ ∀ p ∈ m.entries, ¬ EndsInReturn p.2) ∧
    ∀ raw : Bytes, (parse raw).Legible ∧
      (parse (encode (parse raw)) = parse raw ↔
        ∀ p ∈ (parse raw).entries, ¬ EndsInReturn p.2) := by
  refine ⟨fun m => ⟨fun hsame => ?_, fun ⟨hlegible, hends⟩ => ?_⟩, fun raw => ?_⟩
  · -- What comes back was read, so it is legible, and it is what was written.
    have hlegible : m.Legible := hsame ▸ legible_parse (encode m)
    exact ⟨hlegible, (parse_encode_eq_self_iff hlegible).mp hsame⟩
  · exact (parse_encode_eq_self_iff hlegible).mpr hends
  · exact ⟨legible_parse raw, parse_encode_eq_self_iff (legible_parse raw)⟩

end Metadata
end Switchboard
