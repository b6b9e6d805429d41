import Mathlib.Data.List.TakeWhile
import Switchboard.Proofs.Metadata.Timeout

/-!
# Lines — metadata is read line by line

A line says the same wherever it stands, so what is read from two pieces of text with a line
feed between them is what is read from the one and then from the other. A carriage return at
the end of a line is no part of it, so lines may end in either way. And to look up a key is to
look for the last line that carries it (`Carries`), which is stated on the bytes of the line
alone. All of this holds of any bytes, whether they are well-formed text or not.
-/

namespace Switchboard.Metadata

variable {raw tail line : Bytes} {key value : String}

/-- The segments of bytes are what the line feeds part them into. -/
theorem segments_eq_splitOn (raw : Bytes) : segments raw = raw.splitOn lineFeed := by
  induction raw with
  | nil => rfl
  | cons b raw ih =>
    rw [segments, ih, List.splitOn_cons_eq_if_modifyHead]
    by_cases hb : b = lineFeed
    · simp [hb]
    · rw [if_neg hb, if_neg (by simpa using hb)]
      obtain ⟨first, others, hraw⟩ := List.exists_cons_of_ne_nil (segments_ne_nil raw)
      rw [← ih, hraw]
      rfl

/-! ## The ends of lines -/

/-- The same lines, with a carriage return before every line feed. -/
def returned (raw : Bytes) : Bytes :=
  raw.flatMap fun b => if b = lineFeed then [carriageReturn, lineFeed] else [b]

theorem lines_lineFeed_cons (raw : Bytes) : lines (lineFeed :: raw) = [] :: lines raw := by
  simp [lines, segments, chomp]

/-- A byte that ends nothing stands before what the first line would be without it. -/
theorem lines_cons {b : UInt8} (hfeed : b ≠ lineFeed) (hreturn : b ≠ carriageReturn)
    (raw : Bytes) : lines (b :: raw) = (lines raw).modifyHead (b :: ·) := by
  obtain ⟨first, others, hraw⟩ := List.exists_cons_of_ne_nil (segments_ne_nil raw)
  have hchomp : chomp (b :: first) = b :: chomp first := by
    cases first with
    | nil => simp [chomp, hreturn]
    | cons b' first =>
      unfold chomp
      rw [List.getLast?_cons_cons]
      split <;> rfl
  simp [lines, segments, hraw, hfeed, hchomp]

/-- Lines that end in CRLF are the lines that end in LF, and the last one may have a carriage
return too. -/
theorem lines_returned (h : carriageReturn ∉ raw) (htail : lines tail = [[]]) :
    lines (returned raw ++ tail) = lines raw := by
  induction raw with
  | nil => exact htail
  | cons b raw ih =>
    rw [List.mem_cons, not_or] at h
    have hrest := ih h.2
    by_cases hb : b = lineFeed
    · subst hb
      have hends : returned (lineFeed :: raw) ++ tail =
          [carriageReturn] ++ lineFeed :: (returned raw ++ tail) := rfl
      have hreturn : segments [carriageReturn] = [[carriageReturn]] :=
        segments_of_not_mem (by decide)
      rw [hends, lines, segments_part, hreturn, List.map_append, ← lines, hrest,
        lines_lineFeed_cons]
      rfl
    · have hends : returned (b :: raw) ++ tail = b :: (returned raw ++ tail) := by
        simp [returned, hb]
      rw [hends, lines_cons hb (Ne.symm h.1), lines_cons hb (Ne.symm h.1), hrest]

theorem parse_congr {raw other : Bytes} (h : lines raw = lines other) :
    parse raw = parse other := by
  rw [parse, parse, h]

/-! ## Lines that carry a key -/

/-- The line has the key before its first `=`, and the value after it. -/
def Carries (line : Bytes) (key value : String) : Prop :=
  ∃ name text, line = name ++ equalsSign :: text ∧ equalsSign ∉ name ∧
    Utf8.decode name = key ∧ Utf8.decode text = value

theorem read_of_not_mem (h : equalsSign ∉ line) : Line.read line = .void := by
  have hdrop : line.dropWhile (· ≠ equalsSign) = [] :=
    List.dropWhile_eq_nil_iff.mpr fun b hb => decide_eq_true (ne_of_mem_of_not_mem hb h)
  rw [Line.read, hdrop]

theorem pair?_read_iff (hnamed : key ≠ "") (hfree : key ≠ timeoutKey) :
    (Line.read line).pair? = some (key, value) ↔ Carries line key value := by
  constructor
  · intro hpair
    by_cases hseparated : equalsSign ∈ line
    · obtain ⟨name, text, rfl, hname⟩ := List.eq_append_cons_of_mem hseparated
      refine ⟨name, text, rfl, hname, ?_⟩
      rw [read_separated hname] at hpair
      split at hpair
      · cases hpair
      · split at hpair
        · cases hpair
        · cases hpair
          exact ⟨rfl, rfl⟩
    · rw [read_of_not_mem hseparated] at hpair
      cases hpair
  · rintro ⟨name, text, rfl, hname, rfl, rfl⟩
    have hne : name ≠ [] := fun hnil => hnamed (by rw [hnil]; rfl)
    rw [read_separated hname, if_neg hne, if_neg hfree]
    rfl

/-! ## Looking up a key -/

/-- What a line gives for the key, if it carries it. -/
def Line.value? (key : String) (l : Line) : Option String :=
  (l.pair?.filter (·.1 = key)).map (·.2)

theorem value?_read_iff (hnamed : key ≠ "") (hfree : key ≠ timeoutKey) :
    (Line.read line).value? key = some value ↔ Carries line key value := by
  rw [← pair?_read_iff hnamed hfree, Line.value?, Option.map_eq_some_iff]
  constructor
  · rintro ⟨⟨name, text⟩, hfiltered, rfl⟩
    obtain ⟨hpair, hname⟩ := Option.filter_eq_some_iff.mp hfiltered
    obtain rfl : name = key := of_decide_eq_true hname
    exact hpair
  · intro hpair
    exact ⟨(key, value), Option.filter_eq_some_iff.mpr ⟨hpair, decide_eq_true rfl⟩, rfl⟩

theorem value?_read_eq_none_iff (hnamed : key ≠ "") (hfree : key ≠ timeoutKey) :
    (Line.read line).value? key = none ↔ ∀ value, ¬ Carries line key value := by
  rw [Option.eq_none_iff_forall_ne_some]
  exact forall_congr' fun value => not_congr (value?_read_iff hnamed hfree)

theorem find?_filterMap_pair? (key : String) (ls : List Line) :
    ((ls.filterMap Line.pair?).find? (·.1 = key)).map (·.2) =
      ls.findSome? (Line.value? key) := by
  induction ls with
  | nil => rfl
  | cons l ls ih =>
    cases l with
    | void | timeout => exact ih
    | pair name text =>
      have hpairs : (Line.pair name text :: ls).filterMap Line.pair? =
          (name, text) :: ls.filterMap Line.pair? := rfl
      rw [hpairs, List.find?_cons, List.findSome?_cons]
      by_cases hname : name = key
      · simp [Line.pair?, Line.value?, Option.filter, hname]
      · simpa [Line.pair?, Line.value?, Option.filter, hname] using ih

/-- To look up a key is to ask the lines for it, the last one first. -/
theorem get_eq_findSome? (key : String) (raw : Bytes) :
    (parse raw).get key =
      (lines raw).reverse.findSome? fun line => (Line.read line).value? key := by
  rw [get, entries_parse, ← List.filterMap_reverse, find?_filterMap_pair?, said,
    ← List.map_reverse, List.findSome?_map]
  rfl

theorem get_eq_none_iff (hnamed : key ≠ "") (hfree : key ≠ timeoutKey) (raw : Bytes) :
    (parse raw).get key = none ↔ ∀ line ∈ lines raw, ∀ value, ¬ Carries line key value := by
  rw [get_eq_findSome?, List.findSome?_eq_none_iff]
  simp only [List.mem_reverse, value?_read_eq_none_iff hnamed hfree]

theorem get_eq_some_iff (hnamed : key ≠ "") (hfree : key ≠ timeoutKey) (raw : Bytes) :
    (parse raw).get key = some value ↔
      ∃ before line after, lines raw = before ++ line :: after ∧ Carries line key value ∧
        ∀ later ∈ after, ∀ other, ¬ Carries later key other := by
  rw [get_eq_findSome?, List.findSome?_eq_some_iff]
  simp only [value?_read_iff hnamed hfree, value?_read_eq_none_iff hnamed hfree,
    List.reverse_eq_append_iff]
  constructor
  · rintro ⟨later, line, earlier, hlines, hcarries, hlater⟩
    refine ⟨earlier.reverse, line, later.reverse, by simpa using hlines, hcarries, ?_⟩
    simpa using hlater
  · rintro ⟨before, line, after, hlines, hcarries, hafter⟩
    refine ⟨after.reverse, line, before.reverse, by simpa using hlines, hcarries, ?_⟩
    simpa using hafter

/-- The lines, as the line feeds part the bytes. -/
theorem lines_eq_splitOn (raw : Bytes) : lines raw = (raw.splitOn lineFeed).map chomp := by
  rw [lines, segments_eq_splitOn]

/-- **Metadata is read line by line.** Two pieces of text with a line feed between them have the
entries of the one and then those of the other. Lines that end in CRLF are read as those that
end in LF, with or without a carriage return at the very end. No entry has the key of the
timeout, so it is never found; and any other key but the empty one is found exactly where a line
carries it, with the value of the last line that does. -/
theorem read_line_by_line :
    (∀ front rest, (parse (front ++ [lineFeed] ++ rest)).entries =
      (parse front).entries ++ (parse rest).entries) ∧
    (∀ raw, carriageReturn ∉ raw →
      parse (returned raw) = parse raw ∧ parse (returned raw ++ [carriageReturn]) = parse raw) ∧
    (∀ raw, (∀ p ∈ (parse raw).entries, p.1 ≠ timeoutKey) ∧ (parse raw).get timeoutKey = none) ∧
    ∀ raw key, key ≠ "" → key ≠ timeoutKey →
      ((parse raw).get key = none ↔
        ∀ line ∈ (raw.splitOn lineFeed).map chomp, ∀ value, ¬ Carries line key value) ∧
      ∀ value, (parse raw).get key = some value ↔
        ∃ before line after, (raw.splitOn lineFeed).map chomp = before ++ line :: after ∧
          Carries line key value ∧ ∀ later ∈ after, ∀ other, ¬ Carries later key other := by
  refine ⟨fun front rest => ?_, fun raw hraw => ⟨?_, ?_⟩, fun raw => ?_,
    fun raw key hnamed hfree => ?_⟩
  · rw [List.append_assoc, List.singleton_append, entries_parse, entries_parse, entries_parse,
      said_part, List.filterMap_append]
  · rw [← List.append_nil (returned raw)]
    exact parse_congr (lines_returned hraw rfl)
  · exact parse_congr (lines_returned hraw rfl)
  · have hfree : ∀ p ∈ (parse raw).entries, p.1 ≠ timeoutKey := fun p hp =>
      ((legible_parse raw).entries p hp).unreserved
    refine ⟨hfree, ?_⟩
    rw [get, Option.map_eq_none_iff, List.find?_eq_none]
    intro p hp
    simpa using hfree p (List.mem_reverse.mp hp)
  · rw [← lines_eq_splitOn]
    exact ⟨get_eq_none_iff hnamed hfree raw, fun value => get_eq_some_iff hnamed hfree raw⟩

/-- The key stands on two lines, among others that carry none. -/
example : (parse (Utf8.encode "a=1\r\nplain\n=x\na=2=3\r")).get "a" = some "2=3" := by
  decide +kernel

end Switchboard.Metadata
