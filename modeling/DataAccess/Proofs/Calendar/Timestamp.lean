import DataAccess.Proofs.Calendar.Days
import DataAccess.Proofs.Number.Digits

/-!
# Timestamps read back

Every timestamp before the year 10000 reads back as it was written (`parse_text`). The parts of the
text are read one by one, each up to the text that follows it.
-/

namespace DataAccess.Calendar.Timestamp

open Number Text

/-! ## Padded numbers -/

theorem length_padded {n k : Nat} (hn : 0 < n) (hk : k < Nat.pow 10 n) : (padded n k).length = n := by
  have hle := length_natText_le hn hk
  simp only [padded, List.length_append, List.length_replicate]
  omega

theorem isDigit_of_mem_padded {n k : Nat} {c : Char} (h : c ∈ padded n k) : isDigit c = true := by
  rcases List.mem_append.mp h with h | h
  · rw [List.eq_of_mem_replicate h]
    rfl
  · exact isDigit_of_mem_natText h

theorem natOfDigits_padded (n k : Nat) : natOfDigits (padded n k) = k := by
  rw [padded, natOfDigits_zeros_append, natOfDigits_natText]

theorem padded_ne_nil (n k : Nat) : padded n k ≠ [] :=
  List.append_ne_nil_of_right_ne_nil _ (natText_ne_nil k)

theorem readNat?_padded (n k : Nat) : readNat? (padded n k) = some k := by
  have hall : (padded n k).all isDigit = true := List.all_eq_true.mpr fun c => isDigit_of_mem_padded
  have hne : (padded n k).isEmpty = false := by
    simpa using padded_ne_nil n k
  rw [readNat?, hne, hall, natOfDigits_padded]
  rfl

/-- A number reads up to the text that follows it. -/
theorem number_padded {n k : Nat} (hn : 0 < n) (hk : k < Nat.pow 10 n) (rest : List Char) :
    number n (padded n k ++ rest) = .ok (k, rest) := by
  have hlength := length_padded hn hk
  rw [number, List.take_left' hlength, readNat?_padded, List.drop_left' hlength]
  simp only [hlength, if_true]

theorem length_two {k : Nat} (hk : k < 100) : (padded 2 k).length = 2 :=
  length_padded (by decide) hk

theorem number_two {k : Nat} (hk : k < 100) (rest : List Char) :
    number 2 (padded 2 k ++ rest) = .ok (k, rest) :=
  number_padded (by decide) hk rest

theorem mark_cons {c : Char} {marks : List Char} (h : c ∈ marks) (rest : List Char) :
    mark marks (c :: rest) = .ok rest := by
  rw [mark, if_pos (List.contains_iff_mem.mpr h)]

/-- A fraction of nine digits reads up to the sign of the zone. -/
theorem fraction_padded {k : Nat} (hk : k < 1_000_000_000) (rest : List Char) :
    fraction (padded 9 k ++ '+' :: rest) = .ok (k, '+' :: rest) := by
  have hlength : (padded 9 k).length = 9 := length_padded (by decide) hk
  have hdigits : (padded 9 k ++ '+' :: rest).takeWhile isDigit = padded 9 k := by
    rw [List.takeWhile_append_of_pos fun c => isDigit_of_mem_padded]
    simp [isDigit]
  have hnine : (padded 9 k).take 9 = padded 9 k := List.take_of_length_le (Nat.le_of_eq hlength)
  have hne : (padded 9 k ++ '+' :: rest).isEmpty = false := by simp
  have hne' : (padded 9 k).isEmpty = false := by simpa using padded_ne_nil 9 k
  simp only [fraction, hdigits, hne, hne', hnine, hlength, Nat.sub_self, List.replicate_zero,
    List.append_nil, natOfDigits_padded]
  rw [List.drop_left' hlength]
  rfl

/-! ## Parts of a timestamp -/

/-- A timestamp in the range of what is written from a clock. -/
structure Writable (t : Timestamp) : Prop where
  year : t.year < 10000
  date : isDate t.year t.month t.day = true
  hour : t.hour < 24
  minute : t.minute < 60
  second : t.second < 60
  nanos : t.nanos < 1_000_000_000
  offset : t.offset = 0

/-- The text of a day. -/
def dateText (t : Timestamp) (rest : List Char) : List Char :=
  padded 4 t.year ++ '-' :: (padded 2 t.month ++ '-' :: (padded 2 t.day ++ rest))

/-- The text of a time of day. -/
def clockText (t : Timestamp) (rest : List Char) : List Char :=
  padded 2 t.hour ++ ':' :: (padded 2 t.minute ++ ':' :: (padded 2 t.second ++
    ((if t.nanos = 0 then [] else '.' :: padded 9 t.nanos) ++ rest)))

/-- The offset that is written for a clock. -/
def zeroOffset : List Char := ['+', '0', '0', ':', '0', '0']

theorem text_toList {t : Timestamp} (h : t.offset = 0) :
    t.text.toList = dateText t ('T' :: clockText t zeroOffset) := by
  rw [text, String.toList_ofList, h]
  simp only [dateText, clockText, List.append_assoc]
  rfl

theorem month_le {t : Timestamp} (h : Writable t) : t.month ≤ 12 := by
  have hdate := h.date
  simp only [isDate, Bool.and_eq_true, decide_eq_true_eq] at hdate
  omega

theorem day_le {t : Timestamp} (h : Writable t) : t.day ≤ 31 := by
  have hdate := h.date
  simp only [isDate, Bool.and_eq_true, decide_eq_true_eq] at hdate
  have hdays : daysIn t.year t.month ≤ 31 := by
    unfold daysIn
    repeat' split
    all_goals omega
  omega

theorem date_dateText {t : Timestamp} (h : Writable t) (rest : List Char) :
    date (dateText t rest) = .ok ((t.year, t.month, t.day), rest) := by
  have hmonth := month_le h
  have hday := day_le h
  unfold date dateText
  rw [number_padded (by decide) h.year]
  simp only [bind, Except.bind, mark_cons (List.mem_singleton.mpr rfl),
    number_two (k := t.month) (by omega),
    number_two (k := t.day) (by omega), h.date]
  rfl

theorem clock_clockText {t : Timestamp} (h : Writable t) :
    clock (clockText t zeroOffset) =
      .ok ((t.hour, t.minute, t.second, t.nanos), zeroOffset) := by
  have hhour := h.hour
  have hminute := h.minute
  have hsecond := h.second
  have hrange : t.hour < 24 ∧ t.minute < 60 ∧ t.second ≤ 60 := by omega
  unfold clock clockText
  simp only [bind, Except.bind, mark_cons (List.mem_singleton.mpr rfl),
    number_two (k := t.hour) (by omega),
    number_two (k := t.minute) (by omega),
    number_two (k := t.second) (by omega)]
  -- A fraction of zero is not written.
  by_cases hzero : t.nanos = 0
  · rw [if_pos hzero, List.nil_append, hzero]
    simp only [zeroOffset, pure, Except.pure]
    exact if_pos hrange
  · rw [if_neg hzero, List.cons_append, zeroOffset]
    simp only [fraction_padded h.nanos, pure, Except.pure]
    exact if_pos hrange

theorem zone_zeroOffset : zone zeroOffset = .ok (0, []) := rfl

/-! ## The round trip -/

theorem length_le_utf8 (cs : List Char) : cs.length ≤ (utf8 cs).length := by
  induction cs with
  | nil => exact Nat.le_refl _
  | cons c rest ih =>
    have hc : 1 ≤ (String.utf8EncodeChar c).length := by
      rw [String.length_utf8EncodeChar]
      exact Char.utf8Size_pos c
    simp only [utf8, List.flatMap_cons, List.length_append, List.length_cons] at ih ⊢
    omega

theorem length_text_ge {t : Timestamp} (h : Writable t) :
    19 ≤ (dateText t ('T' :: clockText t zeroOffset)).length := by
  have hmonth := month_le h
  have hday := day_le h
  have hhour := h.hour
  have hminute := h.minute
  have hsecond := h.second
  simp only [dateText, clockText, List.length_append, List.length_cons,
    length_padded (n := 4) (k := t.year) (by decide) h.year,
    length_two (k := t.month) (by omega),
    length_two (k := t.day) (by omega),
    length_two (k := t.hour) (by omega),
    length_two (k := t.minute) (by omega),
    length_two (k := t.second) (by omega)]
  omega

/-- A timestamp in range reads back as it was written. -/
theorem parse_text {t : Timestamp} (h : Writable t) : parse t.text.toList = .ok t := by
  have hlength := Nat.le_trans (length_text_ge h) (length_le_utf8 _)
  rw [text_toList h.offset]
  unfold parse
  rw [if_neg (by omega)]
  simp only [bind, Except.bind, pure, Except.pure, date_dateText h,
    mark_cons List.mem_cons_self, clock_clockText h, zone_zeroOffset]
  obtain ⟨year, month, day, hour, minute, second, nanos, offset⟩ := t
  obtain rfl := h.offset
  rfl

/-- The beginning of the year 10000, in nanoseconds since the beginning of 1970. -/
def year10000 : Nat := daysToYear10000 * 86_400 * 1_000_000_000

theorem ofNanos_writable {n : Nat} (h : n < year10000) : Writable (ofNanos n) where
  year := by
    refine ofDays_year_lt ?_
    unfold year10000 daysToYear10000 at *
    omega
  date := ofDays_isDate _
  hour := by
    show n / 1_000_000_000 % 86400 / 3600 < 24
    omega
  minute := by
    show n / 1_000_000_000 % 86400 / 60 % 60 < 60
    omega
  second := by
    show n / 1_000_000_000 % 86400 % 60 < 60
    omega
  nanos := Nat.mod_lt _ (by decide)
  offset := rfl

end DataAccess.Calendar.Timestamp
