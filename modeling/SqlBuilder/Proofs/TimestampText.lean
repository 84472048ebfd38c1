import Mathlib.Data.List.TakeWhile
import SqlBuilder.Proofs.PagingReading
import SqlBuilder.Proofs.Parallel.Quoting
import SqlBuilder.Value.Conversion

/-! # Timestamps in texts

A timestamp is written with its date and its time to the whole second, and is read back from that
text as the whole second that it shows (`Timestamp.read_dateAndTime`).  So its literal in any
dialect, and its text, tell everything else of it: two timestamps are written alike exactly if they
show the same date, hour, minute and second (`Timestamp.written_to_the_second`). -/

namespace SqlBuilder

/-! ## Whole seconds -/

/-- Two moments show the same when they are written to the second. -/
structure Moment.ShowsSame (m n : Moment) : Prop where
  /-- The year. -/
  year : m.year = n.year
  /-- The month. -/
  month : m.month = n.month
  /-- The day of the month. -/
  day : m.day = n.day
  /-- The hour. -/
  hour : m.hour = n.hour
  /-- The minute. -/
  minute : m.minute = n.minute
  /-- The second as it is written, 60 in a leap second after the last one. -/
  second : m.shownSecond = n.shownSecond

namespace Moment.ShowsSame

variable {l m n : Moment}

/-- What is shown alike one way is shown alike the other way. -/
theorem symm (h : m.ShowsSame n) : n.ShowsSame m :=
  ⟨h.year.symm, h.month.symm, h.day.symm, h.hour.symm, h.minute.symm, h.second.symm⟩

/-- Moments that show the same as one show the same. -/
theorem trans (h : l.ShowsSame m) (hn : m.ShowsSame n) : l.ShowsSame n :=
  ⟨h.year.trans hn.year, h.month.trans hn.month, h.day.trans hn.day, h.hour.trans hn.hour,
    h.minute.trans hn.minute, h.second.trans hn.second⟩

end Moment.ShowsSame

/-- The whole second that a moment shows: second 60 is a leap second, any other is a plain one. -/
def Moment.wholeSecond (m : Moment) : Moment :=
  if m.shownSecond = 60 then { m with second := 59, nanosecond := nanosPerSecond }
  else { m with second := m.shownSecond, nanosecond := 0 }

/-- Only a leap second after the last one shows second 60, and no second shows more. -/
theorem Moment.InRange.shownSecond_le {m : Moment} (h : m.InRange) : m.shownSecond ≤ 60 := by
  obtain ⟨-, -, -, -, -, hsecond, hnanos⟩ := h
  rw [Moment.shownSecond, nanosPerSecond]
  rw [nanosPerSecond] at hnanos
  omega

/-- The whole second of a moment exists if the moment does. -/
theorem Moment.InRange.wholeSecond {m : Moment} (h : m.InRange) : m.wholeSecond.InRange := by
  have hshown := h.shownSecond_le
  obtain ⟨hyear, hmonth, hday, hhour, hminute, -, -⟩ := h
  rw [Moment.wholeSecond]
  split
  · have hleap : nanosPerSecond < 2 * nanosPerSecond := by decide
    exact ⟨hyear, hmonth, hday, hhour, hminute, Nat.lt_add_one 59, hleap⟩
  · have hplain : m.shownSecond < 60 := by omega
    have hzero : 0 < 2 * nanosPerSecond := by decide
    exact ⟨hyear, hmonth, hday, hhour, hminute, hplain, hzero⟩

/-- A whole second is a leap second only after second 59. -/
theorem Moment.wholeSecond_leapsAfterLast (m : Moment) : m.wholeSecond.LeapsAfterLast := by
  rw [Moment.wholeSecond]
  split
  · exact fun _ => rfl
  · intro hleap
    have hplain : ¬ nanosPerSecond ≤ 0 := by decide
    exact absurd hleap hplain

/-- The whole second shows what the moment shows. -/
theorem Moment.showsSame_wholeSecond (m : Moment) : m.wholeSecond.ShowsSame m := by
  rw [Moment.wholeSecond]
  split
  · next hlast =>
    have hshown : 59 + nanosPerSecond / nanosPerSecond = m.shownSecond := by
      rw [hlast, Nat.div_self (by decide)]
    exact ⟨rfl, rfl, rfl, rfl, rfl, hshown⟩
  · have hshown : m.shownSecond + 0 / nanosPerSecond = m.shownSecond := by
      rw [Nat.zero_div, Nat.add_zero]
    exact ⟨rfl, rfl, rfl, rfl, rfl, hshown⟩

namespace Timestamp

/-- **The whole second that a timestamp shows.** -/
def wholeSecond (t : Timestamp) : Timestamp := ⟨t.toMoment.wholeSecond, t.inRange.wholeSecond⟩

/-- A timestamp is the whole second that it shows exactly if its second has no fraction and is no
leap second but the one after second 59. -/
theorem wholeSecond_eq_iff (t : Timestamp) :
    t.wholeSecond = t ↔ t.nanosecond = 0 ∨ t.second = 59 ∧ t.nanosecond = nanosPerSecond := by
  constructor
  · intro h
    have hsecond := congrArg (fun u : Timestamp => u.second) h
    have hnanos := congrArg (fun u : Timestamp => u.nanosecond) h
    simp only [wholeSecond, Moment.wholeSecond] at hsecond hnanos
    split at hnanos
    · next hlast =>
      rw [if_pos hlast] at hsecond
      exact .inr ⟨hsecond.symm, hnanos.symm⟩
    · exact .inl hnanos.symm
  · intro h
    obtain ⟨⟨year, month, day, hour, minute, second, nanos⟩, hm⟩ := t
    have hbound : second < 60 := hm.2.2.2.2.2.1
    rw [wholeSecond, Timestamp.mk.injEq, Moment.wholeSecond, Moment.shownSecond]
    rcases h with h | ⟨hlast, hnanos⟩
    · obtain rfl : nanos = 0 := h
      simp [Nat.ne_of_lt hbound]
    · obtain rfl : second = 59 := hlast
      obtain rfl : nanos = nanosPerSecond := hnanos
      have hshown : 59 + nanosPerSecond / nanosPerSecond = 60 := rfl
      exact if_pos hshown

end Timestamp

/-! ## Reading numbers with zeros in front -/

section Numbers

variable {width n : Nat} {digits k : List Char}

/-- The zeros and the digits of a written number. -/
theorem toList_zeroPadded (width n : Nat) :
    (zeroPadded width n).toList
      = List.replicate (width - (Nat.toDigits 10 n).length) '0' ++ Nat.toDigits 10 n := by
  rw [zeroPadded, String.toList_ofList]

/-- A number with zeros in front is made of digits. -/
theorem isDigit_of_mem_zeroPadded {c : Char} (h : c ∈ (zeroPadded width n).toList) :
    c.isDigit = true := by
  rw [toList_zeroPadded, List.mem_append] at h
  rcases h with h | h
  · rw [List.eq_of_mem_replicate h]
    decide
  · exact isDigit_of_mem_decimal h

/-- A number has one digit at least. -/
theorem toList_zeroPadded_ne_nil (width n : Nat) : (zeroPadded width n).toList ≠ [] := by
  rw [toList_zeroPadded]
  exact List.append_ne_nil_of_right_ne_nil _ Nat.toDigits_ne_nil

/-- A number that is not too long fills its width. -/
theorem length_zeroPadded (hlength : (Nat.toDigits 10 n).length ≤ width) :
    (zeroPadded width n).toList.length = width := by
  rw [toList_zeroPadded, List.length_append, List.length_replicate]
  omega

/-- The digits of a number with zeros in front write the number. -/
theorem ofDigitChars_zeroPadded (width n : Nat) :
    Nat.ofDigitChars 10 (zeroPadded width n).toList 0 = n := by
  rw [toList_zeroPadded, Nat.ofDigitChars_append, Nat.ofDigitChars_replicate_zero, Nat.mul_zero,
    Nat.ofDigitChars_ten_toDigits]

/-- No blanks are in front of digits. -/
theorem trimStart_digits (hne : digits ≠ []) (hdigits : ∀ c ∈ digits, c.isDigit = true)
    (k : List Char) : Text.trimStart (digits ++ k) = digits ++ k := by
  obtain ⟨c, rest, rfl⟩ := List.exists_cons_of_ne_nil hne
  have hblank := isBlank_of_isDigit (hdigits c List.mem_cons_self)
  rw [Text.trimStart, List.cons_append, List.dropWhile_cons_of_neg (by simp [hblank])]

namespace Timestamp

/-- **Digits are read as their number**, if there are as many as can be, or no further one is behind
them. -/
theorem takeNumber_append (hne : digits ≠ []) (hdigits : ∀ c ∈ digits, c.isDigit = true)
    (hwidth : digits.length ≤ width)
    (hk : digits.length = width ∨ ∀ c ∈ k.head?, c.isDigit = false) :
    takeNumber width (digits ++ k) = some (Nat.ofDigitChars 10 digits 0, k) := by
  have hstop : (k.take (width - digits.length)).takeWhile Char.isDigit = [] := by
    rcases hk with hfull | hbehind
    · rw [hfull, Nat.sub_self, List.take_zero, List.takeWhile_nil]
    · cases k with
      | nil => rw [List.take_nil, List.takeWhile_nil]
      | cons c rest =>
        have hc : ¬ c.isDigit = true := by simp [hbehind c rfl]
        cases width - digits.length with
        | zero => rfl
        | succ left => rw [List.take_succ_cons, List.takeWhile_cons_of_neg hc]
  have htake : ((digits ++ k).take width).takeWhile Char.isDigit = digits := by
    rw [List.take_append, List.take_of_length_le hwidth, List.takeWhile_append_of_pos hdigits,
      hstop, List.append_nil]
  rw [takeNumber, htake, if_neg (by simp [hne]), List.drop_left]

/-- A number that fills its width is read. -/
theorem takeNumber_zeroPadded (hlength : (Nat.toDigits 10 n).length ≤ width) (k : List Char) :
    takeNumber width ((zeroPadded width n).toList ++ k) = some (n, k) := by
  have hfull := length_zeroPadded hlength
  rw [takeNumber_append (toList_zeroPadded_ne_nil width n) (fun _ => isDigit_of_mem_zeroPadded)
    (by omega) (.inl hfull), ofDigitChars_zeroPadded]

/-- A number of any length is read up to a character that is no digit. -/
theorem takeNumber_zeroPadded_of_ends (hk : ∀ c ∈ k.head?, c.isDigit = false) :
    takeNumber ((zeroPadded width n).toList ++ k).length ((zeroPadded width n).toList ++ k)
      = some (n, k) := by
  rw [takeNumber_append (toList_zeroPadded_ne_nil width n) (fun _ => isDigit_of_mem_zeroPadded)
    (by simp) (.inr hk), ofDigitChars_zeroPadded]

/-- A number of two digits is read. -/
theorem takeField_zeroPadded (hn : n < 100) (k : List Char) :
    takeField ((zeroPadded 2 n).toList ++ k) = some (n, k) := by
  have hlength : (Nat.toDigits 10 n).length ≤ 2 :=
    (Nat.length_toDigits_le_iff (by decide) (by decide)).2 hn
  rw [takeField, trimStart_digits (toList_zeroPadded_ne_nil 2 n)
    (fun _ => isDigit_of_mem_zeroPadded), takeNumber_zeroPadded hlength]

/-- A year without a sign is read. -/
theorem takeYear_zeroPadded (hn : n ≤ 9999) (k : List Char) :
    takeYear ((zeroPadded 4 n).toList ++ k) = some ((n : Int), k) := by
  have hne := toList_zeroPadded_ne_nil 4 n
  -- The first character is a digit, so it is no sign.
  have hfirst : ∀ c rest, (zeroPadded 4 n).toList ++ k = c :: rest → c.isDigit = true := by
    intro c rest heq
    have hhead := congrArg List.head? heq
    rw [List.head?_append_of_ne_nil _ hne] at hhead
    exact isDigit_of_mem_zeroPadded (List.mem_of_mem_head? hhead)
  rw [takeYear, trimStart_digits hne fun _ => isDigit_of_mem_zeroPadded]
  split
  · next rest heq => exact absurd (hfirst '-' rest heq) (by decide)
  · next rest heq => exact absurd (hfirst '+' rest heq) (by decide)
  · have hlength : (Nat.toDigits 10 n).length ≤ 4 :=
      (Nat.length_toDigits_le_iff (by decide) (by decide)).2 (by omega)
    rw [takeNumber_zeroPadded hlength, Option.map_some]

/-- **A year is read**, with its sign if it has one. -/
theorem takeYear_yearText (year : Int) (hk : ∀ c ∈ k.head?, c.isDigit = false) :
    takeYear ((yearText year).toList ++ k) = some (year, k) := by
  have hnumber : takeNumber ((zeroPadded 4 year.natAbs).toList ++ k).length
      ((zeroPadded 4 year.natAbs).toList ++ k) = some (year.natAbs, k) :=
    takeNumber_zeroPadded_of_ends hk
  have htrim : ∀ sign, Text.isBlank sign = false → ∀ cs, Text.trimStart (sign :: cs) = sign :: cs :=
    fun sign hsign cs => List.dropWhile_cons_of_neg (by simp [hsign])
  rw [yearText]
  by_cases hneg : year < 0
  · have habs : -(year.natAbs : Int) = year := by omega
    have hsign : "-".toList = ['-'] := rfl
    rw [if_pos hneg, String.toList_append, hsign, List.append_assoc, List.singleton_append]
    simp only [takeYear, htrim '-' (by decide), hnumber, Option.map_some, habs]
  · have habs : (year.natAbs : Int) = year := by omega
    rw [if_neg hneg]
    by_cases hlong : 9999 < year
    · have hsign : "+".toList = ['+'] := rfl
      rw [if_pos hlong, String.toList_append, hsign, List.append_assoc, List.singleton_append]
      simp only [takeYear, htrim '+' (by decide), hnumber, Option.map_some, habs]
    · rw [if_neg hlong, takeYear_zeroPadded (by omega), habs]

/-- A required character is read. -/
theorem takeChar_self (c : Char) (k : List Char) : takeChar c (c :: k) = some k := by
  rw [takeChar, if_pos rfl]

end Timestamp

end Numbers

/-! ## Reading what was written -/

/-- How a separator is written. -/
def Separator.text : Separator → String
  | .blanks => " "
  | .letterT => "T"

namespace Timestamp

/-- The separator is read up to the digits behind it. -/
theorem takeSeparator_text (separator : Separator) (n : Nat) (k : List Char) :
    takeSeparator separator (separator.text.toList ++ ((zeroPadded 2 n).toList ++ k))
      = some ((zeroPadded 2 n).toList ++ k) := by
  cases separator with
  | blanks =>
    have htext : Separator.blanks.text.toList = [' '] := rfl
    rw [htext, List.singleton_append, takeSeparator, Text.trimStart,
      List.dropWhile_cons_of_pos (by decide), ← Text.trimStart,
      trimStart_digits (toList_zeroPadded_ne_nil 2 n) fun _ => isDigit_of_mem_zeroPadded]
  | letterT =>
    have htext : Separator.letterT.text.toList = ['T'] := rfl
    rw [htext, List.singleton_append, takeSeparator, takeChar_self]

/-- No fraction is read at the end. -/
theorem takeFraction_nil (separator : Separator) : takeFraction separator [] = some (0, []) := by
  cases separator <;> rfl

/-- No month has more than 31 days. -/
theorem daysInMonth_le (year : Int) (month : Nat) : daysInMonth year month ≤ 31 := by
  rw [daysInMonth]
  split
  · split <;> omega
  · split <;> omega

/-- Every part of a timestamp but the year is written with two digits. -/
theorem parts_lt_hundred (t : Timestamp) :
    t.month < 100 ∧ t.day < 100 ∧ t.hour < 100 ∧ t.minute < 100 ∧ t.shownSecond < 100 := by
  obtain ⟨-, ⟨-, hmonth⟩, ⟨-, hday⟩, hhour, hminute, -⟩ := t.inRange
  have hlong := daysInMonth_le t.year t.month
  have hshown := t.inRange.shownSecond_le
  refine ⟨?_, ?_, ?_, ?_, ?_⟩ <;> omega

/-- The second that is written, and the other parts, make the whole second of a timestamp. -/
theorem ofMoment?_shownSecond (t : Timestamp) :
    (if t.shownSecond = 60 then
        ofMoment? ⟨t.year, t.month, t.day, t.hour, t.minute, 59, 0 + nanosPerSecond⟩
      else ofMoment? ⟨t.year, t.month, t.day, t.hour, t.minute, t.shownSecond, 0⟩)
      = some t.wholeSecond := by
  have hwhole := ofMoment?_toMoment t.wholeSecond t.toMoment.wholeSecond_leapsAfterLast
  have hmoment : t.wholeSecond.toMoment = t.toMoment.wholeSecond := rfl
  rw [← hwhole, hmoment, Moment.wholeSecond, Nat.zero_add]
  split <;> rfl

/-- **A written timestamp is read back as the whole second that it shows.** -/
theorem read_dateAndTime (separator : Separator) (t : Timestamp) :
    read separator (t.dateAndTime separator.text).toList = some t.wholeSecond := by
  have htext : (t.dateAndTime separator.text).toList
      = (yearText t.year).toList ++ '-' :: ((zeroPadded 2 t.month).toList
        ++ '-' :: ((zeroPadded 2 t.day).toList ++ (separator.text.toList
        ++ ((zeroPadded 2 t.hour).toList ++ ':' :: ((zeroPadded 2 t.minute).toList
        ++ ':' :: ((zeroPadded 2 t.shownSecond).toList ++ [])))))) := by
    simp [Moment.dateAndTime]
  -- The year ends at the hyphen, every other part after two digits.
  have hyear := fun k => takeYear_yearText (k := '-' :: k) t.year (by
    intro c hc
    obtain rfl : '-' = c := by simpa using hc
    decide)
  obtain ⟨hmonth, hday, hhour, hminute, hshown⟩ := t.parts_lt_hundred
  rw [htext, read]
  simp only [hyear, takeChar_self, takeField_zeroPadded hmonth, takeField_zeroPadded hday,
    takeSeparator_text, takeField_zeroPadded hhour, takeField_zeroPadded hminute,
    takeField_zeroPadded hshown, takeFraction_nil, Option.bind_eq_bind, Option.bind_some,
    List.isEmpty_nil, if_true]
  exact t.ofMoment?_shownSecond

/-- **Timestamps are written alike exactly if they show the same second.** -/
theorem dateAndTime_eq_iff (separator : Separator) (t u : Timestamp) :
    t.dateAndTime separator.text = u.dateAndTime separator.text ↔ t.ShowsSame u.toMoment := by
  constructor
  · intro h
    -- The texts are the same, so the same whole second is read from both.
    have hread := read_dateAndTime separator t
    rw [h, read_dateAndTime] at hread
    have hwhole : t.toMoment.wholeSecond = u.toMoment.wholeSecond :=
      congrArg Timestamp.toMoment (Option.some.inj hread).symm
    have ht := t.toMoment.showsSame_wholeSecond
    rw [hwhole] at ht
    exact ht.symm.trans u.toMoment.showsSame_wholeSecond
  · intro h
    rw [Moment.dateAndTime, Moment.dateAndTime, h.year, h.month, h.day, h.hour, h.minute, h.second]

end Timestamp

/-! ## Literals and conversions -/

/-- A timestamp literal is the date and the time between two marks of the dialect. -/
theorem exists_timestampLiteral_eq (d : Dialect) :
    ∃ front back separator, ∀ t : Timestamp,
      d.timestampLiteral t = front ++ t.dateAndTime (Separator.text separator) ++ back := by
  have hplain : ∀ t : Timestamp, d.textLiteral (t.dateAndTime " ")
      = "'" ++ t.dateAndTime " " ++ "'" := by
    intro t
    have hspace : IsPlain " " := by decide
    have hencode := encode_of_isPlain (isPlain_dateAndTime t.toMoment hspace) d.textEscape
    apply String.toList_inj.1
    simp [Dialect.textLiteral, Dialect.textChars, hencode, singleQuote]
  cases d
  case mariaDb => exact ⟨"'", "'", .blanks, hplain⟩
  case mySql => exact ⟨"'", "'", .blanks, hplain⟩
  case sqlite => exact ⟨"'", "'", .blanks, hplain⟩
  case msSql => exact ⟨"'", "'", .letterT, fun _ => rfl⟩
  case oracle =>
    exact ⟨"TO_TIMESTAMP('", "', 'YYYY-MM-DD HH24:MI:SS')", .blanks, fun _ => rfl⟩
  all_goals exact ⟨"TIMESTAMP '", "'", .blanks, fun _ => rfl⟩

/-- **Timestamps are written to the second, and nothing else of them is lost.** Two timestamps have
the same literal exactly if they show the same date, hour, minute and second.  A timestamp that is
read as a text is read back from it as the whole second that it shows, so as it is exactly if that
is what it was. -/
theorem Timestamp.written_to_the_second (d : Dialect) (t u : Timestamp) :
    (d.literal (.timestamp t) = d.literal (.timestamp u) ↔ t.ShowsSame u.toMoment) ∧
    ((Value.timestamp t).toText >>= fun s => (Value.text s).toTimestamp) = .ok t.wholeSecond ∧
    t.wholeSecond.ShowsSame t.toMoment ∧
    (t.wholeSecond = t ↔ t.nanosecond = 0 ∨ t.second = 59 ∧ t.nanosecond = nanosPerSecond) := by
  refine ⟨?_, ?_, t.toMoment.showsSame_wholeSecond, t.wholeSecond_eq_iff⟩
  · obtain ⟨front, back, separator, hform⟩ := exists_timestampLiteral_eq d
    rw [Dialect.literal, Dialect.literal, hform, hform, ← dateAndTime_eq_iff separator]
    constructor
    · intro h
      have hlist := congrArg String.toList h
      simp only [String.toList_append] at hlist
      exact String.toList_inj.1 (List.append_cancel_left (List.append_cancel_right hlist))
    · intro h
      rw [h]
  · have hread : read .blanks (t.dateAndTime " ").toList = some t.wholeSecond :=
      read_dateAndTime .blanks t
    rw [Value.toText]
    dsimp only [bind, Except.bind]
    rw [Value.toTimestamp, ofAnyText?, hread]
    rfl

/-- **The fraction of a second is left out**: half a second past is written like the whole second,
and read back as the whole second. -/
theorem Timestamp.half_second_is_left_out :
    let whole : Timestamp := ⟨⟨2024, 1, 31, 8, 5, 9, 0⟩, by decide⟩
    let half : Timestamp := ⟨⟨2024, 1, 31, 8, 5, 9, 500000000⟩, by decide⟩
    whole ≠ half ∧
    Dialect.standard.literal (.timestamp whole) = "TIMESTAMP '2024-01-31 08:05:09'" ∧
    Dialect.standard.literal (.timestamp half) = "TIMESTAMP '2024-01-31 08:05:09'" ∧
    ((Value.timestamp half).toText >>= fun s => (Value.text s).toTimestamp) = .ok whole ∧
    ((Value.timestamp half).toText >>= fun s => (Value.text s).toTimestamp) ≠ .ok half := by
  intro whole half
  have hne : whole ≠ half := by decide
  have hback : ((Value.timestamp half).toText >>= fun s => (Value.text s).toTimestamp)
      = .ok whole := by decide +kernel
  refine ⟨hne, by decide +kernel, by decide +kernel, hback, ?_⟩
  rw [hback]
  exact fun heq => hne (Except.ok.inj heq)

/- A leap second after any other second than the last is written, and read back, as the second after
it. -/
example :
    let leap : Timestamp := ⟨⟨2024, 1, 31, 23, 56, 4, 1333333333⟩, by decide⟩
    let next : Timestamp := ⟨⟨2024, 1, 31, 23, 56, 5, 0⟩, by decide⟩
    Dialect.msSql.literal (.timestamp leap) = "'2024-01-31T23:56:05'" ∧
    leap.wholeSecond = next := by
  decide +kernel

end SqlBuilder
