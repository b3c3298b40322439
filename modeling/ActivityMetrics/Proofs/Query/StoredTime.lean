import ActivityMetrics.Period.Expression
import ActivityMetrics.Proofs.Calendar.Stamp

/-!
# Reading stamps

A statement reads a stamp as the time that it stands for: the date as it is written, and the seconds
of the day. The same holds of the text that a date function gives for a day, which may lie before
the year 0.

The reader of the database is lenient: it takes fractions of seconds, offsets, a letter between date
and time, and days that a month does not have. None of that occurs in a stamp, so the proofs follow
the one way through it that a stamp takes, and show at each fork that no other is taken.

Two things about the reader have to be seen to all the same. It stops at a null character, so a text
is read as a whole only if it has none. And it reads a year with a sign, which no stamp has; but the
dates that one function hands to the next are texts as well, and the week of the first days of the
year 0 begins before that year.
-/

namespace ActivityMetrics

open Calendar Text

namespace StoredTime

/-! ## The parts of a stamp

Each part is read from the front of the characters that are left, and what follows it is handed on
untouched. So the lemmas are stated with a rest, about which nothing is known but what keeps the
part from being longer. -/

/-- A padded number within its bounds is read. -/
theorem readNumber?_padded {width low high n : Nat} (rest : List Char) (pos : 0 < width)
    (fits : n < 10 ^ width) (le : low ≤ n) (ge : n ≤ high) :
    readNumber? width low high ((padded width n).toList ++ rest) = some (n, rest) := by
  have length := length_padded pos fits
  have front : ((padded width n).toList ++ rest).take width = (padded width n).toList :=
    List.take_left' length
  have back : ((padded width n).toList ++ rest).drop width = rest :=
    List.drop_left' length
  rw [readNumber?, front, back, if_pos length, digitsValue?_padded, Option.bind_some,
    if_pos ⟨le, ge⟩]

/-- A digit does not stand in the gap between date and time. -/
theorem isGap_eq_false {c : Char} (h : c.isDigit) : isGap c = false := by
  have bounds := digit_bounds h
  have : c ≠ ' ' := by
    rintro rfl
    exact absurd h (by decide)
  simp only [isGap, this, decide_false, Bool.false_or, Bool.and_eq_false_iff,
    decide_eq_false_iff_not]
  omega

/-- A time of day is read as its seconds. -/
theorem readClock?_clockChars (t : Instant) (second_lt : t.second < 60) :
    readClock? (t.clockChars.drop 1)
      = some (((t.hour * 3600 + t.minute * 60 + t.second : Nat) : Int), 0) := by
  have hour := t.hour_lt
  have minute := t.minute_lt
  have second : readNumber? 2 0 59 (padded 2 t.second).toList = some (t.second, []) := by
    rw [← List.append_nil (padded 2 t.second).toList]
    exact readNumber?_padded [] (by decide) (by omega) (Nat.zero_le _) (by omega)
  rw [Instant.clockChars, List.drop_succ_cons, List.drop_zero, readClock?,
    readNumber?_padded _ (by decide) (by omega) (Nat.zero_le _) (by omega)]
  simp only [readMark?, if_true, Option.bind_eq_bind, Option.bind_some]
  rw [readNumber?_padded _ (by decide) (by omega) (Nat.zero_le _) (by omega)]
  simp only [Option.bind_some, readSeconds?, second]
  rfl

/-- What is read behind a date, which is nothing or a time of day. -/
def readRest? (year : Int) (month day : Nat) (cs : List Char) : Option StoredTime :=
  match cs.dropWhile fun c => isGap c || c = 'T' with
  | [] => some (ofParts year month day 0 0)
  | rest => do
    let (clock, offset) ← readClock? rest
    return ofParts year month day clock offset

/-- The characters of a date of three numbers, with a sign before the year 0. -/
def signedChars (y : Int) (m d : Nat) : List Char :=
  (if y < 0 then ['-'] else []) ++ civilChars y.natAbs m d

/-- A date is read from its characters, and the rest is left. The year may be one of those before
the year 0, which are counted down and written with a sign. -/
theorem readDate?_signedChars {y : Int} {m d : Nat} (rest : List Char)
    (hy : -4713 ≤ y ∧ y ≤ 9999) (hm : 1 ≤ m ∧ m ≤ 12) (hd : 1 ≤ d ∧ d ≤ 31) :
    readDate? (signedChars y m d ++ rest) = readRest? y m d rest := by
  have fits : y.natAbs < 10 ^ 4 := by omega
  have number : readNumber? 4 0 9999 (civilChars y.natAbs m d ++ rest)
      = some (y.natAbs, '-' :: ((padded 2 m).toList ++ '-' :: ((padded 2 d).toList ++ rest))) := by
    rw [civilChars, List.append_assoc, readNumber?_padded _ (by decide) fits (Nat.zero_le _)
      (by omega)]
    simp only [List.cons_append, List.append_assoc]
  have month : readNumber? 2 1 12 ((padded 2 m).toList ++ '-' :: ((padded 2 d).toList ++ rest))
      = some (m, '-' :: ((padded 2 d).toList ++ rest)) :=
    readNumber?_padded _ (by decide) (by omega) hm.1 hm.2
  have day : readNumber? 2 1 31 ((padded 2 d).toList ++ rest) = some (d, rest) :=
    readNumber?_padded _ (by decide) (by omega) hd.1 hd.2
  -- a sign is read first, and a year without one begins with a digit
  by_cases sign : y < 0
  · have value : -1 * (y.natAbs : Int) = y := by omega
    have old : ¬ (y < -4713) := by omega
    simp only [signedChars, if_pos sign, List.cons_append, List.nil_append, readDate?, number,
      month, day, readMark?, if_true, Option.bind_eq_bind, Option.bind_some, value, if_neg old]
    rfl
  · obtain ⟨c, cs, begins, digit⟩ := exists_padded_eq_cons (show 0 < 4 by decide) fits
    have value : 1 * (y.natAbs : Int) = y := by omega
    have old : ¬ (y < -4713) := by omega
    have no_sign : ∀ tail, civilChars y.natAbs m d ++ rest ≠ '-' :: tail := by
      intro tail h
      rw [civilChars, begins, List.cons_append, List.cons_append] at h
      rw [(List.cons.inj h).1] at digit
      exact absurd digit (by decide)
    rw [signedChars, if_neg sign, List.nil_append, readDate?]
    · simp only [number, month, day, readMark?, if_true, Option.bind_eq_bind, Option.bind_some,
        value, if_neg old]
      rfl
    · exact no_sign

/-! ## Stamps

A stamp is a date, or a date with a time of day behind a space. The first is read with nothing
behind it, and the second with the clock. -/

/-- A date without a time of day is its beginning. -/
theorem readRest?_nil (y : Int) (m d : Nat) : readRest? y m d [] = some (ofParts y m d 0 0) :=
  rfl

/-- A time of day is read as its seconds, without an offset. -/
theorem readRest?_clockChars (y : Int) (m d : Nat) (t : Instant) (second_lt : t.second < 60) :
    readRest? y m d t.clockChars
      = some (ofParts y m d ((t.hour * 3600 + t.minute * 60 + t.second : Nat) : Int) 0) := by
  have hour := t.hour_lt
  obtain ⟨c, cs, begins, digit⟩ :=
    exists_padded_eq_cons (show 0 < 2 by decide) (show t.hour < 10 ^ 2 by omega)
  have no_t : c ≠ 'T' := by
    rintro rfl
    exact absurd digit (by decide)
  -- only the blank in front is dropped, since a digit follows
  have rest : t.clockChars.dropWhile (fun c => isGap c || c = 'T') = t.clockChars.drop 1 := by
    rw [Instant.clockChars, begins, List.cons_append, List.dropWhile_cons_of_pos (by decide),
      List.dropWhile_cons_of_neg (by simp [isGap_eq_false digit, no_t])]
    rfl
  have full : t.clockChars.drop 1 ≠ [] := by
    rw [Instant.clockChars, begins]
    exact List.cons_ne_nil _ _
  rw [readRest?, rest]
  split
  · contradiction
  · rw [readClock?_clockChars t second_lt]
    rfl

/-- A character of a stamp. None of them ends a text early, as a null character would. -/
def IsStampChar (c : Char) : Prop :=
  c.isDigit ∨ c = '-' ∨ c = ':' ∨ c = ' '

theorem IsStampChar.ne_null {c : Char} (h : IsStampChar c) : c ≠ '\x00' := by
  rcases h with digit | rfl | rfl | rfl
  · rintro rfl
    exact absurd digit (by decide)
  all_goals decide

theorem isStampChar_of_mem_padded {width n : Nat} {c : Char} (h : c ∈ (padded width n).toList) :
    IsStampChar c :=
  .inl (isDigit_of_mem_padded h)

theorem isStampChar_of_mem_signedChars {y : Int} {m d : Nat} {c : Char}
    (h : c ∈ signedChars y m d) : IsStampChar c := by
  simp only [signedChars, civilChars, List.mem_append, List.mem_cons] at h
  rcases h with h | h | rfl | h | rfl | h
  · split at h
    · rw [List.mem_singleton.1 h]
      exact .inr (.inl rfl)
    · cases h
  · exact isStampChar_of_mem_padded h
  · exact .inr (.inl rfl)
  · exact isStampChar_of_mem_padded h
  · exact .inr (.inl rfl)
  · exact isStampChar_of_mem_padded h

theorem isStampChar_of_mem_clockChars {t : Instant} {c : Char} (h : c ∈ t.clockChars) :
    IsStampChar c := by
  simp only [Instant.clockChars, List.mem_append, List.mem_cons] at h
  rcases h with rfl | h | rfl | h | rfl | h
  · exact .inr (.inr (.inr rfl))
  · exact isStampChar_of_mem_padded h
  · exact .inr (.inr (.inl rfl))
  · exact isStampChar_of_mem_padded h
  · exact .inr (.inr (.inl rfl))
  · exact isStampChar_of_mem_padded h

/-- Characters of a stamp are read to the end. -/
theorem takeWhile_eq_self {cs : List Char} (h : ∀ c ∈ cs, IsStampChar c) :
    cs.takeWhile (· ≠ '\x00') = cs := by
  induction cs with
  | nil => rfl
  | cons c cs ih =>
    have head := (h c List.mem_cons_self).ne_null
    rw [List.takeWhile_cons, if_pos (decide_eq_true head),
      ih fun c hc => h c (List.mem_cons_of_mem _ hc)]

/-- A text that begins with a date is read as one. -/
theorem read?_of_readDate? {s : String} {t : StoredTime} (chars : ∀ c ∈ s.toList, IsStampChar c)
    (h : readDate? s.toList = some t) : read? s = some t := by
  rw [read?, takeWhile_eq_self chars]
  simp only [h]

/-- The date of a date function has the characters of a date of three numbers. -/
theorem toList_dateText (y : Int) (m d : Nat) :
    (dateText (y, m, d)).toList = signedChars y m d := by
  rw [dateText, signedChars, civilChars]
  split <;> simp only [String.toList_append, String.reduceToList, List.append_assoc,
    List.nil_append, List.cons_append]

/-- **The date of a day is read as the beginning of the day**, if its year can be written. This is
how one date function takes up where another one has left off. -/
theorem read?_dateText {n : Int} (h : -4713 ≤ yearOf n ∧ yearOf n ≤ 9999) :
    read? (dateText (yearOf n, monthOf n, dayOf n))
      = some ⟨n * 86400, some (yearOf n, monthOf n, dayOf n)⟩ := by
  have seconds : (monthStart (yearOf n) (monthOf n) + dayOf n - 1) * 86400 + 0 - 0 * 60
      = n * 86400 := by
    rw [monthStart_add_dayOf]
    omega
  have chars : ∀ c ∈ (dateText (yearOf n, monthOf n, dayOf n)).toList, IsStampChar c := by
    rw [toList_dateText]
    exact fun c => isStampChar_of_mem_signedChars
  refine read?_of_readDate? chars ?_
  rw [toList_dateText, ← List.append_nil (signedChars _ _ _),
    readDate?_signedChars [] h (monthOf_bounds n) ⟨one_le_dayOf n, dayOf_le n⟩, readRest?_nil,
    ofParts, seconds, if_pos rfl]

/-- The text of a date with a year of four digits is the one that a date function gives. -/
theorem text_eq_dateText {d : Date} (h : d.FourDigit) :
    d.text = dateText (yearOf d.day, monthOf d.day, dayOf d.day) := by
  have natural : ¬ yearOf d.day < 0 := Int.not_lt.2 h.1
  apply String.toList_injective
  rw [h.toList_text, toList_dateText, signedChars, if_neg natural, List.nil_append, Date.year,
    Date.month, Date.dayOfMonth, show (yearOf d.day).natAbs = (yearOf d.day).toNat by omega]

/-- **A stamp is read as a time of its day**, with the date as it is written. Which time it is makes
no difference to the day, so it is only bounded. -/
theorem read?_stamp {d : Date} {s : String} (hd : d.FourDigit) (hs : d.Stamp s) :
    ∃ clock : Int, 0 ≤ clock ∧ clock < 86400 ∧
      read? s = some ⟨d.day * 86400 + clock, some (yearOf d.day, monthOf d.day, dayOf d.day)⟩ := by
  have years : -4713 ≤ yearOf d.day ∧ yearOf d.day ≤ 9999 :=
    ⟨Int.le_trans (by decide) (show 0 ≤ yearOf d.day from hd.1), hd.2⟩
  cases hs with
  | date =>
    refine ⟨0, by decide, by decide, ?_⟩
    rw [text_eq_dateText hd, read?_dateText years, Int.add_zero]
  | instant t on_day second_lt =>
    have hour := t.hour_lt
    have minute := t.minute_lt
    have begins : t.text.toList
        = signedChars (yearOf d.day) (monthOf d.day) (dayOf d.day) ++ t.clockChars := by
      rw [t.toList_text, on_day, text_eq_dateText hd, toList_dateText]
    have chars : ∀ c ∈ t.text.toList, IsStampChar c := by
      rw [begins]
      intro c hc
      rcases List.mem_append.1 hc with hc | hc
      · exact isStampChar_of_mem_signedChars hc
      · exact isStampChar_of_mem_clockChars hc
    refine ⟨((t.hour * 3600 + t.minute * 60 + t.second : Nat) : Int), by omega, by omega, ?_⟩
    have seconds : (monthStart (yearOf d.day) (monthOf d.day) + dayOf d.day - 1) * 86400
        + ((t.hour * 3600 + t.minute * 60 + t.second : Nat) : Int) - 0 * 60
        = d.day * 86400 + ((t.hour * 3600 + t.minute * 60 + t.second : Nat) : Int) := by
      rw [monthStart_add_dayOf]
      omega
    refine read?_of_readDate? chars ?_
    rw [begins, readDate?_signedChars _ years (monthOf_bounds _) ⟨one_le_dayOf _, dayOf_le _⟩,
      readRest?_clockChars _ _ _ t second_lt, ofParts, seconds, if_pos rfl]

end StoredTime

end ActivityMetrics
