import ActivityMetrics.Proofs.Query.StoredTime

/-!
# The bucket expression computes the bucket

The expression of a period goes through texts: a date function gives the text of a date, which the
next function reads again. A text *reads on* a day when it is read as a time of that day and the
date that it shows is the date of the day; stamps do, and so does every text that a date function
gives (`StoredTime.ReadsOn`). The parts of such a text are those of the day, and the days before and
after it are reached by arithmetic, so that the expression of a period has the identifier of the
bucket as its value (`Period.bucketOfText_stamp`).

The two sides of this have nothing in common but the calendar. The identifier of a bucket is
computed from a number of a day, by the program; the expression is computed from a stored text, by
the database, with its own functions and its own arithmetic, which for weeks goes from a day to the
Thursday of its week. A series puts what one of them grouped under what the other one listed, so
they have to agree on every time that a record can have.
-/

namespace ActivityMetrics

open Calendar

namespace StoredTime

/-- A text is read as a time of a day, with the date of the day. The database keeps the date that
was written beside the time that it was read as, and either may be used later, so both are in the
condition. -/
def ReadsOn (s : String) (n : Int) : Prop :=
  ∃ clock : Int, 0 ≤ clock ∧ clock < 86400 ∧
    read? s = some ⟨n * 86400 + clock, some (yearOf n, monthOf n, dayOf n)⟩

theorem readsOn_stamp {d : Date} {s : String} (hd : d.FourDigit) (hs : d.Stamp s) :
    ReadsOn s d.day :=
  read?_stamp hd hs

theorem readsOn_dateText {n : Int} (h : -4713 ≤ yearOf n ∧ yearOf n ≤ 9999) :
    ReadsOn (dateText (yearOf n, monthOf n, dayOf n)) n :=
  ⟨0, Int.le_refl 0, by decide, by rw [read?_dateText h, Int.add_zero]⟩

theorem day_eq {n clock : Int} {written : Option (Int × Nat × Nat)} (nonneg : 0 ≤ clock)
    (lt : clock < 86400) : (⟨n * 86400 + clock, written⟩ : StoredTime).day = n := by
  unfold day
  dsimp only
  omega

/-- A date that is counted, or written as it is, is the date of the day. It does not matter which of
the two a function takes. -/
theorem civil_eq {t : StoredTime} {n : Int} (on_day : t.day = n)
    (h : t.written = none ∨ t.written = some (yearOf n, monthOf n, dayOf n)) :
    t.civil = (yearOf n, monthOf n, dayOf n) := by
  have counted : civil.counted t = (yearOf n, monthOf n, dayOf n) := by
    rw [civil.counted, on_day]
  unfold civil
  rcases h with h | h
  · rw [h, counted]
  · rw [h]
    dsimp only
    rw [counted, ite_self]

theorem isCountable_of_day {n clock : Int} {written : Option (Int × Nat × Nat)}
    (nonneg : 0 ≤ clock) (lt : clock < 86400) (low : -2440587 ≤ n) (high : n ≤ 2932896) :
    (⟨n * 86400 + clock, written⟩ : StoredTime).isCountable := by
  simp only [isCountable, julianOffset, Bool.and_eq_true, decide_eq_true_eq]
  exact ⟨decide_eq_true (by omega), by omega⟩

end StoredTime

open StoredTime

/-! ## The parts of a text -/

/-- A part of a text that reads on a day is that of a time of the day. The ordinal counts from 1
there. -/
theorem TimePart.eval_of_readsOn {s : String} {n : Int} (h : ReadsOn s n) (low : -2440587 ≤ n)
    (high : n ≤ 2932896) :
    year.eval s = some (yearOf n) ∧ month.eval s = some (monthOf n : Int) ∧
      ordinal.eval s = some ((ordinalOf n : Int) + 1) := by
  obtain ⟨clock, nonneg, lt, reads⟩ := h
  have countable : (⟨n * 86400 + clock, some (yearOf n, monthOf n, dayOf n)⟩ :
      StoredTime).isCountable := isCountable_of_day nonneg lt low high
  have date := civil_eq (t := ⟨n * 86400 + clock, some (yearOf n, monthOf n, dayOf n)⟩)
    (day_eq nonneg lt) (.inr rfl)
  have before := daysBefore_monthOf_le n
  have place : ((daysBefore (isLeap (yearOf n)) (monthOf n) + dayOf n : Nat) : Int)
      = (ordinalOf n : Int) + 1 := by
    unfold dayOf
    omega
  simp only [eval, reads, Option.bind_eq_bind, Option.bind_some, if_pos countable, of, date]
  exact ⟨trivial, trivial, congrArg some place⟩

theorem TimePart.seconds_eval_dateText {n : Int} (low : -719528 ≤ n) (high : n ≤ 2932896) :
    seconds.eval (dateText (yearOf n, monthOf n, dayOf n)) = some (n * 86400) := by
  have years : -4713 ≤ yearOf n ∧ yearOf n ≤ 9999 := by
    have first : 0 ≤ yearOf n ↔ -719528 ≤ n := le_yearOf_iff
    have last : 10000 ≤ yearOf n ↔ 2932897 ≤ n := le_yearOf_iff
    omega
  have countable : (⟨n * 86400 + 0, some (yearOf n, monthOf n, dayOf n)⟩ :
      StoredTime).isCountable :=
    isCountable_of_day (Int.le_refl 0) (by decide) (by omega) high
  rw [Int.add_zero] at countable
  simp only [eval, read?_dateText years, Option.bind_eq_bind, Option.bind_some, if_pos countable,
    of]

/-! ## The texts that date functions give -/

theorem TimeExpression.date_eval_of_readsOn {s : String} {n : Int} (h : ReadsOn s n)
    (low : -2440587 ≤ n) (high : n ≤ 2932896) :
    date.eval s = some (dateText (yearOf n, monthOf n, dayOf n)) := by
  obtain ⟨clock, nonneg, lt, reads⟩ := h
  have countable : (⟨n * 86400 + clock, some (yearOf n, monthOf n, dayOf n)⟩ :
      StoredTime).isCountable := isCountable_of_day nonneg lt low high
  simp only [eval, reads, Option.bind_eq_bind, Option.bind_some, if_pos countable,
    civil_eq (day_eq nonneg lt) (.inr rfl)]

/-- Three days back and on to a Thursday leads to the Thursday of the week. From a Thursday on the
way back ends in the week itself, and before it in the week before, whose next Thursday is the right
one. -/
theorem TimeExpression.thursday_eval_of_readsOn {s : String} {n : Int} (h : ReadsOn s n)
    (low : -719528 ≤ n) (high : n ≤ 2932896) :
    thursday.eval s = some (dateText
      (yearOf (monday n + 3), monthOf (monday n + 3), dayOf (monday n + 3))) := by
  obtain ⟨clock, nonneg, lt, reads⟩ := h
  have week : monday n + 3 = n - (n + 3) % 7 + 3 := rfl
  have back : n * 86400 + clock + -3 * 86400 = (n - 3) * 86400 + clock := by omega
  have on : (n - 3) * 86400 + clock + (4 - (n - 3 + 4) % 7) % 7 * 86400
      = (monday n + 3) * 86400 + clock := by
    rw [week]
    omega
  have countable : (⟨(n - 3) * 86400 + clock, none⟩ : StoredTime).isCountable :=
    isCountable_of_day nonneg lt (by omega) (by omega)
  have found : (⟨(monday n + 3) * 86400 + clock, none⟩ : StoredTime).isCountable :=
    isCountable_of_day nonneg lt (by omega) (by omega)
  simp only [eval, reads, Option.bind_eq_bind, Option.bind_some, addDays, back, toWeekday?,
    if_pos countable, day_eq nonneg lt, on, if_pos found, civil_eq (day_eq nonneg lt) (.inl rfl)]

/-! ## The bucket -/

namespace Period

open BucketExpression in
/-- The expression of a period gives the bucket of the day that a text reads on. The bounds on the
day are those of the dates that the database can count with. -/
theorem bucketOfText_of_readsOn (p : Period) {s : String} {n : Int} (reads : ReadsOn s n)
    (low : -719528 ≤ n) (high : n ≤ 2932896) : p.bucketOfText s = some (p.bucketId n) := by
  obtain ⟨year, month, _⟩ := TimePart.eval_of_readsOn reads (by omega) high
  unfold bucketOfText
  cases p with
  | day =>
    simp only [expression, eval, TimeExpression.date_eval_of_readsOn reads (by omega) high,
      Option.bind_some, TimePart.seconds_eval_dateText low high, bucketId]
  | week =>
    -- a week belongs to the year of its Thursday and is counted by whole weeks before it
    have thursday := TimeExpression.thursday_eval_of_readsOn reads low high
    have week : monday n + 3 = n - (n + 3) % 7 + 3 := rfl
    have first : -1 ≤ yearOf (monday n + 3) ↔ -719893 ≤ monday n + 3 := le_yearOf_iff
    have last : 10000 ≤ yearOf (monday n + 3) ↔ 2932897 ≤ monday n + 3 := le_yearOf_iff
    obtain ⟨year, _, ordinal⟩ := TimePart.eval_of_readsOn
      (readsOn_dateText (n := monday n + 3) (by omega)) (by omega) (by omega)
    have number : ((ordinalOf (monday n + 3) : Int) + 1 - 1).tdiv 7
        = (ordinalOf (monday n + 3) / 7 : Nat) := by
      rw [Int.add_sub_cancel, Int.natCast_ediv]
      exact Int.tdiv_eq_ediv_of_nonneg (Int.natCast_nonneg _)
    simp only [expression, eval, thursday, Option.bind_some, year, ordinal, Option.bind_eq_bind,
      Option.pure_def]
    exact congrArg (fun k : Int => some (yearOf (monday n + 3) * 100 + (k + 1))) number
  | month =>
    simp only [expression, eval, TimeExpression.eval, Option.bind_some, year, month,
      Option.bind_eq_bind]
    rfl
  | year =>
    simp only [expression, eval, TimeExpression.eval, Option.bind_some, year, bucketId]

/-- **The bucket that a statement computes from a stamp is the bucket of its day**, for every
period. The years are those of four digits, beyond which the database does not read a date.

The two have nothing in common but their result. A statement goes by the parts of the date as they
are written and by date functions that move a day to another; buckets go by the number of the day.
They agree on every day, and of a stamp with a time of day both look at the day alone, in its last
second as in its first. -/
theorem bucketOfText_stamp (p : Period) {d : Date} {s : String} (hd : d.FourDigit)
    (hs : d.Stamp s) : p.bucketOfText s = some (p.bucketId d.day) := by
  obtain ⟨low, high⟩ := Date.fourDigit_iff.1 hd
  exact p.bucketOfText_of_readsOn (readsOn_stamp hd hs) low high

/-- The last second of the first of January 2021 lies in week 53 of the year before. -/
theorem bucketOfText_stamp_week_of_year_before :
    week.bucketOfText "2021-01-01 23:59:59" = some 202053 := by
  have id : week.bucketId Instant.newYear.date.day = 202053 := by decide
  rw [← id]
  exact bucketOfText_stamp week (by decide) Date.stamp_newYear

end Period

end ActivityMetrics
