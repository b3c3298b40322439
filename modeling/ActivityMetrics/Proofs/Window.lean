import ActivityMetrics.Proofs.Outcome
import ActivityMetrics.Proofs.Period.Partition
import ActivityMetrics.Proofs.Text.Padded
import ActivityMetrics.Window

/-!
# Windows by name

A name that is accepted has one of five forms, and the numbers in it say where the window begins and
ends: `Window.Names` gives both days as the beginnings of slots, of days, weeks, months or years. So
what a name means is read off without following how it is taken apart (`Window.names_of_ofName`).

Slots are what makes the five forms alike. A year is one slot of years and twelve of months, a
quarter is three slots of months, and a rolling window as many slots of days as it counts; so order,
length and the buckets of a window are all questions about whole numbers, and none of them needs to
know which months are long.

A year in a name has four bytes at most, which a sign can only make smaller. So a window begins
before the year 10000 and ends there at the latest, and the names of the windows that do are few
(`Window.Names.mem_lastNames`). They are worth a list of their own, because the text of a day of the
year 10000 begins with a sign and is out of order with all others.
-/

namespace ActivityMetrics.Window

open Calendar Text

variable {cs days year part : List Char} {today start stop : Date} {win : Window}

/-! ## Forms

The forms are told apart by their characters, before any number is read. A form is recognized by
what stands in it, so that a name with the right shape and a wrong number is reported for its
number. -/

/-- The characters that a form is taken from. It says less than the order in which the forms are
tried, since a text may be spelled like two of them; but whichever form is found, the text is
spelled like it, and nothing else is needed of what is found. -/
inductive Form.Spelled : Form → List Char → Prop
  /-- Digits and a letter. -/
  | rolling {days : List Char} {mark : Char} (ne : days ≠ []) (digits : days.all isDecimalDigit)
      (marked : mark = 'd' ∨ mark = 'D') : Spelled (.rolling days) (days ++ [mark])
  /-- Any four bytes. -/
  | year {cs : List Char} (bytes : byteLength cs = 4) : Spelled (.year cs) cs
  /-- A year and the number of a quarter. -/
  | quarter {year : List Char} {c : Char} (four : year.length = 4)
      (digits : year.all isDecimalDigit) (low : '1' ≤ c) (high : c ≤ '4') :
      Spelled (.quarter year (c.toNat - '0'.toNat)) (year ++ ['-', 'Q', c])
  /-- A year and one or two digits. -/
  | week {year week : List Char} (four : year.length = 4) (digits : year.all isDecimalDigit)
      (short : week.length = 1 ∨ week.length = 2) (part : week.all isDecimalDigit) :
      Spelled (.week year week) (year ++ '-' :: 'W' :: week)
  /-- A year and two digits. -/
  | month {year month : List Char} (four : year.length = 4) (digits : year.all isDecimalDigit)
      (two : month.length = 2) (part : month.all isDecimalDigit) :
      Spelled (.month year month) (year ++ '-' :: month)

/-- A number of days is what stands before the letter. -/
theorem rollingDays?_eq_some (h : rollingDays? cs = some days) :
    (Form.rolling days).Spelled cs := by
  unfold rollingDays? at h
  split at h
  · rename_i mark rest reversed
    split at h
    · rename_i shape
      obtain ⟨marked, ne, digits⟩ := shape
      obtain rfl := Option.some.inj h
      have back : cs = rest.reverse ++ [mark] := by
        rw [← List.reverse_reverse cs, reversed, List.reverse_cons]
      rw [back]
      refine .rolling ?_ ?_ marked
      · simpa using ne
      · rwa [List.all_reverse]
    · cases h
  · cases h

/-- Behind a year of four digits there is a quarter, a week or a month. -/
theorem partForm?_eq_some {form : Form} (four : year.length = 4)
    (digits : year.all isDecimalDigit) (h : partForm? year part = some form) :
    form.Spelled (year ++ '-' :: part) := by
  unfold partForm? at h
  split at h
  · split at h
    · rename_i bounds
      obtain rfl := Option.some.inj h
      exact .quarter four digits bounds.1 bounds.2
    · cases h
  · split at h
    · rename_i shape
      obtain rfl := Option.some.inj h
      exact .week four digits shape.1 shape.2
    · cases h
  · split at h
    · rename_i shape
      obtain rfl := Option.some.inj h
      exact .month four digits shape.1 shape.2
    · cases h

/-- **The form of a name is one that spells it.** -/
theorem form?_eq_some {form : Form} (h : form? cs = some form) : form.Spelled cs := by
  unfold form? at h
  split at h
  · rename_i rolls
    obtain rfl := Option.some.inj h
    exact rollingDays?_eq_some rolls
  · split at h
    · rename_i bytes
      obtain rfl := Option.some.inj h
      exact .year bytes
    · split at h
      · rename_i a b c d rest _ _
        split at h
        · rename_i digits
          exact @partForm?_eq_some [a, b, c, d] rest form rfl digits h
        · cases h
      · cases h

/-! ## Numbers

A form has digits where its numbers are, and still a number may be too large to be read. -/

/-- A year that is read is the number that is written. -/
theorem readYear_eq_ok {y : Int} (h : readYear year = .ok y) : readInt32? year = some y := by
  unfold readYear at h
  split at h
  · rename_i number
    rw [number, Except.ok.inj h]
  · cases h

/-- A year of digits has no sign. Only the form of four bytes leaves room for one. -/
theorem exists_of_readYear {y : Int} (four : year.length = 4) (digits : year.all isDecimalDigit)
    (h : readYear year = .ok y) : ∃ n : Nat, digitsValue? year = some n ∧ y = n := by
  obtain ⟨read, _⟩ := Option.filter_eq_some_iff.1 (readYear_eq_ok h)
  rw [readInt?_of_digits digits (List.ne_nil_of_length_eq_add_one four)] at read
  obtain ⟨n, value, same⟩ := Option.map_eq_some_iff.1 read
  exact ⟨n, value, same.symm⟩

/-- A part of a year that is read is the number that is written. -/
theorem readPart_eq_ok {what : String} {n : Nat} (ne : part ≠ [])
    (digits : part.all isDecimalDigit) (h : readPart what part = .ok n) :
    digitsValue? part = some n := by
  unfold readPart at h
  split at h
  · rename_i number
    obtain rfl := Except.ok.inj h
    obtain ⟨read, _⟩ := Option.filter_eq_some_iff.1 number
    rwa [readNat?_of_digits digits ne] at read
  · cases h

/-- The number of a quarter, counted from 0 as the slots of months are. -/
theorem exists_quarter {c : Char} (low : '1' ≤ c) (high : c ≤ '4') :
    ∃ q, digitsValue? [c] = some (q + 1) ∧ q < 4 ∧ c.toNat - '0'.toNat = q + 1 := by
  have one : 49 ≤ c.toNat := low
  have four : c.toNat ≤ 52 := high
  have zero : '0'.toNat = 48 := rfl
  have digit : c.isDigit :=
    Char.isDigit_iff_toNat.2 ⟨Nat.le_trans (by decide) one, Nat.le_trans four (by decide)⟩
  refine ⟨c.toNat - 49, ?_, by omega, by omega⟩
  rw [digitsValue?_eq_ofDigitChars (List.forall_mem_singleton.2 digit), Nat.ofDigitChars_cons,
    Nat.ofDigitChars_nil]
  exact congrArg some (by omega)

/-- Every character has a byte. -/
theorem length_le_byteLength (cs : List Char) : cs.length ≤ byteLength cs := by
  suffices step : ∀ n, n + cs.length ≤ cs.foldl (fun n c => n + c.utf8Size) n from
    Nat.le_trans (Nat.le_add_left _ 0) (step 0)
  induction cs with
  | nil => exact fun n => Nat.le_refl n
  | cons c cs ih =>
    intro n
    have := ih (n + c.utf8Size)
    have := c.utf8Size_pos
    rw [List.length_cons, List.foldl_cons]
    omega

/-- **A number of four bytes is at most 9999**, which leaves no byte for a sign. This bounds every
year of a name, and with it every window. -/
theorem le_of_readInt32? {y : Int} (bytes : byteLength cs = 4) (number : readInt32? cs = some y) :
    y ≤ 9999 ∧ (y = 9999 → cs = "9999".toList) := by
  obtain ⟨read, _⟩ := Option.filter_eq_some_iff.1 number
  have short := length_le_byteLength cs
  rw [bytes] at short
  -- a number that is not positive is far below, however it is written
  by_cases pos : 0 < y
  · obtain ⟨ds, n, ne, value, rfl, rfl | rfl⟩ := eq_digits_of_readInt? pos read
    · -- three digits are left behind a plus sign
      have few := (eq_padded_of_digitsValue? ne value).1
      have small := Nat.pow_le_pow_right (show 0 < 10 by decide) (Nat.le_of_succ_le_succ short)
      exact ⟨by omega, fun same => absurd same (by omega)⟩
    · obtain ⟨few, written⟩ := eq_padded_of_digitsValue? ne value
      have small := Nat.pow_le_pow_right (show 0 < 10 by decide) short
      refine ⟨by omega, fun same => ?_⟩
      obtain rfl : n = 9999 := by omega
      have four : cs.length = 4 := by
        refine Nat.le_antisymm short (Nat.le_of_not_lt fun less => ?_)
        have := Nat.pow_le_pow_right (show 0 < 10 by decide) (Nat.le_of_lt_succ less)
        omega
      rw [written, four]
      rfl
  · exact ⟨by omega, fun same => absurd same (by omega)⟩

/-- A year of four digits is written with zeros in front. -/
theorem eq_padded_of_four {y : Nat} (four : year.length = 4) (number : digitsValue? year = some y) :
    y < 10000 ∧ year = (padded 4 y).toList := by
  have written := eq_padded_of_digitsValue? (List.ne_nil_of_length_eq_add_one four) number
  rwa [four] at written

/-! ## Days

The days of a window are found from its numbers. Each of these steps can end outside the calendar,
and succeeds only with the day that was meant. -/

/-- A day that is found is the one of its numbers. -/
theorem civilDay_eq_ok {y : Int} {m d : Nat} {date : Date} (h : civilDay y m d = .ok date) :
    Date.ofCivil? y m d = some date := by
  unfold civilDay at h
  split at h
  · rename_i found
    rw [found, Except.ok.inj h]
  · cases h

/-- The first of a month begins the slot of the month. That the month exists comes for free, since
the day was found. -/
theorem day_of_civilDay {y : Int} {m : Nat} {date : Date} (h : civilDay y m 1 = .ok date) :
    (1 ≤ m ∧ m ≤ 12) ∧ date.day = Period.month.slotStart (y * 12 + (m - 1 : Nat)) := by
  have found := civilDay_eq_ok h
  have bounds : 1 ≤ m ∧ m ≤ 12 := by
    by_contra outside
    rw [Date.ofCivil?, if_neg fun real => outside ⟨real.1, real.2.1⟩] at found
    cases found
  rw [Period.ofCivil?_first bounds.1 bounds.2] at found
  exact ⟨bounds, Date.ofDay?_eq_some_iff.1 found⟩

/-- A year that has a first of a month in the calendar is at most the last one of it. So the year
after it is a number of 32 bits, and the calendar is what runs out first. -/
theorem year_le_of_civilDay {y : Int} {m : Nat} {date : Date} (h : civilDay y m 1 = .ok date) :
    y ≤ 262142 := by
  have begins := (day_of_civilDay h).2
  have last : Period.month.slotOf lastDay = 262142 * 12 + 11 := by decide
  have slot := (Period.slotStart_le_iff .month _ lastDay).1 (begins ▸ date.le_last)
  omega

/-- A year that has a first of a month in the calendar has a year after it. -/
theorem yearAfter_of_civilDay {y : Int} {m : Nat} {date : Date} (h : civilDay y m 1 = .ok date) :
    yearAfter y = .ok (y + 1) :=
  if_neg (Int.ne_of_lt (Int.lt_of_le_of_lt (year_le_of_civilDay h) (by decide)))

/-- **Months of a year begin and end with slots.** The month after December needs no case of its own
there, since the slot after it is that of January in the next year. -/
theorem months_eq_ok {y : Int} {first next : Nat} (h : months y first next = .ok win) :
    (1 ≤ first ∧ first ≤ 12) ∧
      win.1.day = Period.month.slotStart (y * 12 + (first - 1 : Nat)) ∧
        win.2.day = Period.month.slotStart (y * 12 + (next - 1 : Nat)) := by
  obtain ⟨start, begins, h⟩ := exists_of_bind_eq_ok h
  obtain ⟨bounds, first_day⟩ := day_of_civilDay begins
  -- after December comes the January of the next year
  split at h
  · rw [yearAfter_of_civilDay begins] at h
    obtain ⟨stop, ends, h⟩ := exists_of_bind_eq_ok (x := civilDay (y + 1) 1 1) h
    obtain rfl := Except.ok.inj h
    obtain ⟨-, next_day⟩ := day_of_civilDay ends
    refine ⟨bounds, first_day, next_day.trans (congrArg _ ?_)⟩
    omega
  · obtain ⟨stop, ends, h⟩ := exists_of_bind_eq_ok h
    obtain rfl := Except.ok.inj h
    exact ⟨bounds, first_day, (day_of_civilDay ends).2⟩

/-- **A month is a slot**: the next bucket begins where the next slot does. -/
theorem oneMonth_eq_ok {y : Int} {m : Nat} (h : oneMonth y m = .ok win) :
    (1 ≤ m ∧ m ≤ 12) ∧
      win.1.day = Period.month.slotStart (y * 12 + (m - 1 : Nat)) ∧
        win.2.day = Period.month.slotStart (y * 12 + (m - 1 : Nat) + 1) := by
  obtain ⟨start, begins, h⟩ := exists_of_bind_eq_ok h
  obtain ⟨bounds, first_day⟩ := day_of_civilDay begins
  split at h
  · rename_i stop next
    obtain rfl := Except.ok.inj h
    rw [Period.next?_eq first_day] at next
    exact ⟨bounds, first_day, Date.ofDay?_eq_some_iff.1 next⟩
  · cases h

/-- A window of days ends with the present day and is as long as was asked for. -/
theorem rolling_eq_ok (ne : days ≠ []) (digits : days.all isDecimalDigit)
    (h : rolling days today = .ok win) :
    ∃ n : Nat, digitsValue? days = some n ∧ 0 < n ∧ win.1.day = today.day - n ∧ win.2 = today := by
  unfold rolling at h
  split at h
  · cases h
  · rename_i i number
    obtain ⟨read, _⟩ := Option.filter_eq_some_iff.1 number
    rw [readInt?_of_digits digits ne] at read
    obtain ⟨n, value, rfl⟩ := Option.map_eq_some_iff.1 read
    split at h
    · cases h
    · rename_i nonzero
      split at h
      · rename_i start found
        obtain rfl := Except.ok.inj h
        have back := Date.ofDay?_eq_some_iff.1 found
        refine ⟨n, value, ?_, ?_, rfl⟩
        · exact Nat.pos_of_ne_zero fun zero => nonzero (by rw [zero]; rfl)
        · rw [back]
          rfl
      · cases h

/-- A week that is found is one of its year, and has seven days. -/
theorem isoWeek_eq_ok {text : String} {y : Int} {w : Nat} (h : isoWeek text y w = .ok win) :
    1 ≤ w ∧ win.1.day = isoYearStart y + 7 * ((w : Int) - 1) ∧
      win.1.day < isoYearStart (y + 1) ∧ win.2.day = win.1.day + 7 := by
  unfold isoWeek at h
  split at h
  · cases h
  · rename_i start found
    split at h
    · rename_i stop week
      obtain rfl := Except.ok.inj h
      simp only [Date.ofIsoWeek?] at found
      split at found
      · rename_i bounds
        have begins := Date.ofDay?_eq_some_iff.1 found
        exact ⟨bounds.1, begins, begins ▸ bounds.2, Date.ofDay?_eq_some_iff.1 week⟩
      · cases found
    · cases h

/-! ## What a name means

The parts are put together for each form. Nothing is lost between them, as each step has told what
its success means. -/

/-- A name and the window that it stands for on a day. Every form says how its characters are read
as numbers and which slots the two days of the window begin. -/
inductive Names (today : Date) : List Char → Window → Prop
  /-- Days up to the present one, which is excluded. -/
  | rolling {days : List Char} {mark : Char} {n : Nat} {win : Window}
      (marked : mark = 'd' ∨ mark = 'D') (count : digitsValue? days = some n) (pos : 0 < n)
      (first : win.1.day = Period.day.slotStart (today.day - n)) (last : win.2 = today) :
      Names today (days ++ [mark]) win
  /-- A year, which may have a sign. -/
  | year {cs : List Char} {y : Int} {win : Window} (bytes : byteLength cs = 4)
      (number : readInt32? cs = some y) (first : win.1.day = Period.year.slotStart y)
      (last : win.2.day = Period.year.slotStart (y + 1)) : Names today cs win
  /-- Three months of a year. -/
  | quarter {year : List Char} {c : Char} {y q : Nat} {win : Window} (four : year.length = 4)
      (number : digitsValue? year = some y) (quarter : digitsValue? [c] = some (q + 1))
      (few : q < 4) (first : win.1.day = Period.month.slotStart (y * 12 + 3 * q))
      (last : win.2.day = Period.month.slotStart (y * 12 + 3 * q + 3)) :
      Names today (year ++ ['-', 'Q', c]) win
  /-- A month of a year. -/
  | month {year month : List Char} {y m : Nat} {win : Window} (four : year.length = 4)
      (number : digitsValue? year = some y) (two : month.length = 2)
      (part : digitsValue? month = some (m + 1)) (few : m < 12)
      (first : win.1.day = Period.month.slotStart (y * 12 + m))
      (last : win.2.day = Period.month.slotStart (y * 12 + m + 1)) :
      Names today (year ++ '-' :: month) win
  /-- A week of an ISO year, which is over before the next one begins. -/
  | week {year week : List Char} {y w : Nat} {win : Window} (four : year.length = 4)
      (number : digitsValue? year = some y) (short : week.length = 1 ∨ week.length = 2)
      (part : digitsValue? week = some (w + 1))
      (first : win.1.day = Period.week.slotStart (Period.week.slotOf (isoYearStart y) + w))
      (within : win.1.day < isoYearStart (y + 1))
      (last : win.2.day = Period.week.slotStart (Period.week.slotOf (isoYearStart y) + w + 1)) :
      Names today (year ++ '-' :: 'W' :: week) win

/-- A January begins a year, so a window of twelve months and a window of one year are the same. -/
theorem slotStart_january (y : Int) :
    Period.month.slotStart (y * 12) = Period.year.slotStart y := by
  have year : y * 12 / 12 = y := by omega
  have january : (y * 12 % 12).toNat + 1 = 1 := by omega
  simp only [Period.slotStart, monthStart, year, january]
  exact Int.add_zero _

/-- The Monday on which an ISO year begins is the beginning of a slot of weeks. -/
theorem slotStart_isoYearStart (y : Int) :
    Period.week.slotStart (Period.week.slotOf (isoYearStart y)) = isoYearStart y := by
  simp only [Period.slotStart, Period.slotOf, isoYearStart, monday, weekday]
  omega

/-- **A name that is accepted has one of the forms**, and stands for the window of its numbers. The
proof follows the forms: how each was spelled gives back the characters of the name, and how its
window was computed gives both days. -/
theorem names_of_ofName {s : String} (h : ofName s today = .ok win) :
    Names today (trim s).toList win := by
  unfold ofName at h
  dsimp only at h
  split at h
  · cases h
  all_goals
    rename_i form
    -- what was found is spelled by the name, which is all that is kept of the name
    have spelled := form?_eq_some form
    generalize (trim s).toList = cs at spelled
  · cases spelled with
    | rolling ne digits marked =>
      obtain ⟨n, count, pos, first, last⟩ := rolling_eq_ok ne digits h
      exact .rolling marked count pos first last
  · cases spelled with
    | year bytes =>
      obtain ⟨y, number, h⟩ := exists_of_bind_eq_ok h
      obtain ⟨-, first, last⟩ := months_eq_ok h
      refine .year bytes (readYear_eq_ok number) ?_ ?_
      · rw [first, ← slotStart_january]
        exact congrArg _ (Int.add_zero _)
      · rw [last, ← slotStart_january]
        exact congrArg _ (by omega)
  · cases spelled with
    | @quarter year c four digits low high =>
      obtain ⟨_, number, h⟩ := exists_of_bind_eq_ok h
      obtain ⟨y, value, rfl⟩ := exists_of_readYear four digits number
      obtain ⟨-, first, last⟩ := months_eq_ok h
      obtain ⟨q, digit, few, same⟩ := exists_quarter low high
      rw [same] at first last
      refine .quarter four value digit few ?_ ?_
      · rw [first]
        exact congrArg _ (by omega)
      · rw [last]
        exact congrArg _ (by omega)
  · rename_i year week
    cases spelled with
    | week four digits short part =>
      obtain ⟨_, number, h⟩ := exists_of_bind_eq_ok h
      obtain ⟨w, count, h⟩ := exists_of_bind_eq_ok h
      obtain ⟨y, value, rfl⟩ := exists_of_readYear four digits number
      obtain ⟨pos, first, within, last⟩ := isoWeek_eq_ok h
      have ne : week ≠ [] := List.ne_nil_of_length_pos (by omega)
      have read := readPart_eq_ok ne part count
      obtain ⟨w, rfl⟩ := Nat.exists_eq_add_one_of_ne_zero (Nat.pos_iff_ne_zero.1 pos)
      have monday := slotStart_isoYearStart y
      simp only [Period.slotStart] at monday
      refine .week four value short read ?_ within ?_ <;> simp only [Period.slotStart] <;> omega
  · rename_i year month
    cases spelled with
    | month four digits two part =>
      obtain ⟨_, number, h⟩ := exists_of_bind_eq_ok h
      obtain ⟨m, count, h⟩ := exists_of_bind_eq_ok h
      obtain ⟨y, value, rfl⟩ := exists_of_readYear four digits number
      have ne : month ≠ [] := List.ne_nil_of_length_pos (by omega)
      have read := readPart_eq_ok ne part count
      obtain ⟨bounds, first, last⟩ := oneMonth_eq_ok h
      obtain ⟨m, rfl⟩ := Nat.exists_eq_add_one_of_ne_zero (Nat.pos_iff_ne_zero.1 bounds.1)
      exact .month four value two read (by omega) first last

/-! ## The last windows

Years of four digits end with 9999, and the window of the last year ends behind it, with the first
day of the year 10000. The text of this day has a sign and is not behind the others. -/

/-- A later year begins later, in the calendar of weeks as well. -/
theorem isoYearStart_mono {y z : Int} (h : y ≤ z) : isoYearStart y ≤ isoYearStart z := by
  have := yearStart_mono h
  simp only [isoYearStart, monday, weekday]
  omega

/-- No window is empty: it has at least one slot, or counts at least one day. -/
theorem Names.start_lt_stop (h : Names today cs win) : win.1 < win.2 := by
  show win.1.day < win.2.day
  cases h with
  | rolling marked count pos first last =>
    rw [first, last]
    show today.day - _ < today.day
    omega
  | year _ _ first last | quarter _ _ _ _ first last | month _ _ _ _ _ first last
  | week _ _ _ _ first _ last =>
    rw [first, last]
    exact Period.slotStart_lt _ (by omega)

/-- The names of the windows that end in the year 10000, where the texts of days are no longer in
order. -/
def lastNames : List String :=
  ["9999", "9999-Q4", "9999-12", "9999-W52"]

/-- A window of one of the last names ends behind the last year of four digits. -/
theorem stop_of_mem_lastNames {s : String} (h : trim s ∈ lastNames)
    (named : ofName s today = .ok win) : ¬ win.2.year ≤ 9999 := by
  suffices found : ∃ win', ofName s today = .ok win' ∧ ¬ win'.2.year ≤ 9999 by
    obtain ⟨win', again, late⟩ := found
    rwa [Except.ok.inj (named.symm.trans again)]
  simp only [lastNames, List.mem_cons, List.not_mem_nil, or_false] at h
  unfold ofName
  rcases h with same | same | same | same <;> rw [same] <;> exact ⟨_, rfl, by decide⟩

/-- **A window begins before the year 10000**, provided that the present day does. Only a rolling
window depends on the present day, and it lies before it. -/
theorem Names.start_year_le (h : Names today cs win) (present : today.year ≤ 9999) :
    win.1.year ≤ 9999 := by
  have days : Period.month.slotOf 2932896 = 119999 := by decide
  rw [Date.year_le_iff] at present ⊢
  cases h with
  | rolling marked count pos first last =>
    rw [first]
    exact Int.le_trans (Int.sub_le_self _ (Int.natCast_nonneg _)) present
  | year bytes number first last =>
    rw [first, Period.slotStart_le_iff]
    exact (le_of_readInt32? bytes number).1
  | quarter four number quarter few first last =>
    have small := (eq_padded_of_four four number).1
    rw [first, Period.slotStart_le_iff, days]
    omega
  | month four number two part few first last =>
    have small := (eq_padded_of_four four number).1
    rw [first, Period.slotStart_le_iff, days]
    omega
  | @week year week y w _ four number short part first within last =>
    have small := (eq_padded_of_four four number).1
    have bound : isoYearStart (y + 1) ≤ isoYearStart 10000 := isoYearStart_mono (by omega)
    have monday : isoYearStart 10000 = 2932899 := by decide
    simp only [Period.slotStart] at first
    omega

/-- The only week that begins in an ISO year up to 9999 and ends after the year 9999 is its 52nd.
The year 9999 has no week 53, and every earlier one is over in time. -/
theorem week_of_late {y w : Nat} (small : y < 10000)
    (within :
      Period.week.slotStart (Period.week.slotOf (isoYearStart y) + w) < isoYearStart (y + 1))
    (late : ¬ Period.week.slotStart (Period.week.slotOf (isoYearStart y) + w + 1) ≤ 2932896) :
    y = 9999 ∧ w = 51 := by
  have monday : isoYearStart 9999 = 2932535 := by decide
  have next : isoYearStart (9999 + 1) = 2932899 := by decide
  simp only [Period.slotStart, Period.slotOf] at within late
  -- an earlier year is over before
  obtain rfl : y = 9999 := by
    by_contra early
    have := isoYearStart_mono (show (y : Int) + 1 ≤ 9999 by omega)
    omega
  have number : ((9999 : Nat) : Int) = 9999 := rfl
  rw [number] at within late
  exact ⟨rfl, by omega⟩

/-- **The windows that end in the year 10000** are the last year, its last quarter and month, and
its last week. A name is determined by its numbers, since its digits are padded to the width that
the form asks for; so it is enough to find the numbers. -/
theorem Names.mem_lastNames {name : String} (h : Names today name.toList win)
    (present : today.year ≤ 9999) (late : ¬ win.2.year ≤ 9999) : name ∈ lastNames := by
  have days : Period.month.slotOf 2932896 = 119999 := by decide
  rw [Date.year_le_iff] at late
  suffices named : ∃ n ∈ lastNames, name.toList = n.toList by
    obtain ⟨n, last, same⟩ := named
    rwa [String.toList_injective same]
  generalize name.toList = cs at h
  cases h with
  -- a rolling window ends on the present day, which is not late
  | rolling marked count pos first last =>
    rw [last, ← Date.year_le_iff] at late
    exact absurd present late
  | year bytes number first last =>
    obtain ⟨few, four⟩ := le_of_readInt32? bytes number
    rw [last, Period.slotStart_le_iff, show Period.year.slotOf 2932896 = 9999 by decide] at late
    exact ⟨"9999", by decide, four (by omega)⟩
  | @quarter year c y q _ four number quarter few first last =>
    obtain ⟨small, written⟩ := eq_padded_of_four four number
    obtain ⟨_, digit⟩ := eq_padded_of_digitsValue? (List.cons_ne_nil _ _) quarter
    rw [last, Period.slotStart_le_iff, days] at late
    obtain rfl : y = 9999 := by omega
    obtain rfl : q = 3 := by omega
    refine ⟨"9999-Q4", by decide, ?_⟩
    have last_digit : (padded 1 4).toList = ['4'] := by decide
    rw [written, List.singleton_inj.1 (digit.trans last_digit)]
    rfl
  | @month year month y m _ four number two part few first last =>
    obtain ⟨small, written⟩ := eq_padded_of_four four number
    obtain ⟨_, digits⟩ :=
      eq_padded_of_digitsValue? (List.ne_nil_of_length_eq_add_one two) part
    rw [last, Period.slotStart_le_iff, days] at late
    obtain rfl : y = 9999 := by omega
    obtain rfl : m = 11 := by omega
    refine ⟨"9999-12", by decide, ?_⟩
    rw [written, digits, two]
    rfl
  | @week year week y w _ four number short part first within last =>
    obtain ⟨small, written⟩ := eq_padded_of_four four number
    obtain ⟨fits, digits⟩ :=
      eq_padded_of_digitsValue? (List.ne_nil_of_length_pos (by omega)) part
    obtain ⟨rfl, rfl⟩ := week_of_late small (first ▸ within) (last ▸ late)
    have two : week.length = 2 := by
      rcases short with one | two
      · rw [one] at fits
        exact absurd fits (by decide)
      · exact two
    refine ⟨"9999-W52", by decide, ?_⟩
    rw [written, digits, two]
    rfl

/-- **Only the last windows end in the year 10000.** -/
theorem stop_year_le_iff {s : String} (present : today.year ≤ 9999)
    (named : ofName s today = .ok (start, stop)) : stop.year ≤ 9999 ↔ trim s ∉ lastNames := by
  constructor
  · exact fun early last => stop_of_mem_lastNames last named early
  · intro other
    by_contra late
    exact other ((names_of_ofName named).mem_lastNames present late)

end ActivityMetrics.Window
