import ActivityMetrics.Proofs.Text.Blank
import ActivityMetrics.Proofs.Window

/-!
# Named windows are whole buckets

A named window begins with a bucket and ends with one: a year with its twelve months, a quarter with
three of them, a week with the one that it names, and a rolling window with as many days as it says
(`Window.Whole`). So a series over a named window has no bucket that is cut off at either end, and
its first and last values are as good as those between.

A text that names no window is refused as such. This is more than that some failure results: a name
never leads to a computation that leaves the calendar, although three of its steps could do so
(`Window.refusing_ofName`). What saves them is the year. For months it is small because the first
day was found, and for single months and weeks because it was spelled by four digits.

Conversely the labels that answers give to years and to weeks are names, and stand for the buckets
that they label. That takes both directions of reading numbers: a label is written with padding by
one function, and read by shape, as digits, by another.
-/

namespace ActivityMetrics.Window

open Calendar Text

variable {cs days year part : List Char} {today a b d : Date} {win : Window} {p : Period}

/-! ## Windows made of buckets

A window is compared with the buckets of a period by its days. For a window of whole buckets it is
enough to know between which two slots it lies. -/

/-- The buckets of a window fill it, and have these identifiers. The first bucket begins with the
window, and the one after the last begins where the window ends, so none of them is cut off. -/
def MadeOf (p : Period) (ids : List Int) (win : Window) : Prop :=
  ∃ axis, p.buckets win.1 win.2 = .ok axis ∧ axis.map (·.id) = ids ∧
    axis.head?.map (·.start) = some win.1 ∧
    (axis.getLast?.bind fun b => p.next? b.start) = some win.2

/-- **A window that begins and ends with slots is made of the buckets between.** All named windows
come under this one statement, with their own period and their own number of slots. -/
theorem madeOf_of_slots {slot : Int} {n : Nat} (pos : 0 < n)
    (first : win.1.day = p.slotStart slot) (last : win.2.day = p.slotStart (slot + n)) :
    MadeOf p ((List.range n).map fun (k : Nat) => p.bucketId (p.slotStart (slot + k))) win := by
  have lt : win.1.day < win.2.day := by
    rw [first, last]
    exact p.slotStart_lt (by omega)
  have own : p.slotOf win.1.day = slot := by rw [first, Period.slotOf_slotStart]
  -- the last day of the window is in the slot before its end
  have final : p.slotOf (win.2.day - 1) = slot + n - 1 := by
    rw [Period.slotOf_eq_iff, last, Int.sub_add_cancel]
    have := p.slotStart_lt (show slot + n - 1 < slot + n by omega)
    omega
  obtain ⟨axis, buckets, is_axis⟩ := p.exists_axis_of_calendar lt
    (by rw [own, ← first]; exact win.1.first_le)
    (by rw [final, Int.sub_add_cancel, ← last]; exact win.2.le_last)
  have length : axis.length = n := by
    have := p.slotOf_add_bucketCount lt
    rw [is_axis.length_eq]
    omega
  have start : ∀ {i} (hi : i < axis.length), axis[i].start.day = p.slotStart (slot + i) :=
    fun hi => own ▸ is_axis.start_getElem hi
  have place : n - 1 < axis.length := by omega
  refine ⟨axis, buckets, ?_, ?_, ?_⟩
  · refine List.ext_getElem (by simp [length]) fun i hi _ => ?_
    rw [List.length_map] at hi
    rw [List.getElem_map, List.getElem_map, List.getElem_range,
      is_axis.id_eq (List.getElem_mem hi), start hi]
  · rw [List.head?_eq_getElem?, List.getElem?_eq_getElem (length ▸ pos), Option.map_some,
      Option.some.injEq, Date.ext_iff, start, first]
    exact congrArg p.slotStart (Int.add_zero slot)
  · rw [List.getLast?_eq_getElem?, length, List.getElem?_eq_getElem place, Option.bind_some,
      Period.next?_eq (start place), Date.ofDay?_eq_some_iff, last]
    exact congrArg p.slotStart (by omega)

/-- A window from one slot to the next is one bucket. -/
theorem madeOf_slot {slot id : Int} (first : win.1.day = p.slotStart slot)
    (last : win.2.day = p.slotStart (slot + 1)) (named : p.bucketId win.1.day = id) :
    MadeOf p [id] win := by
  have made := madeOf_of_slots Nat.one_pos first last
  rwa [List.range_one, List.map_singleton, Int.natCast_zero, Int.add_zero, ← first, named] at made

/-- Months are numbered from one more than their slots, since the identifiers count from 1 where the
slots count from 0. -/
theorem bucketId_month (n : Int) : Period.month.bucketId n = Period.month.slotOf n + 1 := by
  have := monthOf_bounds n
  simp only [Period.bucketId, Period.slotOf]
  omega

/-- Months have consecutive identifiers. -/
theorem madeOf_months {slot : Int} {n : Nat} (pos : 0 < n)
    (first : win.1.day = Period.month.slotStart slot)
    (last : win.2.day = Period.month.slotStart (slot + n)) :
    MadeOf .month ((List.range n).map fun (k : Nat) => slot + k + 1) win := by
  have made := madeOf_of_slots pos first last
  simp only [bucketId_month, Period.slotOf_slotStart] at made
  exact made

/-! ## The buckets of a name

A year is made of one bucket of years and of twelve of months, a quarter of three of months. For a
month, a week and a rolling window there is one period each in whose buckets they are whole. -/

/-- A name and the buckets that its window is made of. In contrast to `Window.Names`, which speaks
of slots, this speaks of the buckets that an answer shows, by their identifiers. -/
inductive Whole (today : Date) : List Char → Window → Prop
  /-- As many days as the name counts, up to the present one. -/
  | rolling {days : List Char} {mark : Char} {n : Nat} {win : Window}
      (marked : mark = 'd' ∨ mark = 'D') (count : digitsValue? days = some n) (pos : 0 < n)
      (last : win.2 = today)
      (made : MadeOf .day ((List.range n).map fun (k : Nat) => (today.day - n + k) * 86400) win) :
      Whole today (days ++ [mark]) win
  /-- The year, and the twelve months of it. -/
  | year {cs : List Char} {y : Int} {win : Window} (bytes : byteLength cs = 4)
      (number : readInt32? cs = some y) (year : MadeOf .year [y] win)
      (months : MadeOf .month ((List.range 12).map fun (m : Nat) => y * 12 + m + 1) win) :
      Whole today cs win
  /-- Three months of the year. -/
  | quarter {year : List Char} {c : Char} {y q : Nat} {win : Window} (four : year.length = 4)
      (number : digitsValue? year = some y) (quarter : digitsValue? [c] = some (q + 1))
      (few : q < 4)
      (months : MadeOf .month ((List.range 3).map fun (m : Nat) => y * 12 + 3 * q + m + 1) win) :
      Whole today (year ++ ['-', 'Q', c]) win
  /-- The month of the year. -/
  | month {year month : List Char} {y m : Nat} {win : Window} (four : year.length = 4)
      (number : digitsValue? year = some y) (two : month.length = 2)
      (part : digitsValue? month = some m) (pos : 1 ≤ m) (few : m ≤ 12)
      (made : MadeOf .month [(y : Int) * 12 + m] win) : Whole today (year ++ '-' :: month) win
  /-- The week of the ISO year. -/
  | week {year week : List Char} {y w : Nat} {win : Window} (four : year.length = 4)
      (number : digitsValue? year = some y) (short : week.length = 1 ∨ week.length = 2)
      (part : digitsValue? week = some w) (pos : 1 ≤ w)
      (made : MadeOf .week [(y : Int) * 100 + w] win) :
      Whole today (year ++ '-' :: 'W' :: week) win

/-- **What a name stands for is made of whole buckets.** For a week there is something to show
beyond the slots: that the identifier of its bucket is the year and the number in the name, and not
those of the year before or after. -/
theorem Names.whole (h : Names today cs win) : Whole today cs win := by
  cases h with
  | rolling marked count pos first last =>
    refine .rolling marked count pos last ?_
    refine madeOf_of_slots pos first ?_
    rw [last]
    exact (Int.sub_add_cancel _ _).symm
  | year bytes number first last =>
    refine .year bytes number (madeOf_slot first last ?_) ?_
    · rw [first]
      exact Period.year.slotOf_slotStart _
    · rw [← slotStart_january] at first last
      exact madeOf_months (by decide) first (last.trans (congrArg _ (by omega)))
  | quarter four number quarter few first last =>
    exact .quarter four number quarter few (madeOf_months (by decide) first last)
  | month four number two part few first last =>
    refine .month four number two part (Nat.le_add_left 1 _) few (madeOf_slot first last ?_)
    rw [bucketId_month, first, Period.slotOf_slotStart]
    exact Int.add_assoc _ _ _
  | @week year week y w win four number short part first within last =>
    refine .week four number short part (Nat.le_add_left 1 _) (madeOf_slot first last ?_)
    -- the window begins on a Monday, so its week is counted from there
    have monday : monday win.1.day = win.1.day := by
      simp only [first, Period.slotStart, Calendar.monday, weekday]
      omega
    have count : win.1.day = isoYearStart y + 7 * w := by
      rw [← slotStart_isoYearStart, first]
      simp only [Period.slotStart]
      omega
    obtain ⟨own, number⟩ := isoYear_isoWeek_iff.2 ⟨monday.trans count, monday.symm ▸ within⟩
    rw [Period.bucketId, own, number]

/-! ## Names that are refused

The steps of reading a name are refusals or results each, and so is what they are composed of. Only
the steps that compute a day from a day need a reason. -/

/-- A computation gives a result, or refuses the filter. In particular it does not break off for
want of a calendar. -/
def Refusing {α : Type} (x : Outcome α) : Prop :=
  ∀ e, x = .error e → ∃ fault, e = .filter fault

section

variable {α β : Type} {x : Outcome α} {f : α → Outcome β}

/-- A result is no failure, and so not one of another kind. -/
theorem refusing_ok (r : α) : Refusing (.ok r : Outcome α) :=
  fun _ h => nomatch h

/-- The failures of a filter are those that a name is refused with. -/
theorem refusing_error (fault : FilterFault) : Refusing (.error (.filter fault) : Outcome α) :=
  fun _ h => ⟨fault, (Except.error.inj h).symm⟩

/-- If a computation refuses names and so does what comes after its success, the two together do.
What comes after has to do so only for results that can come up. -/
theorem Refusing.bind (first : Refusing x) (next : ∀ r, x = .ok r → Refusing (f r)) :
    Refusing (x >>= f) := by
  intro e h
  rcases bind_eq_error_iff.1 h with fails | ⟨r, result, fails⟩
  · exact first e fails
  · exact next r result e fails

end

/-- A year that cannot be read is refused as a name. -/
theorem refusing_readYear (cs : List Char) : Refusing (readYear cs) := by
  unfold readYear
  split
  · exact refusing_ok _
  · exact refusing_error _

/-- A part of a year that cannot be read is refused as a name. -/
theorem refusing_readPart (what : String) (cs : List Char) : Refusing (readPart what cs) := by
  unfold readPart
  split
  · exact refusing_ok _
  · exact refusing_error _

/-- A day that does not exist is refused as a name. -/
theorem refusing_civilDay (y : Int) (m d : Nat) : Refusing (civilDay y m d) := by
  unfold civilDay
  split
  · exact refusing_ok _
  · exact refusing_error _

/-- A year that is too large for the next one is too large for the calendar, so it is refused. -/
theorem refusing_months (y : Int) (first next : Nat) : Refusing (months y first next) := by
  refine (refusing_civilDay _ _ _).bind fun start begins => ?_
  split
  · rw [yearAfter_of_civilDay begins]
    exact (refusing_civilDay (y + 1) 1 1).bind fun stop _ => refusing_ok _
  · exact (refusing_civilDay _ _ _).bind fun stop _ => refusing_ok _

/-- The month after one of four digits begins in the calendar. Without the bound on the year this
fails, at the last month of the calendar. -/
theorem refusing_oneMonth {y : Int} (small : y < 10000) (m : Nat) : Refusing (oneMonth y m) := by
  refine (refusing_civilDay _ _ _).bind fun start begins => ?_
  obtain ⟨bounds, first⟩ := day_of_civilDay begins
  have longer := Period.month.slotStart_lt (Int.lt_succ (y * 12 + (m - 1 : Nat)))
  have last := Period.month.slotStart_mono (show y * 12 + (m - 1 : Nat) + 1 ≤ 120000 by omega)
  have early := start.first_le
  rw [first] at early
  have calendar : firstDay ≤ Period.month.slotStart (y * 12 + (m - 1 : Nat) + 1) ∧
      Period.month.slotStart (y * 12 + (m - 1 : Nat) + 1) ≤ lastDay :=
    ⟨Int.le_trans early (Int.le_of_lt longer), Int.le_trans last (by decide)⟩
  rw [Period.next?_eq first, Date.ofDay?, dif_pos calendar]
  exact refusing_ok _

/-- A number of days that leads out of the calendar is refused as a name. -/
theorem refusing_rolling (days : List Char) (today : Date) : Refusing (rolling days today) := by
  unfold rolling
  split
  · exact refusing_error _
  · split
    · exact refusing_error _
    · split
      · exact refusing_ok _
      · exact refusing_error _

/-- The week after one of four digits is in the calendar. Without the bound on the year this fails,
at the last Monday of the calendar. -/
theorem refusing_isoWeek (text : String) {y : Int} (small : y < 10000) (w : Nat) :
    Refusing (isoWeek text y w) := by
  unfold isoWeek
  split
  · exact refusing_error _
  · rename_i start found
    split
    · exact refusing_ok _
    · rename_i outside
      simp only [Date.ofIsoWeek?] at found
      split at found
      · rename_i bounds
        have begins := Date.ofDay?_eq_some_iff.1 found
        have last : isoYearStart 10000 = 2932899 := by decide
        have before := isoYearStart_mono (show y + 1 ≤ 10000 by omega)
        have calendar : firstDay ≤ start.day + 7 ∧ start.day + 7 ≤ lastDay := by
          have := start.first_le
          have final : lastDay = 95026236 := rfl
          omega
        rw [Date.addDays?, Date.ofDay?, dif_pos calendar] at outside
        cases outside
      · cases found

/-- A year that is spelled by four digits is less than 10000. A year of four bytes may have a sign
and is treated without this, as the months of a year do not need the bound. -/
theorem year_lt_of_readYear {year : List Char} {y : Int} (four : year.length = 4)
    (digits : year.all isDecimalDigit) (number : readYear year = .ok y) : y < 10000 := by
  obtain ⟨n, value, rfl⟩ := exists_of_readYear four digits number
  exact Int.ofNat_lt.2 (eq_padded_of_four four value).1

/-- **A name is refused only as a filter.** Every form is spelled by characters that bound its year,
and with this bound no step leaves the calendar. -/
theorem refusing_ofName (s : String) (today : Date) : Refusing (ofName s today) := by
  unfold ofName
  dsimp only
  split
  · exact refusing_error _
  all_goals rename_i form
  · exact refusing_rolling _ _
  · exact (refusing_readYear _).bind fun y _ => refusing_months _ _ _
  · exact (refusing_readYear _).bind fun y _ => refusing_months _ _ _
  -- the form of a week or a month has checked that its year is four digits
  · refine (refusing_readYear _).bind fun y number => ?_
    refine (refusing_readPart _ _).bind fun w _ => ?_
    have spelled := form?_eq_some form
    generalize (trim s).toList = cs at spelled
    cases spelled with
    | week four digits => exact refusing_isoWeek _ (year_lt_of_readYear four digits number) w
  · refine (refusing_readYear _).bind fun y number => ?_
    refine (refusing_readPart _ _).bind fun m _ => ?_
    have spelled := form?_eq_some form
    generalize (trim s).toList = cs at spelled
    cases spelled with
    | month four digits => exact refusing_oneMonth (year_lt_of_readYear four digits number) m

/-! ## Names that are read

In the other direction, the name that is written for a window is read again. The digits of a year
are four, and so it is recognized before its number is known. -/

/-- The digits `0` to `9` are decimal digits. -/
theorem isDecimalDigit_of_isDigit {c : Char} (h : c.isDigit) : isDecimalDigit c := by
  obtain ⟨low, high⟩ := digit_bounds h
  refine List.any_eq_true.2 ⟨(0x30, 0x39), List.mem_cons_self, ?_⟩
  exact Bool.and_eq_true_iff.2 ⟨decide_eq_true low, decide_eq_true high⟩

theorem all_isDecimalDigit (digits : ∀ c ∈ cs, c.isDigit) : cs.all isDecimalDigit :=
  List.all_eq_true.2 fun c hc => isDecimalDigit_of_isDigit (digits c hc)

/-- A text that begins and ends with a digit has no white space around it. -/
theorem trim_eq_self {s : String} {c c' : Char} {cs' : List Char} (front : s.toList = c :: cs)
    (back : s.toList = cs' ++ [c']) (hc : c.isDigit) (hc' : c'.isDigit) : trim s = s := by
  refine String.toList_injective ((toList_trim s).trans (trimChars_eq_self ⟨?_, ?_⟩))
  · rw [front]
    rintro _ ⟨⟩
    exact not_isBlank_of_isDigit hc
  · rw [back, List.getLast?_concat]
    rintro _ ⟨⟩
    exact not_isBlank_of_isDigit hc'

/-- A text that ends with a digit is no rolling window. -/
theorem rollingDays?_of_digit {c : Char} (digit : c.isDigit) : rollingDays? (cs ++ [c]) = none := by
  unfold rollingDays?
  rw [List.reverse_append, List.reverse_singleton, List.singleton_append]
  refine if_neg fun shape => ?_
  rcases shape.1 with rfl | rfl <;> cases digit

/-- A digit has one byte. -/
theorem byteLength_of_digits (digits : ∀ c ∈ cs, c.isDigit) : byteLength cs = cs.length := by
  suffices step : ∀ n, cs.foldl (fun n c => n + c.utf8Size) n = n + cs.length from
    (step 0).trans (Nat.zero_add _)
  induction cs with
  | nil => exact fun n => rfl
  | cons c cs ih =>
    intro n
    have one : c.utf8Size = 1 := by
      rw [Char.utf8Size_eq_one_iff, UInt32.le_iff_toNat_le]
      exact Nat.le_trans (digit_bounds (digits c List.mem_cons_self)).2 (by decide)
    rw [List.foldl_cons, ih fun c hc => digits c (List.mem_cons_of_mem _ hc), one, List.length_cons]
    omega

/-- Four digits are a year. -/
theorem form?_year (four : cs.length = 4) (digits : ∀ c ∈ cs, c.isDigit) :
    form? cs = some (.year cs) := by
  have ne : cs ≠ [] := List.ne_nil_of_length_eq_add_one four
  have rolls : rollingDays? cs = none := by
    rw [← List.dropLast_append_getLast ne]
    exact rollingDays?_of_digit (digits _ (List.getLast_mem ne))
  unfold form?
  rw [rolls]
  exact if_pos ((byteLength_of_digits digits).trans four)

/-- What follows four digits and a hyphen is a part of a year, unless it ends in a letter. A text
like that is too long to be taken for a year, and without a letter at the end it is no rolling
window. -/
theorem form?_part {c : Char} {cs : List Char} (four : year.length = 4)
    (digits : ∀ c ∈ year, c.isDigit) (part_eq : part = cs ++ [c]) (digit : c.isDigit) :
    form? (year ++ '-' :: part) = partForm? year part := by
  have rolls : rollingDays? (year ++ '-' :: part) = none := by
    have ends : year ++ '-' :: part = (year ++ '-' :: cs) ++ [c] := by
      rw [part_eq, List.append_assoc, List.cons_append]
    rw [ends]
    exact rollingDays?_of_digit digit
  have long : ¬ byteLength (year ++ '-' :: part) = 4 := by
    have := length_le_byteLength (year ++ '-' :: part)
    rw [List.length_append, List.length_cons] at this
    omega
  have all := all_isDecimalDigit digits
  obtain ⟨y₁, y₂, y₃, y₄, rfl⟩ := List.length_eq_four.1 four
  unfold form?
  rw [rolls]
  exact (if_neg long).trans (if_pos all)

/-- A number of a few digits fits 32 bits. -/
theorem readNat32?_padded {width n : Nat} (pos : 0 < width) (fits : n < 10 ^ width)
    (few : width ≤ 4) : readNat32? (padded width n).toList = some n := by
  have digits : (padded width n).toList.all isDecimalDigit :=
    all_isDecimalDigit fun _ => isDigit_of_mem_padded
  have ne : (padded width n).toList ≠ [] :=
    List.ne_nil_of_length_pos (by rw [length_padded pos fits]; exact pos)
  have small : n < 4294967296 :=
    Nat.lt_of_lt_of_le fits (Nat.le_trans (Nat.pow_le_pow_right (by decide) few) (by decide))
  rw [readNat32?, readNat?_of_digits digits ne, digitsValue?_padded, Option.filter_some,
    if_pos (decide_eq_true small)]

/-- A year of four digits is read as its number. -/
theorem readYear_padded {y : Nat} (small : y < 10000) :
    readYear (padded 4 y).toList = .ok (y : Int) := by
  have digits : (padded 4 y).toList.all isDecimalDigit :=
    all_isDecimalDigit fun _ => isDigit_of_mem_padded
  have ne : (padded 4 y).toList ≠ [] :=
    List.ne_nil_of_length_pos (by rw [length_padded (by decide) small]; decide)
  have bounds : -2147483648 ≤ (y : Int) ∧ (y : Int) < 2147483648 := by omega
  have read : readInt32? (padded 4 y).toList = some (y : Int) := by
    rw [readInt32?, readInt?_of_digits digits ne, digitsValue?_padded, Option.map_some,
      Option.filter_some]
    exact if_pos (decide_eq_true bounds)
  rw [readYear, read]

/-- The first of a month is in the calendar when its day is. Together with the next statements this
is the way back from the days of a window to its name. -/
theorem civilDay_eq {y : Int} {m : Nat} (low : 1 ≤ m) (high : m ≤ 12)
    (first : a.day = Period.month.slotStart (y * 12 + (m - 1 : Nat))) :
    civilDay y m 1 = .ok a := by
  rw [civilDay, Period.ofCivil?_first low high, Date.ofDay?_eq_some_iff.2 first]

/-- Months of a year are a window when the calendar has its first day and the one after its last. -/
theorem months_eq {y : Int} {m m' : Nat} (low : 1 ≤ m) (between : m < m') (high : m' ≤ 13)
    (first : a.day = Period.month.slotStart (y * 12 + (m - 1 : Nat)))
    (last : b.day = Period.month.slotStart (y * 12 + (m' - 1 : Nat))) :
    months y m m' = .ok (a, b) := by
  have begins := civilDay_eq low (by omega) first
  rw [months, begins]
  by_cases december : m' = 13
  · have january : y * 12 + (m' - 1 : Nat) = (y + 1) * 12 + (1 - 1 : Nat) := by omega
    rw [january] at last
    have ends := civilDay_eq (by decide) (by decide) last
    have after := yearAfter_of_civilDay begins
    simp only [bind, Except.bind, if_pos december, after, ends, pure, Except.pure]
  · have ends := civilDay_eq (by omega) (by omega) last
    simp only [bind, Except.bind, if_neg december, ends, pure, Except.pure]

/-- A week that begins within its year is found by its number. -/
theorem isoWeek_eq {y : Int} {w : Nat} (text : String)
    (first : a.day = isoYearStart y + 7 * w) (within : a.day < isoYearStart (y + 1))
    (last : b.day = a.day + 7) : isoWeek text y (w + 1) = .ok (a, b) := by
  have begins : isoYearStart y + 7 * (((w + 1 : Nat) : Int) - 1) = a.day := by omega
  have found : Date.ofIsoWeek? y (w + 1) = some a := by
    simp only [Date.ofIsoWeek?]
    rw [begins, if_pos ⟨Nat.le_add_left 1 w, within⟩, Date.ofDay?_day]
  have next : a.addDays? 7 = some b := Date.ofDay?_eq_some_iff.2 last
  simp only [isoWeek, found, next]

/-! ## Years, quarters and weeks as they are written

A name is written for every year, quarter and week, with its numbers padded, and is read again. What
it stands for is the window that begins and ends with the slots of these numbers. -/

section

variable {y : Nat} (small : y < 10000)
include small

/-- The digits of a year. -/
theorem year_digits : (padded 4 y).toList.length = 4 ∧ ∀ c ∈ (padded 4 y).toList, c.isDigit :=
  ⟨length_padded (by decide) small, fun _ => isDigit_of_mem_padded⟩

/-- The name of a year is read as its window. -/
theorem ofName_year (first : a.day = Period.year.slotStart y)
    (last : b.day = Period.year.slotStart (y + 1)) : ofName (padded 4 y) today = .ok (a, b) := by
  obtain ⟨four, digits⟩ := year_digits small
  obtain ⟨c, cs, front, digit⟩ := exists_padded_eq_cons (show 0 < 4 by decide) small
  have ne : (padded 4 y).toList ≠ [] := List.ne_nil_of_length_eq_add_one four
  have trimmed : trim (padded 4 y) = padded 4 y :=
    trim_eq_self front (List.dropLast_append_getLast ne).symm digit (digits _ (List.getLast_mem ne))
  rw [← slotStart_january] at first last
  unfold ofName
  simp only [trimmed, form?_year four digits, readYear_padded small, bind, Except.bind]
  exact months_eq (by decide) (by decide) (by decide) (by rw [first]; exact congrArg _ (by omega))
    (by rw [last]; exact congrArg _ (by omega))

/-- A name of a part of a year that ends in a digit is read as it is written. Neither white space
nor one of the earlier forms gets in the way. -/
theorem trim_and_form? {part : String} {c : Char} {cs : List Char} {rest : List Char}
    (front : part.toList = '-' :: rest) (back : rest = cs ++ [c]) (digit : c.isDigit) :
    trim (padded 4 y ++ part) = padded 4 y ++ part ∧
      form? (padded 4 y ++ part).toList = partForm? (padded 4 y).toList rest := by
  obtain ⟨four, digits⟩ := year_digits small
  obtain ⟨c', cs', begins, digit'⟩ := exists_padded_eq_cons (show 0 < 4 by decide) small
  have written : (padded 4 y ++ part).toList = (padded 4 y).toList ++ '-' :: rest := by
    rw [String.toList_append, front]
  have head : (padded 4 y ++ part).toList = c' :: (cs' ++ '-' :: rest) := by
    rw [written, begins, List.cons_append]
  have tail : (padded 4 y ++ part).toList = ((padded 4 y).toList ++ '-' :: cs) ++ [c] := by
    rw [written, back, List.append_assoc, List.cons_append]
  refine ⟨trim_eq_self head tail digit' digit, ?_⟩
  rw [written]
  exact form?_part four digits back digit

/-- The name of a quarter is read as its window. -/
theorem ofName_quarter {q : Nat} (few : q < 4)
    (first : a.day = Period.month.slotStart (y * 12 + 3 * q))
    (last : b.day = Period.month.slotStart (y * 12 + 3 * (q + 1))) :
    ofName (padded 4 y ++ "-Q" ++ padded 1 (q + 1)) today = .ok (a, b) := by
  obtain ⟨c, written, digit, form⟩ : ∃ c, (padded 1 (q + 1)).toList = [c] ∧ c.isDigit ∧
      partForm? (padded 4 y).toList ['Q', c] = some (.quarter (padded 4 y).toList (q + 1)) := by
    obtain rfl | rfl | rfl | rfl : q = 0 ∨ q = 1 ∨ q = 2 ∨ q = 3 := by omega
    · exact ⟨'1', by decide, by decide, rfl⟩
    · exact ⟨'2', by decide, by decide, rfl⟩
    · exact ⟨'3', by decide, by decide, rfl⟩
    · exact ⟨'4', by decide, by decide, rfl⟩
  have front : ("-Q" ++ padded 1 (q + 1)).toList = '-' :: ['Q', c] := by
    rw [String.toList_append, written]
    rfl
  obtain ⟨trimmed, spelled⟩ := trim_and_form? small front (show ['Q', c] = ['Q'] ++ [c] from rfl)
    digit
  rw [String.append_assoc]
  unfold ofName
  simp only [trimmed, spelled, form, readYear_padded small, bind, Except.bind]
  exact months_eq (by omega) (by omega) (by omega) (by rw [first]; exact congrArg _ (by omega))
    (by rw [last]; exact congrArg _ (by omega))

/-- The name of a week is read as its window. -/
theorem ofName_week {w : Nat} (few : w < 99) (first : a.day = isoYearStart y + 7 * w)
    (within : a.day < isoYearStart (y + 1)) (last : b.day = a.day + 7) :
    ofName (padded 4 y ++ "-W" ++ padded 2 (w + 1)) today = .ok (a, b) := by
  have fits : w + 1 < 10 ^ 2 := by omega
  have digits : ∀ c ∈ (padded 2 (w + 1)).toList, c.isDigit := fun _ => isDigit_of_mem_padded
  have two : (padded 2 (w + 1)).toList.length = 2 := length_padded (by decide) fits
  obtain ⟨c, c', written⟩ := List.length_eq_two.1 two
  have form : partForm? (padded 4 y).toList ('W' :: [c, c'])
      = some (.week (padded 4 y).toList [c, c']) :=
    if_pos ⟨.inr rfl, all_isDecimalDigit (written ▸ digits)⟩
  have part : readPart "week" [c, c'] = .ok (w + 1) := by
    rw [readPart, ← written, readNat32?_padded (by decide) fits (by decide)]
  have front : ("-W" ++ padded 2 (w + 1)).toList = '-' :: ('W' :: [c, c']) := by
    rw [String.toList_append, written]
    rfl
  have digit : c'.isDigit :=
    digits c' (by rw [written]; exact List.mem_cons_of_mem _ List.mem_cons_self)
  obtain ⟨trimmed, spelled⟩ :=
    trim_and_form? small front (show 'W' :: [c, c'] = ['W', c] ++ [c'] from rfl) digit
  rw [String.append_assoc]
  unfold ofName
  simp only [trimmed, spelled, form, readYear_padded small, part, bind, Except.bind]
  exact isoWeek_eq _ first within last

end

/-- **The quarters of a year are consecutive and cover it.** The five days at which they begin and
end are given at once, so that the end of one quarter and the beginning of the next are the same day
by definition. -/
theorem exists_quarters {y : Nat} (small : y < 10000) (today : Date) :
    ∃ d : Fin 5 → Date, ofName (padded 4 y) today = .ok (d 0, d 4) ∧
      ∀ q : Fin 4, ofName (padded 4 y ++ "-Q" ++ padded 1 (q + 1)) today
        = .ok (d q.castSucc, d q.succ) := by
  have calendar : ∀ k : Fin 5, firstDay ≤ Period.month.slotStart (y * 12 + 3 * (k : Nat)) ∧
      Period.month.slotStart (y * 12 + 3 * (k : Nat)) ≤ lastDay := by
    intro k
    have low := Period.month.slotStart_mono (show (0 : Int) ≤ y * 12 + 3 * (k : Nat) by omega)
    have high := Period.month.slotStart_mono
      (show (y : Int) * 12 + 3 * (k : Nat) ≤ 120000 by omega)
    exact ⟨Int.le_trans (by decide) low, Int.le_trans high (by decide)⟩
  refine ⟨fun k => ⟨_, (calendar k).1, (calendar k).2⟩, ofName_year small ?_ ?_, fun q => ?_⟩
  · rw [← slotStart_january]
    exact congrArg Period.month.slotStart (show (y : Int) * 12 + 3 * (0 : Nat) = _ by omega)
  · rw [← slotStart_january]
    exact congrArg Period.month.slotStart (show (y : Int) * 12 + 3 * (4 : Nat) = _ by omega)
  · exact ofName_quarter small q.isLt rfl rfl

/-! ## Labels of buckets

Labels are written for readers, and names are read from them. The two are defined apart, so that a
label is a name is a fact about each kind of label. -/

/-- **The label of a year is its name**, up to the year 9999. A later year has a sign in its label,
and more than four bytes. -/
theorem ofName_label_year (begins : Period.year.bucketStart? d = some a) (low : 0 ≤ d.year)
    (high : d.year ≤ 9999) (today : Date) :
    ∃ b, Period.year.next? a = some b ∧ ofName (Period.year.label a) today = .ok (a, b) := by
  obtain ⟨y, number⟩ := Int.eq_ofNat_of_zero_le low
  have first : a.day = Period.year.slotStart y := by
    rw [Period.bucketStart?_eq_some_iff.1 begins, ← number]
    rfl
  have own : a.year = y := by
    rw [Date.year, first]
    exact Period.year.slotOf_slotStart y
  have small : y < 10000 := by omega
  have calendar : firstDay ≤ Period.year.slotStart (y + 1) ∧
      Period.year.slotStart (y + 1) ≤ lastDay := by
    have early := Period.year.slotStart_mono (show (0 : Int) ≤ y + 1 by omega)
    have late := Period.year.slotStart_mono (show (y : Int) + 1 ≤ 10000 by omega)
    exact ⟨Int.le_trans (by decide) early, Int.le_trans late (by decide)⟩
  have label : Period.year.label a = padded 4 y := by
    rw [Period.label, own, yearText, if_pos (by omega), Int.toNat_natCast]
  refine ⟨⟨_, calendar.1, calendar.2⟩, ?_, ?_⟩
  · rw [Period.next?_eq first, Date.ofDay?_eq_some_iff]
  · rw [label]
    exact ofName_year small first rfl

/-- A number of four digits is written without zeros in front. -/
theorem padded_four {y : Nat} (low : 1000 ≤ y) : padded 4 y = toString y := by
  have long : ¬ (Nat.toDigits 10 y).length ≤ 3 := by
    rw [Nat.length_toDigits_le_iff (by decide) (by decide)]
    omega
  have none : 4 - (Nat.toDigits 10 y).length = 0 := by omega
  simp only [padded, none, List.replicate_zero, List.nil_append]
  rfl

/-- **The label of an ISO week is its name**, from the year 1000 on. The year in the label of a week
is not padded, so an earlier one has too few digits for a name. -/
theorem ofName_label_week (begins : Period.week.bucketStart? d = some a)
    (low : 1000 ≤ Calendar.isoYear d.day) (high : Calendar.isoYear d.day ≤ 9999) (today : Date) :
    ∃ b, Period.week.next? a = some b ∧ ofName (Period.week.label a) today = .ok (a, b) := by
  obtain ⟨y, number⟩ := Int.eq_ofNat_of_zero_le (Int.le_trans (by decide) low)
  -- the week begins on the Monday of the day
  have first : a.day = Period.week.slotStart (Period.week.slotOf d.day) :=
    Period.bucketStart?_eq_some_iff.1 begins
  have monday_d : monday d.day = a.day := by
    have := Period.monday_add_three d.day
    rw [first]
    simp only [Period.slotStart]
    omega
  have monday_a : monday a.day = a.day := by
    rw [← monday_d]
    simp only [monday, weekday]
    omega
  have own : isoYear a.day = y := by
    rw [← number, isoYear, isoYear, monday_a, monday_d]
  obtain ⟨w, week⟩ : ∃ w, Calendar.isoWeek a.day = w + 1 := ⟨_, rfl⟩
  obtain ⟨count, within⟩ := isoYear_isoWeek_iff.1 ⟨own, week⟩
  rw [monday_a] at count within
  have next_year := yearStart_succ y
  have leap := Bool.toNat_le (isLeap y)
  have year_begins := isoYearStart_bounds y
  have year_ends := isoYearStart_bounds (y + 1)
  have calendar : firstDay ≤ a.day + 7 ∧ a.day + 7 ≤ lastDay := by
    have last : isoYearStart 10000 = 2932899 := by decide
    have before := isoYearStart_mono (show (y : Int) + 1 ≤ 10000 by omega)
    have := a.first_le
    have final : lastDay = 95026236 := rfl
    omega
  have label : Period.week.label a = padded 4 y ++ "-W" ++ padded 2 (w + 1) := by
    rw [padded_four (by omega), Period.label, own, week]
    rfl
  refine ⟨⟨_, calendar.1, calendar.2⟩, Date.ofDay?_eq_some_iff.2 rfl, ?_⟩
  rw [label]
  exact ofName_week (by omega) (by omega) count within rfl

/-- A day of these ISO years is well inside the calendar, so its bucket has a first day. -/
theorem inner_of_isoYear (low : 1000 ≤ Calendar.isoYear d.day)
    (high : Calendar.isoYear d.day ≤ 9999) : d.Inner := by
  have early := le_yearOf_iff.1 low
  have late := mt le_yearOf_iff.2 (show ¬ 10000 ≤ yearOf (monday d.day + 3) by
    exact Int.not_le.2 (Int.lt_of_le_of_lt high (by decide)))
  have first : yearStart 1000 = -354285 := by decide
  have last : yearStart 10000 = 2932897 := by decide
  have calendar : firstDay = -96465292 ∧ lastDay = 95026236 := ⟨rfl, rfl⟩
  simp only [monday, weekday] at early late
  rw [Date.inner_iff]
  omega

/-! ## The theorem

Both directions are put together: what is said of every text that is read or refused, and of every
year that is written. -/

/-- **Named windows are whole buckets.** A name that cannot be used is refused as a filter. The
window of any other name is not empty and is made of the buckets that its form says, of which the
four quarters of a year are consecutive and cover it. The labels of years and weeks are names, and
stand for the buckets that they label.

The first part is what lets a caller show any failure as advice on the name. It excludes that the
computation breaks off at the end of the calendar (`Failure.beyondCalendar`), which the window of a
month and that of a week would do for a year that is large enough. That no name has such a year is
shown from its characters. The years of labels are bounded by what a name can hold, four digits
without a sign, and for weeks also by the label itself, which is not padded. -/
theorem ofName_whole (s : String) (today : Date) :
    (∀ e, ofName s today = .error e → ∃ fault, e = .filter fault) ∧
      (∀ win, ofName s today = .ok win → win.1 < win.2 ∧ Whole today (trim s).toList win) ∧
      (∀ y < 10000, ∃ d : Fin 5 → Date, ofName (padded 4 y) today = .ok (d 0, d 4) ∧
        ∀ q : Fin 4, ofName (padded 4 y ++ "-Q" ++ padded 1 (q + 1)) today
          = .ok (d q.castSucc, d q.succ)) ∧
      (∀ d : Date, 0 ≤ d.year → d.year ≤ 9999 → ∃ a b, Period.year.bucketStart? d = some a ∧
        Period.year.next? a = some b ∧ ofName (Period.year.label a) today = .ok (a, b)) ∧
      ∀ d : Date, 1000 ≤ Calendar.isoYear d.day → Calendar.isoYear d.day ≤ 9999 →
        ∃ a b, Period.week.bucketStart? d = some a ∧ Period.week.next? a = some b ∧
          ofName (Period.week.label a) today = .ok (a, b) := by
  refine ⟨refusing_ofName s today, fun win named => ?_, fun y small => exists_quarters small today,
    fun d low high => ?_, fun d low high => ?_⟩
  · have names := names_of_ofName named
    exact ⟨names.start_lt_stop, names.whole⟩
  · have inner : d.Inner := Date.FourDigit.inner ⟨low, high⟩
    obtain ⟨a, begins⟩ := Period.exists_bucketStart inner .year
    obtain ⟨b, next, named⟩ := ofName_label_year begins low high today
    exact ⟨a, b, begins, next, named⟩
  · obtain ⟨a, begins⟩ := Period.exists_bucketStart (inner_of_isoYear low high) .week
    obtain ⟨b, next, named⟩ := ofName_label_week begins low high today
    exact ⟨a, b, begins, next, named⟩

/-- The last day of 2020 is in the 53rd week of its year, which has a name with spaces around. -/
theorem ofName_whole_long_year :
    ∃ a b, Period.week.bucketStart? ⟨18627, by decide, by decide⟩ = some a ∧
      Period.week.label a = "2020-W53" ∧
      ofName " 2020-W53 " ⟨20089, by decide, by decide⟩ = .ok (a, b) ∧ a < b ∧
      Whole ⟨20089, by decide, by decide⟩ "2020-W53".toList (a, b) := by
  obtain ⟨_, whole, _, _, labels⟩ := ofName_whole " 2020-W53 " ⟨20089, by decide, by decide⟩
  obtain ⟨a, b, begins, next, _⟩ := labels ⟨18627, by decide, by decide⟩ (by decide) (by decide)
  have monday : Period.week.bucketStart? ⟨18627, by decide, by decide⟩
      = some ⟨18624, by decide, by decide⟩ := rfl
  obtain rfl := Option.some.inj (begins.symm.trans monday)
  have after : Period.week.next? ⟨18624, by decide, by decide⟩
      = some ⟨18631, by decide, by decide⟩ := rfl
  obtain rfl := Option.some.inj (next.symm.trans after)
  obtain ⟨order, made⟩ := whole (⟨18624, by decide, by decide⟩, ⟨18631, by decide, by decide⟩) rfl
  exact ⟨_, _, monday, by decide, rfl, order, made⟩

end ActivityMetrics.Window
