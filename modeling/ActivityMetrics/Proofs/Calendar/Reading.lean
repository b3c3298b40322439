import ActivityMetrics.Failure
import ActivityMetrics.Proofs.Calendar.Stamp
import ActivityMetrics.Proofs.Text.Blank
import Mathlib.Data.List.DropRight

/-!
# Texts that read back

A form can be written as well as it can be read: a number in the digits of its field, a mark as
itself, and white space as one blank. Reading undoes writing for every form whose parts can be told
apart (`readForm_written`). That is a condition on the form, since a reader takes as many characters
as it can: white space takes all that follows it, and a year of more than four digits is the only
number that does not end by itself. So a year needs a mark behind it, and white space a number.

The texts of dates and instants are written by the forms that they are read with, so they read back.
Nothing is said of single digits there: what a date adds is that its three numbers fit their fields,
and that they determine it.

A date alone is read as an instant, too. It is a beginning of the form of an instant, which is found
too short, and only a text that is too short is tried as a date.
-/

namespace ActivityMetrics.Calendar

open Text

variable {value : Field → Int} {form : List Part} {ns : Numbers} {ds rest : List Char}

/-! ## Digits

A reader of digits stops at its width, or at the first character that is no digit. What is behind is
handed on. -/

/-- Digits are read as the number that they write, if their width or the next character ends them.
Without one of the two the reader would go on into what follows. -/
theorem readDigits_append {width? : Option Nat} (ne : ds ≠ []) (digits : ∀ c ∈ ds, c.isDigit)
    (ends : width? = some ds.length ∨ width? = none ∧ ∀ c ∈ rest.head?, c.isDigit = false) :
    readDigits width? (ds ++ rest) = .ok (Nat.ofDigitChars 10 ds 0, rest) := by
  obtain ⟨d, ds, rfl⟩ := List.exists_cons_of_ne_nil ne
  have run : (d :: (ds ++ rest)).takeWhile Char.isDigit
      = d :: ds ++ rest.takeWhile Char.isDigit :=
    List.takeWhile_append_of_pos digits
  have back : (d :: (ds ++ rest)).drop (d :: ds).length = rest :=
    List.drop_left' rfl
  rw [List.cons_append, readDigits]
  dsimp only
  rw [if_pos (digits d List.mem_cons_self), run]
  rcases ends with rfl | ⟨rfl, ends⟩
  · dsimp only
    rw [List.take_left' rfl, back]
    rfl
  · have stop : rest.takeWhile Char.isDigit = [] := by
      cases rest with
      | nil => rfl
      | cons c rest => exact List.takeWhile_cons_of_neg (by rw [ends c rfl]; nofun)
    dsimp only
    rw [stop, List.append_nil, back]
    rfl

/-- A padded number is read from as many digits as it is wide. -/
theorem readDigits_padded {width n : Nat} (pos : 0 < width) (fits : n < 10 ^ width)
    (rest : List Char) :
    readDigits (some width) ((padded width n).toList ++ rest) = .ok (n, rest) := by
  rw [readDigits_append (padded_ne_nil width n) (fun _ => isDigit_of_mem_padded)
    (.inl (congrArg some (length_padded pos fits).symm)), ofDigitChars_padded]

/-- Without a width, a padded number is read up to the next character that is no digit. -/
theorem readDigits_padded_unlimited {width n : Nat} (ends : ∀ c ∈ rest.head?, c.isDigit = false) :
    readDigits none ((padded width n).toList ++ rest) = .ok (n, rest) := by
  rw [readDigits_append (padded_ne_nil width n) (fun _ => isDigit_of_mem_padded)
    (.inr ⟨rfl, ends⟩), ofDigitChars_padded]

/-! ## Fields

All fields but the year are two digits. The year has four digits, or a sign and at least four; this
is what makes years of more digits possible, and what makes them different as texts. -/

/-- A number as its field is written. Only a year may be negative or have more digits than its field
is wide. -/
def Field.text (f : Field) (n : Int) : String :=
  match f with
  | .year => yearText n
  | _ => padded 2 n.toNat

theorem Field.text_eq_padded {f : Field} (not_year : f ≠ .year) (n : Int) :
    f.text n = padded 2 n.toNat := by
  cases f with
  | year => contradiction
  | _ => rfl

theorem Field.read_eq_readDigits {f : Field} (not_year : f ≠ .year) (cs : List Char) :
    f.read cs = (readDigits (some 2) cs).map fun (n, r) => ((n : Int), r) :=
  Field.read.eq_4 f cs not_year (fun _ year _ => not_year year) fun _ year _ => not_year year

/-- A year that begins with a digit has no sign. -/
theorem Field.read_year_of_digit {c : Char} (digit : c.isDigit) (cs : List Char) :
    Field.year.read (c :: cs)
      = (readDigits (some 4) (c :: cs)).map fun (n, r) => ((n : Int), r) := by
  refine Field.read.eq_3 (c :: cs) (fun rest same => ?_) fun rest same => ?_
  all_goals
    rw [(List.cons.inj same).1] at digit
    cases digit

/-- A number lies in the bounds of a field, which is checked after it is read. -/
def Field.Fits (f : Field) (n : Int) : Prop :=
  f.bounds.1 ≤ n ∧ n ≤ f.bounds.2

/-- All numbers but that of a year have at most two digits. -/
theorem Field.Fits.two_digits {f : Field} {n : Int} (fits : f.Fits n) (not_year : f ≠ .year) :
    0 ≤ n ∧ n.toNat < 10 ^ 2 := by
  obtain ⟨low, high⟩ := fits
  cases f with
  | year => contradiction
  | _ =>
    simp only [bounds] at low high
    omega

/-- The characters of a number are digits, after a sign at most. -/
theorem Field.not_isBlank_of_mem_text {f : Field} {n : Int} {c : Char}
    (h : c ∈ (f.text n).toList) : isBlank c = false := by
  have padded {width k : Nat} (h : c ∈ (padded width k).toList) : isBlank c = false :=
    not_isBlank_of_isDigit (isDigit_of_mem_padded h)
  cases f with
  | year =>
    rcases toList_yearText n with ⟨_, _, text⟩ | ⟨_, text⟩ | ⟨_, text⟩
    · exact padded (text ▸ h)
    all_goals
      rw [Field.text, text, List.mem_cons] at h
      rcases h with rfl | h
      · decide
      · exact padded h
  | _ => exact padded h

theorem Field.text_ne_nil (f : Field) (n : Int) : (f.text n).toList ≠ [] := by
  cases f with
  | year =>
    rcases toList_yearText n with ⟨_, _, text⟩ | ⟨_, text⟩ | ⟨_, text⟩
    · exact text ▸ padded_ne_nil _ _
    all_goals
      rw [Field.text, text]
      exact List.cons_ne_nil _ _
  | _ => exact padded_ne_nil _ _

/-- **The number of a field reads back.** Only a year needs what follows to be no digit. The three
ways to write a year are read in three ways: four digits, digits behind a minus sign, and digits
behind a plus sign. -/
theorem Field.read_text {f : Field} {n : Int} (fits : f.Fits n)
    (ends : f = .year → ∀ c ∈ rest.head?, c.isDigit = false) :
    f.read ((f.text n).toList ++ rest) = .ok (n, rest) := by
  by_cases year : f = .year
  · subst year
    -- four digits end by themselves, and behind a sign the next character has to end them
    rcases toList_yearText n with ⟨low, high, text⟩ | ⟨low, text⟩ | ⟨high, text⟩
    · have small : n.toNat < 10 ^ 4 := by omega
      obtain ⟨c, cs, first, digit⟩ := exists_padded_eq_cons (show 0 < 4 by decide) small
      have read := readDigits_padded (by decide) small rest
      rw [first, List.cons_append] at read
      rw [Field.text, text, first, List.cons_append, Field.read_year_of_digit digit, read]
      show Except.ok (((n.toNat : Nat) : Int), rest) = _
      rw [Int.toNat_of_nonneg low]
    · rw [Field.text, text, List.cons_append, Field.read, readDigits_padded_unlimited (ends rfl)]
      show Except.ok (-(n.natAbs : Int), rest) = _
      rw [Int.ofNat_natAbs_of_nonpos (by omega), Int.neg_neg]
    · rw [Field.text, text, List.cons_append, Field.read, readDigits_padded_unlimited (ends rfl)]
      show Except.ok ((n.natAbs : Int), rest) = _
      rw [Int.natAbs_of_nonneg (by omega)]
  · obtain ⟨low, small⟩ := fits.two_digits year
    rw [Field.text_eq_padded year, Field.read_eq_readDigits year,
      readDigits_padded (by decide) small]
    show Except.ok ((n.toNat : Int), rest) = _
    rw [Int.toNat_of_nonneg low]

/-! ## Forms

A form is a list of parts, and reading goes through it from left to right. Nothing is ever taken
back, so a part that takes too much cannot be made good later. -/

/-- The characters of a part. -/
def Part.chars (value : Field → Int) : Part → List Char
  | .number f => (f.text (value f)).toList
  | .mark c => [c]
  | .blank => [' ']

/-- The characters of a form. -/
def written (value : Field → Int) (form : List Part) : List Char :=
  form.flatMap (Part.chars value)

@[simp]
theorem written_nil (value : Field → Int) : written value [] = [] :=
  rfl

@[simp]
theorem written_cons (value : Field → Int) (p : Part) (form : List Part) :
    written value (p :: form) = p.chars value ++ written value form :=
  List.flatMap_cons

/-- A form is written part by part. -/
theorem written_append (value : Field → Int) (form form' : List Part) :
    written value (form ++ form') = written value form ++ written value form' :=
  List.flatMap_append

/-- The numbers that a form holds, added to others. The last one is in front, as a reader leaves
them. -/
def noted (value : Field → Int) : List Part → Numbers → Numbers
  | [], ns => ns
  | .number f :: form, ns => noted value form ((f, value f) :: ns)
  | .mark _ :: form, ns => noted value form ns
  | .blank :: form, ns => noted value form ns

/-- Forms whose parts can be told apart: a mark shows where a year ends, and a number where white
space does. The condition is on neighbours only, so it is checked by going through the form once. -/
inductive Legible : List Part → Prop
  /-- The end. -/
  | nil : Legible []
  /-- A year and the mark that ends it. -/
  | year {c : Char} {form : List Part} (ends : c.isDigit = false)
      (rest : Legible (.mark c :: form)) : Legible (.number .year :: .mark c :: form)
  /-- A number of at most two digits. -/
  | number {f : Field} {form : List Part} (not_year : f ≠ .year) (rest : Legible form) :
      Legible (.number f :: form)
  /-- A mark. -/
  | mark {c : Char} {form : List Part} (rest : Legible form) : Legible (.mark c :: form)
  /-- White space and the number that ends it. -/
  | blank {f : Field} {form : List Part} (rest : Legible (.number f :: form)) :
      Legible (.blank :: .number f :: form)

theorem legible_dateForm : Legible dateForm :=
  .year rfl (.mark (.number nofun (.mark (.number nofun .nil))))

theorem legible_instantForm : Legible instantForm :=
  .year rfl (.mark (.number nofun (.mark (.number nofun (.blank
    (.number nofun (.mark (.number nofun (.mark (.number nofun .nil))))))))))

/-- A number in front of a text is read and noted. -/
theorem readForm_number {f : Field} {n : Int} (fits : f.Fits n)
    (ends : f = .year → ∀ c ∈ rest.head?, c.isDigit = false) :
    readForm (.number f :: form) ns ((f.text n).toList ++ rest)
      = readForm form ((f, n) :: ns) rest := by
  have front : ∀ c ∈ ((f.text n).toList ++ rest).head?, isBlank c = false := by
    obtain ⟨c, cs, text⟩ := List.exists_cons_of_ne_nil (f.text_ne_nil n)
    rw [text]
    rintro _ ⟨⟩
    exact f.not_isBlank_of_mem_text (text ▸ List.mem_cons_self)
  rw [readForm, dropBlank_eq_self front, f.read_text fits ends]
  exact if_pos fits

/-- A mark in front of a text is read as itself. -/
theorem readForm_mark (c : Char) (cs : List Char) :
    readForm (.mark c :: form) ns (c :: cs) = readForm form ns cs := by
  rw [readForm, if_pos rfl]

/-- White space in front of a number is skipped twice, once for the blank and once for the number,
which does no harm. -/
theorem readForm_blank (f : Field) (cs : List Char) :
    readForm (.blank :: .number f :: form) ns (' ' :: cs) = readForm (.number f :: form) ns cs := by
  have again : dropBlank (dropBlank (' ' :: cs)) = dropBlank cs :=
    (List.dropWhile_idempotent _ _).trans (List.dropWhile_cons_of_pos (by decide))
  rw [readForm, readForm, again, ← readForm]

/-- **Reading undoes writing**, part by part: a form notes the numbers that it was written with, and
leaves what follows. The statement has a second form behind the first one, so that a form is read
through even if it is only the beginning of what is asked for. -/
theorem readForm_written (legible : Legible form) (fits : ∀ f : Field, f.Fits (value f))
    (more : List Part) (ns : Numbers) (rest : List Char) :
    readForm (form ++ more) ns (written value form ++ rest)
      = readForm more (noted value form ns) rest := by
  induction legible generalizing ns with
  | nil => rfl
  | @year c form ends _ ih =>
    have ends : ∀ c' ∈ (written value (.mark c :: form) ++ rest).head?, c'.isDigit = false := by
      rintro _ ⟨⟩
      exact ends
    rw [written_cons, List.append_assoc]
    exact (readForm_number (fits .year) fun _ => ends).trans (ih _)
  | number not_year _ ih =>
    rw [written_cons, List.append_assoc]
    exact (readForm_number (fits _) fun year => absurd year not_year).trans (ih _)
  | mark _ ih => exact (readForm_mark _ _).trans (ih ns)
  | blank _ ih => exact (readForm_blank _ _).trans (ih ns)

/-- What is written has no white space around it, if it begins and ends with a number. So trimming
finds its ends wherever white space is put around it. -/
theorem trimmed_written {f g : Field} (first : form.head? = some (.number f))
    (last : form.getLast? = some (.number g)) : Trimmed (written value form) where
  front := by
    obtain ⟨form, rfl⟩ := List.head?_eq_some_iff.1 first
    have text : Part.chars value (.number f) = (f.text (value f)).toList := rfl
    rw [written_cons, text, List.head?_append_of_ne_nil _ (f.text_ne_nil _)]
    exact fun c hc => f.not_isBlank_of_mem_text (List.mem_of_mem_head? hc)
  back := by
    obtain ⟨form, rfl⟩ := List.getLast?_eq_some_iff.1 last
    have text : Part.chars value (.number g) = (g.text (value g)).toList := rfl
    rw [written_append, written_cons, written_nil, List.append_nil, text,
      List.getLast?_append_of_ne_nil _ (g.text_ne_nil _)]
    exact fun c hc => g.not_isBlank_of_mem_text (List.mem_of_getLast? hc)

/-! ## Dates and instants

Two forms are left to be looked at, and the numbers of a date and an instant to be put into them.
They fit their fields, since that is how the calendar bounds them. -/

/-- The numbers of an instant. -/
def Instant.number (t : Instant) : Field → Int
  | .year => t.date.year
  | .month => t.date.month
  | .day => t.date.dayOfMonth
  | .hour => t.hour
  | .minute => t.minute
  | .second => t.second

/-- The years of the calendar. -/
theorem Date.year_bounds (d : Date) : -262143 ≤ d.year ∧ d.year ≤ 262142 := by
  have low : -262143 ≤ d.year ↔ firstDay ≤ d.day := le_yearOf_iff
  have high : 262143 ≤ d.year ↔ lastDay + 1 ≤ d.day := le_yearOf_iff
  have first := d.first_le
  have last := d.le_last
  omega

/-- The numbers of an instant fit their fields. -/
theorem Instant.fits_number (t : Instant) (f : Field) : f.Fits (t.number f) := by
  have year := t.date.year_bounds
  have month : 1 ≤ t.date.month ∧ t.date.month ≤ 12 := monthOf_bounds _
  have day : 1 ≤ t.date.dayOfMonth ∧ t.date.dayOfMonth ≤ 31 := ⟨one_le_dayOf _, dayOf_le _⟩
  have hour := t.hour_lt
  have minute := t.minute_lt
  have second := t.second_le
  cases f <;> simp only [Field.Fits, Field.bounds, number] <;> omega

/-- The text of a date is written by the form of a date. -/
theorem Date.toList_text_eq_written (d : Date) :
    d.text.toList = written d.midnight.number dateForm := by
  rw [d.toList_text]
  simp only [dateForm, written_cons, written_nil, List.append_nil, Part.chars, Field.text,
    Instant.number, midnight, Int.toNat_natCast]
  rfl

/-- The text of an instant is written by the form of an instant. -/
theorem Instant.toList_text_eq_written (t : Instant) :
    t.text.toList = written t.number instantForm := by
  rw [t.toList_text, t.date.toList_text_eq_written, instantForm, written_append, clockChars]
  simp only [written_cons, written_nil, List.append_nil, Part.chars, Field.text, number,
    Int.toNat_natCast]
  rfl

/-- A date exists by its three numbers: they name a real day, and that day is in the calendar since
the date is. -/
theorem Date.ofCivil?_civil (d : Date) : ofCivil? d.year d.month d.dayOfMonth = some d := by
  have place := monthStart_add_dayOf d.day
  have pos := one_le_dayOf d.day
  have real : 1 ≤ d.month ∧ d.month ≤ 12 ∧ 1 ≤ d.dayOfMonth ∧
      d.dayOfMonth ≤ monthLength (isLeap d.year) d.month :=
    ⟨(monthOf_bounds _).1, (monthOf_bounds _).2, pos, dayOf_le_monthLength _⟩
  rw [ofCivil?, if_pos real, ofDay?_eq_some_iff]
  simp only [year, month, dayOfMonth]
  omega

/-- Numbers with those of a date are that date. -/
theorem Numbers.date_eq {d : Date} (year : ns.get .year = d.year) (month : ns.get .month = d.month)
    (day : ns.get .day = d.dayOfMonth) : ns.date = .ok d := by
  rw [date, year, month, day, Int.toNat_natCast, Int.toNat_natCast, d.ofCivil?_civil]

theorem Date.read_of_trimChars {d : Date} {s : String} (h : trimChars s.toList = d.text.toList) :
    Date.read s = .ok d := by
  have read := readForm_written legible_dateForm d.midnight.fits_number [] [] []
  rw [List.append_nil, List.append_nil, ← d.toList_text_eq_written, readForm] at read
  rw [Date.read, toList_trim, h, read]
  exact Numbers.date_eq rfl rfl rfl

theorem Instant.read_of_trimChars {t : Instant} {s : String}
    (h : trimChars s.toList = t.text.toList) : Instant.read s = .ok t := by
  have read := readForm_written legible_instantForm t.fits_number [] [] []
  rw [List.append_nil, List.append_nil, ← t.toList_text_eq_written, readForm] at read
  have instant : (noted t.number instantForm []).instant = .ok t := by
    have date : (noted t.number instantForm []).date = .ok t.date := Numbers.date_eq rfl rfl rfl
    rw [Numbers.instant, date]
    exact dif_pos ⟨t.hour_lt, t.minute_lt, t.second_le⟩
  rw [Instant.read, toList_trim, h, read]
  dsimp only
  rw [instant]

/-- A date alone is too short for an instant, so it is read as a date. -/
theorem Instant.read_date_of_trimChars {d : Date} {s : String}
    (h : trimChars s.toList = d.text.toList) : Instant.read s = .ok d.midnight := by
  have short : readForm instantForm [] d.text.toList = .error .tooShort := by
    rw [d.toList_text_eq_written, ← List.append_nil (written _ _)]
    exact readForm_written legible_dateForm d.midnight.fits_number _ [] []
  rw [Instant.read, toList_trim, h, short]
  dsimp only
  rw [Date.read_of_trimChars h]
  rfl

/-- **Dates and instants read back from their texts**, over the whole calendar and whatever white
space stands around them, leap seconds included. A date alone is also read as its midnight.

So what is stored as text has lost nothing, in years with a sign as well. It is the converse that
fails: many texts are read as the same date, since a month may have one digit. -/
theorem texts_read_back (d : Date) (t : Instant) {before behind : String}
    (front : AllBlank before.toList) (back : AllBlank behind.toList) :
    readDate (before ++ d.text ++ behind) = .ok d ∧
      readInstant (before ++ t.text ++ behind) = .ok t ∧
        readInstant (before ++ d.text ++ behind) = .ok d.midnight := by
  have trim {s : String} (trimmed : Trimmed s.toList) :
      trimChars (before ++ s ++ behind).toList = s.toList := by
    refine trimChars_eq_iff.2 ⟨trimmed, before.toList, behind.toList, front, back, ?_⟩
    rw [String.toList_append, String.toList_append]
  have date : Trimmed d.text.toList :=
    d.toList_text_eq_written ▸ trimmed_written rfl rfl
  have instant : Trimmed t.text.toList :=
    t.toList_text_eq_written ▸ trimmed_written rfl rfl
  refine ⟨?_, ?_, ?_⟩
  · rw [readDate, Date.read_of_trimChars (trim date)]
  · rw [readInstant, Instant.read_of_trimChars (trim instant)]
  · rw [readInstant, Instant.read_date_of_trimChars (trim date)]

/-- The first day of the calendar. -/
def Date.first : Date :=
  ⟨firstDay, by decide, by decide⟩

/-- The last instant of the calendar, a leap second. -/
def Instant.last : Instant :=
  Date.leapSecond ⟨lastDay, by decide, by decide⟩

/-- The ends of the calendar, with a tabulator and an ideographic space in front. -/
theorem texts_read_back_ends :
    (AllBlank "\t\u3000".toList ∧ AllBlank " \n".toList) ∧
      readDate "\t\u3000-262143-01-01 \n" = .ok .first ∧
      readInstant "\t\u3000+262142-12-31 23:59:60 \n" = .ok .last ∧
      readInstant "\t\u3000-262143-01-01 \n" = .ok Date.first.midnight := by
  have front : AllBlank "\t\u3000".toList := List.all_eq_true.1 rfl
  have back : AllBlank " \n".toList := List.all_eq_true.1 rfl
  have date : "\t\u3000" ++ Date.first.text ++ " \n" = "\t\u3000-262143-01-01 \n" := by decide
  have instant : "\t\u3000" ++ Instant.last.text ++ " \n"
      = "\t\u3000+262142-12-31 23:59:60 \n" := by decide
  have ends := texts_read_back .first .last front back
  rw [date, instant] at ends
  exact ⟨⟨front, back⟩, ends⟩

end ActivityMetrics.Calendar
