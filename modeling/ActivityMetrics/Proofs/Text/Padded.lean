import ActivityMetrics.Text.Digit
import Mathlib.Algebra.Ring.Nat

/-!
# Numbers of a fixed width

A number that fits a width is written as so many digits. Two facts carry everything that is said
about the texts of dates: the digits read back as the number (`digitsValue?_padded`), and texts of
one width are ordered as their numbers (`padded_lt_padded_iff`). So what is read as a number is that
number, written in as many digits (`eq_padded_of_digitsValue?`).

Padding is what makes the second fact true. Numbers of different widths are out of order as text,
where 10 comes before 9; that is why every number in a date has a width, and why years of more than
four digits fall out.
-/

namespace ActivityMetrics.Text

/-! ## Lists of digits

Digits `0` to `9` are consecutive characters in ascending order. This is all that is used of how
characters are numbered. -/

/-- The digits are the characters from 48 to 57. -/
theorem digit_bounds {c : Char} (h : c.isDigit) : 48 ≤ c.toNat ∧ c.toNat ≤ 57 :=
  Char.isDigit_iff_toNat.1 h

/-- Characters are ordered as their numbers. -/
theorem char_lt_iff {c d : Char} : c < d ↔ c.toNat < d.toNat := by
  rw [Char.lt_def, UInt32.lt_iff_toNat_lt]
  rfl

/-- Digits are read as the number that they write. -/
theorem digitsValue?_eq_ofDigitChars {cs : List Char} (digits : ∀ c ∈ cs, c.isDigit) :
    digitsValue? cs = some (Nat.ofDigitChars 10 cs 0) := by
  suffices step : ∀ n, cs.foldlM (fun n c => (digitValue? c).map (10 * n + ·)) n
      = some (Nat.ofDigitChars 10 cs n) from step 0
  induction cs with
  | nil => intro n; rw [Nat.ofDigitChars_nil]; rfl
  | cons c cs ih =>
    intro n
    have digit : digitValue? c = some (c.toNat - '0'.toNat) := by
      rw [digitValue?, if_pos (digits c List.mem_cons_self)]
    rw [List.foldlM_cons, digit, Nat.ofDigitChars_cons]
    exact ih (fun c hc => digits c (List.mem_cons_of_mem _ hc)) _

/-- The first of some digits counts a power of ten. -/
theorem ofDigitChars_cons_eq (c : Char) (cs : List Char) :
    Nat.ofDigitChars 10 (c :: cs) 0
      = 10 ^ cs.length * (c.toNat - 48) + Nat.ofDigitChars 10 cs 0 := by
  rw [Nat.ofDigitChars_cons, Nat.ofDigitChars_eq_ofDigitChars_zero, Nat.mul_zero, Nat.zero_add]
  rfl

/-- Digits write a number below the power of ten of their number. -/
theorem ofDigitChars_lt {cs : List Char} (digits : ∀ c ∈ cs, c.isDigit) :
    Nat.ofDigitChars 10 cs 0 < 10 ^ cs.length := by
  induction cs with
  | nil => simp
  | cons c cs ih =>
    have rest := ih fun c hc => digits c (List.mem_cons_of_mem _ hc)
    have small : c.toNat - 48 ≤ 9 := by
      have := digit_bounds (digits c List.mem_cons_self)
      omega
    have := Nat.mul_le_mul_left (10 ^ cs.length) small
    rw [ofDigitChars_cons_eq, List.length_cons, Nat.pow_succ]
    omega

/-- Lists of digits of one length are ordered as the numbers that they write. The induction is on
the lists together: the first digits count the same power of ten, and a difference there outweighs
all that follows. -/
theorem digits_lt_iff {cs ds : List Char} (length : cs.length = ds.length)
    (hc : ∀ c ∈ cs, c.isDigit) (hd : ∀ d ∈ ds, d.isDigit) :
    cs < ds ↔ Nat.ofDigitChars 10 cs 0 < Nat.ofDigitChars 10 ds 0 := by
  induction cs generalizing ds with
  | nil =>
    obtain rfl := List.length_eq_zero_iff.1 length.symm
    simp
  | cons c cs ih =>
    obtain ⟨d, ds, rfl⟩ := List.exists_cons_of_length_eq_add_one length.symm
    have tails : cs.length = ds.length := Nat.succ.inj length
    have digitsC := fun c h => hc c (List.mem_cons_of_mem _ h)
    have digitsD := fun d h => hd d (List.mem_cons_of_mem _ h)
    have boundC := ofDigitChars_lt digitsC
    have boundD := ofDigitChars_lt digitsD
    have headC := digit_bounds (hc c List.mem_cons_self)
    have headD := digit_bounds (hd d List.mem_cons_self)
    rw [List.cons_lt_cons_iff, ih tails digitsC digitsD, char_lt_iff, ← Char.toNat_inj,
      ofDigitChars_cons_eq, ofDigitChars_cons_eq, ← tails]
    rw [← tails] at boundD
    -- the first digits decide, unless they are equal
    rcases Nat.lt_trichotomy c.toNat d.toNat with h | h | h
    · have := Nat.mul_le_mul_left (10 ^ cs.length)
        (show c.toNat - 48 + 1 ≤ d.toNat - 48 by omega)
      rw [Nat.mul_add, Nat.mul_one] at this
      omega
    · rw [h]
      omega
    · have := Nat.mul_le_mul_left (10 ^ cs.length)
        (show d.toNat - 48 + 1 ≤ c.toNat - 48 by omega)
      rw [Nat.mul_add, Nat.mul_one] at this
      omega

/-- Only digits are read as a number. -/
theorem isDigit_of_digitsValue? {cs : List Char} {n : Nat} (h : digitsValue? cs = some n) :
    ∀ c ∈ cs, c.isDigit := by
  suffices step : ∀ k, cs.foldlM (fun n c => (digitValue? c).map (10 * n + ·)) k = some n →
      ∀ c ∈ cs, c.isDigit from step 0 h
  clear h
  induction cs with
  | nil => nofun
  | cons c cs ih =>
    intro k h
    rw [List.foldlM_cons] at h
    obtain ⟨next, first, rest⟩ := Option.bind_eq_some_iff.1 h
    obtain ⟨_, digit, _⟩ := Option.map_eq_some_iff.1 first
    have own : c.isDigit := by
      unfold digitValue? at digit
      split at digit
      · assumption
      · cases digit
    exact List.forall_mem_cons.2 ⟨own, ih next rest⟩

/-! ## Padded numbers

Only a number that fits the width has so many digits. A greater one is written with more, and is
then neither of the width nor in order; but it reads back all the same. -/

theorem toList_padded (width n : Nat) :
    (padded width n).toList
      = List.replicate (width - (Nat.toDigits 10 n).length) '0' ++ Nat.toDigits 10 n := by
  rw [padded, String.toList_ofList]

/-- A padded number is written with digits only. -/
theorem isDigit_of_mem_padded {width n : Nat} {c : Char} (h : c ∈ (padded width n).toList) :
    c.isDigit := by
  rw [toList_padded, List.mem_append] at h
  rcases h with h | h
  · rw [List.eq_of_mem_replicate h]
    rfl
  · exact Nat.isDigit_of_mem_toDigits (by decide) (by decide) h

theorem padded_ne_nil (width n : Nat) : (padded width n).toList ≠ [] := by
  rw [toList_padded]
  exact List.append_ne_nil_of_right_ne_nil _ Nat.toDigits_ne_nil

/-- A number that fits the width is written with so many digits. -/
theorem length_padded {width n : Nat} (pos : 0 < width) (h : n < 10 ^ width) :
    (padded width n).toList.length = width := by
  have := (Nat.length_toDigits_le_iff (by decide) pos).2 h
  rw [toList_padded, List.length_append, List.length_replicate]
  omega

/-- A padded number begins with a digit. -/
theorem exists_padded_eq_cons {width n : Nat} (pos : 0 < width) (fits : n < 10 ^ width) :
    ∃ c cs, (padded width n).toList = c :: cs ∧ c.isDigit := by
  obtain ⟨c, cs, h⟩ := List.exists_cons_of_length_pos
    (show 0 < (padded width n).toList.length by rw [length_padded pos fits]; exact pos)
  exact ⟨c, cs, h, isDigit_of_mem_padded (by rw [h]; exact List.mem_cons_self)⟩

/-- The zeros in front do not change the number. -/
theorem ofDigitChars_padded (width n : Nat) :
    Nat.ofDigitChars 10 (padded width n).toList 0 = n := by
  rw [toList_padded, Nat.ofDigitChars_append, Nat.ofDigitChars_replicate_zero, Nat.mul_zero,
    Nat.ofDigitChars_ten_toDigits]

/-- **A padded number reads back.** -/
theorem digitsValue?_padded (width n : Nat) :
    digitsValue? (padded width n).toList = some n := by
  rw [digitsValue?_eq_ofDigitChars fun _ => isDigit_of_mem_padded, ofDigitChars_padded]

/-- Numbers that are padded to the same text are the same. -/
theorem padded_injective (width : Nat) {m n : Nat} (h : padded width m = padded width n) :
    m = n := by
  have := digitsValue?_padded width m
  rw [h, digitsValue?_padded] at this
  exact (Option.some.inj this).symm

/-- **Padded numbers of one width are ordered as numbers.** -/
theorem padded_lt_padded_iff {width m n : Nat} (pos : 0 < width) (hm : m < 10 ^ width)
    (hn : n < 10 ^ width) :
    (padded width m).toList < (padded width n).toList ↔ m < n := by
  rw [digits_lt_iff (by rw [length_padded pos hm, length_padded pos hn])
    (fun _ => isDigit_of_mem_padded) (fun _ => isDigit_of_mem_padded),
    ofDigitChars_padded, ofDigitChars_padded]

/-- **What is read as a number is the number, padded to its own width.** So a name with a number in
it is known when the number and the width are. -/
theorem eq_padded_of_digitsValue? {cs : List Char} {n : Nat} (ne : cs ≠ [])
    (h : digitsValue? cs = some n) : n < 10 ^ cs.length ∧ cs = (padded cs.length n).toList := by
  have digits := isDigit_of_digitsValue? h
  have value : Nat.ofDigitChars 10 cs 0 = n :=
    Option.some.inj ((digitsValue?_eq_ofDigitChars digits).symm.trans h)
  have small : n < 10 ^ cs.length := value ▸ ofDigitChars_lt digits
  have width := length_padded (List.length_pos_iff.2 ne) small
  have less := digits_lt_iff width.symm digits fun _ => isDigit_of_mem_padded
  have greater := digits_lt_iff width (fun _ => isDigit_of_mem_padded) digits
  rw [value, ofDigitChars_padded] at less greater
  have not_before : ¬ cs < (padded cs.length n).toList := fun h => Nat.lt_irrefl _ (less.1 h)
  have not_after : ¬ (padded cs.length n).toList < cs := fun h => Nat.lt_irrefl _ (greater.1 h)
  exact ⟨small, List.le_antisymm (List.not_lt.1 not_after) (List.not_lt.1 not_before)⟩

/-! ## Numbers with a sign

What is read as a number may have a sign, so the text of a number is not known when the number is.
If the text is digits only, or the number positive, it nearly is. -/

/-- A sign is no digit of any script. -/
theorem readNat?_of_digits {cs : List Char} (digits : cs.all isDecimalDigit) (ne : cs ≠ []) :
    readNat? cs = digitsValue? cs := by
  unfold readNat?
  split
  · contradiction
  · exact absurd digits (by simp [show isDecimalDigit '+' = false by decide])
  · rfl

/-- Digits without a sign are read as a number that is not negative. -/
theorem readInt?_of_digits {cs : List Char} (digits : cs.all isDecimalDigit) (ne : cs ≠ []) :
    readInt? cs = (digitsValue? cs).map Int.ofNat := by
  unfold readInt?
  split
  · exact absurd digits (by simp [show isDecimalDigit '-' = false by decide])
  · rw [readNat?_of_digits digits ne]

/-- **A positive number is read from digits**, which may have a plus sign in front. -/
theorem eq_digits_of_readInt? {cs : List Char} {y : Int} (pos : 0 < y)
    (h : readInt? cs = some y) :
    ∃ ds n, ds ≠ [] ∧ digitsValue? ds = some n ∧ y = (n : Nat) ∧ (cs = '+' :: ds ∨ cs = ds) := by
  unfold readInt? at h
  split at h
  · split at h
    · cases h
    · obtain ⟨i, read, same⟩ := Option.map_eq_some_iff.1 h
      obtain ⟨n, _, cast⟩ := Option.bind_eq_some_iff.1 read
      have natural : (n : Int) = i := Option.some.inj cast
      omega
  · obtain ⟨n, value, same⟩ := Option.map_eq_some_iff.1 h
    unfold readNat? at value
    split at value
    · cases value
    · split at value
      · cases value
      · rename_i ds _ ne
        exact ⟨ds, n, by simpa using ne, value, same.symm, .inl rfl⟩
    · rename_i ne _
      exact ⟨cs, n, ne, value, same.symm, .inr rfl⟩

/-! ## Texts of equal beginnings

The text of a date is several numbers with marks between. Texts of this kind are compared number by
number, each of one width in both. -/

/-- Texts that begin with parts of one length are ordered by these parts, and by what follows where
they are equal. -/
theorem append_lt_append_iff {as bs cs ds : List Char} (length : as.length = bs.length) :
    as ++ cs < bs ++ ds ↔ as < bs ∨ (as = bs ∧ cs < ds) := by
  induction as generalizing bs with
  | nil =>
    obtain rfl := List.length_eq_zero_iff.1 length.symm
    simp
  | cons a as ih =>
    obtain ⟨b, bs, rfl⟩ := List.exists_cons_of_length_eq_add_one length.symm
    rw [List.cons_append, List.cons_append, List.cons_lt_cons_iff, List.cons_lt_cons_iff,
      ih (Nat.succ.inj length), List.cons.injEq]
    constructor
    · rintro (h | ⟨rfl, h | ⟨rfl, h⟩⟩)
      · exact .inl (.inl h)
      · exact .inl (.inr ⟨rfl, h⟩)
      · exact .inr ⟨⟨rfl, rfl⟩, h⟩
    · rintro ((h | ⟨rfl, h⟩) | ⟨⟨rfl, rfl⟩, h⟩)
      · exact .inl h
      · exact .inr ⟨rfl, .inl h⟩
      · exact .inr ⟨rfl, .inr ⟨rfl, h⟩⟩

/-- Texts that begin with numbers of one width are ordered by these numbers first. -/
theorem padded_append_lt_iff {width m n : Nat} {cs ds : List Char} (pos : 0 < width)
    (hm : m < 10 ^ width) (hn : n < 10 ^ width) :
    (padded width m).toList ++ cs < (padded width n).toList ++ ds ↔ m < n ∨ (m = n ∧ cs < ds) := by
  have same : (padded width m).toList = (padded width n).toList ↔ m = n :=
    ⟨fun h => padded_injective width (String.toList_injective h), fun h => by rw [h]⟩
  rw [append_lt_append_iff (by rw [length_padded pos hm, length_padded pos hn]),
    padded_lt_padded_iff pos hm hn, same]

end ActivityMetrics.Text
