import ActivityMetrics.Period.Basic
import ActivityMetrics.Proofs.Calendar.Day
import ActivityMetrics.Proofs.Outcome

/-!
# The buckets of a window

Slots follow each other without a gap, and a slot holds at most 366 days. A bucket is determined by
its identifier (`Period.bucketId_eq_iff`), and later ones have greater identifiers. The buckets of a
window are therefore distinct, every day of the window lies in one of them, and the days of the
window in one bucket are an interval (`Period.IsAxis.id_eq_iff`). No bucket leaves the calendar when
the window keeps a year away from its ends (`Period.exists_axis_of_inner`).

The four periods differ only in `slotOf` and `slotStart`, which `Period.slotStart_le_iff` ties
together. So nearly everything here is proved for all periods at once, from that equivalence and
from the bound on the length of a slot; months and weeks have a case of their own only where lengths
and identifiers come in.

Identifiers are not slots. They are made to be read, and leave gaps at the end of a year: `202052`
and `202101` are neighbours. What they share with slots is the order, and that is enough to find a
bucket by its identifier.
-/

namespace ActivityMetrics

open Calendar

instance : Max Date := maxOfLe

instance : Min Date := minOfLe

namespace Calendar.Date

theorem day_max (a b : Date) : (max a b).day = max a.day b.day := by
  show (if a ≤ b then b else a).day = _
  by_cases h : a.day ≤ b.day
  · rw [if_pos (show a ≤ b from h), Int.max_eq_right h]
  · rw [if_neg (show ¬ a ≤ b from h), Int.max_eq_left (by omega)]

theorem day_min (a b : Date) : (min a b).day = min a.day b.day := by
  show (if a ≤ b then a else b).day = _
  by_cases h : a.day ≤ b.day
  · rw [if_pos (show a ≤ b from h), Int.min_eq_left h]
  · rw [if_neg (show ¬ a ≤ b from h), Int.min_eq_right (by omega)]

end Calendar.Date

namespace Period

/-! ## Slots as intervals

The slots of a period follow each other without a gap, so every day lies in one of them. Whatever is
known about the calendar that a period uses is contained in how its slots begin. -/

/-- A month has at least a day and at most 366. The upper bound is generous, and the same for all
periods, which is all that is asked of it. -/
theorem monthSlotStart_succ (slot : Int) :
    month.slotStart slot < month.slotStart (slot + 1) ∧
      month.slotStart (slot + 1) ≤ month.slotStart slot + 366 := by
  simp only [slotStart, monthStart]
  -- after December comes January of the next year
  by_cases december : slot % 12 = 11
  · have year : (slot + 1) / 12 = slot / 12 + 1 := by omega
    have january : ((slot + 1) % 12).toNat + 1 = 1 := by omega
    have last : (slot % 12).toNat + 1 = 12 := by omega
    have first : daysBefore (isLeap (slot / 12 + 1)) 1 = 0 := rfl
    have before := daysBefore_mono (isLeap (slot / 12)) (show 12 ≤ 13 by decide)
    have length := daysBefore_succ (isLeap (slot / 12)) (show 1 ≤ 12 by decide) (Nat.le_refl 12)
    have days : monthLength (isLeap (slot / 12)) 12 = 31 := rfl
    rw [daysBefore_thirteen, days] at length
    rw [year, january, last, first, yearStart_succ]
    omega
  · have year : (slot + 1) / 12 = slot / 12 := by omega
    have next : ((slot + 1) % 12).toNat + 1 = (slot % 12).toNat + 1 + 1 := by omega
    have length := daysBefore_succ (isLeap (slot / 12))
      (show 1 ≤ (slot % 12).toNat + 1 by omega) (show (slot % 12).toNat + 1 ≤ 12 by omega)
    have most := monthLength_le (isLeap (slot / 12)) ((slot % 12).toNat + 1)
    have least : 28 ≤ monthLength (isLeap (slot / 12)) ((slot % 12).toNat + 1) := by
      unfold monthLength
      split
      · omega
      · split <;> omega
    rw [year, next, length]
    omega

/-- A slot is not empty, and no longer than a leap year. -/
theorem slotStart_succ (p : Period) (slot : Int) :
    p.slotStart slot < p.slotStart (slot + 1) ∧
      p.slotStart (slot + 1) ≤ p.slotStart slot + 366 := by
  cases p with
  | day | week => simp only [slotStart]; omega
  | month => exact monthSlotStart_succ slot
  | year =>
    have leap := Bool.toNat_le (isLeap slot)
    simp only [slotStart, yearStart_succ]
    omega

/-- A slot holds the days from its first one up to the next slot. Everything that is said of days
and slots below comes from here. -/
theorem slotOf_eq_iff {p : Period} {slot n : Int} :
    p.slotOf n = slot ↔ p.slotStart slot ≤ n ∧ n < p.slotStart (slot + 1) := by
  have lower := p.slotStart_le_iff slot n
  have upper := p.slotStart_le_iff (slot + 1) n
  omega

/-- The first day of a slot lies in it. -/
@[simp]
theorem slotOf_slotStart (p : Period) (slot : Int) : p.slotOf (p.slotStart slot) = slot :=
  slotOf_eq_iff.2 ⟨Int.le_refl _, (p.slotStart_succ slot).1⟩

/-- A later day does not lie in an earlier slot. -/
theorem slotOf_mono (p : Period) {n k : Int} (h : n ≤ k) : p.slotOf n ≤ p.slotOf k := by
  rw [← slotStart_le_iff]
  exact Int.le_trans ((p.slotStart_le_iff _ _).2 (Int.le_refl _)) h

/-- Of two slots, the later one begins later. -/
theorem slotStart_lt (p : Period) {a b : Int} (h : a < b) : p.slotStart a < p.slotStart b := by
  rw [← Int.not_le, slotStart_le_iff, slotOf_slotStart]
  exact Int.not_le.2 h

theorem slotStart_mono (p : Period) {a b : Int} (h : a ≤ b) : p.slotStart a ≤ p.slotStart b := by
  rw [slotStart_le_iff, slotOf_slotStart]
  exact h

/-- The Thursday of a week. -/
theorem monday_add_three (n : Int) : monday n + 3 = week.slotOf n * 7 := by
  simp only [slotOf]
  unfold monday weekday
  omega

/-- The days of a bucket have one identifier. -/
theorem bucketId_congr {p : Period} {n k : Int} (h : p.slotOf n = p.slotOf k) :
    p.bucketId n = p.bucketId k := by
  cases p with
  | day => exact congrArg (· * 86400) h
  | week =>
    simp only [bucketId, isoYear, isoWeek]
    rw [monday_add_three, monday_add_three, h]
  | month =>
    have := (monthOf_bounds n).1
    have := (monthOf_bounds k).1
    simp only [bucketId, slotOf] at *
    omega
  | year => exact h

/-- Later buckets have greater identifiers, also before the year 0. For weeks this is not obvious,
as the numbers of weeks begin again with each year, and years before the year 0 are negative while
their weeks are not. -/
theorem bucketId_lt {p : Period} {n k : Int} (h : p.slotOf n < p.slotOf k) :
    p.bucketId n < p.bucketId k := by
  cases p with
  | day => simp only [bucketId, slotOf] at *; omega
  | week =>
    -- of two Thursdays the later one is of a later year, or of the same one and a later week
    have placeN := ordinalOf_eq (monday n + 3)
    have placeK := ordinalOf_eq (monday k + 3)
    have rangeN := ordinalOf_lt (monday n + 3)
    have leapN := Bool.toNat_le (isLeap (yearOf (monday n + 3)))
    have thursdayN := monday_add_three n
    have thursdayK := monday_add_three k
    have years := yearOf_mono (show monday n + 3 ≤ monday k + 3 by omega)
    simp only [bucketId, isoYear, isoWeek]
    by_cases year : yearOf (monday n + 3) = yearOf (monday k + 3)
    · rw [year] at placeN ⊢
      omega
    · omega
  | month =>
    have := (monthOf_bounds n).1
    have := (monthOf_bounds k).1
    simp only [bucketId, slotOf] at *
    omega
  | year => exact h

/-- Numbers of buckets are ordered as their slots. -/
theorem bucketId_lt_iff {p : Period} {n k : Int} :
    p.bucketId n < p.bucketId k ↔ p.slotOf n < p.slotOf k := by
  refine ⟨fun less => ?_, bucketId_lt⟩
  rcases Int.lt_trichotomy (p.slotOf n) (p.slotOf k) with h | h | h
  · exact h
  · have := bucketId_congr h
    omega
  · have := bucketId_lt h
    omega

/-- **A bucket is determined by its identifier.** So a row of a result can be placed by the number
in it. -/
theorem bucketId_eq_iff {p : Period} {n k : Int} :
    p.bucketId n = p.bucketId k ↔ p.slotOf n = p.slotOf k := by
  have less := bucketId_lt_iff (p := p) (n := n) (k := k)
  have greater := bucketId_lt_iff (p := p) (n := k) (k := n)
  refine ⟨fun same => ?_, bucketId_congr⟩
  omega

/-! ## The axis of a series

An axis is described by how its buckets are found, one for each slot from the first day of a window
to its last. All that is said about axes later is read off this. -/

/-- The bucket of a slot begins with it and has its number. -/
theorem bucket?_eq_some_iff {p : Period} {slot : Int} {b : Bucket} :
    p.bucket? slot = some b ↔ b.start.day = p.slotStart slot ∧ b.id = p.bucketId b.start.day := by
  rw [bucket?, Option.map_eq_some_iff]
  constructor
  · rintro ⟨d, found, rfl⟩
    exact ⟨Date.ofDay?_eq_some_iff.1 found, rfl⟩
  · rintro ⟨first, id⟩
    refine ⟨b.start, Date.ofDay?_eq_some_iff.2 first, ?_⟩
    rw [← id]

/-- The bucket of a slot begins in the slot. -/
theorem slotOf_start {p : Period} {slot : Int} {b : Bucket} (found : p.bucket? slot = some b) :
    p.slotOf b.start.day = slot := by
  rw [(bucket?_eq_some_iff.1 found).1, slotOf_slotStart]

/-- The buckets from the first day of a window up to its last one. They are given by their
positions, so that the bucket at a position and the position of a bucket are found by counting. -/
def IsAxis (p : Period) (start stop : Date) (axis : List Bucket) : Prop :=
  axis.map some
    = (List.range (p.bucketCount start stop)).map fun (k : Nat) =>
      p.bucket? (p.slotOf start.day + k)

/-- The last bucket of a window is that of its last day. -/
theorem slotOf_add_bucketCount (p : Period) {start stop : Date} (lt : start.day < stop.day) :
    p.slotOf start.day + p.bucketCount start stop = p.slotOf (stop.day - 1) + 1 := by
  have := p.slotOf_mono (show start.day ≤ stop.day - 1 by omega)
  unfold bucketCount
  omega

theorem mapM_eq_some_iff {α β : Type} {f : α → Option β} {l : List α} {bs : List β} :
    l.mapM f = some bs ↔ bs.map some = l.map f := by
  induction l generalizing bs with
  | nil =>
    rw [List.mapM_nil, List.map_nil, List.map_eq_nil_iff]
    exact ⟨fun h => (Option.some.inj h).symm, fun h => congrArg some h.symm⟩
  | cons a l ih =>
    rw [List.mapM_cons, List.map_cons, List.map_eq_cons_iff]
    simp only [Option.bind_eq_bind, Option.bind_eq_some_iff, ih, Option.pure_def,
      Option.some.injEq]
    constructor
    · rintro ⟨b, found, rest, same, rfl⟩
      exact ⟨b, rest, rfl, found.symm, same⟩
    · rintro ⟨b, rest, rfl, found, same⟩
      exact ⟨b, found.symm, rest, same, rfl⟩

/-- The buckets of a window are listed when the first one and the one after the last can be. -/
theorem buckets_eq_ok_iff {p : Period} {start stop : Date} {axis : List Bucket} :
    p.buckets start stop = .ok axis ↔ (p.bucket? (p.slotOf start.day)).isSome ∧
      (p.bucket? (p.slotOf start.day + p.bucketCount start stop)).isSome ∧
      p.IsAxis start stop axis := by
  have listed : p.buckets start stop = .ok axis ↔ p.buckets? start stop = some axis := by
    unfold buckets
    split
    · rename_i found
      rw [found, Except.ok.injEq, Option.some.injEq]
    · rename_i missing
      rw [missing]
      exact ⟨nofun, nofun⟩
  rw [listed, buckets?, IsAxis, ← mapM_eq_some_iff]
  cases p.bucket? (p.slotOf start.day) with
  | none => exact ⟨nofun, fun h => nomatch h.1⟩
  | some _ => cases p.bucket? (p.slotOf start.day + p.bucketCount start stop) with
    | none => exact ⟨nofun, fun h => nomatch h.2.1⟩
    | some _ => exact ⟨fun h => ⟨rfl, rfl, h⟩, fun h => h.2.2⟩

/-- **The buckets of a window are listed if they begin in the calendar**, and so does the one after
the last. All between them do so as well, since slots are in order. -/
theorem exists_axis_of_calendar (p : Period) {start stop : Date} (lt : start.day < stop.day)
    (low : firstDay ≤ p.slotStart (p.slotOf start.day))
    (high : p.slotStart (p.slotOf (stop.day - 1) + 1) ≤ lastDay) :
    ∃ axis, p.buckets start stop = .ok axis ∧ p.IsAxis start stop axis := by
  have last := p.slotOf_add_bucketCount lt
  have inside : ∀ k : Nat, k ≤ p.bucketCount start stop →
      (p.bucket? (p.slotOf start.day + k)).isSome := by
    intro k hk
    have lower := p.slotStart_mono (show p.slotOf start.day ≤ p.slotOf start.day + k by omega)
    have upper := p.slotStart_mono
      (show p.slotOf start.day + k ≤ p.slotOf (stop.day - 1) + 1 by omega)
    have calendar : firstDay ≤ p.slotStart (p.slotOf start.day + k) ∧
        p.slotStart (p.slotOf start.day + k) ≤ lastDay := by omega
    rw [bucket?, Option.isSome_map, Date.ofDay?, dif_pos calendar]
    rfl
  have found : ∀ k ∈ List.range (p.bucketCount start stop),
      ∃ b, p.bucket? (p.slotOf start.day + k) = some b := fun k hk =>
    Option.isSome_iff_exists.1 (inside k (Nat.le_of_lt (List.mem_range.1 hk)))
  -- each slot has its bucket, so there is a list of them
  obtain ⟨axis, each⟩ := exists_forall₂_iff.2 found
  have is_axis : p.IsAxis start stop axis := by
    unfold IsAxis
    rw [← List.forall₂_eq_eq_eq, List.forall₂_map_left_iff, List.forall₂_map_right_iff]
    exact each.flip.imp fun _ _ h => h.symm
  have first := inside 0 (Nat.zero_le _)
  rw [Int.natCast_zero, Int.add_zero] at first
  exact ⟨axis, buckets_eq_ok_iff.2 ⟨first, inside _ (Nat.le_refl _), is_axis⟩, is_axis⟩

/-- Every bucket of a window lies in the calendar, unless the window comes near an end of it. A
bucket begins and ends at most a year away from its days. -/
theorem exists_axis_of_inner (p : Period) {start stop : Date} (hs : start.Inner) (he : stop.Inner)
    (lt : start.day < stop.day) :
    ∃ axis, p.buckets start stop = .ok axis ∧ p.IsAxis start stop axis := by
  obtain ⟨low, _⟩ := Date.inner_iff.1 hs
  obtain ⟨_, high⟩ := Date.inner_iff.1 he
  have first := slotOf_eq_iff.1 (Eq.refl (p.slotOf start.day))
  have final := slotOf_eq_iff.1 (Eq.refl (p.slotOf (stop.day - 1)))
  -- a bucket is no longer than the year that is left at either end of the calendar
  have firstLength := (p.slotStart_succ (p.slotOf start.day)).2
  have finalLength := (p.slotStart_succ (p.slotOf (stop.day - 1))).2
  exact p.exists_axis_of_calendar lt (by omega) (by omega)

/-- Between days with years of four digits every bucket is found. -/
theorem exists_axis (p : Period) {start stop : Date} (hs : start.FourDigit) (he : stop.FourDigit)
    (lt : start.day < stop.day) :
    ∃ axis, p.buckets start stop = .ok axis ∧ p.IsAxis start stop axis :=
  p.exists_axis_of_inner hs.inner he.inner lt

namespace IsAxis

variable {p : Period} {start stop : Date} {axis : List Bucket}

/-- An axis has as many buckets as there are slots. -/
theorem length_eq (h : p.IsAxis start stop axis) : axis.length = p.bucketCount start stop := by
  have := congrArg List.length h
  rwa [List.length_map, List.length_map, List.length_range] at this

/-- The buckets of an axis are those of its slots. -/
theorem mem_iff (h : p.IsAxis start stop axis) {b : Bucket} :
    b ∈ axis ↔ ∃ k < p.bucketCount start stop, p.bucket? (p.slotOf start.day + k) = some b := by
  have : b ∈ axis ↔ some b ∈ axis.map some := by simp
  rw [this, h, List.mem_map]
  simp only [List.mem_range]

/-- A bucket has the number of its first day. -/
theorem id_eq (h : p.IsAxis start stop axis) {b : Bucket} (hb : b ∈ axis) :
    b.id = p.bucketId b.start.day := by
  obtain ⟨_, _, found⟩ := h.mem_iff.1 hb
  exact (bucket?_eq_some_iff.1 found).2

/-- The buckets have different identifiers. -/
theorem nodup_ids (h : p.IsAxis start stop axis) : (axis.map (·.id)).Nodup := by
  have apart : (axis.map some).Pairwise fun x y =>
      ∀ b b', x = some b → y = some b' → b.id ≠ b'.id := by
    rw [h, List.pairwise_map]
    refine List.pairwise_lt_range.imp fun {j k} lt b b' found found' same => ?_
    rw [(bucket?_eq_some_iff.1 found).2, (bucket?_eq_some_iff.1 found').2, bucketId_eq_iff,
      slotOf_start found, slotOf_start found'] at same
    omega
  rw [List.pairwise_map] at apart
  rw [List.Nodup, List.pairwise_map]
  exact apart.imp fun different => different _ _ rfl rfl

/-- Every day of the window lies in a bucket. -/
theorem exists_id_eq (h : p.IsAxis start stop axis) {n : Int} (first : start.day ≤ n)
    (last : n < stop.day) : ∃ b ∈ axis, b.id = p.bucketId n := by
  have low := p.slotOf_mono first
  have high := p.slotOf_mono (show n ≤ stop.day - 1 by omega)
  have count := p.slotOf_add_bucketCount (show start.day < stop.day by omega)
  have place : (p.slotOf n - p.slotOf start.day).toNat < p.bucketCount start stop := by omega
  -- the axis is as long as the list of slots, so it has an entry there
  have there : p.bucket? (p.slotOf start.day + (p.slotOf n - p.slotOf start.day).toNat)
      ∈ axis.map some := by
    rw [h]
    exact List.mem_map.2 ⟨_, List.mem_range.2 place, rfl⟩
  obtain ⟨b, hb, found⟩ := List.mem_map.1 there
  refine ⟨b, hb, ?_⟩
  rw [(bucket?_eq_some_iff.1 found.symm).2, bucketId_eq_iff, slotOf_start found.symm]
  omega

/-- A bucket of the window begins before its end, and the next one after its beginning. -/
theorem bounds (h : p.IsAxis start stop axis) (lt : start.day < stop.day) {b : Bucket}
    (hb : b ∈ axis) :
    b.start.day < stop.day ∧ start.day < p.slotStart (p.slotOf b.start.day + 1) := by
  obtain ⟨k, hk, found⟩ := h.mem_iff.1 hb
  have count := p.slotOf_add_bucketCount lt
  have first := slotOf_eq_iff.1 (Eq.refl (p.slotOf start.day))
  have final := slotOf_eq_iff.1 (Eq.refl (p.slotOf (stop.day - 1)))
  have low := p.slotStart_mono
    (show p.slotOf start.day + 1 ≤ p.slotOf start.day + k + 1 by omega)
  have high := p.slotStart_mono
    (show p.slotOf start.day + k ≤ p.slotOf (stop.day - 1) by omega)
  rw [slotOf_start found, (bucket?_eq_some_iff.1 found).1]
  omega

/-- The bucket after one of the window begins within the calendar. -/
theorem exists_next (h : p.IsAxis start stop axis) (lt : start.day < stop.day)
    (last : stop.Inner) {b : Bucket} (hb : b ∈ axis) :
    ∃ next : Date, next.day = p.slotStart (p.slotOf b.start.day + 1) := by
  have bounds := h.bounds lt hb
  have begins := (slotOf_eq_iff.1 (Eq.refl (p.slotOf b.start.day))).1
  have length := (p.slotStart_succ (p.slotOf b.start.day)).2
  have early := start.first_le
  have late := (Date.inner_iff.1 last).2
  have calendar : firstDay ≤ p.slotStart (p.slotOf b.start.day + 1) ∧
      p.slotStart (p.slotOf b.start.day + 1) ≤ lastDay := by omega
  exact ⟨⟨_, calendar.1, calendar.2⟩, rfl⟩

/-- **The days of the window in one bucket** are those from its first day, or that of the window, up
to the next bucket, or to the end of the window. So a bucket of a window is a window itself, and a
value of a series can be asked for on its own. -/
theorem id_eq_iff (h : p.IsAxis start stop axis) {b : Bucket} (hb : b ∈ axis) {next : Date}
    (hn : next.day = p.slotStart (p.slotOf b.start.day + 1)) {n : Int} :
    (start.day ≤ n ∧ n < stop.day) ∧ b.id = p.bucketId n ↔
      (max start b.start).day ≤ n ∧ n < (min stop next).day := by
  obtain ⟨k, _, found⟩ := h.mem_iff.1 hb
  obtain ⟨first, id⟩ := bucket?_eq_some_iff.1 found
  rw [id, bucketId_eq_iff, eq_comm, slotOf_eq_iff, Date.day_max, Date.day_min, hn, first,
    slotOf_slotStart]
  omega

end IsAxis

end Period

end ActivityMetrics
