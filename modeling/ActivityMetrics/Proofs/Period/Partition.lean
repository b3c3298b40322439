import ActivityMetrics.Proofs.Distinct
import ActivityMetrics.Proofs.Period.Axis
import Mathlib.Data.List.Chain

/-!
# Windows cut into buckets

The buckets of a window follow each other on the calendar: after a day comes the next one, after a
week the day seven days later, after December the January of the next year. `Period.next?` says so
in terms of years and months, and it leads from every bucket to the slot after its own
(`Period.next?_eq`). The list of buckets is made by counting slots, so this is where counting and
going on by the calendar are seen to be the same.

So the buckets of a window cut it (`Period.Cuts`). They are in order, by their first days and by
their identifiers, leave no day out, and begin and end with the buckets in which the window does;
every day of the window lies in one of them, and in no other one. This holds as far as the calendar
reaches, with years before the year 0 and with years of 53 weeks.

The window need not begin or end with a bucket. The first bucket then begins before the window and
the last one ends after it, which is why days are counted in the window and in the bucket both.
-/

namespace ActivityMetrics.Period

open Calendar

variable {p : Period} {start stop : Date} {axis : List Bucket} {slot : Int}

/-! ## The next bucket -/

/-- The first of a month begins the slot of the month. There always is a first, so the date exists
unless the calendar lacks it. -/
theorem ofCivil?_first {y : Int} {m : Nat} (first : 1 ≤ m) (last : m ≤ 12) :
    Date.ofCivil? y m 1 = Date.ofDay? (month.slotStart (y * 12 + (m - 1 : Nat))) := by
  have days : 1 ≤ monthLength (isLeap y) m := by
    unfold monthLength
    split
    · omega
    · split <;> omega
  have year : (y * 12 + (m - 1 : Nat)) / 12 = y := by omega
  have number : ((y * 12 + (m - 1 : Nat)) % 12).toNat + 1 = m := by omega
  rw [Date.ofCivil?, if_pos ⟨first, last, Nat.le_refl 1, days⟩, slotStart, year, number]
  exact congrArg Date.ofDay? (Int.add_zero _)

/-- The first of January begins the slot of the year. -/
theorem ofCivil?_january (y : Int) : Date.ofCivil? y 1 1 = Date.ofDay? (year.slotStart y) := by
  have january : (y * 12 + (1 - 1 : Nat)) % 12 = 0 := by omega
  have same : (y * 12 + (1 - 1 : Nat)) / 12 = y := by omega
  rw [ofCivil?_first (by decide) (by decide)]
  simp only [slotStart, monthStart, january, same]
  exact congrArg Date.ofDay? (Int.add_zero _)

/-- **After a bucket comes the one of the next slot.** The two sides fail together, at the end of
the calendar. -/
theorem next?_eq {d : Date} (begins : d.day = p.slotStart slot) :
    p.next? d = Date.ofDay? (p.slotStart (slot + 1)) := by
  have own : p.slotOf d.day = slot := by rw [begins, slotOf_slotStart]
  cases p with
  | day => rw [next?, Date.addDays?, begins]; rfl
  | week =>
    have later : week.slotStart slot + 7 = week.slotStart (slot + 1) := by
      simp only [slotStart]
      omega
    rw [next?, Date.addDays?, begins, later]
  | month =>
    obtain ⟨low, high⟩ := monthOf_bounds d.day
    have place : d.year * 12 + (d.month - 1 : Nat) = slot := own
    have bounds : 1 ≤ d.month ∧ d.month ≤ 12 := ⟨low, high⟩
    simp only [next?]
    split
    · -- December is followed by January of the next year
      rw [ofCivil?_first (by decide) (by decide),
        show (d.year + 1) * 12 + ((1 - 1 : Nat) : Int) = slot + 1 by omega]
    · rw [ofCivil?_first (by omega) (by omega),
        show d.year * 12 + ((d.month + 1 - 1 : Nat) : Int) = slot + 1 by omega]
  | year => rw [next?, ofCivil?_january, show d.year = slot from own]

/-- The bucket of a day begins with its slot. -/
theorem bucketStart?_eq_some_iff {d first : Date} :
    p.bucketStart? d = some first ↔ first.day = p.slotStart (p.slotOf d.day) :=
  Date.ofDay?_eq_some_iff

/-- Away from its ends the calendar has the first day of every bucket. -/
theorem exists_bucketStart {d : Date} (h : d.Inner) (p : Period) :
    ∃ first, p.bucketStart? d = some first := by
  obtain ⟨early, late⟩ := Date.inner_iff.1 h
  have around := slotOf_eq_iff.1 (Eq.refl (p.slotOf d.day))
  have length := (p.slotStart_succ (p.slotOf d.day)).2
  have calendar : firstDay ≤ p.slotStart (p.slotOf d.day) ∧
      p.slotStart (p.slotOf d.day) ≤ lastDay := by omega
  exact ⟨⟨_, calendar.1, calendar.2⟩, bucketStart?_eq_some_iff.2 rfl⟩

/-- **Days have the same identifier when their buckets begin on the same day.** So identifiers and
first days name the same buckets. -/
theorem bucketId_eq_iff_bucketStart {d e first first' : Date} (hd : p.bucketStart? d = some first)
    (he : p.bucketStart? e = some first') :
    p.bucketId d.day = p.bucketId e.day ↔ first = first' := by
  rw [bucketStart?_eq_some_iff] at hd he
  rw [bucketId_eq_iff, Date.ext_iff, hd, he]
  refine ⟨fun same => by rw [same], fun same => ?_⟩
  rw [← p.slotOf_slotStart (p.slotOf d.day), same, slotOf_slotStart]

/-! ## Buckets by position -/

namespace IsAxis

/-- The buckets of an axis have consecutive slots. -/
theorem bucket?_getElem (h : p.IsAxis start stop axis) {i : Nat} (hi : i < axis.length) :
    p.bucket? (p.slotOf start.day + i) = some axis[i] := by
  have place : (axis.map some)[i]? = some (some axis[i]) := by
    rw [List.getElem?_map, List.getElem?_eq_getElem hi]
    rfl
  rw [h, List.getElem?_map, List.getElem?_range (h.length_eq ▸ hi)] at place
  exact Option.some.inj place

theorem slotOf_getElem (h : p.IsAxis start stop axis) {i : Nat} (hi : i < axis.length) :
    p.slotOf axis[i].start.day = p.slotOf start.day + i :=
  slotOf_start (h.bucket?_getElem hi)

theorem start_getElem (h : p.IsAxis start stop axis) {i : Nat} (hi : i < axis.length) :
    axis[i].start.day = p.slotStart (p.slotOf start.day + i) :=
  (bucket?_eq_some_iff.1 (h.bucket?_getElem hi)).1

/-- A bucket begins with its own slot. -/
theorem start_eq (h : p.IsAxis start stop axis) {b : Bucket} (hb : b ∈ axis) :
    b.start.day = p.slotStart (p.slotOf b.start.day) := by
  obtain ⟨i, hi, rfl⟩ := List.getElem_of_mem hb
  rw [h.slotOf_getElem hi, h.start_getElem hi]

theorem length_pos (h : p.IsAxis start stop axis) (lt : start.day < stop.day) :
    0 < axis.length := by
  have := p.slotOf_add_bucketCount lt
  have := p.slotOf_mono (show start.day ≤ stop.day - 1 by omega)
  rw [h.length_eq]
  omega

end IsAxis

/-! ## Cuts -/

/-- The buckets of a list cut a window. The fields say more than a partition would: how neighbours
follow each other, and where the first and the last bucket stand. -/
structure Cuts (p : Period) (start stop : Date) (axis : List Bucket) : Prop where
  /-- The first bucket is that of the first day. -/
  first : ∃ b, axis.head? = some b ∧ p.bucketStart? start = some b.start ∧ b.start ≤ start
  /-- The buckets are in order. -/
  starts_lt : axis.Pairwise fun b b' => b.start < b'.start
  /-- The identifiers of the buckets are in the same order. -/
  ids_lt : axis.Pairwise fun b b' => b.id < b'.id
  /-- A bucket has the identifier of its first day, and begins with it. -/
  own : ∀ b ∈ axis, b.id = p.bucketId b.start.day ∧ p.bucketStart? b.start = some b.start
  /-- A bucket is followed by the next one. -/
  adjacent : axis.IsChain fun b b' => p.next? b.start = some b'.start
  /-- All days lie in a bucket from its first one up to the next bucket. -/
  filled : ∀ b ∈ axis, ∃ next, p.next? b.start = some next ∧
    ∀ d : Date, p.bucketId d.day = b.id ↔ b.start ≤ d ∧ d < next
  /-- The last bucket begins before the end of the window, and the next one does not. -/
  last : ∃ b next, axis.getLast? = some b ∧ b.start < stop ∧ p.next? b.start = some next ∧
    stop ≤ next
  /-- A day of the window has one bucket, which is listed once. -/
  single : ∀ d : Date, start ≤ d → d < stop →
    ∃ b, axis.filter (fun b' => b'.id = p.bucketId d.day) = [b] ∧ p.bucketStart? d = some b.start

namespace IsAxis

theorem pairwise_start_lt (h : p.IsAxis start stop axis) :
    axis.Pairwise fun b b' => b.start < b'.start := by
  refine List.pairwise_iff_getElem.2 fun i j hi hj lt => ?_
  show axis[i].start.day < axis[j].start.day
  have after := p.slotStart_mono
    (show p.slotOf start.day + i + 1 ≤ p.slotOf start.day + j by omega)
  have longer := (p.slotStart_succ (p.slotOf start.day + i)).1
  rw [h.start_getElem hi, h.start_getElem hj]
  omega

theorem pairwise_id_lt (h : p.IsAxis start stop axis) :
    axis.Pairwise fun b b' => b.id < b'.id := by
  refine List.pairwise_iff_getElem.2 fun i j hi hj lt => ?_
  rw [h.id_eq (List.getElem_mem hi), h.id_eq (List.getElem_mem hj), bucketId_lt_iff,
    h.slotOf_getElem hi, h.slotOf_getElem hj]
  omega

theorem isChain_next (h : p.IsAxis start stop axis) :
    axis.IsChain fun b b' => p.next? b.start = some b'.start := by
  refine List.isChain_iff_getElem.2 fun i hi => ?_
  rw [next?_eq (h.start_getElem (Nat.lt_of_succ_lt hi)), Date.ofDay?_eq_some_iff,
    h.start_getElem hi]
  exact congrArg p.slotStart (by omega)

/-- The days of a bucket are those from its first one up to the next bucket. -/
theorem exists_filled (h : p.IsAxis start stop axis) (lt : start.day < stop.day)
    (inner : stop.Inner) {b : Bucket} (hb : b ∈ axis) :
    ∃ next, p.next? b.start = some next ∧
      ∀ d : Date, p.bucketId d.day = b.id ↔ b.start ≤ d ∧ d < next := by
  obtain ⟨next, hn⟩ := h.exists_next lt inner hb
  refine ⟨next, ?_, fun d => ?_⟩
  · rw [next?_eq (h.start_eq hb), Date.ofDay?_eq_some_iff, hn]
  · show _ ↔ b.start.day ≤ d.day ∧ d.day < next.day
    rw [h.id_eq hb, bucketId_eq_iff, slotOf_eq_iff, ← h.start_eq hb, hn]

/-- The last bucket is that of the last day of the window. -/
theorem exists_last (h : p.IsAxis start stop axis) (lt : start.day < stop.day)
    (inner : stop.Inner) :
    ∃ b next, axis.getLast? = some b ∧ b.start < stop ∧ p.next? b.start = some next ∧
      stop ≤ next := by
  have pos := h.length_pos lt
  have place : axis.length - 1 < axis.length := by omega
  have there : axis[axis.length - 1] ∈ axis := List.getElem_mem place
  obtain ⟨next, hn⟩ := h.exists_next lt inner there
  have count := p.slotOf_add_bucketCount lt
  have slot : p.slotOf axis[axis.length - 1].start.day + 1 = p.slotOf (stop.day - 1) + 1 := by
    rw [h.slotOf_getElem place]
    rw [h.length_eq] at pos ⊢
    omega
  have final := (slotOf_eq_iff.1 (Eq.refl (p.slotOf (stop.day - 1)))).2
  refine ⟨_, next, ?_, (h.bounds lt there).1, ?_, ?_⟩
  · rw [List.getLast?_eq_getElem?, List.getElem?_eq_getElem place]
  · rw [next?_eq (h.start_eq there), Date.ofDay?_eq_some_iff, hn]
  · show stop.day ≤ next.day
    rw [hn, slot]
    omega

/-- **The buckets of an axis cut its window.** Every field comes from the positions of the buckets,
which have consecutive slots. -/
theorem cuts (h : p.IsAxis start stop axis) (lt : start.day < stop.day) (inner : stop.Inner) :
    p.Cuts start stop axis where
  first := by
    have pos := h.length_pos lt
    have begins := h.start_getElem pos
    rw [Int.natCast_zero, Int.add_zero] at begins
    refine ⟨axis[0], ?_, bucketStart?_eq_some_iff.2 begins, ?_⟩
    · rw [List.head?_eq_getElem?, List.getElem?_eq_getElem pos]
    · show axis[0].start.day ≤ start.day
      rw [begins]
      exact (p.slotStart_le_iff _ _).2 (Int.le_refl _)
  starts_lt := h.pairwise_start_lt
  ids_lt := h.pairwise_id_lt
  own := fun _ hb => ⟨h.id_eq hb, bucketStart?_eq_some_iff.2 (h.start_eq hb)⟩
  adjacent := h.isChain_next
  filled := fun _ => h.exists_filled lt inner
  last := h.exists_last lt inner
  single := fun d low high => by
    obtain ⟨b, hb, same⟩ := h.exists_id_eq low high
    refine ⟨b, ?_, bucketStart?_eq_some_iff.2 ?_⟩
    · have distinct : ∀ b' ∈ axis, (b'.id = p.bucketId d.day ↔ b' = b) := fun b' hb' =>
        ⟨fun other => List.inj_on_of_nodup_map h.nodup_ids hb' hb (other.trans same.symm),
          fun own => own ▸ same⟩
      rw [List.filter_congr fun b' hb' => decide_eq_decide.2 (distinct b' hb')]
      exact filter_eq_singleton (.of_map _ h.nodup_ids) hb
    · rw [h.id_eq hb, bucketId_eq_iff] at same
      rw [h.start_eq hb, same]

end IsAxis

/-! ## The theorem -/

/-- **Buckets cut a window**, whatever the period, as far as the calendar reaches; and days have the
same identifier exactly when their buckets begin on the same day.

The window has to keep a year away from both ends of the calendar. Closer to them a bucket may begin
or end outside, and then there is no list at all. The last part is about days and not about a
window: it is what lets rows be matched with buckets by a number, and no two buckets be mistaken for
one another. -/
theorem buckets_cut (p : Period) {start stop : Date} (early : start.Inner) (late : stop.Inner)
    (lt : start < stop) :
    (∃ axis, p.buckets start stop = .ok axis ∧ p.Cuts start stop axis) ∧
      ∀ d e : Date, d.Inner → e.Inner → ∃ first first', p.bucketStart? d = some first ∧
        p.bucketStart? e = some first' ∧
          (p.bucketId d.day = p.bucketId e.day ↔ first = first') := by
  obtain ⟨axis, buckets, is_axis⟩ := p.exists_axis_of_inner early late lt
  refine ⟨⟨axis, buckets, is_axis.cuts lt late⟩, fun d e hd he => ?_⟩
  obtain ⟨first, begins⟩ := exists_bucketStart hd p
  obtain ⟨first', begins'⟩ := exists_bucketStart he p
  exact ⟨first, first', begins, begins', bucketId_eq_iff_bucketStart begins begins'⟩

/-- The weeks about the beginning of the year 0: the last two of the year before have the
identifiers -49 and -48, and the first of January still lies in the second of them. -/
theorem buckets_cut_year_zero :
    (∃ axis, week.buckets ⟨-719535, by decide, by decide⟩ ⟨-719524, by decide, by decide⟩
        = .ok axis ∧ axis.map (·.id) = [-49, -48, 1] ∧
      week.Cuts ⟨-719535, by decide, by decide⟩ ⟨-719524, by decide, by decide⟩ axis) ∧
      week.bucketStart? ⟨yearStart 0, by decide, by decide⟩
        = week.bucketStart? ⟨-719535 + 2, by decide, by decide⟩ := by
  obtain ⟨⟨axis, buckets, cuts⟩, sameBucket⟩ := @buckets_cut .week
    ⟨-719535, by decide, by decide⟩ ⟨-719524, by decide, by decide⟩ (by decide) (by decide)
    (by decide)
  have listed : week.buckets ⟨-719535, by decide, by decide⟩ ⟨-719524, by decide, by decide⟩
      = .ok [⟨-49, ⟨-719540, by decide, by decide⟩⟩, ⟨-48, ⟨-719533, by decide, by decide⟩⟩,
        ⟨1, ⟨-719526, by decide, by decide⟩⟩] := by rfl
  obtain rfl := Except.ok.inj (buckets.symm.trans listed)
  refine ⟨⟨_, listed, rfl, cuts⟩, ?_⟩
  obtain ⟨first, first', begins, begins', same⟩ := sameBucket
    ⟨yearStart 0, by decide, by decide⟩ ⟨-719535 + 2, by decide, by decide⟩ (by decide) (by decide)
  rw [begins, begins', same.1 (by decide)]

end ActivityMetrics.Period
