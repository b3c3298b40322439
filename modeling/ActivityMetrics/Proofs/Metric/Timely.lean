import ActivityMetrics.Proofs.Filter.Basic
import ActivityMetrics.Proofs.Metric.Answers
import ActivityMetrics.Proofs.Period.Axis
import ActivityMetrics.Proofs.Period.Expression
import ActivityMetrics.Warehouse.Load

/-!
# Events that are dated by stamps

In a warehouse whose events are dated by stamps, the window of a query is compared with the day of
an event, and a statement puts the event into the bucket of its day. Every match then lies in a
bucket of the window (`Count.placed`), and the matches of one bucket are those of a window of their
own (`Count.mem_matchesIn_cut_iff`).

The date of an event is a text, and two parts of a statement read it in two ways. The window
compares the text with two others. The bucket is computed from the time that the database reads in
the text. For a stamp, which is a date or a date with a time of day, both go by the same day. Other
texts may be compared with a window that has nothing to do with the day the database reads, or be
read as no time at all; then an event is in the window and in none of its buckets.
-/

namespace ActivityMetrics

open Calendar

/-- Every event is dated by a stamp, with a year of four digits. A load operation takes any text for
a date, so this is a condition on what was loaded. -/
def Warehouse.Timely (w : Warehouse) : Prop :=
  ∀ e : Event, ∀ r ∈ e.records w, ∃ d : Date, d.FourDigit ∧ d.Stamp r.date

/-- A commit in the last second of New Year's Day, by a member of two organizations. -/
def Warehouse.newYear : Warehouse :=
  .load .empty
    [.addIdentity 1 .scm "ada" "Ada",
      .addEnrollment "ada" .organization "guild" none none,
      .addEnrollment "ada" .organization "club" (some "2020-06-01") none,
      .nameRepository "core" none,
      .insertCommit "r1" 1 (some 1) none "2021-01-01 23:59:59"]

/-- The only event of this warehouse has a stamp. -/
theorem Warehouse.timely_newYear : newYear.Timely := by
  have commits : newYear.commits = [⟨1, "r1", 1, some 1, none, "2021-01-01 23:59:59"⟩] := by decide
  have years : Instant.newYear.date.FourDigit := by decide
  intro e r known
  cases e with
  | commits | commitsByCommitter =>
    rw [Event.records, commits] at known
    rw [List.mem_singleton.1 known]
    exact ⟨_, years, Date.stamp_newYear⟩
  | issues | changes => cases known

/-- The last day of the year 2020 and the first four days of 2021, by week. -/
def Filter.newYear (selection : Selection) : Filter :=
  { period := .week
    start := ⟨18627, by decide, by decide⟩
    stop := ⟨18632, by decide, by decide⟩
    start_lt_stop := by decide
    selection
    limit := none
    excludedActors := ["bot"]
    excludedOrganizations := []
    global := some (.repository, "core")
    closing := none }

/-- January 2025, by month, with a selection. -/
def Filter.january (selection : Selection) : Filter :=
  { period := .month
    start := ⟨20089, by decide, by decide⟩
    stop := ⟨20120, by decide, by decide⟩
    start_lt_stop := by decide
    selection
    limit := none
    excludedActors := []
    excludedOrganizations := []
    global := none
    closing := none }

/-- **A stamp lies in a window of texts exactly when its day lies in the window of days.** -/
theorem Calendar.Date.stamp_mem_window_iff {d start stop : Date} {s : String} (hd : d.FourDigit)
    (hs : d.Stamp s) (first : start.FourDigit) (last : stop.FourDigit) :
    (start.text ≤ s ∧ s < stop.text) ↔ (start.day ≤ d.day ∧ d.day < stop.day) := by
  rw [Date.text_le_stamp_iff hd first hs, Date.stamp_lt_text_iff hd last hs]

namespace Filter

variable {f g : Filter} {start stop : Date}

/-- An item may be bound before the window is changed, or after. -/
theorem withWindow_only (h : f.withWindow start stop = .ok g) (d : Dimension) (v : String) :
    (f.only d v).withWindow start stop = .ok (g.only d v) := by
  obtain ⟨lt, rfl⟩ := withWindow_eq_ok_iff.1 h
  exact withWindow_eq_ok_iff.2 ⟨lt, rfl⟩

end Filter

namespace Count

variable {c : Count} {w : Warehouse} {f g : Filter} {group : Option Dimension} {m : Match}
variable {axis : List Period.Bucket}

/-- The query over another window differs in nothing but the window. -/
theorem query_withWindow {start stop : Date} (h : f.withWindow start stop = .ok g) (c : Count)
    (w : Warehouse) (group : Option Dimension) :
    c.query w g group = { c.query w f group with start, stop } := by
  obtain ⟨_, rfl⟩ := Filter.withWindow_eq_ok_iff.1 h
  cases c <;> rfl

/-- The window does not matter for whether a statement is accepted. -/
theorem admitted_withWindow_iff {start stop : Date} (h : f.withWindow start stop = .ok g)
    {mode : Mode} :
    (c.query w g group).Admitted mode ↔ (c.query w f group).Admitted mode := by
  rw [query_withWindow h]
  exact Iff.rfl

/-- A match has a day in the window, and lies in the bucket of this day. All that is later said
about buckets is about this day. -/
theorem exists_day (timely : w.Timely) (first : f.start.FourDigit) (last : f.stop.FourDigit)
    (h : m ∈ (c.query w f group).matchesIn w) :
    ∃ d : Date, d.FourDigit ∧ d.Stamp m.record.date ∧
      (f.start.day ≤ d.day ∧ d.day < f.stop.day) ∧
        (c.query w f group).bucketOf m = some (f.period.bucketId d.day) := by
  obtain ⟨⟨known, window⟩, _⟩ := (Clauses.mem_matchesIn_iff (c.chain_query w f group)).1 h
  obtain ⟨d, years, stamp⟩ := timely _ _ known
  obtain ⟨low, high⟩ := Date.fourDigit_iff.1 years
  refine ⟨d, years, stamp, (Date.stamp_mem_window_iff years stamp first last).1 window, ?_⟩
  exact f.period.bucketOfText_of_readsOn (StoredTime.readsOn_stamp years stamp) low high

/-- **Every match lies in a bucket of the window.** -/
theorem placed (timely : w.Timely) (first : f.start.FourDigit) (last : f.stop.FourDigit)
    (h : f.period.IsAxis f.start f.stop axis) :
    (c.query w f group).Placed ((c.query w f group).matchesIn w) axis := by
  intro m hm
  obtain ⟨d, _, _, ⟨low, high⟩, bucket⟩ := exists_day timely first last hm
  obtain ⟨b, hb, same⟩ := h.exists_id_eq low high
  exact ⟨b, hb, by rw [bucket, same]⟩

/-- **The matches of a bucket** are those of the part of the window that lies in it. A bucket at
either end of the window may reach beyond it, so the part is cut off at the window. -/
theorem mem_matchesIn_cut_iff (timely : w.Timely) (first : f.start.FourDigit)
    (last : f.stop.FourDigit) (h : f.period.IsAxis f.start f.stop axis) {b : Period.Bucket}
    (hb : b ∈ axis) {next : Date}
    (hn : next.day = f.period.slotStart (f.period.slotOf b.start.day + 1))
    (cut : f.withWindow (max f.start b.start) (min f.stop next) = .ok g) :
    m ∈ (c.query w g group).matchesIn w ↔
      m ∈ (c.query w f group).inBucket ((c.query w f group).matchesIn w) b.id := by
  have lt : f.start.day < f.stop.day := f.start_lt_stop
  obtain ⟨begins, ends⟩ := h.bounds lt hb
  have lowDay := Date.day_max f.start b.start
  have highDay := Date.day_min f.stop next
  have low : (max f.start b.start).FourDigit :=
    first.between last (by omega) (by omega)
  have high : (min f.stop next).FourDigit := first.between last (by omega) (by omega)
  -- for a record of the event, the part of the window is the window and the bucket
  have part : m.record ∈ (c.query w f group).event.records w →
      ((max f.start b.start).text ≤ m.record.date ∧ m.record.date < (min f.stop next).text ↔
        (f.start.text ≤ m.record.date ∧ m.record.date < f.stop.text) ∧
          (c.query w f group).bucketOf m = some b.id) := by
    intro known
    obtain ⟨d, years, stamp⟩ := timely _ _ known
    obtain ⟨early, late⟩ := Date.fourDigit_iff.1 years
    have bucket : (c.query w f group).bucketOf m = some (f.period.bucketId d.day) :=
      f.period.bucketOfText_of_readsOn (StoredTime.readsOn_stamp years stamp) early late
    rw [Date.stamp_mem_window_iff years stamp low high,
      Date.stamp_mem_window_iff years stamp first last, bucket, ← h.id_eq_iff hb hn,
      Option.some.injEq, eq_comm (a := f.period.bucketId d.day)]
  rw [Query.mem_inBucket_iff, query_withWindow cut, Query.matchesIn, Query.matchesIn,
    Clauses.mem_matchesIn_iff (c.chain_query w f group),
    Clauses.mem_matchesIn_iff (c.chain_query w f group)]
  constructor
  · rintro ⟨⟨known, window⟩, rest⟩
    obtain ⟨whole, bucket⟩ := (part known).1 window
    exact ⟨⟨⟨known, whole⟩, rest⟩, bucket⟩
  · rintro ⟨⟨⟨known, whole⟩, rest⟩, bucket⟩
    exact ⟨⟨known, (part known).2 ⟨whole, bucket⟩⟩, rest⟩

end Count

end ActivityMetrics
