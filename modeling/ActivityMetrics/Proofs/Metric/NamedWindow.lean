import ActivityMetrics.Proofs.Calendar.Stamp
import ActivityMetrics.Proofs.Filter.Request
import ActivityMetrics.Proofs.Metric.Events
import ActivityMetrics.Proofs.Window

/-!
# Commits of a named window

A window reaches a statement as two texts, and a commit is in it when the text of its time is not
before the first and before the second. A year outside 0 to 9999 is written with a sign, and signs
come before digits. That is right for the years before the year 0, which are before all commits. It
is wrong for the year 10000, in which four windows end: no commit is before their ends, and their
totals are zero. The total of every other named window is the number of commits of its days
(`Count.commits_of_named_window`).

No name gives a year beyond 9999. The end of a window is the first day that is not in it, and it is
this day that may be one too late: the windows of the last year, its last quarter, its last month
and its last week all end there. So the fault is not met by a name that looks unusual, and the days
of these windows are all of four digits themselves.

The theorem needs two things of the warehouse. Its commits are dated by stamps, so that a day can be
read off each, and it was loaded, so that its commits have numbers of their own and the total is a
number of commits.
-/

namespace ActivityMetrics

open Calendar

/-- Every commit is dated by an instant of a day, in the years 0 to 9999. The day is a function of
the commit, and so a count of days is a count of commits. -/
def Warehouse.Dated (w : Warehouse) (day : Commit → Date) : Prop :=
  ∀ c ∈ w.commits, (day c).FourDigit ∧ ∃ t : Instant, t.date = day c ∧ t.text = c.date

namespace Count

variable {w : Warehouse} {day : Commit → Date} {start stop : Date} {c : Commit}

/-- A window alone takes no links and no conditions. -/
theorem clauses_plain (w : Warehouse) (h : start < stop) :
    (commits.query w (.plain start stop h) none).clauses = .empty :=
  rfl

/-- The database accepts the statement of a window alone: it has two marks, and no conditions beside
the window. -/
theorem admitted_plain (w : Warehouse) (h : start < stop) :
    (commits.query w (.plain start stop h) none).Admitted .aggregate := by
  show Limits.marksOf .commits .empty false ≤ Limits.marks ∧ Clauses.reach .empty ≤ Limits.depth
  decide

/-- **A commit is counted when the text of its time is in the window.** There is nothing else to
satisfy, so that its match has no records but the commit. -/
theorem counts_plain_iff (h : start < stop) (hc : c ∈ w.commits) :
    commits.Counts w (.plain start stop h) (.commit c) ↔
      start.text ≤ c.date ∧ c.date < stop.text := by
  have known : EventRecord.commit c ∈ Event.commits.records w := List.mem_map.2 ⟨c, hc, rfl⟩
  rw [counts_iff, clauses_plain]
  constructor
  · exact fun ⟨⟨_, window⟩, _⟩ => window
  · exact fun window => ⟨⟨known, window⟩, { record := .commit c }, rfl, nofun, nofun⟩

/-- The total over a window is the number of commits whose texts are in it. -/
theorem total_plain (reachable : w.Reachable) (h : start < stop) :
    commits.total w (.plain start stop h)
      = w.commits.countP fun c => start.text ≤ c.date ∧ c.date < stop.text := by
  rw [total_eq_countP reachable.keyed (.inl rfl)]
  show (w.commits.map EventRecord.commit).countP _ = _
  rw [List.countP_map]
  refine List.countP_congr fun c hc => ?_
  rw [Function.comp_apply, decide_eq_true_iff, decide_eq_true_iff]
  exact counts_plain_iff h hc

/-- **Texts compare as days** up to the year 9999. Nothing is before the year 10000. The time of day
behind the date does not matter, as a window begins and ends with a date alone. -/
theorem mem_window_of_dated (dated : w.Dated day) (hc : c ∈ w.commits) (first : start.year ≤ 9999) :
    (start.text ≤ c.date ∧ c.date < stop.text) ↔
      (start ≤ day c ∧ day c < stop) ∧ stop.year ≤ 9999 := by
  obtain ⟨years, t, on_day, text⟩ := dated c hc
  have begins : c.date.toList = (day c).text.toList ++ t.clockChars := by
    rw [← text, t.toList_text, on_day]
  rw [← String.not_lt, Date.begins_lt_text_iff years begins, Date.begins_lt_text_iff years begins,
    and_iff_left first, Int.not_lt, and_assoc]
  rfl

/-! ## The theorem -/

/-- **The commits of a named window.** The total over every window that has a name is the number of
commits whose day lies in it, but for the four windows that end in the year 10000: their totals are
zero, whatever commits there are.

The filter is built from the window without further conditions, and that it is built is part of the
statement, as is that the database answers. A name that is relative to a day is read on a day of
four digits. That the exceptions are exactly the four windows rests on what names give
(`Window.Names`), and does not go by the text of the name. -/
theorem commits_of_named_window (reachable : w.Reachable) (dated : w.Dated day) {s : String}
    {today : Date} (present : today.year ≤ 9999)
    (named : Window.ofName s today = .ok (start, stop)) :
    ∃ f, FilterRequest.build { start, stop } = .ok f ∧
      (Text.trim s ∉ Window.lastNames →
        commits.Answers w f (w.commits.countP fun c => start ≤ day c ∧ day c < stop)) ∧
      (Text.trim s ∈ Window.lastNames → commits.Answers w f 0) := by
  have names := Window.names_of_ofName named
  have h : start < stop := names.start_lt_stop
  have first : start.year ≤ 9999 := names.start_year_le present
  have last : stop.year ≤ 9999 ↔ Text.trim s ∉ Window.lastNames :=
    Window.stop_year_le_iff present named
  have answered : commits.Answers w (.plain start stop h) (commits.total w (.plain start stop h)) :=
    answers_total rfl (admitted_plain w h)
  rw [total_plain reachable h] at answered
  refine ⟨_, FilterRequest.build_plain h, fun other => ?_, fun late => ?_⟩
  · -- the window ends in a year of four digits, and the texts decide as the days do
    have same : ∀ c ∈ w.commits,
        (decide (start.text ≤ c.date ∧ c.date < stop.text) = true ↔
          decide (start ≤ day c ∧ day c < stop) = true) := fun c hc => by
      rw [decide_eq_true_iff, decide_eq_true_iff, mem_window_of_dated dated hc first,
        and_iff_left (last.2 other)]
    rwa [List.countP_congr same] at answered
  · -- the window ends with a sign, which comes before the digit with which every commit begins
    have none_counted : w.commits.countP (fun c => start.text ≤ c.date ∧ c.date < stop.text)
        = 0 := by
      rw [List.countP_eq_zero]
      intro c hc counted
      exact last.1 ((mem_window_of_dated dated hc first).1 (of_decide_eq_true counted)).2 late
    rwa [none_counted] at answered

/-- The first of June of the last year with four digits. -/
def lastJune : Date :=
  ⟨2932683, by decide, by decide⟩

/-- A commit on this day. -/
def juneCommit : Warehouse :=
  .load .empty [.nameRepository "core" none, .insertCommit "r1" 1 none none "9999-06-01 00:00:00"]

/-- The commit is dated by the midnight of this day. -/
theorem dated_juneCommit : juneCommit.Dated fun _ => lastJune := by
  have commits : juneCommit.commits = [⟨1, "r1", 1, none, none, "9999-06-01 00:00:00"⟩] := by decide
  intro c hc
  rw [commits, List.mem_singleton] at hc
  exact ⟨show lastJune.FourDigit by decide, lastJune.midnight, rfl, hc ▸ by decide⟩

/-- The commit is counted in its month, and not in its year. -/
theorem commits_of_named_window_june :
    (∃ start stop f, Window.ofName "9999-06" default = .ok (start, stop) ∧
      FilterRequest.build { start, stop } = .ok f ∧ (start ≤ lastJune ∧ lastJune < stop) ∧
        commits.Answers juneCommit f 1) ∧
    ∃ start stop f, Window.ofName "9999" default = .ok (start, stop) ∧
      FilterRequest.build { start, stop } = .ok f ∧ (start ≤ lastJune ∧ lastJune < stop) ∧
        commits.Answers juneCommit f 0 := by
  have reachable : juneCommit.Reachable := ⟨_, rfl⟩
  have present : (default : Date).year ≤ 9999 := by decide
  have month : Window.ofName "9999-06" default
      = .ok (⟨2932683, by decide, by decide⟩, ⟨2932713, by decide, by decide⟩) := rfl
  have year : Window.ofName "9999" default
      = .ok (⟨2932532, by decide, by decide⟩, ⟨2932897, by decide, by decide⟩) := rfl
  obtain ⟨f, hf, counted, _⟩ := commits_of_named_window reachable dated_juneCommit present month
  obtain ⟨g, hg, _, lost⟩ := commits_of_named_window reachable dated_juneCommit present year
  exact ⟨⟨_, _, f, month, hf, by decide, counted (by decide)⟩,
    ⟨_, _, g, year, hg, by decide, lost (by decide)⟩⟩

end Count

end ActivityMetrics
