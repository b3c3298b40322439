import ActivityMetrics.Proofs.Metric.Exclusion

/-!
# Windows that adjoin

A window is half-open, and an event is in it when its time, whatever text it is, is not before the
text of the first day and before the text of the last. The texts of dates with four digits in the
year are ordered as the dates. So two windows that meet in a day hold together what the window
around them holds, and no event is in both, not even at the cut (`Count.mem_matchesIn_around_iff`).
Numbers of events add up, and what an event may share with another one, as its author, is counted at
most once in each of the windows (`Count.windows_add_up`).

No condition is put on the times of events. They are texts, and a text is on one side of the cut or
on the other, whether it is a date or not. All that is asked of the ends is that their texts are in
order, which fails for a year of five digits: it is written with a sign, and comes before the cut.

The window does not matter for whether a statement is accepted, so all three are answered or none
(`Count.adjoining_windows_refused`).
-/

namespace ActivityMetrics

open Calendar

namespace Count

variable {c : Count} {w : Warehouse} {f left right whole : Filter} {group : Option Dimension}
variable {first cut last : Date} {m : Match} {r : EventRecord}

/-! ## Texts in a window

The order of texts is total, and this is all there is to a cut. -/

/-- A text in a window is before or not before a text in the window. -/
theorem mem_window_iff {a b d s : String} (hab : a ≤ b) (hbd : b ≤ d) :
    (a ≤ s ∧ s < d) ↔ (a ≤ s ∧ s < b) ∨ (b ≤ s ∧ s < d) := by
  constructor
  · rintro ⟨low, high⟩
    rcases String.le_total b s with late | early
    · exact .inr ⟨late, high⟩
    · by_cases before : s < b
      · exact .inl ⟨low, before⟩
      · exact .inr ⟨String.not_lt.1 before, high⟩
  · rintro (⟨low, before⟩ | ⟨late, high⟩)
    · refine ⟨low, String.not_le.1 fun beyond => ?_⟩
      exact String.not_le.2 before (String.le_trans hbd beyond)
    · exact ⟨String.le_trans hab late, high⟩

/-! ## Matches

The queries over the three windows differ in the window and in nothing else. So a match of one is a
match of another if its event is in the window. -/

/-- Two windows meet in a day, and a third one is around them. The filters are those that a client
gets by moving the window of one filter. -/
structure Adjoin (f left right whole : Filter) (first cut last : Date) : Prop where
  /-- The first window ends with the cut. -/
  left : f.withWindow first cut = .ok left
  /-- The second one begins with it. -/
  right : f.withWindow cut last = .ok right
  /-- The third one holds both. -/
  whole : f.withWindow first last = .ok whole
  /-- The first day has a year of four digits. -/
  low : first.FourDigit
  /-- So has the last. -/
  high : last.FourDigit

/-- The window of a filter is compared with the time of an event. Everything else that is asked of a
match is asked by the filter whose window is moved. -/
theorem mem_matchesIn_window_iff {start stop : Date} {g : Filter}
    (h : f.withWindow start stop = .ok g) :
    m ∈ (c.query w g group).matchesIn w ↔
      (start.text ≤ m.record.date ∧ m.record.date < stop.text) ∧
        m.record ∈ c.event.records w ∧
          m.Within ((c.query w f group).clauses.joins.map Link.slot) ∧
          (∀ l ∈ (c.query w f group).clauses.joins, l.Holds w c.event m) ∧
            ∀ p ∈ (c.query w f group).clauses.predicates, p.holds w c.event m := by
  rw [query_withWindow h, Query.matchesIn, Clauses.mem_matchesIn_iff (c.chain_query w f group),
    ← event_query c w f group]
  constructor
  · rintro ⟨⟨known, window⟩, rest⟩
    exact ⟨window, known, rest⟩
  · rintro ⟨window, known, rest⟩
    exact ⟨⟨known, window⟩, rest⟩

/-- **The matches of a window are those of its two parts.** This holds for breakdowns as well. -/
theorem mem_matchesIn_around_iff (h : Adjoin f left right whole first cut last) :
    m ∈ (c.query w whole group).matchesIn w ↔
      m ∈ (c.query w left group).matchesIn w ∨ m ∈ (c.query w right group).matchesIn w := by
  obtain ⟨before, _⟩ := Filter.withWindow_eq_ok_iff.1 h.left
  obtain ⟨after, _⟩ := Filter.withWindow_eq_ok_iff.1 h.right
  have early : first.day ≤ cut.day := Int.le_of_lt before
  have late : cut.day ≤ last.day := Int.le_of_lt after
  have middle := h.low.between h.high early late
  rw [mem_matchesIn_window_iff h.left, mem_matchesIn_window_iff h.right,
    mem_matchesIn_window_iff h.whole,
    mem_window_iff (Date.text_le_text h.low middle early) (Date.text_le_text middle h.high late),
    or_and_right]

/-- **No event is in both parts**, not even at the cut. An event at the very beginning of the day of
the cut is in the second window. -/
theorem not_mem_both (h : Adjoin f left right whole first cut last)
    (hl : c.Counts w left r) : ¬ c.Counts w right r := by
  rintro ⟨m', hm', rfl⟩
  obtain ⟨m, hm, same⟩ := hl
  have before := ((mem_matchesIn_window_iff h.left).1 hm).1.2
  have after := ((mem_matchesIn_window_iff h.right).1 hm').1.1
  rw [same] at before
  exact String.not_le.2 before after

/-- What is counted in the whole is counted in a part. -/
theorem counts_around_iff (h : Adjoin f left right whole first cut last) :
    c.Counts w whole r ↔ c.Counts w left r ∨ c.Counts w right r := by
  simp only [Counts, mem_matchesIn_around_iff h, or_and_right, exists_or]

/-! ## Totals

Values that are counted may come from several events, and so may be counted in both parts. The whole
has those of one part and those of the other. -/

/-- What is counted does not depend on the window. -/
theorem counted_withWindow {start stop : Date} {g : Filter} (h : f.withWindow start stop = .ok g) :
    (c.query w g group).counted = (c.query w f group).counted := by
  rw [query_withWindow h]

/-- A part has no more values than the whole, whatever is counted. -/
theorem total_le_of_subset {start stop : Date} {g : Filter}
    (h : Adjoin f left right whole first cut last) (hg : f.withWindow start stop = .ok g)
    (part : ∀ m ∈ (c.query w g none).matchesIn w, m ∈ (c.query w whole none).matchesIn w) :
    c.total w g ≤ c.total w whole := by
  rw [total, total, counted_withWindow hg, counted_withWindow h.whole]
  exact Counted.count_le fun m hm => ⟨m, part m hm, rfl⟩

/-- The whole has no more values than both parts by themselves. A value of both is counted once in
the whole. -/
theorem total_around_le (h : Adjoin f left right whole first cut last) :
    c.total w whole ≤ c.total w left + c.total w right := by
  rw [total, total, total, counted_withWindow h.left, counted_withWindow h.right,
    counted_withWindow h.whole]
  exact Counted.count_le_add fun m => (mem_matchesIn_around_iff h).1

/-- **Numbers of events add up.** An event is counted in one of the parts, and it is one number in
both. -/
theorem total_around_eq (h : Adjoin f left right whole first cut last) (keyed : w.Keyed)
    (hc : c.CountsNumbers) : c.total w left + c.total w right = c.total w whole := by
  simp only [total_eq_countP keyed hc]
  rw [← countP_or_of_apart]
  · refine List.countP_congr fun r _ => ?_
    rw [Bool.or_eq_true, decide_eq_true_iff, decide_eq_true_iff, decide_eq_true_iff,
      counts_around_iff h]
  · intro r _ before after
    exact not_mem_both h (of_decide_eq_true before) (of_decide_eq_true after)

/-! ## The theorem -/

/-- A statement that is not accepted over one window is accepted over no other. -/
theorem aggregate_withWindow_refused {start stop : Date} {g : Filter} (hg : f.group? = none)
    (h : ¬ (c.query w f none).Admitted .aggregate) (window : f.withWindow start stop = .ok g) :
    ∃ fault, c.aggregate w g = .error (.database fault) :=
  aggregate_refused ((Filter.group?_withWindow window).trans hg) fun accepted =>
    h ((admitted_withWindow_iff window).1 accepted)

/-- **Windows add up.** The total over a window that is cut in two is at least that over each part
and at most their sum, and for commits and opened issues it is the sum. The three statements are
accepted together, and fail together in the database.

For people the two bounds are the best that can be said: someone who is active before and after the
cut makes the sum too large, and if everyone is, the total over each part is that over the whole.
The cut is strictly between the ends, since a window cannot be empty. -/
theorem windows_add_up (c : Count) {w : Warehouse} (reachable : w.Reachable) {f : Filter}
    (hg : f.group? = none) {first cut last : Date} (low : first.FourDigit) (high : last.FourDigit)
    (before : first < cut) (after : cut < last) :
    ∃ left right whole, f.withWindow first cut = .ok left ∧ f.withWindow cut last = .ok right ∧
      f.withWindow first last = .ok whole ∧
      ((c.query w f none).Admitted .aggregate → ∃ x y z, c.Answers w left x ∧
        c.Answers w right y ∧ c.Answers w whole z ∧ x ≤ z ∧ y ≤ z ∧ z ≤ x + y ∧
          (c.CountsNumbers → x + y = z)) ∧
      (¬ (c.query w f none).Admitted .aggregate → ∀ g ∈ [left, right, whole],
        ∃ fault, c.aggregate w g = .error (.database fault)) := by
  have around : first < last := Int.lt_trans before after
  obtain ⟨left, hl⟩ := f.exists_withWindow before
  obtain ⟨right, hr⟩ := f.exists_withWindow after
  obtain ⟨whole, hw⟩ := f.exists_withWindow around
  have h : Adjoin f left right whole first cut last := ⟨hl, hr, hw, low, high⟩
  refine ⟨left, right, whole, hl, hr, hw, fun accepted => ?_, fun refused g hg' => ?_⟩
  · have answers : ∀ {start stop : Date} {g : Filter}, f.withWindow start stop = .ok g →
        c.Answers w g (c.total w g) := fun window =>
      answers_total ((Filter.group?_withWindow window).trans hg)
        ((admitted_withWindow_iff window).2 accepted)
    exact ⟨_, _, _, answers hl, answers hr, answers hw,
      total_le_of_subset h hl fun m hm => (mem_matchesIn_around_iff h).2 (.inl hm),
      total_le_of_subset h hr fun m hm => (mem_matchesIn_around_iff h).2 (.inr hm),
      total_around_le h, total_around_eq h reachable.keyed⟩
  · simp only [List.mem_cons, List.not_mem_nil, or_false] at hg'
    rcases hg' with rfl | rfl | rfl
    · exact aggregate_withWindow_refused hg refused hl
    · exact aggregate_withWindow_refused hg refused hr
    · exact aggregate_withWindow_refused hg refused hw

/-- The commits of January are those of its first nineteen days and those from the twentieth on. -/
theorem windows_add_up_joiner :
    ∃ left right whole x y z,
      (Filter.january (.bound [])).withWindow ⟨20089, by decide, by decide⟩
        ⟨20108, by decide, by decide⟩ = .ok left ∧
      (Filter.january (.bound [])).withWindow ⟨20108, by decide, by decide⟩
        ⟨20120, by decide, by decide⟩ = .ok right ∧
      (Filter.january (.bound [])).withWindow ⟨20089, by decide, by decide⟩
        ⟨20120, by decide, by decide⟩ = .ok whole ∧
      (commits.Answers .joiner left x ∧ commits.total .joiner left = 1) ∧
      (commits.Answers .joiner right y ∧ commits.total .joiner right = 2) ∧
      (commits.Answers .joiner whole z ∧ commits.total .joiner whole = 3) ∧ x + y = z := by
  have before : (⟨20089, by decide, by decide⟩ : Date) < ⟨20108, by decide, by decide⟩ := by decide
  have after : (⟨20108, by decide, by decide⟩ : Date) < ⟨20120, by decide, by decide⟩ := by decide
  have ungrouped : (Filter.january (.bound [])).group? = none := rfl
  obtain ⟨left, right, whole, hl, hr, hw, answered, refused⟩ :=
    commits.windows_add_up (w := .joiner) ⟨_, rfl⟩ ungrouped (by decide) (by decide) before after
  obtain ⟨x, y, z, hx, hy, hz, _, _, _, sum⟩ := answered (by decide)
  have totals : commits.total .joiner left = 1 ∧ commits.total .joiner right = 2 ∧
      commits.total .joiner whole = 3 := by
    obtain ⟨ordered, rfl⟩ := Filter.withWindow_eq_ok_iff.1 hl
    obtain ⟨ordered', rfl⟩ := Filter.withWindow_eq_ok_iff.1 hr
    obtain ⟨ordered'', rfl⟩ := Filter.withWindow_eq_ok_iff.1 hw
    clear hl hr hw hx hy hz answered refused
    decide +revert
  exact ⟨left, right, whole, x, y, z, hl, hr, hw, ⟨hx, totals.1⟩, ⟨hy, totals.2.1⟩,
    ⟨hz, totals.2.2⟩, sum (.inl rfl)⟩

/-! ## Conditions too deep

A filter that is not accepted has no total to compare, over any of the windows. -/

/-- **Adjoining windows may all be refused.** The commits of a thousand repositories have no total,
neither before 20 January nor from then on nor together, even in an empty warehouse. -/
theorem adjoining_windows_refused :
    Warehouse.empty.Reachable ∧ (Filter.inRepositories 1000).group? = none ∧
    ∃ left right whole,
      (Filter.inRepositories 1000).withWindow ⟨20089, by decide, by decide⟩
        ⟨20108, by decide, by decide⟩ = .ok left ∧
      (Filter.inRepositories 1000).withWindow ⟨20108, by decide, by decide⟩
        ⟨20120, by decide, by decide⟩ = .ok right ∧
      (Filter.inRepositories 1000).withWindow ⟨20089, by decide, by decide⟩
        ⟨20120, by decide, by decide⟩ = .ok whole ∧
      (∀ g ∈ [left, right, whole],
        ∃ fault, commits.aggregate .empty g = .error (.database fault)) ∧
      ¬ ∃ x y z, commits.Answers .empty left x ∧ commits.Answers .empty right y ∧
        commits.Answers .empty whole z ∧ x + y = z := by
  have ungrouped : (Filter.inRepositories 1000).group? = none := rfl
  have before : (⟨20089, by decide, by decide⟩ : Date) < ⟨20108, by decide, by decide⟩ := by decide
  have after : (⟨20108, by decide, by decide⟩ : Date) < ⟨20120, by decide, by decide⟩ := by decide
  obtain ⟨left, hl⟩ := (Filter.inRepositories 1000).exists_withWindow before
  obtain ⟨right, hr⟩ := (Filter.inRepositories 1000).exists_withWindow after
  obtain ⟨whole, hw⟩ :=
    (Filter.inRepositories 1000).exists_withWindow (Int.lt_trans before after)
  have deep : ¬ (commits.query .empty (.inRepositories 1000) none).Admitted .aggregate :=
    not_admitted_inRepositories .empty (Nat.le_refl _)
  refine ⟨⟨[], rfl⟩, ungrouped, left, right, whole, hl, hr, hw, fun g hg => ?_, ?_⟩
  · simp only [List.mem_cons, List.not_mem_nil, or_false] at hg
    rcases hg with rfl | rfl | rfl
    · exact aggregate_withWindow_refused ungrouped deep hl
    · exact aggregate_withWindow_refused ungrouped deep hr
    · exact aggregate_withWindow_refused ungrouped deep hw
  · rintro ⟨_, _, _, answered, _⟩
    obtain ⟨fault, failed⟩ := aggregate_withWindow_refused ungrouped deep hl
    exact not_answers_of_error failed answered

end Count

end ActivityMetrics
