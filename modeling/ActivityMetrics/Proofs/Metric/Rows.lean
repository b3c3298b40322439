import ActivityMetrics.Proofs.Metric.Query

/-!
# What the rows of a query depend on

From a match a query reads the event, the name of the place, the person, and the names of groups;
neither the link to the person nor the membership shows in a row (`Match.ReadsAs`). Values are
counted once, and buckets and items stand in an order of their own. So the rows do not depend on the
order of matches or on how often each occurs, but only on what can be read from some match
(`Query.rows_congr`).

This is the only module that knows how rows are put together, and it knows it twice. The first
comparison allows matches to be found in any order and any number of times, but asks that they are
read alike. The second allows them to be read differently, as commits under other numbers are, but
asks that they come one for one in the same order and that every part of them is counted as before
(`Query.Hides`). Neither contains the other.

A result that is sorted is determined by its members only if the order distinguishes them, so that
for each of the orders in use, by rank, by name and by bucket, it is shown that no two of the rows
sorted by it are equal in it. This has to be known of the rows and not of the order: by name two
rows with different numbers are equal, but an item has one number.
-/

namespace ActivityMetrics

/-! ## Readings

What a query reads from a match is a small part of it, and two matches may differ in the rest. -/

/-- The same is read from two matches. -/
structure Match.ReadsAs (m m' : Match) : Prop where
  /-- They are of one event. -/
  record : m'.record = m.record
  /-- The places have one name. -/
  place : m'.place.map (·.name) = m.place.map (·.name)
  /-- They lead to one person. -/
  person : m'.identity.map (·.uuid) = m.identity.map (·.uuid)
  /-- The groups of a kind have one name. -/
  group : ∀ kind, (m'.group kind).map (·.name) = (m.group kind).map (·.name)

namespace Match.ReadsAs

variable {m m' : Match}

/-- A match reads as itself. -/
theorem refl (m : Match) : m.ReadsAs m :=
  ⟨rfl, rfl, rfl, fun _ => rfl⟩

/-- To read as another match is symmetric. -/
theorem symm (h : m.ReadsAs m') : m'.ReadsAs m :=
  ⟨h.record.symm, h.place.symm, h.person.symm, fun kind => (h.group kind).symm⟩

/-- What is counted is read. -/
theorem counted (h : m.ReadsAs m') (c : Counted) : c.valueOf m' = c.valueOf m := by
  have person : m'.identity.map (fun i => MatchValue.name i.uuid)
      = m.identity.map fun i => MatchValue.name i.uuid := by
    have named := congrArg (Option.map MatchValue.name) h.person
    simpa only [Option.map_map, Function.comp_def] using named
  cases c <;> simp only [Counted.valueOf, h.record, person]

/-- The item is read. -/
theorem item (h : m.ReadsAs m') (key : GroupKey) : key.valueOf m' = key.valueOf m := by
  cases key with
  | repository source => exact h.place
  | person => exact h.person
  | group kind => exact h.group kind

/-- The bucket is read. -/
theorem bucket (h : m.ReadsAs m') (q : Query) : q.bucketOf m' = q.bucketOf m := by
  rw [Query.bucketOf, h.record, Query.bucketOf]

end Match.ReadsAs

/-- The same is read from two lists of matches. -/
structure SameReadings (ms ms' : List Match) : Prop where
  /-- What is read from the first is read from the second. -/
  left : ∀ m ∈ ms, ∃ m' ∈ ms', m.ReadsAs m'
  /-- What is read from the second is read from the first. -/
  right : ∀ m' ∈ ms', ∃ m ∈ ms, m.ReadsAs m'

namespace SameReadings

variable {ms ms' : List Match}

/-- The same is read from the same matches, in any order. -/
theorem of_mem_iff (h : ∀ m, m ∈ ms' ↔ m ∈ ms) : SameReadings ms ms' :=
  ⟨fun m hm => ⟨m, (h m).2 hm, .refl m⟩, fun m hm => ⟨m, (h m).1 hm, .refl m⟩⟩

/-- In particular from equal lists. -/
theorem of_eq (h : ms' = ms) : SameReadings ms ms' :=
  .of_mem_iff fun _ => by rw [h]

/-- The same is read from matches of which each is replaced by one that reads alike. -/
theorem map {g : Match → Match} (h : ∀ m ∈ ms, m.ReadsAs (g m)) : SameReadings ms (ms.map g) :=
  ⟨fun m hm => ⟨g m, List.mem_map_of_mem hm, h m hm⟩, fun m' hm' => by
    obtain ⟨m, hm, rfl⟩ := List.mem_map.1 hm'
    exact ⟨m, hm, h m hm⟩⟩

/-- A part that is told by what is read. Buckets and items are such parts. -/
theorem filter {p : Match → Bool} (h : SameReadings ms ms')
    (hp : ∀ m m', m.ReadsAs m' → p m' = p m) : SameReadings (ms.filter p) (ms'.filter p) := by
  constructor
  · intro m hm
    obtain ⟨known, holds⟩ := List.mem_filter.1 hm
    obtain ⟨m', hm', reads⟩ := h.left m known
    exact ⟨m', List.mem_filter.2 ⟨hm', (hp m m' reads).trans holds⟩, reads⟩
  · intro m' hm'
    obtain ⟨known, holds⟩ := List.mem_filter.1 hm'
    obtain ⟨m, hm, reads⟩ := h.right m' known
    exact ⟨m, List.mem_filter.2 ⟨hm, (hp m m' reads).symm.trans holds⟩, reads⟩

/-- A value that is read from a match of one is read from a match of the other. This is all that is
needed of readings below: that an item occurs, that a value is counted, that a bucket is there. -/
theorem exists_iff {α : Type} {value : Match → α} (h : SameReadings ms ms')
    (reads : ∀ m m', m.ReadsAs m' → value m' = value m) (a : α) :
    (∃ m' ∈ ms', value m' = a) ↔ ∃ m ∈ ms, value m = a := by
  constructor
  · rintro ⟨m', hm', rfl⟩
    obtain ⟨m, hm, alike⟩ := h.right m' hm'
    exact ⟨m, hm, (reads m m' alike).symm⟩
  · rintro ⟨m, hm, rfl⟩
    obtain ⟨m', hm', alike⟩ := h.left m hm
    exact ⟨m', hm', reads m m' alike⟩

/-- **A count depends on what is read.** -/
theorem count (h : SameReadings ms ms') (c : Counted) : c.count ms' = c.count ms := by
  refine length_eraseDups_congr fun value => ?_
  simp only [List.mem_filterMap]
  exact h.exists_iff (fun _ _ alike => alike.counted c) (some value)

/-- The matches of an item. -/
theorem item (h : SameReadings ms ms') (key : GroupKey) (k : String) :
    SameReadings (ms.filter fun m => key.valueOf m == some k)
      (ms'.filter fun m => key.valueOf m == some k) :=
  h.filter fun _ _ alike => by rw [alike.item key]

/-- The matches of a bucket. -/
theorem bucket (h : SameReadings ms ms') (q : Query) (b : Option Int) :
    SameReadings (ms.filter fun m => q.bucketOf m == b)
      (ms'.filter fun m => q.bucketOf m == b) :=
  h.filter fun _ _ alike => by rw [alike.bucket q]

end SameReadings

namespace Query

variable {q q' : Query} {w w' : Warehouse} {mode : Mode} {key : GroupKey} {ms ms' : List Match}

/-! ## Orders

Each order is transitive, total, and antisymmetric on what is sorted by it. -/

/-- In a ranking, more comes first, and where there is as much, the lesser name. -/
theorem rankLe_iff {a b : String × Nat} :
    rankLe a b ↔ b.2 < a.2 ∨ a.2 = b.2 ∧ a.1 ≤ b.1 := by
  unfold rankLe
  by_cases same : a.2 = b.2
  · rw [if_pos same, decide_eq_true_iff, same]
    exact ⟨fun h => .inr ⟨rfl, h⟩, fun h => (h.resolve_left (Nat.lt_irrefl _)).2⟩
  · rw [if_neg same, decide_eq_true_iff]
    omega

/-- Two rows of one rank are the same row. -/
theorem rankLe_antisymm (a b : String × Nat) (h : rankLe a b) (h' : rankLe b a) : a = b := by
  rw [rankLe_iff] at h h'
  rcases h with h | ⟨same, le⟩ <;> rcases h' with h' | ⟨_, ge⟩
  · omega
  · omega
  · omega
  · exact Prod.ext (String.le_antisymm le ge) same

/-- The order of ranks is transitive. -/
theorem rankLe_trans (a b c : String × Nat) (h : rankLe a b) (h' : rankLe b c) :
    rankLe a c := by
  rw [rankLe_iff] at h h' ⊢
  rcases h with h | ⟨same, le⟩ <;> rcases h' with h' | ⟨same', le'⟩
  · omega
  · omega
  · omega
  · exact .inr ⟨same.trans same', String.le_trans le le'⟩

/-- Of two rows, one is ranked before the other or beside it. -/
theorem rankLe_total (a b : String × Nat) : rankLe a b || rankLe b a := by
  rw [Bool.or_eq_true, rankLe_iff, rankLe_iff]
  rcases Nat.lt_trichotomy a.2 b.2 with less | same | greater
  · exact .inr (.inl less)
  · exact (String.le_total a.1 b.1).imp (fun le => .inr ⟨same, le⟩) fun ge => .inr ⟨same.symm, ge⟩
  · exact .inl (.inl greater)

/-- Buckets are ordered by number, and what is in no bucket comes first. -/
theorem bucketLe_antisymm (i j : Option Int) (h : bucketLe i j) (h' : bucketLe j i) : i = j := by
  cases i <;> cases j
  · rfl
  · cases h'
  · cases h
  · exact congrArg some (Int.le_antisymm (of_decide_eq_true h) (of_decide_eq_true h'))

/-- The order of buckets is transitive. -/
theorem bucketLe_trans (i j k : Option Int) (h : bucketLe i j) (h' : bucketLe j k) :
    bucketLe i k := by
  cases i with
  | none => rfl
  | some i =>
    cases j with
    | none => cases h
    | some j =>
      cases k with
      | none => cases h'
      | some k => exact decide_eq_true (Int.le_trans (of_decide_eq_true h) (of_decide_eq_true h'))

/-- The order of buckets is total, too. -/
theorem bucketLe_total (i j : Option Int) : bucketLe i j || bucketLe j i := by
  cases i <;> cases j
  · rfl
  · rfl
  · rfl
  · rw [Bool.or_eq_true]
    exact (Int.le_total _ _).imp decide_eq_true decide_eq_true

/-! ## Rows

The rows of a query are functions of parts of its matches, in an order. Parts and orders have been
seen not to depend on more than readings. -/

/-- The numbers of items depend on what is read. Their order does not, and it is not the same: items
come in the order of their first matches. -/
theorem itemCounts_perm (counted : q'.counted = q.counted) (h : SameReadings ms ms') :
    (q'.itemCounts key ms').Perm (q.itemCounts key ms) := by
  have items : (itemsIn key ms').Perm (itemsIn key ms) :=
    (List.perm_ext_iff_of_nodup (nodup_itemsIn key ms') (nodup_itemsIn key ms)).2 fun k => by
      rw [mem_itemsIn_iff, mem_itemsIn_iff]
      exact h.exists_iff (fun _ _ alike => alike.item key) (some k)
  have number : ∀ k, q'.itemCount key ms' k = q.itemCount key ms k := fun k => by
    rw [itemCount, counted]
    exact (h.item key k).count q.counted
  simp only [itemCounts_eq, number]
  exact items.map _

/-- Matches with the same readings give the same ranking. Items are drawn from the readings, and
ties are broken by name, so the order of the matches does not matter. -/
theorem ranking_congr (counted : q'.counted = q.counted) (limit : q'.limit = q.limit)
    (h : SameReadings ms ms') : q'.ranking key ms' = q.ranking key ms := by
  have ranked : (q'.itemCounts key ms').mergeSort rankLe = (q.itemCounts key ms).mergeSort rankLe :=
    mergeSort_congr rankLe_trans rankLe_total (fun a b _ _ => rankLe_antisymm a b)
      (itemCounts_perm counted h)
  rw [ranking, limit, ranked]
  rfl

/-- Matches with the same readings give the same rows by name. -/
theorem sorted_congr (counted : q'.counted = q.counted) (h : SameReadings ms ms') :
    (q'.itemCounts key ms').mergeSort (fun x y => x.1 ≤ y.1)
      = (q.itemCounts key ms).mergeSort fun x y => x.1 ≤ y.1 := by
  refine mergeSort_congr (fun _ _ _ h h' => ?_) (fun _ _ => ?_) (fun a b ha hb h h' => ?_)
    (itemCounts_perm counted h)
  · exact decide_eq_true (String.le_trans (of_decide_eq_true h) (of_decide_eq_true h'))
  · rw [Bool.or_eq_true, decide_eq_true_iff, decide_eq_true_iff]
    exact String.le_total _ _
  · -- an item has one number
    have same := String.le_antisymm (of_decide_eq_true h) (of_decide_eq_true h')
    rw [Prod.ext_iff, eq_itemCount_of_mem ha, eq_itemCount_of_mem hb, same]
    exact ⟨rfl, rfl⟩

/-- The same buckets in order, each with the matches that are in it. -/
theorem exists_byBucket (period : q'.period = q.period) (h : SameReadings ms ms') :
    ∃ bs : List (Option Int),
      q.byBucket ms = bs.map (fun b => (b, ms.filter fun m => q.bucketOf m == b)) ∧
      q'.byBucket ms' = bs.map (fun b => (b, ms'.filter fun m => q.bucketOf m == b)) := by
  have own : q'.bucketOf = q.bucketOf := by
    funext m
    rw [bucketOf, period]
    rfl
  have buckets : (ms'.map q.bucketOf).eraseDups.Perm (ms.map q.bucketOf).eraseDups :=
    (List.perm_ext_iff_of_nodup (nodup_eraseDups _) (nodup_eraseDups _)).2 fun b => by
      simp only [List.mem_eraseDups, List.mem_map]
      exact h.exists_iff (fun _ _ alike => alike.bucket q) b
  have sorted := mergeSort_congr bucketLe_trans bucketLe_total
    (fun i j _ _ => bucketLe_antisymm i j) buckets
  refine ⟨_, rfl, ?_⟩
  rw [byBucket, own, sorted]

/-- **The rows of a query depend only on what is read from its matches.** The two queries may be
different, over different warehouses, as long as they count the same, cut the same buckets and have
the same limit. -/
theorem rows_congr {key : Option (Dimension × GroupKey)} (name : q'.name = q.name)
    (counted : q'.counted = q.counted) (period : q'.period = q.period)
    (limit : q'.limit = q.limit) (h : SameReadings (q.matchesIn w) (q'.matchesIn w')) :
    q'.rows w' mode key = q.rows w mode key := by
  obtain ⟨bs, buckets, buckets'⟩ := exists_byBucket period h
  have inside := h.bucket q
  cases key with
  | none =>
    cases mode with
    | aggregate => simp only [rows, name, counted, h.count]
    | timeSeries =>
      simp only [rows, name, counted, buckets, buckets', List.map_map, Function.comp_def,
        (inside _).count]
  | some k =>
    cases mode with
    | aggregate => simp only [rows, name, ranking_congr counted limit h]
    | timeSeries =>
      simp only [rows, name, buckets, buckets', List.flatMap_map, sorted_congr counted (inside _)]

/-- **A query is answered from what is read from its matches.** -/
theorem run_congr (h : SameReadings (q.matchesIn w) (q.matchesIn w')) (mode : Mode) :
    q.run w' mode = q.run w mode := by
  have rows : ∀ key, q.rows w' mode key = q.rows w mode key := fun key =>
    rows_congr rfl rfl rfl rfl h
  simp only [run, rows]

/-! ## Other matches in their place

The matches of one query are replaced one by one, and the rows are followed through the
replacement. -/

/-- The rows of a query do not show that its matches are replaced: each stays in its item and its
bucket, and every part of them has as many values as before. That the counts are the same is asked
of every part, as a query counts in parts that the replacement knows nothing about. -/
structure Hides (q : Query) (ms : List Match) (g : Match → Match) : Prop where
  /-- The items are the same. -/
  item : ∀ (key : GroupKey) (m : Match), key.valueOf (g m) = key.valueOf m
  /-- The buckets are the same. -/
  bucket : ∀ m : Match, q.bucketOf (g m) = q.bucketOf m
  /-- The counts are the same. -/
  count : ∀ part ⊆ ms, q.counted.count (part.map g) = q.counted.count part

namespace Hides

variable {g : Match → Match} {part : List Match}

/-- Matches that are replaced unseen leave the numbers of items as they are. Here the order of the
items is the same, too. -/
theorem itemCounts (h : q.Hides ms g) (among : part ⊆ ms) (key : GroupKey) :
    q.itemCounts key (part.map g) = q.itemCounts key part := by
  have items : (part.map g).filterMap key.valueOf = part.filterMap key.valueOf := by
    simp only [List.filterMap_map, Function.comp_def, h.item]
  rw [Query.itemCounts, items, Query.itemCounts]
  refine List.map_congr_left fun k _ => ?_
  simp only [List.filter_map, Function.comp_def, h.item]
  rw [h.count _ fun _ there => among (List.mem_of_mem_filter there)]

/-- Matches that are replaced unseen stay in their buckets. -/
theorem byBucket (h : q.Hides ms g) (part : List Match) :
    q.byBucket (part.map g) = (q.byBucket part).map fun (b, inside) => (b, inside.map g) := by
  simp only [Query.byBucket, List.map_map, Function.comp_def, List.filter_map, h.bucket]

/-- **The rows are those of the matches before.** -/
theorem rows (h : q.Hides (q.matchesIn w) g) (replaced : q.matchesIn w' = (q.matchesIn w).map g)
    (key : Option (Dimension × GroupKey)) : q.rows w' mode key = q.rows w mode key := by
  have inside : ∀ b ∈ q.byBucket (q.matchesIn w), b.2 ⊆ q.matchesIn w := by
    intro b hb
    obtain ⟨i, -, rfl⟩ := List.mem_map.1 hb
    exact fun _ there => List.mem_of_mem_filter there
  cases key with
  | none =>
    cases mode with
    | aggregate => simp only [Query.rows, replaced, h.count _ (List.Subset.refl _)]
    | timeSeries =>
      simp only [Query.rows, replaced, h.byBucket, List.map_map, Function.comp_def]
      refine congrArg _ (List.map_congr_left fun b hb => ?_)
      rw [h.count _ (inside b hb)]
  | some k =>
    cases mode with
    | aggregate =>
      simp only [Query.rows, ranking, replaced, h.itemCounts (List.Subset.refl _)]
    | timeSeries =>
      simp only [Query.rows, replaced, h.byBucket, List.flatMap_map]
      refine congrArg _ (List.flatMap_congr fun b hb => ?_)
      rw [h.itemCounts (inside b hb)]

/-- The query has the same answer. -/
theorem run (h : q.Hides (q.matchesIn w) g) (replaced : q.matchesIn w' = (q.matchesIn w).map g)
    (mode : Mode) : q.run w' mode = q.run w mode := by
  have rows : ∀ key, q.rows w' mode key = q.rows w mode key := h.rows replaced
  simp only [Query.run, rows]

end Hides

end Query

end ActivityMetrics
