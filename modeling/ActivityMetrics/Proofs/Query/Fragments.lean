import ActivityMetrics.Query.Fragments
import Mathlib.Data.List.Induction

/-!
# Elements of ordered sets

An ordered set that grows has the elements that were added to it, each of them once. It is a list,
since a statement is written from left to right and its parameters have to come in the same order,
and it is a set, since the same join made twice would be an error and the same condition twice a
waste.

Little is asked of equality. Where it is symmetric and transitive, adding one set to another and
then a third is the same in either grouping (`keepFirsts_keepFirsts`), and an element is found in a
set exactly if it is found before or among what was added (`contains_keepFirsts`). That an element
is equal to itself is not asked for there, because a parameter that is no number is not. Where
equality is identity, to be found is to be an element.
-/

namespace ActivityMetrics

/-! ## Adding elements

What can be said of adding for any equality at all, also for one that is not symmetric. An element
is there or it is not, and what is there already is never moved. -/

section

variable {α : Type} [BEq α] {xs ys : List α} {x y : α}

/-- An element that is there is not added. -/
theorem keepFirst_of_contains (h : xs.contains x) : keepFirst xs x = xs :=
  if_pos h

/-- An element that is not there is added at the end. -/
theorem keepFirst_of_not_contains (h : xs.contains x = false) : keepFirst xs x = xs ++ [x] :=
  if_neg (Bool.eq_false_iff.1 h)

theorem mem_of_mem_keepFirst (h : y ∈ keepFirst xs x) : y ∈ xs ∨ y = x := by
  cases there : xs.contains x with
  | true => exact .inl (keepFirst_of_contains there ▸ h)
  | false =>
    rw [keepFirst_of_not_contains there, List.mem_append, List.mem_singleton] at h
    exact h

/-- Two lists are added one after the other. -/
theorem keepFirsts_append (xs ys zs : List α) :
    keepFirsts xs (ys ++ zs) = keepFirsts (keepFirsts xs ys) zs :=
  List.foldl_append

theorem length_keepFirst_le : (keepFirst xs x).length ≤ xs.length + 1 := by
  unfold keepFirst
  split
  · exact Nat.le_succ _
  · exact Nat.le_of_eq List.length_append

/-- There are no more elements than were added. -/
theorem length_keepFirsts_le : (keepFirsts xs ys).length ≤ xs.length + ys.length := by
  induction ys generalizing xs with
  | nil => exact Nat.le_refl _
  | cons y ys ih =>
    have first : (keepFirst xs y).length ≤ xs.length + 1 := length_keepFirst_le
    have rest : (keepFirsts xs (y :: ys)).length ≤ (keepFirst xs y).length + ys.length := ih
    rw [List.length_cons]
    omega

/-- The element in front stays in front, whatever is added. What a statement is built from first
keeps its place. -/
theorem exists_keepFirsts_cons (x : α) (xs ys : List α) :
    ∃ zs, keepFirsts (x :: xs) ys = x :: zs := by
  induction ys generalizing xs with
  | nil => exact ⟨xs, rfl⟩
  | cons y ys ih =>
    have first : ∃ zs, keepFirst (x :: xs) y = x :: zs := by
      unfold keepFirst
      split
      · exact ⟨xs, rfl⟩
      · exact ⟨xs ++ [y], rfl⟩
    obtain ⟨zs, first⟩ := first
    obtain ⟨rest, all⟩ := ih zs
    refine ⟨rest, ?_⟩
    show keepFirsts (keepFirst (x :: xs) y) ys = _
    rw [first, all]

/-- A map that preserves equality and inequality with an element preserves whether it is there. -/
theorem contains_map_of_beq {β : Type} [BEq β] {g : α → β}
    (same : ∀ x ∈ xs, (g y == g x) = (y == x)) : (xs.map g).contains (g y) = xs.contains y := by
  induction xs with
  | nil => rfl
  | cons x xs ih =>
    rw [List.forall_mem_cons] at same
    rw [List.map_cons, List.contains_cons, List.contains_cons, same.1, ih same.2]

/-- Elements may be replaced before they are added or after, if only equal ones become equal. The
condition is on the elements that occur, since a replacement that is apart on them may well not be
so on others. -/
theorem keepFirsts_map_of_beq {β : Type} [BEq β] {g : α → β} {zs : List α}
    (same : ∀ a ∈ zs, ∀ b ∈ zs, (g a == g b) = (a == b)) (hx : xs ⊆ zs) (hy : ys ⊆ zs) :
    keepFirsts (xs.map g) (ys.map g) = (keepFirsts xs ys).map g := by
  induction ys generalizing xs with
  | nil => rfl
  | cons y ys ih =>
    rw [List.cons_subset] at hy
    have first : keepFirst (xs.map g) (g y) = (keepFirst xs y).map g := by
      unfold keepFirst
      rw [contains_map_of_beq fun x hx' => same y hy.1 x (hx hx')]
      split
      · rfl
      · rw [List.map_append, List.map_singleton]
    have sub : keepFirst xs y ⊆ zs := by
      intro a ha
      rcases mem_of_mem_keepFirst ha with old | rfl
      · exact hx old
      · exact hy.1
    show keepFirsts (keepFirst (xs.map g) (g y)) (ys.map g) = _
    rw [first, ih sub hy.2]
    rfl

/-- Elements that are all there add nothing. -/
theorem keepFirsts_eq_self (h : ∀ y ∈ ys, xs.contains y) : keepFirsts xs ys = xs := by
  induction ys with
  | nil => rfl
  | cons y ys ih =>
    obtain ⟨first, rest⟩ := List.forall_mem_cons.1 h
    show keepFirsts (keepFirst xs y) ys = xs
    rw [keepFirst_of_contains first, ih rest]

/-- An element that is equal to itself is found. -/
theorem contains_of_mem (mem : x ∈ xs) (itself : x == x) : xs.contains x :=
  List.contains_iff_exists_mem_beq.2 ⟨x, mem, itself⟩

/-- What a set holds was there or was added. -/
theorem mem_of_mem_keepFirsts (h : y ∈ keepFirsts xs ys) : y ∈ xs ∨ y ∈ ys := by
  induction ys generalizing xs with
  | nil => exact .inl h
  | cons z ys ih =>
    rcases ih h with old | added
    · refine (mem_of_mem_keepFirst old).imp_right ?_
      rintro rfl
      exact List.mem_cons_self
    · exact .inr (List.mem_cons_of_mem z added)

/-- No two elements are equal. This is weaker than to be without repeats, if an element need not be
equal to itself. -/
def Unrepeated (xs : List α) : Prop :=
  xs.Pairwise fun x y => (x == y) = false

/-! ## Equality that is symmetric and transitive

Parameters may be floating-point numbers, and these are not always equal to themselves. What is
proved under these two laws holds of them too. -/

variable [PartialEquivBEq α]

/-- What is contained afterwards was there or is equal to what was added. -/
theorem contains_keepFirst : (keepFirst xs x).contains y = (xs.contains y || y == x) := by
  cases there : xs.contains x with
  | true =>
    rw [keepFirst_of_contains there]
    cases same : y == x with
    | true => rw [List.contains_congr same, there, Bool.true_or]
    | false => rw [Bool.or_false]
  | false =>
    rw [keepFirst_of_not_contains there, List.contains_append, List.contains_cons,
      List.contains_nil, Bool.or_false]

/-- What is found in a set is found before or among what was added. -/
theorem contains_keepFirsts : (keepFirsts xs ys).contains y = (xs.contains y || ys.contains y) := by
  induction ys generalizing xs with
  | nil => exact (Bool.or_false _).symm
  | cons z ys ih =>
    show (keepFirsts (keepFirst xs z) ys).contains y = _
    rw [ih, contains_keepFirst, List.contains_cons, Bool.or_assoc]

/-- An element that is added and is equal to itself is kept, or an equal one is. -/
theorem exists_mem_keepFirsts (xs : List α) (mem : x ∈ ys) (itself : x == x) :
    ∃ y ∈ keepFirsts xs ys, y == x := by
  have found : (keepFirsts xs ys).contains x := by
    rw [contains_keepFirsts, contains_of_mem mem itself, Bool.or_true]
  obtain ⟨y, hy, same⟩ := List.contains_iff_exists_mem_beq.1 found
  exact ⟨y, hy, BEq.symm same⟩

/-- **Adding is associative**: what a set has already is left out now or later. The induction is on
the third list from its end, where the last element is either found among the others or added at
last on both sides. -/
theorem keepFirsts_keepFirsts (xs ys zs : List α) :
    keepFirsts xs (keepFirsts ys zs) = keepFirsts (keepFirsts xs ys) zs := by
  induction zs using List.reverseRecOn with
  | nil => rfl
  | append_singleton zs z ih =>
    have last (ws : List α) : keepFirsts ws (zs ++ [z]) = keepFirst (keepFirsts ws zs) z :=
      keepFirsts_append ws zs [z]
    rw [last, last, ← ih]
    cases there : (keepFirsts ys zs).contains z with
    | true =>
      have found : (keepFirsts xs (keepFirsts ys zs)).contains z := by
        rw [contains_keepFirsts, there, Bool.or_true]
      rw [keepFirst_of_contains there, keepFirst_of_contains found]
    | false =>
      rw [keepFirst_of_not_contains there, keepFirsts_append]
      rfl

/-- No two elements are equal afterwards if none were before. -/
theorem unrepeated_keepFirst (h : Unrepeated xs) (x : α) : Unrepeated (keepFirst xs x) := by
  cases there : xs.contains x with
  | true => rwa [keepFirst_of_contains there]
  | false =>
    rw [keepFirst_of_not_contains there]
    refine List.pairwise_append.2 ⟨h, List.pairwise_singleton _ x, fun y hy z hz => ?_⟩
    rw [List.mem_singleton.1 hz, Bool.eq_false_iff]
    intro same
    rw [Bool.eq_false_iff] at there
    exact there (List.contains_iff_exists_mem_beq.2 ⟨y, hy, BEq.symm same⟩)

/-- A set stays without repeats. -/
theorem unrepeated_keepFirsts (h : Unrepeated xs) (ys : List α) :
    Unrepeated (keepFirsts xs ys) := by
  induction ys generalizing xs with
  | nil => exact h
  | cons y ys ih => exact ih (unrepeated_keepFirst h y)

end

/-! ## Elements

For joins and conditions equality is identity, and adding is the union of ordered sets. -/

section

variable {α : Type} [BEq α] [LawfulBEq α] {xs ys : List α} {x y : α}

/-- What is added is there, and so is what was there before. -/
theorem mem_keepFirsts : y ∈ keepFirsts xs ys ↔ y ∈ xs ∨ y ∈ ys := by
  rw [← List.contains_iff_mem, contains_keepFirsts, Bool.or_eq_true, List.contains_iff_mem,
    List.contains_iff_mem]

theorem unrepeated_iff_nodup : Unrepeated xs ↔ xs.Nodup :=
  List.Pairwise.iff fun _ _ => beq_eq_false_iff_ne

/-- No element is there twice afterwards if none was before. -/
theorem nodup_keepFirsts (h : xs.Nodup) : (keepFirsts xs ys).Nodup :=
  unrepeated_iff_nodup.1 (unrepeated_keepFirsts (unrepeated_iff_nodup.2 h) ys)

/-- An element in front stays in front. -/
theorem keepFirst_cons (h : x ≠ y) (xs : List α) :
    keepFirst (y :: xs) x = y :: keepFirst xs x := by
  unfold keepFirst
  rw [List.contains_cons, beq_false_of_ne h, Bool.false_or]
  split <;> rfl

/-- An element in front stays in front while others are added. -/
theorem keepFirsts_cons (h : x ∉ ys) (xs : List α) :
    keepFirsts (x :: xs) ys = x :: keepFirsts xs ys := by
  induction ys generalizing xs with
  | nil => rfl
  | cons y ys ih =>
    rw [List.mem_cons, not_or] at h
    rw [show keepFirsts (x :: xs) (y :: ys) = keepFirsts (keepFirst (x :: xs) y) ys from rfl,
      keepFirst_cons (Ne.symm h.1), ih h.2]
    rfl

/-- What is added stands behind, in its order, and is new. So a set that is made larger begins with
what it was. -/
theorem exists_keepFirsts_eq_append (xs ys : List α) :
    ∃ zs, keepFirsts xs ys = xs ++ zs ∧ zs.Sublist ys ∧ ∀ z ∈ zs, z ∉ xs := by
  induction ys generalizing xs with
  | nil => exact ⟨[], (List.append_nil xs).symm, .refl [], nofun⟩
  | cons y ys ih =>
    have step : keepFirsts xs (y :: ys) = keepFirsts (keepFirst xs y) ys := rfl
    by_cases there : y ∈ xs
    · obtain ⟨zs, same, sub, new⟩ := ih xs
      rw [step, keepFirst_of_contains (List.contains_iff_mem.2 there)]
      exact ⟨zs, same, sub.cons y, new⟩
    · obtain ⟨zs, same, sub, new⟩ := ih (xs ++ [y])
      rw [step, keepFirst, if_neg fun h => there (List.contains_iff_mem.1 h)]
      refine ⟨y :: zs, same.trans (List.append_assoc xs [y] zs), sub.cons_cons y, ?_⟩
      rw [List.forall_mem_cons]
      exact ⟨there, fun z hz known => new z hz (List.mem_append_left _ known)⟩

/-- New elements without repetitions are all added. -/
theorem keepFirsts_eq_append (nodup : ys.Nodup) (new : ∀ y ∈ ys, y ∉ xs) :
    keepFirsts xs ys = xs ++ ys := by
  induction ys generalizing xs with
  | nil => exact (List.append_nil xs).symm
  | cons y ys ih =>
    rw [List.nodup_cons] at nodup
    rw [List.forall_mem_cons] at new
    have added : keepFirst xs y = xs ++ [y] :=
      if_neg fun there => new.1 (List.contains_iff_mem.1 there)
    have rest : ∀ z ∈ ys, z ∉ xs ++ [y] := by
      intro z hz there
      rcases List.mem_append.1 there with there | one
      · exact new.2 z hz there
      · exact nodup.1 (List.mem_singleton.1 one ▸ hz)
    rw [show keepFirsts xs (y :: ys) = keepFirsts (keepFirst xs y) ys from rfl, added,
      ih nodup.2 rest, List.append_assoc, List.singleton_append]

/-- Elements that are replaced one to one may be replaced before they are added or after. -/
theorem keepFirsts_map {β : Type} [BEq β] [LawfulBEq β] {g : α → β} {zs : List α}
    (inj : ∀ a ∈ zs, ∀ b ∈ zs, g a = g b → a = b) (hx : xs ⊆ zs) (hy : ys ⊆ zs) :
    keepFirsts (xs.map g) (ys.map g) = (keepFirsts xs ys).map g := by
  refine keepFirsts_map_of_beq (fun a ha b hb => ?_) hx hy
  rw [Bool.eq_iff_iff, beq_iff_eq, beq_iff_eq]
  exact ⟨inj a ha b hb, congrArg g⟩

end

namespace Fragments

variable {J P : Type} [BEq J] [LawfulBEq J] [BEq P] [LawfulBEq P] {f g : Fragments J P}

omit [BEq P] [LawfulBEq P] in
@[simp]
theorem mem_joins_ofJoins {js : List J} {j : J} :
    j ∈ (ofJoins js : Fragments J P).joins ↔ j ∈ js := by
  rw [ofJoins, mem_keepFirsts]
  exact ⟨fun h => h.elim (fun h => absurd h List.not_mem_nil) id, .inr⟩

omit [LawfulBEq P] in
@[simp]
theorem mem_joins_merge {j : J} : j ∈ (f.merge g).joins ↔ j ∈ f.joins ∨ j ∈ g.joins :=
  mem_keepFirsts

omit [LawfulBEq J] in
@[simp]
theorem mem_predicates_merge {p : P} :
    p ∈ (f.merge g).predicates ↔ p ∈ f.predicates ∨ p ∈ g.predicates :=
  mem_keepFirsts

omit [LawfulBEq P] in
/-- The joins of a set into which others are merged are those of all of them. -/
theorem mem_joins_foldl_merge {fs : List (Fragments J P)} {j : J} :
    j ∈ (fs.foldl merge f).joins ↔ j ∈ f.joins ∨ ∃ g ∈ fs, j ∈ g.joins := by
  induction fs generalizing f with
  | nil => exact ⟨.inl, fun h => h.elim id fun ⟨_, h, _⟩ => absurd h List.not_mem_nil⟩
  | cons g fs ih =>
    rw [List.foldl_cons, ih, mem_joins_merge, or_assoc]
    simp only [List.mem_cons, exists_eq_or_imp]

omit [LawfulBEq J] in
/-- The predicates of a set into which others are merged are those of all of them. -/
theorem mem_predicates_foldl_merge {fs : List (Fragments J P)} {p : P} :
    p ∈ (fs.foldl merge f).predicates ↔ p ∈ f.predicates ∨ ∃ g ∈ fs, p ∈ g.predicates := by
  induction fs generalizing f with
  | nil => exact ⟨.inl, fun h => h.elim id fun ⟨_, h, _⟩ => absurd h List.not_mem_nil⟩
  | cons g fs ih =>
    rw [List.foldl_cons, ih, mem_predicates_merge, or_assoc]
    simp only [List.mem_cons, exists_eq_or_imp]

omit [LawfulBEq J] [LawfulBEq P] in
/-- The predicates of sets that are merged are those of all of them, from left to right. -/
theorem predicates_foldl_merge (fs : List (Fragments J P)) (f : Fragments J P) :
    (fs.foldl merge f).predicates = keepFirsts f.predicates (fs.flatMap (·.predicates)) := by
  induction fs generalizing f with
  | nil => rfl
  | cons g fs ih =>
    rw [List.foldl_cons, ih, List.flatMap_cons, keepFirsts_append]
    rfl

omit [LawfulBEq J] [LawfulBEq P] in
/-- The joins of sets that are merged are those of all of them, from left to right. -/
theorem joins_foldl_merge (fs : List (Fragments J P)) (f : Fragments J P) :
    (fs.foldl merge f).joins = keepFirsts f.joins (fs.flatMap (·.joins)) := by
  induction fs generalizing f with
  | nil => rfl
  | cons g fs ih =>
    rw [List.foldl_cons, ih, List.flatMap_cons, keepFirsts_append]
    rfl

end Fragments

end ActivityMetrics
