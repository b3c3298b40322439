import ActivityMetrics.Failure
import Mathlib.Data.List.Forall2

/-!
# Computations that may fail

A computation in steps succeeds when all of its steps do, and one for every member of a list
succeeds when it does so for each of them. So the results of a computation can be said without
saying how it is run.

All requests are computations of this kind, and nearly every statement about one begins by asking
which of its steps has failed. The equivalences here answer that once, for results and for failures;
a proof about a request then names its steps and their results and never unfolds how they were put
together.
-/

namespace ActivityMetrics

variable {α β : Type} {f : α → Outcome β}

/-! ## Steps -/

/-- A computation in two steps succeeds when both of them do. -/
theorem bind_eq_ok_iff {x : Outcome α} {r : β} :
    x >>= f = .ok r ↔ ∃ y, x = .ok y ∧ f y = .ok r := by
  cases x with
  | error e => exact ⟨nofun, fun ⟨_, h, _⟩ => nomatch h⟩
  | ok y => exact ⟨fun h => ⟨y, rfl, h⟩, fun ⟨_, first, h⟩ => Except.ok.inj first ▸ h⟩

/-- What follows a computation succeeds only if the computation does. -/
theorem exists_of_bind_eq_ok {x : Outcome α} {r : β} (h : x >>= f = .ok r) :
    ∃ y, x = .ok y ∧ f y = .ok r :=
  bind_eq_ok_iff.1 h

/-- A computation in two steps fails when one of them does. -/
theorem bind_eq_error_iff {x : Outcome α} {e : Failure} :
    x >>= f = .error e ↔ x = .error e ∨ ∃ y, x = .ok y ∧ f y = .error e := by
  cases x with
  | error e' =>
    exact ⟨fun h => .inl (congrArg Except.error (Except.error.inj h)), fun h => by
      rcases h with h | ⟨_, h, _⟩
      · exact congrArg Except.error (Except.error.inj h)
      · cases h⟩
  | ok y =>
    exact ⟨fun h => .inr ⟨y, rfl, h⟩, fun h => by
      rcases h with h | ⟨_, first, h⟩
      · cases h
      · exact Except.ok.inj first ▸ h⟩

/-- A computation fails when it has no result. -/
theorem exists_error_iff {x : Outcome α} : (∃ e, x = .error e) ↔ ¬ ∃ a, x = .ok a := by
  cases x with
  | error e => exact iff_of_true ⟨e, rfl⟩ fun ⟨_, h⟩ => nomatch h
  | ok a => exact iff_of_false (fun ⟨_, h⟩ => nomatch h) fun h => h ⟨a, rfl⟩

theorem map_eq_ok_iff {g : α → β} {x : Outcome α} {b : β} :
    x.map g = .ok b ↔ ∃ a, x = .ok a ∧ g a = b := by
  cases x with
  | error e => exact ⟨nofun, fun ⟨_, h, _⟩ => nomatch h⟩
  | ok a =>
    exact ⟨fun h => ⟨a, rfl, Except.ok.inj h⟩,
      fun ⟨_, first, h⟩ => Except.ok.inj first ▸ congrArg Except.ok h⟩

theorem map_eq_error_iff {g : α → β} {x : Outcome α} {e : Failure} :
    x.map g = .error e ↔ x = .error e := by
  cases x with
  | error e' =>
    show Except.error e' = Except.error e ↔ _
    rw [Except.error.injEq, Except.error.injEq]
  | ok a => exact ⟨nofun, nofun⟩

/-- There is a result where there is what it is made of. -/
theorem exists_result {P : α → Prop} {g : α → β} : (∃ b a, P a ∧ g a = b) ↔ ∃ a, P a :=
  ⟨fun ⟨_, a, h, _⟩ => ⟨a, h⟩, fun ⟨a, h⟩ => ⟨_, a, h, rfl⟩⟩

/-! ## Lists -/

/-- Computations for all members of a list succeed together, each with its result. The results are
given by a relation between the lists, which is what inductions on either of them ask for. -/
theorem mapM_eq_ok_iff {l : List α} {r : List β} :
    l.mapM f = .ok r ↔ List.Forall₂ (fun a b => f a = .ok b) l r := by
  induction l generalizing r with
  | nil =>
    rw [List.mapM_nil, List.forall₂_nil_left_iff]
    exact ⟨fun h => (Except.ok.inj h).symm, fun h => congrArg Except.ok h.symm⟩
  | cons a l ih =>
    rw [List.mapM_cons, List.forall₂_cons_left_iff]
    constructor
    · intro h
      obtain ⟨b, first, h⟩ := exists_of_bind_eq_ok h
      obtain ⟨bs, rest, h⟩ := exists_of_bind_eq_ok h
      exact ⟨b, bs, first, ih.1 rest, (Except.ok.inj h).symm⟩
    · rintro ⟨b, bs, first, rest, rfl⟩
      rw [first, ih.2 rest]
      rfl

/-- The results for a list are the results for its members. -/
theorem mem_iff_of_mapM {l : List α} {r : List β} {b : β} (h : l.mapM f = .ok r) :
    b ∈ r ↔ ∃ a ∈ l, f a = .ok b := by
  induction mapM_eq_ok_iff.1 h with
  | nil => exact iff_of_false List.not_mem_nil fun ⟨_, there, _⟩ => List.not_mem_nil there
  | @cons a b' l r first rest ih =>
    have same : b = b' ↔ f a = .ok b := by rw [first, Except.ok.injEq, eq_comm]
    rw [List.mem_cons, List.exists_mem_cons_iff, same, ih (mapM_eq_ok_iff.2 rest)]

theorem mapM_eq_ok {g : α → β} {l : List α} (h : ∀ a ∈ l, f a = .ok (g a)) :
    l.mapM f = .ok (l.map g) := by
  rw [mapM_eq_ok_iff, List.forall₂_map_right_iff, List.forall₂_same]
  exact h

/-- All members of a list have a partner exactly when each of them has one. No choice is made here,
since the list is finite. -/
theorem exists_forall₂_iff {R : α → β → Prop} {l : List α} :
    (∃ r, List.Forall₂ R l r) ↔ ∀ a ∈ l, ∃ b, R a b := by
  constructor
  · rintro ⟨r, pairs⟩
    have each : List.Forall₂ (fun a b => (∃ b, R a b) ∧ R a b) l r :=
      pairs.imp fun a b h => ⟨⟨b, h⟩, h⟩
    exact ((List.forall₂_and_left l r).1 each).1
  · intro each
    induction l with
    | nil => exact ⟨[], .nil⟩
    | cons a l ih =>
      rw [List.forall_mem_cons] at each
      obtain ⟨⟨b, first⟩, rest⟩ := each
      obtain ⟨bs, rest⟩ := ih rest
      exact ⟨b :: bs, .cons first rest⟩

theorem exists_mapM_eq_ok_iff {l : List α} :
    (∃ r, l.mapM f = .ok r) ↔ ∀ a ∈ l, ∃ b, f a = .ok b := by
  simp only [mapM_eq_ok_iff, exists_forall₂_iff]

end ActivityMetrics
