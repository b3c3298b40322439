import ActivityMetrics.Proofs.Query.Fragments
import Mathlib.Algebra.Ring.Nat
import Mathlib.Data.List.Induction
import Mathlib.Data.List.Nodup

/-!
# Distinct values

A list without repeats keeps every value where it occurs first, so it is the ordered set of its
values. The number of distinct values depends only on which values there are, so does a sorted list
of them, and an entry is found under its key when the keys are distinct. These are the facts behind
every count of distinct items and every table of results by item: what a query returns depends on
the order of its rows only where the statement asks for an order.

Values may also be counted one by one, distinct or not. A condition that holds of more of them holds
of a greater number, and the sizes of parts that share no value add up (`sum_countP_of_apart`).
Windows side by side, the items of a dimension and an item with its complement all are such parts.
-/

namespace ActivityMetrics

variable {α β γ : Type} [BEq α] [LawfulBEq α]

omit [LawfulBEq α] in
/-- Values are added to the distinct ones from left to right, whatever is taken for equal. -/
theorem eraseDups_eq_keepFirsts (l : List α) : l.eraseDups = keepFirsts [] l := by
  suffices step : ∀ bs, List.eraseDupsBy.loop (· == ·) l bs = keepFirsts bs.reverse l from step []
  induction l with
  | nil => exact fun bs => rfl
  | cons a l ih =>
    intro bs
    have there : bs.any (a == ·) = bs.reverse.contains a := by
      rw [List.contains_eq_any_beq, List.any_reverse]
    have first : keepFirsts bs.reverse (a :: l) = keepFirsts (keepFirst bs.reverse a) l := rfl
    rw [List.eraseDupsBy.loop, there, first, keepFirst]
    cases bs.reverse.contains a with
    | true => exact ih bs
    | false => exact (ih (a :: bs)).trans (by rw [List.reverse_cons]; rfl)

omit [LawfulBEq α] in
theorem eraseDups_append_singleton (l : List α) (a : α) :
    (l ++ [a]).eraseDups = keepFirst l.eraseDups a := by
  rw [eraseDups_eq_keepFirsts, eraseDups_eq_keepFirsts, keepFirsts_append]
  rfl

theorem nodup_eraseDups (l : List α) : l.eraseDups.Nodup := by
  rw [eraseDups_eq_keepFirsts]
  exact nodup_keepFirsts List.nodup_nil

theorem eraseDups_eq_self {l : List α} (h : l.Nodup) : l.eraseDups = l := by
  induction l using List.reverseRecOn with
  | nil => rfl
  | append_singleton l a ih =>
    obtain ⟨nodup, _, new⟩ := List.nodup_append.1 h
    have absent : a ∉ l := fun there => new a there a (List.mem_singleton.2 rfl) rfl
    rw [eraseDups_append_singleton, ih nodup, keepFirst,
      if_neg fun there => absent (List.contains_iff_mem.1 there)]

/-- A value occurs once in a list without repeats. -/
theorem filter_eq_singleton {α : Type} [DecidableEq α] {l : List α} (nodup : l.Nodup) {a : α}
    (h : a ∈ l) : l.filter (· = a) = [a] := by
  rw [List.filter_eq, nodup.count, if_pos h]
  rfl

omit [BEq α] [LawfulBEq α] in
/-- What is different for all members of a list of everything is one to one. -/
theorem injective_of_nodup_map {all : List α} (complete : ∀ a, a ∈ all) {f : α → β}
    (nodup : (all.map f).Nodup) : Function.Injective f := fun a b same =>
  List.inj_on_of_nodup_map nodup (complete a) (complete b) same

/-- **The number of distinct values depends only on which values there are.** -/
theorem length_eraseDups_congr {l l' : List α} (h : ∀ a, a ∈ l ↔ a ∈ l') :
    l.eraseDups.length = l'.eraseDups.length := by
  refine ((List.perm_ext_iff_of_nodup (nodup_eraseDups l) (nodup_eraseDups l')).2
    fun a => ?_).length_eq
  rw [List.mem_eraseDups, List.mem_eraseDups, h]

/-- More values have no fewer distinct ones. -/
theorem length_eraseDups_le {l l' : List α} (h : l ⊆ l') :
    l.eraseDups.length ≤ l'.eraseDups.length :=
  (nodup_eraseDups l).length_le_of_subset fun _ there =>
    List.mem_eraseDups.2 (h (List.mem_eraseDups.1 there))

/-- Two lists together have no more distinct values than both have by themselves. -/
theorem length_eraseDups_append_le (l l' : List α) :
    (l ++ l').eraseDups.length ≤ l.eraseDups.length + l'.eraseDups.length := by
  have new : l'.removeAll l ⊆ l' := List.filter_sublist.subset
  rw [List.eraseDups_append, List.length_append]
  exact Nat.add_le_add_left (length_eraseDups_le new) _

/-- Different values have as many different images, if no two of them have the same one. -/
theorem length_eraseDups_map [BEq β] [LawfulBEq β] {f : α → β} {l : List α}
    (apart : ∀ a ∈ l, ∀ b ∈ l, f a = f b → a = b) :
    (l.map f).eraseDups.length = l.eraseDups.length := by
  have images : (l.eraseDups.map f).Nodup :=
    (nodup_eraseDups l).map_on fun a ha b hb =>
      apart a (List.mem_eraseDups.1 ha) b (List.mem_eraseDups.1 hb)
  have same : ∀ b, b ∈ l.map f ↔ b ∈ l.eraseDups.map f := fun b => by
    simp only [List.mem_map, List.mem_eraseDups]
  rw [length_eraseDups_congr same, eraseDups_eq_self images, List.length_map]

omit [BEq α] [LawfulBEq α] in
/-- The same values are sorted alike, in whatever order they were, if no two are of one rank. Where
ranks are shared the order of the rows shows, so the condition is needed. -/
theorem mergeSort_congr {le : α → α → Bool} {l l' : List α}
    (trans : ∀ a b c, le a b → le b c → le a c) (total : ∀ a b, le a b || le b a)
    (antisymm : ∀ a b, a ∈ l → b ∈ l → le a b → le b a → a = b) (perm : l'.Perm l) :
    l'.mergeSort le = l.mergeSort le := by
  refine List.Perm.eq_of_pairwise (fun a b ha hb => antisymm a b ?_ (List.mem_mergeSort.1 hb))
    (List.pairwise_mergeSort trans total l') (List.pairwise_mergeSort trans total l) ?_
  · exact perm.mem_iff.1 (List.mem_mergeSort.1 ha)
  · exact ((List.mergeSort_perm l' le).trans perm).trans (List.mergeSort_perm l le).symm

/-! ## Entries under keys

An answer by item is a list of items beside a list of values. An entry is found by its key, and if
keys repeat it is the first that is found; so keys have to be distinct for every entry to be
found. -/

/-- An entry is found under its key, if no other one has the key. -/
theorem lookup_map_of_mem (key : β → α) (f : β → γ) {l : List β} (nodup : (l.map key).Nodup)
    {b : β} (hb : b ∈ l) : (l.map fun b => (key b, f b)).lookup (key b) = some (f b) := by
  induction l with
  | nil => cases hb
  | cons b' l ih =>
    rw [List.map_cons, List.nodup_cons] at nodup
    rw [List.map_cons, List.lookup_cons]
    rcases List.mem_cons.1 hb with rfl | hb
    · rw [beq_self_eq_true]
    · have other : key b ≠ key b' := fun same =>
        nodup.1 (same ▸ List.mem_map.2 ⟨b, hb, rfl⟩)
      rw [beq_false_of_ne other, ih nodup.2 hb]

theorem lookup_map_of_not_mem (key : β → α) (f : β → γ) {l : List β} {a : α}
    (h : a ∉ l.map key) : (l.map fun b => (key b, f b)).lookup a = none := by
  induction l with
  | nil => rfl
  | cons b l ih =>
    rw [List.map_cons, List.mem_cons, not_or] at h
    rw [List.map_cons, List.lookup_cons, beq_false_of_ne h.1, ih h.2]

omit [LawfulBEq α] in
/-- An entry is found under its key, whatever is done to the entries. -/
theorem lookup_map_snd (f : β → γ) (l : List (α × β)) (a : α) :
    (l.map (Prod.map id f)).lookup a = (l.lookup a).map f := by
  induction l with
  | nil => rfl
  | cons entry l ih =>
    rw [List.map_cons, List.lookup_cons, List.lookup_cons, Prod.map_fst, Prod.map_snd, id_eq, ih]
    cases a == entry.1 <;> rfl

/-- A value is found by its key. -/
theorem find?_key_of_mem (key : β → α) {l : List β} (nodup : (l.map key).Nodup) {b : β}
    (hb : b ∈ l) : l.find? (key · == key b) = some b := by
  obtain ⟨c, first⟩ : ∃ c, l.find? (key · == key b) = some c :=
    Option.isSome_iff_exists.1 (List.find?_isSome.2 ⟨b, hb, beq_self_eq_true (key b)⟩)
  have same : key c = key b := eq_of_beq (List.find?_some first :)
  rw [first, List.inj_on_of_nodup_map nodup (List.mem_of_find?_eq_some first) hb same]

omit [BEq α] [LawfulBEq α] in
/-- Values with the same keys, in whatever order, are the same but for a replacement that keeps the
keys. It is how two lists of records are matched when only their keys are known to agree. -/
theorem exists_replacement_of_perm_map {key : α → β} {l l' : List α} (nodup : l.Nodup)
    (perm : (l'.map key).Perm (l.map key)) :
    ∃ g : α → α, l'.Perm (l.map g) ∧ ∀ a, key (g a) = key a := by
  classical
  induction l generalizing l' with
  | nil =>
    rw [List.map_nil, List.perm_nil, List.map_eq_nil_iff] at perm
    subst perm
    exact ⟨id, .nil, fun _ => rfl⟩
  | cons a l ih =>
    obtain ⟨new, nodup⟩ := List.nodup_cons.1 nodup
    have there : key a ∈ l'.map key := perm.mem_iff.2 List.mem_cons_self
    obtain ⟨b, hb, same⟩ := List.mem_map.1 there
    obtain ⟨before, after, rfl⟩ := List.append_of_mem hb
    have front : (before ++ b :: after).Perm (b :: (before ++ after)) := List.perm_middle
    have rest : ((before ++ after).map key).Perm (l.map key) := by
      have cons := (front.map key).symm.trans perm
      rw [List.map_cons, List.map_cons, same] at cons
      exact cons.cons_inv
    obtain ⟨g, others, keeps⟩ := ih nodup rest
    -- the value with the key of the first takes its place
    refine ⟨Function.update g a b, front.trans ?_, fun c => ?_⟩
    · have outside : l.map (Function.update g a b) = l.map g :=
        List.map_congr_left fun c hc =>
          Function.update_of_ne (ne_of_mem_of_not_mem hc new) _ _
      rw [List.map_cons, Function.update_self, outside]
      exact others.cons b
    · by_cases own : c = a
      · rw [own, Function.update_self, same]
      · rw [Function.update_of_ne own, keeps]

/-! ## Numbers of values

Totals are compared by counting the same events under two conditions. -/

omit [BEq α] [LawfulBEq α] in
/-- A condition that holds of more holds of a greater number. -/
theorem countP_lt_countP {l : List α} {p q : α → Bool} (more : ∀ a, p a → q a) {a : α}
    (ha : a ∈ l) (hq : q a) (hp : ¬ p a) : l.countP p < l.countP q := by
  have both : ∀ a, (q a && p a) = p a := fun a => by
    rw [Bool.eq_iff_iff, Bool.and_eq_true]
    exact and_iff_right_of_imp (more a)
  have rest : 0 < l.countP fun a => q a && !p a := by
    refine List.countP_pos_iff.2 ⟨a, ha, ?_⟩
    rw [hq, Bool.eq_false_iff.2 hp]
    rfl
  rw [List.countP_eq_countP_filter_add l q p, List.countP_filter, List.countP_filter]
  simp only [both]
  exact Nat.lt_add_of_pos_right rest

omit [BEq α] [LawfulBEq α] in
/-- One of two conditions that exclude each other holds of as many as they do together. -/
theorem countP_or_of_apart {l : List α} {p q : α → Bool} (apart : ∀ a ∈ l, p a → ¬ q a) :
    l.countP (fun a => p a || q a) = l.countP p + l.countP q := by
  induction l with
  | nil => rfl
  | cons a l ih =>
    rw [List.countP_cons, List.countP_cons, List.countP_cons,
      ih fun b hb => apart b (List.mem_cons_of_mem _ hb)]
    cases hp : p a with
    | false =>
      rw [Bool.false_or, if_neg Bool.false_ne_true]
      omega
    | true =>
      rw [Bool.true_or, if_pos rfl, if_neg (apart a List.mem_cons_self hp)]
      omega

omit [BEq α] [LawfulBEq α] in
/-- **Parts add up.** If no value is in two of some parts, the sizes of the parts are the number of
values in any of them. Nothing is said of values that are in none, which the sum leaves out. -/
theorem sum_countP_of_apart {parts : List β} {l : List α} {p : β → α → Bool}
    (nodup : parts.Nodup)
    (apart : ∀ a ∈ l, ∀ x ∈ parts, ∀ y ∈ parts, p x a → p y a → x = y) :
    (parts.map fun x => l.countP (p x)).sum = l.countP fun a => parts.any (p · a) := by
  induction parts with
  | nil => simp
  | cons x parts ih =>
    obtain ⟨new, nodup⟩ := List.nodup_cons.1 nodup
    have rest := ih nodup fun a ha y hy z hz =>
      apart a ha y (List.mem_cons_of_mem _ hy) z (List.mem_cons_of_mem _ hz)
    have others : ∀ a ∈ l, p x a → ¬ parts.any (p · a) := by
      intro a ha here there
      obtain ⟨y, hy, also⟩ := List.any_eq_true.1 there
      have same := apart a ha x List.mem_cons_self y (List.mem_cons_of_mem _ hy) here also
      exact new (same ▸ hy)
    rw [List.map_cons, List.sum_cons, rest, ← countP_or_of_apart others]
    rfl

end ActivityMetrics
