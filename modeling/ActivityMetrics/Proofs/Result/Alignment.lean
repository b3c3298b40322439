import ActivityMetrics.Proofs.Result.ByItem
import ActivityMetrics.Trend

/-!
# Alignment of two lists of items

A trend by item puts two lists of items side by side. The items of the first come first, and then
those that only the second has. What stands beside an item is its own value, undefined or not, and
zero if the list does not have the item. So an item that is absent, one that is undefined and one
that is zero are told apart by what the lists hold (`Trend.ValueAt`), and the order of the second
list is of no consequence to any value (`Trend.align_keyed`).

Values are looked up by position: an item is found in the list of items, and what stands at its
place in the list of values is its value. This is right as long as both lists have the same length
and no item is there twice, and as long as equality of items is identity. Items are the data of a
column, among which there may be numbers of floating point in general, whose equality is not; for
what a query groups by, they are texts, integers, or the item of the rows that have none
(`Datum.Exact`). A number and the text of its digits are different items.

The value of an item is given as a relation, and not by the computation that finds it. That a value
is the one beside the item is then independent of where it is found, which is the reason why the
order of the second list plays no part.
-/

namespace ActivityMetrics.Trend

variable {keys lk pk pk' : List Datum} {values lv pv pv' : List (Option Float)} {k : Datum}
variable {v v' : Option Float}

/-- Items without repeats, each with a value. This is what one answer of a breakdown is, for the
values that are read from it. -/
structure Keyed (keys : List Datum) (values : List (Option Float)) : Prop where
  /-- Items are numbers, texts or absent. -/
  exact : ∀ k ∈ keys, k.Exact
  /-- No item is repeated. -/
  nodup : keys.Nodup
  /-- There are as many values as items. -/
  length : keys.length = values.length

/-- The value of an item in a list is the one that stands beside it, or zero if the list does not
have the item. It may be undefined, which is not the same as missing. -/
def ValueAt (keys : List Datum) (values : List (Option Float)) (k : Datum)
    (v : Option Float) : Prop :=
  (k, v) ∈ keys.zip values ∨ (k ∉ keys ∧ v = some 0)

namespace Keyed

/-- Put in pairs with their values, the items are still the items. -/
theorem map_fst_zip (h : Keyed keys values) : (keys.zip values).map Prod.fst = keys :=
  List.map_fst_zip (Nat.le_of_eq h.length)

/-- An item has one value. Two pairs of one item would be a repeat, and an item cannot both be there
and be missing. -/
theorem unique (h : Keyed keys values) (first : ValueAt keys values k v)
    (second : ValueAt keys values k v') : v = v' := by
  have nodup : ((keys.zip values).map Prod.fst).Nodup := h.map_fst_zip.symm ▸ h.nodup
  rcases first with there | ⟨absent, rfl⟩ <;> rcases second with there' | ⟨absent', rfl⟩
  · exact congrArg Prod.snd (List.inj_on_of_nodup_map nodup there there' rfl)
  · exact absurd (List.of_mem_zip there).1 absent'
  · exact absurd (List.of_mem_zip there').1 absent
  · rfl

/-- Items with their values may come in another order. The pairs are permuted, so that each item
keeps its value. -/
theorem of_perm (h : Keyed pk pv) (length : pk'.length = pv'.length)
    (perm : (pk'.zip pv').Perm (pk.zip pv)) : Keyed pk' pv' ∧ pk'.Perm pk := by
  have keys : pk'.Perm pk := by
    have firsts := perm.map Prod.fst
    rwa [List.map_fst_zip (Nat.le_of_eq length), h.map_fst_zip] at firsts
  exact ⟨⟨fun k there => h.exact k (keys.subset there), keys.nodup_iff.2 h.nodup, length⟩, keys⟩

end Keyed

/-! ## Values

That the computation finds the value of an item is shown along the list. -/

/-- The value of an item is that of the first place where it is found. -/
theorem valueOf_cons (k : Datum) (keys : List Datum) (v : Option Float)
    (values : List (Option Float)) (key : Datum) :
    valueOf (k :: keys) (v :: values) key
      = if k == key then v else valueOf keys values key := by
  unfold valueOf
  rw [List.idxOf?_cons]
  cases k == key with
  | true => rfl
  | false =>
    rw [if_neg Bool.false_ne_true, if_neg Bool.false_ne_true]
    cases keys.idxOf? key <;> rfl

/-- **An item is given its value**, in a list that need not have it. -/
theorem valueAt_valueOf (exact : ∀ k ∈ keys, k.Exact) (length : keys.length = values.length)
    (hk : k.Exact) : ValueAt keys values k (valueOf keys values k) := by
  induction keys generalizing values with
  | nil => exact .inr ⟨List.not_mem_nil, rfl⟩
  | cons k' keys ih =>
    cases values with
    | nil => cases length
    | cons v values =>
      rw [List.forall_mem_cons] at exact
      rw [valueOf_cons]
      -- the item stands here, or else it is looked for behind, where it is found or missing
      by_cases here : k' = k
      · rw [if_pos ((exact.1.beq_iff hk).2 here), here]
        exact .inl List.mem_cons_self
      · rw [if_neg fun same => here ((exact.1.beq_iff hk).1 same)]
        rcases ih exact.2 (Nat.succ.inj length) with there | ⟨absent, zero⟩
        · exact .inl (List.mem_cons_of_mem _ there)
        · refine .inr ⟨fun there => ?_, zero⟩
          rcases List.mem_cons.1 there with same | there
          · exact here same.symm
          · exact absent there

/-- The order of a list does not matter for the value of an item, as an item has one value in either
order. -/
theorem valueOf_congr (previous : Keyed pk pv) (length : pk'.length = pv'.length)
    (perm : (pk'.zip pv').Perm (pk.zip pv)) (hk : k.Exact) :
    valueOf pk' pv' k = valueOf pk pv k := by
  obtain ⟨other, keys⟩ := previous.of_perm length perm
  refine previous.unique ?_ (valueAt_valueOf previous.exact previous.length hk)
  rcases valueAt_valueOf other.exact length hk with there | ⟨absent, zero⟩
  · exact .inl (perm.subset there)
  · exact .inr ⟨fun there => absent (keys.symm.subset there), zero⟩

/-! ## Items

The items of both lists are those of the first, followed by what is new in the second. -/

/-- **The items of the second list that are new are added in their order.** None of the first list
is moved. -/
theorem exists_new (last : ∀ k ∈ lk, k.Exact) (previous : ∀ k ∈ pk, k.Exact) :
    ∃ new, keepFirsts lk pk = lk ++ new ∧ new.Sublist pk ∧ ∀ k, k ∈ new ↔ k ∈ pk ∧ k ∉ lk := by
  obtain ⟨ls, rfl⟩ := exists_names last
  obtain ⟨ps, rfl⟩ := exists_names previous
  obtain ⟨new, added, sub, apart⟩ := exists_keepFirsts_eq_append ls ps
  refine ⟨new.map ItemName.datum, ?_, sub.map _, fun k => ?_⟩
  · rw [ItemName.keepFirsts_map_datum, added, List.map_append]
  · constructor
    · intro there
      obtain ⟨n, hn, rfl⟩ := List.mem_map.1 there
      refine ⟨List.mem_map_of_mem (sub.subset hn), fun known => ?_⟩
      exact apart n hn ((List.mem_map_of_injective ItemName.datum_injective).1 known)
    · rintro ⟨there, absent⟩
      obtain ⟨n, hn, rfl⟩ := List.mem_map.1 there
      have kept : n ∈ ls ++ new := added ▸ mem_keepFirsts.2 (.inr hn)
      rcases List.mem_append.1 kept with known | fresh
      · exact absurd (List.mem_map_of_mem known) absent
      · exact List.mem_map_of_mem fresh

/-- Three lists that are functions of one list are a list of triples. -/
theorem zip_map_map {α β γ : Type} (l : List α) (f : α → β) (g : α → γ) :
    l.zip ((l.map f).zip (l.map g)) = l.map fun a => (a, f a, g a) := by
  rw [List.zip_map', List.zip_eq_zipWith, List.zipWith_map_right, List.zipWith_self]

/-! ## The theorem -/

/-- **Alignment loses nothing and repeats nothing.** The items of the first list are followed by the
others of the second, in their order. Beside each item stands its value in either list, undefined
values included, or zero where a list does not have the item. If the second list comes in another
order, with its values, no item is given another value and the items of the first list stay where
they are.

The new items do come in another order then, that of the list in which they are. So what is the same
are the items with their two values, as a set; and in front they are the same as a list. -/
theorem align_keyed (last : Keyed lk lv) (previous : Keyed pk pv) :
    ∃ new ls ps, align lk lv pk pv = (lk ++ new, ls, ps) ∧ (lk ++ new).Nodup ∧
      new.Sublist pk ∧ (∀ k, k ∈ new ↔ k ∈ pk ∧ k ∉ lk) ∧
      List.Forall₂ (ValueAt lk lv) (lk ++ new) ls ∧
      List.Forall₂ (ValueAt pk pv) (lk ++ new) ps ∧
      ∀ pk' pv', pk'.length = pv'.length → (pk'.zip pv').Perm (pk.zip pv) →
        ∃ new' ls' ps', align lk lv pk' pv' = (lk ++ new', ls', ps') ∧
          ((lk ++ new').zip (ls'.zip ps')).Perm ((lk ++ new).zip (ls.zip ps)) := by
  obtain ⟨new, added, sub, fresh⟩ := exists_new last.exact previous.exact
  have nodup : (lk ++ new).Nodup :=
    last.nodup.append (previous.nodup.sublist sub) fun k known there => ((fresh k).1 there).2 known
  have exact : ∀ k ∈ lk ++ new, k.Exact := fun k there =>
    (List.mem_append.1 there).elim (last.exact k) fun there =>
      previous.exact k ((fresh k).1 there).1
  refine ⟨new, _, _, by rw [align, added], nodup, sub, fresh, ?_, ?_, fun pk' pv' length perm => ?_⟩
  · rw [List.forall₂_map_right_iff, List.forall₂_same]
    exact fun k there => valueAt_valueOf last.exact last.length (exact k there)
  · rw [List.forall₂_map_right_iff, List.forall₂_same]
    exact fun k there => valueAt_valueOf previous.exact previous.length (exact k there)
  · obtain ⟨other, keys⟩ := previous.of_perm length perm
    obtain ⟨new', added', sub', fresh'⟩ := exists_new last.exact other.exact
    have same : (lk ++ new').Perm (lk ++ new) := by
      refine ((List.perm_ext_iff_of_nodup (other.nodup.sublist sub')
        (previous.nodup.sublist sub)).2 fun k => ?_).append_left lk
      rw [fresh, fresh', keys.mem_iff]
    -- an item is looked up in the list in the new order, and found with its value
    have agree : (lk ++ new').map (fun k => (k, valueOf lk lv k, valueOf pk' pv' k))
        = (lk ++ new').map fun k => (k, valueOf lk lv k, valueOf pk pv k) :=
      List.map_congr_left fun k there => by
        rw [valueOf_congr previous length perm (exact k (same.subset there))]
    refine ⟨new', _, _, by rw [align, added'], ?_⟩
    rw [zip_map_map, zip_map_map, agree]
    exact same.map _

/-- Items of the recent days. -/
def recentItems : List Datum := [.text "b", .null, .text "1"]

/-- Items of the days before. The number 1 and the text `1` are two of them. -/
def earlierItems : List Datum := [.text "1", .int 1, .null]

/-- **Absent, undefined and zero** are told apart, also if the items of the days before come in
another order. -/
theorem align_keyed_mixed :
    Keyed recentItems [some 5, none, some 0] ∧ Keyed earlierItems [none, some 7, some 2] ∧
    ∃ new ls ps, align recentItems [some 5, none, some 0] earlierItems [none, some 7, some 2]
        = (recentItems ++ new, ls, ps) ∧
      new = [.int 1] ∧ ls = [some 5, none, some 0, some 0] ∧
      ps = [some 0, some 2, none, some 7] ∧
      ∃ new' ls' ps', align recentItems [some 5, none, some 0] [.int 1, .null, .text "1"]
          [some 7, some 2, none] = (recentItems ++ new', ls', ps') ∧
        ((recentItems ++ new').zip (ls'.zip ps')).Perm
          ((recentItems ++ new).zip (ls.zip ps)) := by
  have last : Keyed recentItems [some 5, none, some 0] :=
    ⟨by simp [recentItems, Datum.Exact], by simp [recentItems], rfl⟩
  have previous : Keyed earlierItems [none, some 7, some 2] :=
    ⟨by simp [earlierItems, Datum.Exact], by simp [earlierItems], rfl⟩
  have computed : align recentItems [some 5, none, some 0] earlierItems [none, some 7, some 2]
      = (recentItems ++ [.int 1], [some 5, none, some 0, some 0],
        [some 0, some 2, none, some 7]) := rfl
  obtain ⟨new, ls, ps, aligned, _, _, _, _, _, anyOrder⟩ := align_keyed last previous
  obtain ⟨keys, values⟩ := Prod.mk.inj (aligned.symm.trans computed)
  obtain ⟨rfl, rfl⟩ := Prod.mk.inj values
  -- the first of the three comes last
  have moved : (List.zip [.int 1, .null, .text "1"] [some 7, some 2, none] :
      List (Datum × Option Float)).Perm (earlierItems.zip [none, some 7, some 2]) :=
    List.perm_append_singleton (Datum.text "1", none) [(.int 1, some 7), (.null, some 2)]
  exact ⟨last, previous, new, _, _, aligned, List.append_cancel_left keys, rfl, rfl,
    anyOrder [.int 1, .null, .text "1"] [some 7, some 2, none] rfl moved⟩

end ActivityMetrics.Trend
