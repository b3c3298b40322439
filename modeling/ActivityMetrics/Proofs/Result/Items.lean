import ActivityMetrics.Proofs.Query.Fragments
import ActivityMetrics.Result.Datum

/-!
# Values that are listed with items

An answer for several items holds lists that run side by side: the items, as texts, and a value for
each of them. A value is found by the position of its item (`getElem?_idxOf?`), and lists that are
picked by the same positions still run side by side (`filterMap_getElem?_map`). The positions may be
those of a list that was sorted (`exists_mergeSort_zipIdx`).

Neither lists nor positions are what one wants to reason about. If the values are a function of the
items, the list of values is the list of items under this function, and to look a value up is to
apply it. The lemmas here turn the one into the other, for looking up, for picking, and for sorting
by values.
-/

namespace ActivityMetrics

/-! ## Items as texts

Items are texts in an answer, and what is done with them there is what is done with the texts. -/

/-- Texts are united as the strings are. -/
theorem keepFirsts_map_text (xs ys : List String) :
    keepFirsts (xs.map Datum.text) (ys.map Datum.text) = (keepFirsts xs ys).map Datum.text :=
  keepFirsts_map_of_beq (fun _ _ _ _ => rfl) (List.subset_append_left xs ys)
    (List.subset_append_right xs ys)

/-- A text is found where its string is. -/
theorem idxOf?_map_text (xs : List String) (x : String) :
    (xs.map Datum.text).idxOf? (.text x) = xs.idxOf? x := by
  induction xs with
  | nil => rfl
  | cons y xs ih =>
    rw [List.map_cons, List.idxOf?_cons, List.idxOf?_cons, ih]
    rfl

/-! ## Values by position -/

variable {α β : Type}

/-- **The value of an item stands where the item stands.** -/
theorem getElem?_idxOf? [BEq α] [LawfulBEq α] (xs : List α) (f : α → β) (x : α)
    [Decidable (x ∈ xs)] :
    ((xs.idxOf? x).bind fun i => (xs.map f)[i]?) = if x ∈ xs then some (f x) else none := by
  split
  · rename_i there
    obtain ⟨i, found⟩ := Option.isSome_iff_exists.1 (List.isSome_idxOf?.2 there)
    obtain ⟨lt, same, _⟩ := List.idxOf?_eq_some_iff.1 found
    rw [found, Option.bind_some, List.getElem?_map, List.getElem?_eq_getElem lt, same]
    rfl
  · rename_i absent
    rw [List.idxOf?_eq_none_iff.2 absent]
    rfl

/-- Lists that are picked by the same positions run side by side. -/
theorem filterMap_getElem?_map (xs : List α) (f : α → β) (order : List Nat) :
    (order.filterMap fun i => (xs.map f)[i]?) = (order.filterMap fun i => xs[i]?).map f := by
  rw [List.map_filterMap]
  simp only [List.getElem?_map]

/-- The positions of elements pick these elements. -/
theorem filterMap_getElem?_snd {xs : List α} {pairs : List (α × Nat)} (h : pairs ⊆ xs.zipIdx) :
    ((pairs.map Prod.snd).filterMap fun i => xs[i]?) = pairs.map Prod.fst := by
  induction pairs with
  | nil => rfl
  | cons x pairs ih =>
    have here : xs[x.2]? = some x.1 := List.mem_zipIdx_iff_getElem?.1 (h List.mem_cons_self)
    rw [List.map_cons, List.filterMap_cons_some here,
      ih fun y hy => h (List.mem_cons_of_mem x hy), List.map_cons]

/-- Elements are sorted together with their positions by what they are mapped to. The pairs are not
compared by the position, so that elements with equal images stay in order in both readings. -/
theorem exists_mergeSort_zipIdx (xs : List α) (f : α → β) (le : β → β → Bool) :
    ∃ pairs : List (α × Nat), pairs ⊆ xs.zipIdx ∧
      pairs.map Prod.fst = xs.mergeSort (fun x y => le (f x) (f y)) ∧
      pairs.map Prod.snd
        = ((xs.map f).zipIdx.mergeSort fun a b => le a.1 b.1).map Prod.snd := by
  refine ⟨xs.zipIdx.mergeSort fun x y => le (f x.1) (f y.1), fun x => List.mem_mergeSort.1, ?_, ?_⟩
  · have sorted := List.map_mergeSort (f := Prod.fst) (l := xs.zipIdx)
      (r := fun x y => le (f x.1) (f y.1)) (s := fun x y => le (f x) (f y)) fun _ _ _ _ => rfl
    rw [sorted, List.zipIdx_map_fst]
  · have sorted := List.map_mergeSort (f := Prod.map f id) (l := xs.zipIdx)
      (r := fun x y => le (f x.1) (f y.1)) (s := fun a b => le a.1 b.1) fun _ _ _ _ => rfl
    rw [List.zipIdx_map, ← sorted, List.map_map]
    rfl

end ActivityMetrics
