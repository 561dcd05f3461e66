import Mathlib.Data.List.Sort

/-! Sorting by a key. The order is strict where the key tells the entries apart. Whatever
the key, entries come as if each was inserted in turn, which can be evaluated. -/
namespace SystemOnChip.Sorting
variable {α : Type} {atMost : α → α → Bool}

theorem orderedInsert_between {item : α} {before behind : List α}
    (above : ∀ other ∈ before, (!atMost item other) = true)
    (below : ∀ other ∈ behind, atMost item other = true) :
    (before ++ behind).orderedInsert (fun a b => atMost a b = true) item =
      before ++ item :: behind := by
  induction before with
  | nil =>
    cases behind with
    | nil => rfl
    | cons other rest => exact List.orderedInsert_cons_of_le _ rest (below other List.mem_cons_self)
  | cons other rest ih =>
    obtain ⟨here, later⟩ := List.forall_mem_cons.mp above
    rw [Bool.not_eq_true'] at here
    simp only [List.cons_append, List.orderedInsert_cons, here, ih later, Bool.false_eq_true,
      if_false]

/-- The library has this for orders in which no two items are tied. Here they may be, as
both sorts are stable. -/
theorem mergeSort_eq_insertionSort
    (transitive : ∀ a b c, atMost a b = true → atMost b c = true → atMost a c = true)
    (total : ∀ a b, (atMost a b || atMost b a) = true) (items : List α) :
    items.mergeSort atMost = items.insertionSort fun a b => atMost a b = true := by
  induction items with
  | nil => rw [List.mergeSort_nil, List.insertionSort_nil]
  | cons item rest ih =>
    obtain ⟨before, behind, whole, others, above⟩ := List.mergeSort_cons transitive total item rest
    have ordered := List.pairwise_mergeSort transitive total (item :: rest)
    rw [whole, List.pairwise_append, List.pairwise_cons] at ordered
    obtain ⟨-, ⟨below, -⟩, -⟩ := ordered
    rw [List.insertionSort_cons, ← ih, others, orderedInsert_between above below, whole]

section Key
variable {β : Type} [LE β] [DecidableLE β] [Std.IsLinearPreorder β] (key : α → β)

theorem key_trans (a b c : α) (below : decide (key a ≤ key b) = true)
    (above : decide (key b ≤ key c) = true) : decide (key a ≤ key c) = true :=
  decide_eq_true (Std.le_trans (of_decide_eq_true below) (of_decide_eq_true above))

theorem key_total (a b : α) : (decide (key a ≤ key b) || decide (key b ≤ key a)) = true := by
  rw [Bool.or_eq_true, decide_eq_true_eq, decide_eq_true_eq]
  exact Std.le_total

theorem mergeSort_key_eq_insertionSort (items : List α) :
    (items.mergeSort fun a b => key a ≤ key b) =
      items.insertionSort fun a b => decide (key a ≤ key b) = true :=
  mergeSort_eq_insertionSort (key_trans key) (key_total key) items

end Key

theorem pairwise_lt_mergeSort {key : α → UInt32} {items : List α}
    (distinct : items.Pairwise fun a b => key a ≠ key b) :
    (items.mergeSort fun a b => key a ≤ key b).Pairwise fun a b => key a < key b := by
  have ordered := List.pairwise_mergeSort (key_trans key) (key_total key) items
  have different := (List.mergeSort_perm items fun a b => key a ≤ key b).pairwise_iff
    (fun {a b} => Ne.symm) |>.mpr distinct
  refine (ordered.and different).imp fun {a b} both => ?_
  exact UInt32.lt_of_le_of_ne (of_decide_eq_true both.1) both.2

end SystemOnChip.Sorting
