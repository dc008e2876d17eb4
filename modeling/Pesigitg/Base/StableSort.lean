import Mathlib.Data.List.Basic
import Mathlib.Tactic.Common

/-!
# Stable sorting by a rank

Items of one rank keep their order, so a list sorted by a rank below `count` is the concatenation
of its `count` buckets. `sortByRank_eq_buckets` is how an algorithm that only partitions is
compared with a sort.
-/

namespace Pesigitg.Base

variable {α : Type} (rank : α → Nat)

/-- Sort by rank, lowest first, keeping the order of items of the same rank. -/
def sortByRank (items : List α) : List α :=
  items.mergeSort fun first second => decide (rank first ≤ rank second)

/-- The items of one rank, in their order. -/
def bucket (level : Nat) (items : List α) : List α := items.filter fun item => rank item = level

/-- Sorting loses and adds nothing. -/
theorem sortByRank_perm (items : List α) : (sortByRank rank items).Perm items :=
  List.mergeSort_perm items _

/-- Comparing ranks is transitive. -/
theorem rank_trans (first second third : α) (one : decide (rank first ≤ rank second) = true)
    (two : decide (rank second ≤ rank third) = true) : decide (rank first ≤ rank third) = true := by
  rw [decide_eq_true_eq] at *
  exact Nat.le_trans one two

/-- Any two ranks compare. -/
theorem rank_total (first second : α) :
    (decide (rank first ≤ rank second) || decide (rank second ≤ rank first)) = true := by
  rw [Bool.or_eq_true, decide_eq_true_eq, decide_eq_true_eq]
  exact Nat.le_total _ _

/-- The sorted list is in the order of the ranks. -/
theorem sortByRank_ordered (items : List α) :
    (sortByRank rank items).Pairwise fun first second => rank first ≤ rank second := by
  have sorted := List.pairwise_mergeSort (rank_trans rank) (rank_total rank) items
  refine sorted.imp ?_
  intro first second ordered
  exact of_decide_eq_true ordered

/-- Sorting does not reorder a bucket. -/
theorem bucket_sortByRank (level : Nat) (items : List α) :
    bucket rank level (sortByRank rank items) = bucket rank level items := by
  have same : (bucket rank level items).Pairwise
      fun first second => decide (rank first ≤ rank second) = true := by
    rw [List.pairwise_iff_forall_sublist]
    intro first second pair
    have one := pair.subset List.mem_cons_self
    have two := pair.subset (List.mem_cons_of_mem first List.mem_cons_self)
    have firstRank := of_decide_eq_true (List.mem_filter.mp one).2
    have secondRank := of_decide_eq_true (List.mem_filter.mp two).2
    exact decide_eq_true (Nat.le_of_eq (firstRank.trans secondRank.symm))
  have kept : (bucket rank level items).Sublist (sortByRank rank items) :=
    List.sublist_mergeSort (rank_trans rank) (rank_total rank) same List.filter_sublist
  have inside := kept.filter fun item => rank item = level
  rw [bucket, List.filter_filter] at inside
  simp only [Bool.and_self] at inside
  symm
  apply inside.eq_of_length
  exact ((sortByRank_perm rank items).symm.filter _).length_eq

/-- An ordered list splits at any level. -/
theorem eq_append_of_ordered {items : List α}
    (ordered : items.Pairwise fun first second => rank first ≤ rank second) (level : Nat) :
    items = items.filter (fun item => rank item < level) ++
      items.filter (fun item => level ≤ rank item) := by
  induction items with
  | nil => rfl
  | cons item rest ih =>
    rw [List.pairwise_cons] at ordered
    by_cases below : rank item < level
    · rw [List.filter_cons_of_pos (by simpa using below),
        List.filter_cons_of_neg (by simpa using below), List.cons_append, ← ih ordered.2]
    · -- Everything behind the first item of the upper part is in it too.
      have none : rest.filter (fun other => rank other < level) = [] := by
        rw [List.filter_eq_nil_iff]
        intro other member
        have above := ordered.1 other member
        simp only [decide_eq_true_eq]
        omega
      have all : rest.filter (fun other => level ≤ rank other) = rest := by
        rw [List.filter_eq_self]
        intro other member
        have above := ordered.1 other member
        simp only [decide_eq_true_eq]
        omega
      rw [List.filter_cons_of_neg (by simpa using below),
        List.filter_cons_of_pos (by simpa using below), none, all, List.nil_append]

/-- An ordered list is its buckets in turn. -/
theorem eq_buckets_of_ordered {items : List α} {count : Nat}
    (ordered : items.Pairwise fun first second => rank first ≤ rank second)
    (bounded : ∀ item ∈ items, rank item < count) :
    items = (List.range count).flatMap fun level => bucket rank level items := by
  induction count generalizing items with
  | zero =>
    rw [List.range_zero, List.flatMap_nil, List.eq_nil_iff_forall_not_mem]
    intro item member
    exact Nat.not_lt_zero _ (bounded item member)
  | succ count ih =>
    have lower := ih (ordered.filter fun item => rank item < count) (by
      intro item member
      exact of_decide_eq_true (List.mem_filter.mp member).2)
    have upper : items.filter (fun item => count ≤ rank item) = bucket rank count items := by
      apply List.filter_congr
      intro item member
      have below := bounded item member
      rw [decide_eq_decide]
      omega
    have levels : (List.range count).flatMap (fun level =>
        bucket rank level (items.filter fun item => rank item < count)) =
        (List.range count).flatMap fun level => bucket rank level items := by
      apply List.flatMap_congr
      intro level inside
      rw [List.mem_range] at inside
      rw [bucket, bucket, List.filter_filter]
      apply List.filter_congr
      intro item _
      rw [← Bool.decide_and, decide_eq_decide]
      omega
    rw [List.range_succ, List.flatMap_append, List.flatMap_singleton, ← levels, ← lower, ← upper]
    exact eq_append_of_ordered rank ordered count

/-- Sorting by a rank below `count` puts the buckets in turn. -/
theorem sortByRank_eq_buckets {items : List α} {count : Nat}
    (bounded : ∀ item ∈ items, rank item < count) :
    sortByRank rank items = (List.range count).flatMap fun level => bucket rank level items := by
  have sorted := eq_buckets_of_ordered rank (sortByRank_ordered rank items) (by
    intro item member
    exact bounded item ((sortByRank_perm rank items).mem_iff.mp member))
  simpa only [bucket_sortByRank] using sorted

end Pesigitg.Base
