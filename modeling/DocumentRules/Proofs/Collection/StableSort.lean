import Mathlib.Data.List.Basic

/-!
# Stable sorting

A list is a stable sort of another when it has the same members as often, stands in order, and keeps
members that tie in the order in which they stood (`IsStableSort`). For an order in which every two
values are related one way or the other, a list has only one stable sort (`IsStableSort.unique`),
and merge sort gives it (`isStableSort_mergeSort`). Members can be left out before or after sorting
(`IsStableSort.filter`).
-/

set_option autoImplicit false
set_option relaxedAutoImplicit false

namespace DocumentRules.Collection

variable {α : Type} {le : α → α → Bool}

/-- An order in which values may tie: every two are related, and related values chain. -/
structure IsTotalPreorder (le : α → α → Bool) : Prop where
  total : ∀ left right, le left right = true ∨ le right left = true
  trans : ∀ left middle right, le left middle = true → le middle right = true →
    le left right = true

theorem IsTotalPreorder.refl (h : IsTotalPreorder le) (value : α) : le value value = true :=
  (h.total value value).elim id id

/-- Whether two values tie: each may stand before the other. -/
def ties (le : α → α → Bool) (left right : α) : Bool := le left right && le right left

theorem ties_iff {left right : α} :
    ties le left right = true ↔ le left right = true ∧ le right left = true :=
  Bool.and_eq_true_iff

/-- A list is another one in order, members that tie being kept in the order in which they stood. -/
structure IsStableSort (le : α → α → Bool) (input output : List α) : Prop where
  perm : output.Perm input
  sorted : output.Pairwise fun earlier later ↦ le earlier later = true
  stable : ∀ value, output.filter (ties le value) = input.filter (ties le value)

/-- Lists have the same members if of every value they have the same members that tie with it. -/
theorem mem_iff_of_filter_ties (hle : IsTotalPreorder le) {first second : List α}
    (hties : ∀ value, first.filter (ties le value) = second.filter (ties le value)) (value : α) :
    value ∈ first ↔ value ∈ second := by
  have hself : ties le value value = true := ties_iff.mpr ⟨hle.refl value, hle.refl value⟩
  have hfilter : value ∈ first.filter (ties le value) ↔
      value ∈ second.filter (ties le value) := by
    rw [hties]
  rw [List.mem_filter, List.mem_filter] at hfilter
  exact (and_iff_left hself).symm.trans (hfilter.trans (and_iff_left hself))

/-- Assumes: two lists in order, in which the members that tie with a value are the same and stand
in the same order. The lists are the same: each of the two first members stands in the other list,
so they tie, and are both the first of those that tie with them. -/
theorem eq_of_sorted_of_filter_ties (hle : IsTotalPreorder le) {first second : List α}
    (hfirst : first.Pairwise fun earlier later ↦ le earlier later = true)
    (hsecond : second.Pairwise fun earlier later ↦ le earlier later = true)
    (hties : ∀ value, first.filter (ties le value) = second.filter (ties le value)) :
    first = second := by
  have hmem := mem_iff_of_filter_ties hle hties
  induction first generalizing second with
  | nil =>
    exact (List.eq_nil_iff_forall_not_mem.mpr fun value hvalue ↦
      List.not_mem_nil ((hmem value).mpr hvalue)).symm
  | cons member rest ih =>
    obtain ⟨hmember, hrest⟩ := List.pairwise_cons.mp hfirst
    obtain _ | ⟨other, others⟩ := second
    · exact absurd ((hmem member).mp List.mem_cons_self) List.not_mem_nil
    obtain ⟨hother, hothers⟩ := List.pairwise_cons.mp hsecond
    have hbefore : le member other = true := by
      rcases List.mem_cons.mp ((hmem other).mpr List.mem_cons_self) with rfl | hlater
      · exact hle.refl other
      · exact hmember other hlater
    have hbehind : le other member = true := by
      rcases List.mem_cons.mp ((hmem member).mp List.mem_cons_self) with rfl | hlater
      · exact hle.refl member
      · exact hother member hlater
    have hheads := hties member
    have hself : ties le member member = true :=
      ties_iff.mpr ⟨hle.refl member, hle.refl member⟩
    rw [List.filter_cons_of_pos hself,
      List.filter_cons_of_pos (ties_iff.mpr ⟨hbefore, hbehind⟩)] at hheads
    obtain rfl : member = other := (List.cons.inj hheads).1
    have hrestTies : ∀ value, rest.filter (ties le value) = others.filter (ties le value) := by
      intro value
      have hvalue := hties value
      rw [List.filter_cons, List.filter_cons] at hvalue
      split at hvalue
      · exact (List.cons.inj hvalue).2
      · exact hvalue
    rw [ih hrest hothers hrestTies (mem_iff_of_filter_ties hle hrestTies)]

/-- A list has one stable sort. -/
theorem IsStableSort.unique (hle : IsTotalPreorder le) {input first second : List α}
    (hfirst : IsStableSort le input first) (hsecond : IsStableSort le input second) :
    first = second :=
  eq_of_sorted_of_filter_ties hle hfirst.sorted hsecond.sorted fun value ↦
    (hfirst.stable value).trans (hsecond.stable value).symm

/-- Leaving out members before sorting comes to the same as leaving them out afterwards. -/
theorem IsStableSort.filter {input output : List α} (h : IsStableSort le input output)
    (keep : α → Bool) : IsStableSort le (input.filter keep) (output.filter keep) where
  perm := h.perm.filter keep
  sorted := h.sorted.filter keep
  stable value := by
    rw [List.filter_comm, h.stable value, List.filter_comm]

/-- Merge sort is stable. -/
theorem isStableSort_mergeSort (hle : IsTotalPreorder le) (input : List α) :
    IsStableSort le input (input.mergeSort le) where
  perm := List.mergeSort_perm input le
  sorted := List.pairwise_mergeSort hle.trans
    (fun left right ↦ Bool.or_eq_true_iff.mpr (hle.total left right)) input
  stable := by
    intro value
    -- the members that tie with a value are in order already, so sorting leaves them in their order
    have hordered : (input.filter (ties le value)).Pairwise
        fun earlier later ↦ le earlier later = true := by
      refine List.pairwise_of_forall_mem_list fun earlier hearlier later hlater ↦ ?_
      have hearlier := ties_iff.mp (List.mem_filter.mp hearlier).2
      have hlater := ties_iff.mp (List.mem_filter.mp hlater).2
      exact hle.trans _ _ _ hearlier.2 hlater.1
    have hkept := List.sublist_mergeSort hle.trans
      (fun left right ↦ Bool.or_eq_true_iff.mpr (hle.total left right)) hordered List.filter_sublist
    have hfiltered := hkept.filter (ties le value)
    simp only [List.filter_filter, Bool.and_self] at hfiltered
    refine (hfiltered.eq_of_length ?_).symm
    exact ((List.mergeSort_perm input le).filter _).length_eq.symm

end DocumentRules.Collection
