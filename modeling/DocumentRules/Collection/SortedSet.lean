/-!
# Sorted sets

The document types of a schema, the paths that a commit changed and the checked boxes of a form are
finite sets whose members are listed in ascending order. A `SortedSet` is its list of members, with
the proof that the list ascends, so two sets with the same members are equal (`ext_mem`).
`mem_insert` and `mem_union` describe the operations through membership.
-/

set_option autoImplicit false
set_option relaxedAutoImplicit false

namespace DocumentRules.Collection

open Std

variable {α : Type} [Ord α]

/-- A member put in its place among ascending members; one that is there already is not repeated. -/
def insertAscending (member : α) : List α → List α
  | [] => [member]
  | first :: rest =>
    match compare member first with
    | .lt => member :: first :: rest
    | .eq => first :: rest
    | .gt => first :: insertAscending member rest

theorem mem_insertAscending [LawfulEqOrd α] {member other : α} {members : List α} :
    other ∈ insertAscending member members ↔ other = member ∨ other ∈ members := by
  induction members with
  | nil => simp [insertAscending]
  | cons first rest ih =>
    simp only [insertAscending]
    cases hcompare : compare member first with
    | lt => simp
    | eq =>
      have heq : member = first := LawfulEqOrd.eq_of_compare hcompare
      simp [heq]
    | gt =>
      simp only [List.mem_cons, ih]
      exact or_left_comm

theorem pairwise_insertAscending [TransOrd α] [LawfulEqOrd α] (member : α) {members : List α}
    (h : members.Pairwise fun earlier later ↦ compare earlier later = .lt) :
    (insertAscending member members).Pairwise fun earlier later ↦ compare earlier later = .lt := by
  induction members with
  | nil => simp [insertAscending]
  | cons first rest ih =>
    obtain ⟨hfirst, hrest⟩ := List.pairwise_cons.mp h
    simp only [insertAscending]
    cases hcompare : compare member first with
    | lt =>
      refine List.pairwise_cons.mpr ⟨fun other hother ↦ ?_, h⟩
      rcases List.mem_cons.mp hother with rfl | hother
      · exact hcompare
      · exact TransCmp.lt_trans hcompare (hfirst other hother)
    | eq => exact h
    | gt =>
      refine List.pairwise_cons.mpr ⟨fun other hother ↦ ?_, ih hrest⟩
      rcases mem_insertAscending.mp hother with rfl | hother
      · exact OrientedCmp.lt_of_gt hcompare
      · exact hfirst other hother

/-- A finite set, listed in ascending order. -/
structure SortedSet (α : Type) [Ord α] where
  toList : List α
  ascending : toList.Pairwise fun earlier later ↦ compare earlier later = .lt

namespace SortedSet

/-- The set without members. -/
def empty : SortedSet α := ⟨[], List.Pairwise.nil⟩

instance : EmptyCollection (SortedSet α) := ⟨empty⟩

instance : Inhabited (SortedSet α) := ⟨empty⟩

theorem ext_toList {first second : SortedSet α} (h : first.toList = second.toList) :
    first = second := by
  cases first
  cases second
  simp_all

instance [DecidableEq α] : DecidableEq (SortedSet α) := fun first second ↦
  decidable_of_iff (first.toList = second.toList) ⟨ext_toList, fun h ↦ h ▸ rfl⟩

instance : Membership α (SortedSet α) := ⟨fun set member ↦ member ∈ set.toList⟩

instance [DecidableEq α] (member : α) (set : SortedSet α) : Decidable (member ∈ set) :=
  inferInstanceAs (Decidable (member ∈ set.toList))

/-- Whether a value is a member. -/
def contains [DecidableEq α] (set : SortedSet α) (member : α) : Bool :=
  decide (member ∈ set)

/-- The number of members. -/
def size (set : SortedSet α) : Nat := set.toList.length

/-- Whether there is no member. -/
def isEmpty (set : SortedSet α) : Bool := set.toList.isEmpty

theorem mem_toList {set : SortedSet α} {member : α} : member ∈ set.toList ↔ member ∈ set :=
  Iff.rfl

@[simp] theorem notMem_empty (member : α) : member ∉ (empty : SortedSet α) :=
  List.not_mem_nil

@[simp] theorem contains_iff [DecidableEq α] {set : SortedSet α} {member : α} :
    set.contains member = true ↔ member ∈ set := by
  simp [contains]

variable [TransOrd α]

theorem nodup_toList (set : SortedSet α) : set.toList.Nodup :=
  set.ascending.imp fun {earlier later} hlt heq ↦ by
    subst heq
    simp at hlt

/-- Two sets with the same members are equal. -/
@[ext] theorem ext_mem {first second : SortedSet α}
    (h : ∀ member, member ∈ first ↔ member ∈ second) : first = second := by
  refine ext_toList (List.Perm.eq_of_pairwise (fun earlier later _ _ hlt hgt ↦ ?_)
    first.ascending second.ascending ?_)
  · exact absurd hgt (OrientedCmp.not_lt_of_lt hlt)
  · exact (List.perm_ext_iff_of_nodup first.nodup_toList second.nodup_toList).mpr h

variable [LawfulEqOrd α]

/-- A set with one more member. -/
def insert (set : SortedSet α) (member : α) : SortedSet α :=
  ⟨insertAscending member set.toList, pairwise_insertAscending member set.ascending⟩

@[simp] theorem mem_insert {set : SortedSet α} {member other : α} :
    other ∈ set.insert member ↔ other = member ∨ other ∈ set :=
  mem_insertAscending

/-- A set with every value of a list as a further member. -/
def insertAll (set : SortedSet α) (members : List α) : SortedSet α :=
  members.foldl insert set

@[simp] theorem mem_insertAll {set : SortedSet α} {members : List α} {other : α} :
    other ∈ set.insertAll members ↔ other ∈ set ∨ other ∈ members := by
  induction members generalizing set with
  | nil => simp [insertAll]
  | cons member rest ih =>
    have hstep : set.insertAll (member :: rest) = (set.insert member).insertAll rest := rfl
    rw [hstep, ih, mem_insert, List.mem_cons]
    exact ⟨fun h ↦ by rcases h with (h | h) | h <;> simp [h],
      fun h ↦ by rcases h with h | h | h <;> simp [h]⟩

/-- The set of the values of a list. -/
def ofList (members : List α) : SortedSet α := empty.insertAll members

@[simp] theorem mem_ofList {members : List α} {other : α} :
    other ∈ ofList members ↔ other ∈ members := by
  simp [ofList]

/-- The values that are in one set or the other. -/
def union (first second : SortedSet α) : SortedSet α := first.insertAll second.toList

@[simp] theorem mem_union {first second : SortedSet α} {other : α} :
    other ∈ first.union second ↔ other ∈ first ∨ other ∈ second := by
  simp [union, mem_toList]

end SortedSet

end DocumentRules.Collection
