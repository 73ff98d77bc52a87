import DocumentRules.History.Memo
import Mathlib.Data.List.Forall2

/-!
# Inquiries in sequence

Sequencing obeys the monad laws, so an inquiry over a list is an inquiry over its front and then one
over the rest (`forEach_append`). `Inquiry.Ends` says that an inquiry ends in results with a
property whatever answers it gets, those of no backend included. Two continuations that agree on
such results make the same inquiry (`bind_congr_of_ends`).
-/

set_option autoImplicit false
set_option relaxedAutoImplicit false

namespace DocumentRules.History.Inquiry

variable {α β : Type}

theorem andThen_assoc {γ : Type} (inquiry : Inquiry α) (following : α → Inquiry β)
    (last : β → Inquiry γ) :
    (inquiry.andThen following).andThen last =
      inquiry.andThen fun result ↦ (following result).andThen last := by
  induction inquiry with
  | done result => rfl
  | ask query next ih => exact congrArg (Inquiry.ask query) (funext ih)

theorem andThen_done (inquiry : Inquiry α) : inquiry.andThen .done = inquiry := by
  induction inquiry with
  | done result => rfl
  | ask query next ih => exact congrArg (Inquiry.ask query) (funext ih)

instance : LawfulMonad Inquiry :=
  LawfulMonad.mk' Inquiry andThen_done (fun _ _ ↦ rfl) andThen_assoc

theorem forEach_append (inquire : α → Inquiry β) (front back : List α) :
    forEach inquire (front ++ back) = do
      let first ← forEach inquire front
      let others ← forEach inquire back
      return first ++ others := by
  induction front with
  | nil => simp [forEach]
  | cons member rest ih => simp [forEach, ih]

theorem forEach_congr {first second : α → Inquiry β} {members : List α}
    (h : ∀ member ∈ members, first member = second member) :
    forEach first members = forEach second members := by
  induction members with
  | nil => rfl
  | cons member rest ih =>
    obtain ⟨hmember, hrest⟩ := List.forall_mem_cons.mp h
    rw [forEach, forEach, hmember, ih hrest]

/-- Every result that an inquiry can end in has a property. -/
def Ends (property : α → Prop) : Inquiry α → Prop
  | .done result => property result
  | .ask _ next => ∀ answer, (next answer).Ends property

theorem ends_pure {property : α → Prop} {result : α} (h : property result) :
    (pure result : Inquiry α).Ends property := h

theorem ends_of_forall {property : α → Prop} (h : ∀ result, property result)
    (inquiry : Inquiry α) : inquiry.Ends property := by
  induction inquiry with
  | done result => exact h result
  | ask query next ih => exact ih

theorem Ends.imp {property weaker : α → Prop} {inquiry : Inquiry α} (h : inquiry.Ends property)
    (himp : ∀ result, property result → weaker result) : inquiry.Ends weaker := by
  induction inquiry with
  | done result => exact himp result h
  | ask query next ih => exact fun answer ↦ ih answer (h answer)

/-- A backend gives some of the answers. -/
theorem Ends.answer {property : α → Prop} {inquiry : Inquiry α} (h : inquiry.Ends property)
    (backend : Backend) : property (inquiry.answer backend) := by
  induction inquiry with
  | done result => exact h
  | ask query next ih => exact ih (backend query) (h (backend query))

theorem Ends.bind {before : α → Prop} {after : β → Prop} {inquiry : Inquiry α}
    {following : α → Inquiry β} (h : inquiry.Ends before)
    (hfollowing : ∀ result, before result → (following result).Ends after) :
    (inquiry >>= following).Ends after := by
  induction inquiry with
  | done result => exact hfollowing result h
  | ask query next ih => exact fun answer ↦ ih answer (h answer)

/-- Assumes: continuations that agree on every result that the inquiry can end in. -/
theorem bind_congr_of_ends {property : α → Prop} {inquiry : Inquiry α}
    {first second : α → Inquiry β} (h : inquiry.Ends property)
    (hagree : ∀ result, property result → first result = second result) :
    inquiry >>= first = inquiry >>= second := by
  induction inquiry with
  | done result => exact hagree result h
  | ask query next ih =>
    exact congrArg (Inquiry.ask query) (funext fun answer ↦ ih answer (h answer))

/-- An inquiry over a list ends in a list of results of its members. -/
theorem ends_forEach {relation : α → β → Prop} {inquire : α → Inquiry β} {members : List α}
    (h : ∀ member ∈ members, (inquire member).Ends (relation member)) :
    (forEach inquire members).Ends (List.Forall₂ relation members) := by
  induction members with
  | nil => exact ends_pure .nil
  | cons first rest ih =>
    obtain ⟨hfirst, hrest⟩ := List.forall_mem_cons.mp h
    exact hfirst.bind fun result hresult ↦
      (ih hrest).bind fun results hresults ↦ ends_pure (.cons hresult hresults)

/-- Assumes: an inquiry whose results have a property, whatever the member. Over a list it ends in
as many results with the property as the list has members. -/
theorem ends_forEach_forall {property : β → Prop} {inquire : α → Inquiry β}
    (h : ∀ member, (inquire member).Ends property) (members : List α) :
    (forEach inquire members).Ends fun results ↦
      results.length = members.length ∧ ∀ result ∈ results, property result := by
  induction members with
  | nil => exact ends_pure ⟨rfl, nofun⟩
  | cons first rest ih =>
    exact (h first).bind fun result hresult ↦ ih.bind fun results hresults ↦
      ends_pure ⟨congrArg (· + 1) hresults.1, List.forall_mem_cons.mpr ⟨hresult, hresults.2⟩⟩

/-- An inquiry that chooses members of a list ends in some of them, in their order. -/
theorem ends_select (inquire : α → Inquiry Bool) (members : List α) :
    (select inquire members).Ends (·.Sublist members) := by
  induction members with
  | nil => exact ends_pure .slnil
  | cons first rest ih =>
    refine (ends_of_forall (fun _ ↦ trivial) (inquire first)).bind fun chosen _ ↦
      ih.bind fun others hothers ↦ ends_pure ?_
    cases chosen with
    | true => exact hothers.cons_cons first
    | false => exact hothers.cons first

/-- With a memo an inquiry ends in nothing that it could not end in without, be the memo that of
another history even: what the memo answers the history might have answered. -/
theorem ends_remembering {property : α → Prop} {inquiry : Inquiry α} (h : inquiry.Ends property)
    (memo : Memo) :
    (inquiry.remembering memo).Ends fun resultAndMemo ↦ property resultAndMemo.1 := by
  induction inquiry generalizing memo with
  | done result => exact h
  | ask query next ih =>
    unfold remembering
    split
    · exact ih _ (h _) memo
    · exact fun answer ↦ ih answer (h answer) _

end DocumentRules.History.Inquiry
