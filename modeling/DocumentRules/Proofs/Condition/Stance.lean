import DocumentRules.Condition.Reduction
import DocumentRules.Condition.Structure

/-!
# What a condition stands at

Whether tokens stand in turn depends only on what sort of symbol each of them is (`Symbol`), and a
reading from left to right has to remember only two things: whether an operand is due, and how many
brackets are open (`Stance`). `checkStructure_eq_ok_iff` says that the structure check accepts
exactly the empty condition and the conditions whose symbols lead from the beginning to a stance at
which nothing is due and no bracket is open (`WellStructured`).

Terms have symbols of the same sorts, so the stance of a sequence of terms can be followed through a
reduction.
-/

set_option autoImplicit false
set_option relaxedAutoImplicit false

namespace DocumentRules.Condition

/-- What the structure of a condition depends on in a token. -/
inductive Symbol where
  | operand
  | connective
  | opening
  | closing
  deriving DecidableEq, Repr

/-- The symbol of a token. A part that could not be read stands in the place of an operand. -/
def Token.symbol : Token → Symbol
  | .comparison _ | .literal _ | .error _ => .operand
  | .connective _ => .connective
  | .opening => .opening
  | .closing => .closing

/-- The symbol of a term. -/
def Term.symbol : Term → Symbol
  | .truth _ | .unresolved => .operand
  | .connective _ => .connective
  | .opening => .opening
  | .closing => .closing

@[simp] theorem Token.symbol_term (answer : Comparison → Bool) (token : Token) :
    (token.term fun statement ↦ .truth (answer statement)).symbol = token.symbol := by
  cases token <;> rfl

/-- Where a reading stands between two symbols, with the number of open brackets. -/
inductive Stance where
  /-- An operand or an opening bracket is due. -/
  | wanting (depth : Nat)
  /-- A connective, a closing bracket or the end is due. -/
  | satisfied (depth : Nat)
  deriving DecidableEq, Repr

namespace Stance

/-- The stance after a symbol, if the symbol stands in turn. -/
def after? : Stance → Symbol → Option Stance
  | wanting depth, .operand => some (satisfied depth)
  | wanting depth, .opening => some (wanting (depth + 1))
  | satisfied depth, .connective => some (wanting depth)
  | satisfied (depth + 1), .closing => some (satisfied depth)
  | _, _ => none

/-- The stance after some symbols, if each of them stands in turn. -/
def through? (stance : Stance) (symbols : List Symbol) : Option Stance :=
  symbols.foldlM after? stance

@[simp] theorem through?_nil (stance : Stance) : stance.through? [] = some stance := rfl

@[simp] theorem through?_cons (stance : Stance) (symbol : Symbol) (symbols : List Symbol) :
    stance.through? (symbol :: symbols) =
      (stance.after? symbol).bind fun next ↦ next.through? symbols :=
  rfl

theorem through?_append (stance : Stance) (front back : List Symbol) :
    stance.through? (front ++ back) =
      (stance.through? front).bind fun next ↦ next.through? back := by
  unfold through?
  rw [List.foldlM_append]
  rfl

end Stance

/-- The symbols lead from the beginning to a stance at which nothing is due and no bracket is
open. -/
def WellStructured (symbols : List Symbol) : Prop :=
  (Stance.wanting 0).through? symbols = some (.satisfied 0)

instance (symbols : List Symbol) : Decidable (WellStructured symbols) :=
  inferInstanceAs (Decidable ((Stance.wanting 0).through? symbols = some (.satisfied 0)))

/-! ### The structure check -/

namespace Reading

/-- The stance of a reading. -/
def stance (reading : Reading) : Stance :=
  if reading.operandDue then .wanting reading.depth else .satisfied reading.depth

/-- An operand is due after an opening bracket. -/
def IsCoherent (reading : Reading) : Prop :=
  reading.afterOpening = true → reading.operandDue = true

theorem isCoherent_initial : initial.IsCoherent := fun _ ↦ rfl

/-- Assumes: a coherent reading. One more token in turn keeps it coherent and brings its stance to
that after the token's symbol. -/
theorem stance_step {reading next : Reading} (hreading : reading.IsCoherent) {position : Nat}
    {token : Token} (h : reading.step position token = .ok next) :
    next.IsCoherent ∧ reading.stance.after? token.symbol = some next.stance := by
  obtain ⟨operandDue, depth, afterOpening⟩ := reading
  cases token with
  | comparison _ | literal _ | error _ | connective _ | opening =>
    cases operandDue <;> simp_all [step, stance, IsCoherent, Token.symbol, Stance.after?]
    all_goals
      subst h
      simp
  | closing =>
    cases depth with
    | zero => simp [step] at h
    | succ depth =>
      cases operandDue <;> cases afterOpening <;>
        simp_all [step, stance, IsCoherent, Token.symbol, Stance.after?]
      subst h
      simp

/-- Assumes: a coherent reading. A token at fault has a symbol out of turn. -/
theorem after?_eq_none_of_step {reading : Reading} (hreading : reading.IsCoherent)
    {position : Nat} {token : Token} {fault : StructureFault}
    (h : reading.step position token = .error fault) :
    reading.stance.after? token.symbol = none := by
  obtain ⟨operandDue, depth, afterOpening⟩ := reading
  cases token with
  | comparison _ | literal _ | error _ | connective _ | opening =>
    cases operandDue <;> simp_all [step, stance, Token.symbol, Stance.after?]
  | closing =>
    cases depth with
    | zero => cases operandDue <;> simp [stance, Token.symbol, Stance.after?]
    | succ depth =>
      cases operandDue <;> cases afterOpening <;>
        simp_all [step, stance, IsCoherent, Token.symbol, Stance.after?]

/-- The verdict at the end is favourable when nothing is due and no bracket is open, or there was
nothing to read. -/
theorem finish_eq_ok_iff (reading : Reading) (length : Nat) :
    reading.finish length = .ok () ↔
      reading.stance = .satisfied 0 ∨ (length = 0 ∧ reading.stance = .wanting 0) := by
  obtain ⟨operandDue, depth, afterOpening⟩ := reading
  by_cases hdepth : depth = 0 <;> by_cases hlength : length = 0 <;> cases operandDue <;>
    simp [finish, stance, hdepth, hlength]

/-- Assumes: a coherent reading. What is left to read is accepted when it leads to a stance at
which nothing is due and no bracket is open, or there is nothing to read at all. -/
theorem check_eq_ok_iff {reading : Reading} (hreading : reading.IsCoherent) (position : Nat)
    (condition : Condition) :
    reading.check position condition = .ok () ↔
      reading.stance.through? (condition.map Token.symbol) = some (.satisfied 0) ∨
        (position = 0 ∧ condition = [] ∧ reading.stance = .wanting 0) := by
  induction condition generalizing reading position with
  | nil => simp [check, finish_eq_ok_iff]
  | cons token rest ih =>
    simp only [check, List.map_cons, Stance.through?_cons]
    cases hstep : reading.step position token with
    | error fault => simp [after?_eq_none_of_step hreading hstep]
    | ok next =>
      obtain ⟨hnext, hafter⟩ := stance_step hreading hstep
      simp [ih hnext, hafter]

end Reading

/-- The structure check accepts the empty condition and the well-structured ones, and no others. -/
theorem checkStructure_eq_ok_iff (condition : Condition) :
    checkStructure condition = .ok () ↔
      condition = [] ∨ WellStructured (condition.map Token.symbol) := by
  have hstance : Reading.initial.stance = .wanting 0 := rfl
  rw [checkStructure, Reading.check_eq_ok_iff Reading.isCoherent_initial, hstance, WellStructured]
  simp [or_comm]

theorem not_wellStructured_nil : ¬ WellStructured [] := by decide

end DocumentRules.Condition
