import DocumentRules.Condition.Token

/-!
# Structure of a condition

A condition is well structured when it is empty, or a chain of operands joined by connectives, where
an operand is a comparison, a truth value or a chain in brackets. `checkStructure` reads the tokens
once, from left to right, and keeps three things in mind: whether an operand is due, how many
brackets are open, and whether the last token opened one. The first token out of turn is reported
with its position.
-/

set_option autoImplicit false
set_option relaxedAutoImplicit false

namespace DocumentRules.Condition

/-- Why a sequence of tokens is not well structured. Positions count tokens from zero. -/
inductive StructureFault where
  /-- More brackets are closed than are open, or some are left open at the end. -/
  | unbalancedGroups
  /-- The bracket at this position closes a group without content. -/
  | emptyGroup (position : Nat)
  /-- The operand or opening bracket at this position stands where a connective or a closing
  bracket is due. -/
  | unexpectedToken (position : Nat)
  /-- The connective at this position lacks an operand. -/
  | danglingOperator (position : Nat)
  deriving DecidableEq, Repr

/-- What a reading of a condition keeps in mind between two tokens. -/
structure Reading where
  /-- Whether an operand or an opening bracket is due. -/
  operandDue : Bool
  /-- The number of open brackets. -/
  depth : Nat
  /-- Whether the last token opened a bracket. -/
  afterOpening : Bool
  deriving DecidableEq, Repr

/-- The reading before the first token. -/
def Reading.initial : Reading := ⟨true, 0, false⟩

/-- The reading after the token at a position. -/
def Reading.step (reading : Reading) (position : Nat) : Token → Except StructureFault Reading
  | .comparison _ | .literal _ | .error _ =>
    if reading.operandDue then .ok { reading with operandDue := false, afterOpening := false }
    else .error (.unexpectedToken position)
  | .connective _ =>
    if reading.operandDue then .error (.danglingOperator position)
    else .ok { reading with operandDue := true, afterOpening := false }
  | .opening =>
    if reading.operandDue then
      .ok { reading with depth := reading.depth + 1, afterOpening := true }
    else .error (.unexpectedToken position)
  | .closing =>
    if reading.depth = 0 then .error .unbalancedGroups
    else if reading.afterOpening then .error (.emptyGroup position)
    else if reading.operandDue then .error (.danglingOperator (position - 1))
    else .ok { reading with depth := reading.depth - 1, afterOpening := false }

/-- The verdict at the end of `length` tokens. -/
def Reading.finish (reading : Reading) (length : Nat) : Except StructureFault Unit :=
  if reading.depth ≠ 0 then .error .unbalancedGroups
  else if reading.operandDue && length != 0 then .error (.danglingOperator (length - 1))
  else .ok ()

/-- Reads the tokens from a position on to the end. -/
def Reading.check (reading : Reading) (position : Nat) : Condition → Except StructureFault Unit
  | [] => reading.finish position
  | token :: rest =>
    match reading.step position token with
    | .error fault => .error fault
    | .ok next => next.check (position + 1) rest

/-- Whether the tokens of a condition stand in turn, or the first fault. -/
def checkStructure (condition : Condition) : Except StructureFault Unit :=
  Reading.initial.check 0 condition

@[simp] theorem checkStructure_nil : checkStructure [] = .ok () := rfl

end DocumentRules.Condition
