import DocumentRules.Proofs.Condition.GroupReplacement

/-!
# Expressions with one connective on each level

Where both connectives stand between the same two brackets, the value of a condition depends on the
order in which passes join its operands. An `Expression` has only one of them on each level, and in
the brackets of an operand any other expression, with either connective. Such a condition has its
ordinary value, however many operands a level has and however many brackets are redundant
(`Expression.reduce_tokens_eq_value`).

An expression is written as a `Chain`, each of whose operands settles as its own value, so what is
known of chains settles an expression by induction on how it is built, without a look at passes.
-/

set_option autoImplicit false
set_option relaxedAutoImplicit false

namespace DocumentRules.Condition

mutual

/-- An operand of an expression: a truth value, or another expression in brackets. -/
inductive Factor : Type where
  | literal (value : Bool)
  | bracketed {joint : Connective} (inner : Expression joint)

/-- Operands with one and the same connective between them. -/
inductive Expression : Connective → Type where
  | single {joint : Connective} (operand : Factor) : Expression joint
  | chain {joint : Connective} (operand : Factor) (rest : Expression joint) : Expression joint

end

mutual

/-- How an operand is written. -/
def Factor.tokens : Factor → Condition
  | .literal value => [.literal value]
  | .bracketed inner => .opening :: (inner.tokens ++ [.closing])

/-- How an expression is written. -/
def Expression.tokens {joint : Connective} : Expression joint → Condition
  | .single operand => operand.tokens
  | .chain operand rest => operand.tokens ++ .connective joint :: rest.tokens

end

/-- What a connective makes of any number of truth values: with `and` all of them have to be true,
and with `or` one. -/
def Connective.applyAll : Connective → List Bool → Bool
  | .and, values => values.all id
  | .or, values => values.any id

theorem Connective.applyAll_singleton (joint : Connective) (value : Bool) :
    joint.applyAll [value] = value := by
  cases joint with
  | and => exact Bool.and_true value
  | or => exact Bool.or_false value

theorem Connective.applyAll_cons (joint : Connective) (value : Bool) (others : List Bool) :
    joint.applyAll (value :: others) = joint.apply value (joint.applyAll others) := by
  cases joint <;> rfl

mutual

/-- The value of an operand. -/
def Factor.value : Factor → Bool
  | .literal value => value
  | @Factor.bracketed joint inner => joint.applyAll inner.values

/-- The values of the operands of an expression. -/
def Expression.values {joint : Connective} : Expression joint → List Bool
  | .single operand => [operand.value]
  | .chain operand rest => operand.value :: rest.values

end

/-- The value of an expression. -/
def Expression.value {joint : Connective} (expression : Expression joint) : Bool :=
  joint.applyAll expression.values

mutual

/-- The terms of an operand are an operand with its value. -/
theorem Factor.operand_unanswered :
    ∀ factor : Factor, Operand (unanswered factor.tokens) factor.value
  | .literal value => .truth value
  | .bracketed inner => by
    rw [Factor.tokens, ← List.singleton_append, unanswered_append, unanswered_append]
    exact .group inner.chain_unanswered.settle_eq

/-- The terms of an expression are a chain with its value. -/
theorem Expression.chain_unanswered {joint : Connective} :
    ∀ expression : Expression joint, Chain joint (unanswered expression.tokens) expression.value
  | .single operand => by
    rw [Expression.tokens, Expression.value, Expression.values, Connective.applyAll_singleton]
    exact .last operand.operand_unanswered
  | .chain operand rest => by
    rw [Expression.tokens, unanswered_append, Expression.value, Expression.values,
      Connective.applyAll_cons]
    exact .join operand.operand_unanswered rest.chain_unanswered

end

/-- The tokens of an expression settle as its value, and reduce to it. -/
theorem Expression.reduce_tokens_eq_value {joint : Connective} (expression : Expression joint) :
    settle (unanswered expression.tokens) = [.truth expression.value] ∧
      reduce expression.tokens = expression.value := by
  have hsettle := expression.chain_unanswered.settle_eq
  exact ⟨hsettle, reduceTerms_of_settle hsettle⟩

end DocumentRules.Condition
