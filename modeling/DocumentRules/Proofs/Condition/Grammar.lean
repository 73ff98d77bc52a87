import DocumentRules.Proofs.Condition.Stance

/-!
# The grammar of conditions

A condition that is not empty is an expression: an operand, or an expression, a connective and an
operand, where an operand is a comparison, a truth value or an expression in brackets (`Derives`).
The structure check knows nothing of this grammar and counts open brackets instead. `IsPartial`
links the two. It says which parts of a derivation a reading has seen when it has come to a stance:
something begun in front of each open bracket, and behind the last one an expression if no operand
is due there. Each token in turn keeps this (`IsPartial.append_token`), so what a reading accepts
is an expression (`wellStructured_iff_derives`).
-/

set_option autoImplicit false
set_option relaxedAutoImplicit false

namespace DocumentRules.Condition

/-- What the grammar of conditions derives. -/
inductive Nonterminal where
  | expression
  | operand

/-- The grammar of conditions: an expression is an operand, or an expression, a connective and an
operand, and an operand is a comparison, a truth value or an expression in brackets. -/
inductive Derives : Nonterminal → Condition → Prop where
  | single {tokens : Condition} (h : Derives .operand tokens) : Derives .expression tokens
  | joined {front back : Condition} (hfront : Derives .expression front) (joint : Connective)
      (hback : Derives .operand back) : Derives .expression (front ++ .connective joint :: back)
  | comparison (statement : Comparison) : Derives .operand [.comparison statement]
  | literal (truth : Bool) : Derives .operand [.literal truth]
  | group {body : Condition} (h : Derives .expression body) :
      Derives .operand (.opening :: (body ++ [.closing]))

/-- What the grammar derives leads from where an operand is due to where none is, inside any
brackets. -/
theorem Derives.through?_eq {goal : Nonterminal} {tokens : Condition} (h : Derives goal tokens)
    (depth : Nat) :
    (Stance.wanting depth).through? (tokens.map Token.symbol) = some (.satisfied depth) := by
  induction h generalizing depth with
  | single _ ih => exact ih depth
  | joined _ joint _ ihfront ihback =>
    rw [List.map_append, Stance.through?_append, ihfront depth]
    exact ihback depth
  | comparison statement => rfl
  | literal truth => rfl
  | group _ ih =>
    rw [List.map_cons, Stance.through?_cons, List.map_append, Token.symbol, Stance.after?,
      Option.bind_some, Stance.through?_append, ih (depth + 1)]
    rfl

/-! ### What a reading has seen -/

/-- What may precede an operand on the level of a bracket: nothing, or an expression and a
connective. -/
inductive IsBegun : Condition → Prop where
  | nothing : IsBegun []
  | joined {front : Condition} (h : Derives .expression front) (joint : Connective) :
      IsBegun (front ++ [.connective joint])

/-- An operand completes what is begun. -/
theorem IsBegun.append_operand {front operand : Condition} (h : IsBegun front)
    (hoperand : Derives .operand operand) : Derives .expression (front ++ operand) := by
  cases h with
  | nothing => exact .single hoperand
  | joined h joint =>
    rw [List.append_assoc]
    exact .joined h joint hoperand

/-- The parts of a derivation that the tokens up to a stance are made of: something begun in front
of each open bracket, and behind the last one something begun if an operand is due, and an
expression otherwise. -/
inductive IsPartial : Stance → Condition → Prop where
  | begun {front : Condition} (h : IsBegun front) : IsPartial (.wanting 0) front
  | complete {front : Condition} (h : Derives .expression front) : IsPartial (.satisfied 0) front
  | begunInside {depth : Nat} {outer front : Condition} (houter : IsPartial (.wanting depth) outer)
      (h : IsBegun front) : IsPartial (.wanting (depth + 1)) (outer ++ .opening :: front)
  | completeInside {depth : Nat} {outer front : Condition}
      (houter : IsPartial (.wanting depth) outer) (h : Derives .expression front) :
      IsPartial (.satisfied (depth + 1)) (outer ++ .opening :: front)

namespace IsPartial

variable {front : Condition} {depth : Nat}

theorem append_operand {operand : Condition} (h : IsPartial (.wanting depth) front)
    (hoperand : Derives .operand operand) : IsPartial (.satisfied depth) (front ++ operand) := by
  cases h with
  | begun h => exact .complete (h.append_operand hoperand)
  | begunInside houter h =>
    rw [List.append_assoc]
    exact .completeInside houter (h.append_operand hoperand)

theorem append_connective (h : IsPartial (.satisfied depth) front) (joint : Connective) :
    IsPartial (.wanting depth) (front ++ [.connective joint]) := by
  cases h with
  | complete h => exact .begun (.joined h joint)
  | completeInside houter h =>
    rw [List.append_assoc]
    exact .begunInside houter (.joined h joint)

theorem append_opening (h : IsPartial (.wanting depth) front) :
    IsPartial (.wanting (depth + 1)) (front ++ [.opening]) :=
  .begunInside h .nothing

/-- A group that closes is an operand behind what stands in front of its opening bracket. -/
theorem append_closing (h : IsPartial (.satisfied (depth + 1)) front) :
    IsPartial (.satisfied depth) (front ++ [.closing]) := by
  cases h with
  | completeInside houter h =>
    rw [List.append_assoc]
    exact houter.append_operand (.group h)

/-- Each readable token in turn adds to the parts of a derivation. -/
theorem append_token {stance next : Stance} {token : Token} (h : IsPartial stance front)
    (htoken : stance.after? token.symbol = some next) (hreadable : token.isError = false) :
    IsPartial next (front ++ [token]) := by
  cases stance with
  | wanting depth =>
    cases token with
    | comparison statement =>
      obtain rfl := Option.some.inj htoken
      exact h.append_operand (.comparison statement)
    | literal truth =>
      obtain rfl := Option.some.inj htoken
      exact h.append_operand (.literal truth)
    | opening =>
      obtain rfl := Option.some.inj htoken
      exact h.append_opening
    | error _ => cases hreadable
    | connective _ | closing => cases htoken
  | satisfied depth =>
    cases token with
    | connective joint =>
      obtain rfl := Option.some.inj htoken
      exact h.append_connective joint
    | closing =>
      cases depth with
      | zero => cases htoken
      | succ depth =>
        obtain rfl := Option.some.inj htoken
        exact h.append_closing
    | comparison _ | literal _ | error _ | opening => cases htoken

/-- Readable tokens in turn add to the parts of a derivation. -/
theorem append {stance last : Stance} {back : Condition} (h : IsPartial stance front)
    (hback : stance.through? (back.map Token.symbol) = some last)
    (hreadable : back.hasError = false) : IsPartial last (front ++ back) := by
  induction back generalizing front stance with
  | nil =>
    obtain rfl := Option.some.inj hback
    rwa [List.append_nil]
  | cons token rest ih =>
    rw [List.map_cons, Stance.through?_cons] at hback
    obtain ⟨next, hnext, hrest⟩ := Option.bind_eq_some_iff.mp hback
    obtain ⟨htoken, hlater⟩ := Bool.or_eq_false_iff.mp hreadable
    rw [← List.singleton_append, ← List.append_assoc]
    exact ih (h.append_token hnext htoken) hrest hlater

end IsPartial

/-- Assumes: a condition without error tokens. Its symbols are well structured exactly when the
grammar derives it. -/
theorem wellStructured_iff_derives {condition : Condition}
    (hreadable : condition.hasError = false) :
    WellStructured (condition.map Token.symbol) ↔ Derives .expression condition := by
  constructor
  · intro h
    cases (IsPartial.begun .nothing).append h hreadable with
    | complete h => exact h
  · exact fun h ↦ h.through?_eq 0

end DocumentRules.Condition
