import DocumentRules.Proofs.Condition.Stance

/-!
# Matching brackets

The closing bracket that matches an opening one is the first behind it at which all brackets opened
in between are closed again (`IsMatched`). Symbols that stand in turn do so inside further brackets
as well (`through?_raise`), and matched symbols that stand in turn inside further brackets do so
without them (`through?_of_raise`). So what stands between a bracket and its match in a
well-structured sequence is well structured, and what stands around the two leads to an operand and
on from one (`wellStructured_group`).
-/

set_option autoImplicit false
set_option relaxedAutoImplicit false

namespace DocumentRules.Condition

/-- The number of open brackets after a symbol, unless the symbol closes a bracket where none is
open. -/
def Symbol.depthAfter? : Nat → Symbol → Option Nat
  | depth, .opening => some (depth + 1)
  | depth + 1, .closing => some depth
  | 0, .closing => none
  | depth, _ => some depth

/-- The brackets among the symbols match each other. -/
def IsMatched (symbols : List Symbol) : Prop :=
  symbols.foldlM Symbol.depthAfter? 0 = some 0

instance (symbols : List Symbol) : Decidable (IsMatched symbols) :=
  inferInstanceAs (Decidable (symbols.foldlM Symbol.depthAfter? 0 = some 0))

namespace Stance

/-- The number of open brackets. -/
def depth : Stance → Nat
  | wanting depth | satisfied depth => depth

/-- The stance inside further brackets. -/
def raise (levels : Nat) : Stance → Stance
  | wanting depth => wanting (depth + levels)
  | satisfied depth => satisfied (depth + levels)

@[simp] theorem raise_wanting (levels depth : Nat) :
    (wanting depth).raise levels = wanting (depth + levels) := rfl

@[simp] theorem raise_satisfied (levels depth : Nat) :
    (satisfied depth).raise levels = satisfied (depth + levels) := rfl

theorem after?_raise {stance next : Stance} {symbol : Symbol} (h : stance.after? symbol = some next)
    (levels : Nat) : (stance.raise levels).after? symbol = some (next.raise levels) := by
  cases stance with
  | wanting depth =>
    cases symbol <;> simp only [after?, Option.some.injEq, reduceCtorEq] at h <;> subst h
    · rfl
    · simp only [raise, after?, Nat.add_right_comm]
  | satisfied depth =>
    cases symbol <;> cases depth <;>
      simp only [after?, Option.some.injEq, reduceCtorEq] at h <;> subst h
    · rfl
    · rfl
    · simp only [raise, Nat.add_right_comm, after?]

/-- Symbols that stand in turn do so inside further brackets. -/
theorem through?_raise {stance last : Stance} {symbols : List Symbol}
    (h : stance.through? symbols = some last) (levels : Nat) :
    (stance.raise levels).through? symbols = some (last.raise levels) := by
  induction symbols generalizing stance with
  | nil =>
    obtain rfl : stance = last := Option.some.inj h
    rfl
  | cons symbol rest ih =>
    rw [through?_cons] at h ⊢
    obtain ⟨next, hnext, hrest⟩ := Option.bind_eq_some_iff.mp h
    rw [after?_raise hnext]
    exact ih hrest

/-- Assumes: a symbol that closes none of the further brackets. It stands in turn without them. -/
theorem after?_of_raise {stance next : Stance} {symbol : Symbol} {levels count : Nat}
    (h : (stance.raise levels).after? symbol = some next)
    (hcount : symbol.depthAfter? stance.depth = some count) :
    ∃ inner, stance.after? symbol = some inner ∧ next = inner.raise levels ∧
      inner.depth = count := by
  cases stance with
  | wanting depth =>
    cases symbol <;> simp only [raise, after?, Option.some.injEq, reduceCtorEq] at h <;> subst h
    · exact ⟨satisfied depth, rfl, rfl, Option.some.inj hcount⟩
    · exact ⟨wanting (depth + 1), rfl, by simp only [raise, Nat.add_right_comm],
        Option.some.inj hcount⟩
  | satisfied depth =>
    cases symbol with
    | operand | opening => cases h
    | connective => exact ⟨wanting depth, rfl, (Option.some.inj h).symm, Option.some.inj hcount⟩
    | closing =>
      cases depth with
      | zero => cases hcount
      | succ depth =>
        rw [raise_satisfied, Nat.add_right_comm] at h
        exact ⟨satisfied depth, rfl, (Option.some.inj h).symm, Option.some.inj hcount⟩

/-- Assumes: symbols that close none of the further brackets. They stand in turn without them. -/
theorem through?_of_raise {stance last : Stance} {symbols : List Symbol} {levels count : Nat}
    (h : (stance.raise levels).through? symbols = some last)
    (hcount : symbols.foldlM Symbol.depthAfter? stance.depth = some count) :
    ∃ inner, stance.through? symbols = some inner ∧ last = inner.raise levels ∧
      inner.depth = count := by
  induction symbols generalizing stance with
  | nil => exact ⟨stance, rfl, (Option.some.inj h).symm, Option.some.inj hcount⟩
  | cons symbol rest ih =>
    rw [through?_cons] at h
    obtain ⟨next, hnext, hrest⟩ := Option.bind_eq_some_iff.mp h
    rw [List.foldlM_cons] at hcount
    obtain ⟨between, hbetween, hlater⟩ := Option.bind_eq_some_iff.mp hcount
    obtain ⟨inner, hinner, rfl, rfl⟩ := after?_of_raise hnext hbetween
    rw [through?_cons, hinner]
    exact ih hrest hlater

end Stance

/-- Well-structured symbols in brackets are well structured. -/
theorem wellStructured_bracketed {symbols : List Symbol} (h : WellStructured symbols) :
    WellStructured (.opening :: (symbols ++ [.closing])) := by
  have hraised := Stance.through?_raise h 1
  unfold WellStructured
  rw [Stance.through?_cons, Stance.after?, Option.bind_some, Stance.through?_append]
  simp only [Stance.raise, Nat.zero_add] at hraised ⊢
  rw [hraised]
  rfl

/-- Assumes: a well-structured sequence and a bracket in it with its match. What stands between the
two is well structured, and the two stand in the place of an operand. -/
theorem wellStructured_group {front body back : List Symbol}
    (h : WellStructured (front ++ .opening :: (body ++ .closing :: back)))
    (hbody : IsMatched body) :
    ∃ depth, (Stance.wanting 0).through? front = some (.wanting depth) ∧ WellStructured body ∧
      (Stance.satisfied depth).through? back = some (.satisfied 0) := by
  rw [WellStructured, Stance.through?_append] at h
  obtain ⟨stance, hfront, hopening⟩ := Option.bind_eq_some_iff.mp h
  cases stance with
  | satisfied depth => cases hopening
  | wanting depth =>
    rw [Stance.through?_cons, Stance.after?, Option.bind_some, Stance.through?_append] at hopening
    obtain ⟨last, hlast, hclosing⟩ := Option.bind_eq_some_iff.mp hopening
    have hraised : ((Stance.wanting 0).raise (depth + 1)).through? body = some last := by
      rwa [Stance.raise_wanting, Nat.zero_add]
    obtain ⟨inner, hinner, rfl, hdepth⟩ := Stance.through?_of_raise hraised hbody
    cases inner with
    | wanting count => cases hclosing
    | satisfied count =>
      obtain rfl : count = 0 := hdepth
      rw [Stance.through?_cons, Stance.raise_satisfied, Nat.zero_add, Stance.after?] at hclosing
      exact ⟨depth, hfront, hinner, hclosing⟩

end DocumentRules.Condition
