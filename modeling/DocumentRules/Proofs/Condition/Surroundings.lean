import DocumentRules.Proofs.Condition.Chains
import Mathlib.Data.List.Induction

/-!
# What stands around a group

A group stands in a chain, this chain perhaps in the brackets of another group, and so on up to the
whole sequence. `chainsBefore` reads off what precedes the group which connectives of these chains
stand before it, `chainsBehind` off what follows it which stand behind it. When none of the chains
has both connectives, the sequence comes to a function of the value of the group
(`fits_of_leading_of_trailing`), so the group can be replaced by its value
(`settle_group_of_not_isMixed`).
-/

set_option autoImplicit false
set_option relaxedAutoImplicit false

namespace DocumentRules.Condition

/-! ### Chains around a place -/

/-- The connectives of the chains that are open behind one more term, innermost first. -/
def chainsAfter (chains : List (List Connective)) : Term → List (List Connective)
  | .connective joint => chains.modifyHead (joint :: ·)
  | .opening => [] :: chains
  | .closing => chains.tail
  | .truth _ | .unresolved => chains

/-- The connectives of the chains that are open behind some terms, innermost first. -/
def chainsBefore (front : List Term) : List (List Connective) :=
  front.foldl chainsAfter [[]]

/-- The connectives of the chains that are not over before one more term, innermost first. -/
def chainsAhead : Term → List (List Connective) → List (List Connective)
  | .connective joint, chains => chains.modifyHead (joint :: ·)
  | .opening, chains => chains.tail
  | .closing, chains => [] :: chains
  | .truth _, chains | .unresolved, chains => chains

/-- The connectives of the chains that are not over before some terms, innermost first. -/
def chainsBehind (back : List Term) : List (List Connective) :=
  back.foldr chainsAhead [[]]

/-- The connectives of the chains around a place, innermost first. -/
def chainsAround (front back : List Term) : List (List Connective) :=
  List.zipWith (· ++ ·) (chainsBefore front) (chainsBehind back)

/-- Both connectives are among them. -/
def IsMixed (chain : List Connective) : Prop := .and ∈ chain ∧ .or ∈ chain

instance (chain : List Connective) : Decidable (IsMixed chain) :=
  inferInstanceAs (Decidable (.and ∈ chain ∧ .or ∈ chain))

/-- A chain that is not mixed has a single connective, if it has any. -/
theorem exists_forall_eq_of_not_isMixed {chain : List Connective} (h : ¬ IsMixed chain) :
    ∃ joint, ∀ other ∈ chain, other = joint := by
  by_cases hand : .and ∈ chain
  · refine ⟨.and, fun other hother ↦ ?_⟩
    cases other with
    | and => rfl
    | or => exact (h ⟨hand, hother⟩).elim
  · refine ⟨.or, fun other hother ↦ ?_⟩
    cases other with
    | and => exact (hand hother).elim
    | or => rfl

/-! ### What leads to an operand -/

/-- Terms that lead to an operand, with the connectives of the chains open behind them: those of
the innermost chain, and those of the chains around it. -/
inductive Leading : List Term → List Connective → List (List Connective) → Prop where
  | start : Leading [] [] []
  | opening {front : List Term} {chain : List Connective} {outer : List (List Connective)}
      (h : Leading front chain outer) : Leading (front ++ [.opening]) [] (chain :: outer)
  | joined {front operand : List Term} {chain : List Connective} {outer : List (List Connective)}
      {value : Bool} (h : Leading front chain outer) (hoperand : Operand operand value)
      (joint : Connective) :
      Leading (front ++ (operand ++ [.connective joint])) (joint :: chain) outer

/-- Inside a group the terms split at the bracket that opens the group. -/
theorem Leading.exists_opening {front : List Term} {chain next : List Connective}
    {outer : List (List Connective)} (h : Leading front chain (next :: outer)) :
    ∃ before inner, front = before ++ .opening :: inner ∧ Leading before next outer ∧
      (Stance.wanting 0).through? (inner.map Term.symbol) = some (.wanting 0) := by
  generalize hchains : next :: outer = chains at h
  induction h with
  | start => cases hchains
  | @opening front _ _ h _ =>
    obtain ⟨rfl, rfl⟩ := List.cons.inj hchains
    exact ⟨front, [], rfl, h, rfl⟩
  | @joined _ operand _ _ _ _ hoperand joint ih =>
    obtain ⟨before, inner, rfl, hbefore, hinner⟩ := ih hchains
    refine ⟨before, inner ++ (operand ++ [.connective joint]), by simp, hbefore, ?_⟩
    simp [Stance.through?_append, hinner, hoperand.through?_eq, Term.symbol, Stance.after?]

/-- What resolved terms that lead to a stance consist of: terms that lead to an operand, and an
operand behind them if none is due. -/
def LeadsTo (front : List Term) : Stance → Prop
  | .wanting depth => ∃ chain outer, chainsBefore front = chain :: outer ∧ outer.length = depth ∧
      Leading front chain outer
  | .satisfied depth => ∃ chain outer, chainsBefore front = chain :: outer ∧ outer.length = depth ∧
      ∃ before operand value, front = before ++ operand ∧ Operand operand value ∧
        Leading before chain outer

theorem chainsBefore_append_singleton (front : List Term) (term : Term) :
    chainsBefore (front ++ [term]) = chainsAfter (chainsBefore front) term :=
  List.foldl_append

/-- A group that closes is an operand behind what leads to its opening bracket. -/
theorem LeadsTo.closing {front : List Term} (hresolved : IsResolved front) {depth : Nat}
    (h : LeadsTo front (.satisfied (depth + 1))) :
    LeadsTo (front ++ [.closing]) (.satisfied depth) := by
  obtain ⟨chain, outer, heq, hlength, before, operand, value, rfl, hoperand, hleading⟩ := h
  cases outer with
  | nil => cases hlength
  | cons next outer =>
    obtain ⟨before, inner, rfl, hbefore, hinner⟩ := hleading.exists_opening
    have hgroup : IsResolved (inner ++ operand) := by
      simp_all [isResolved_append, isResolved_cons]
    obtain ⟨value, hvalue⟩ := Operand.exists_group hgroup (by
      rw [List.map_append, Stance.through?_append, hinner]
      exact hoperand.through?_eq)
    refine ⟨next, outer, ?_, Nat.succ.inj hlength, before, _, value, by simp, hvalue, hbefore⟩
    rw [chainsBefore_append_singleton, heq]
    rfl

/-- One more term in turn leads on to the stance after it. -/
theorem LeadsTo.append_term {front : List Term} {term : Term} {stance next : Stance}
    (hresolved : IsResolved (front ++ [term])) (h : LeadsTo front stance)
    (hterm : stance.after? term.symbol = some next) : LeadsTo (front ++ [term]) next := by
  have hchains := chainsBefore_append_singleton front term
  cases stance with
  | wanting depth =>
    obtain ⟨chain, outer, heq, rfl, hleading⟩ := h
    rw [heq] at hchains
    cases term with
    | connective _ | closing => cases hterm
    | unresolved => exact (hresolved (by simp)).elim
    | truth value =>
      cases hterm
      exact ⟨chain, outer, hchains, rfl, front, _, value, rfl, .truth value, hleading⟩
    | opening =>
      cases hterm
      exact ⟨[], chain :: outer, hchains, rfl, .opening hleading⟩
  | satisfied depth =>
    cases term with
    | truth _ | opening => cases depth <;> cases hterm
    | unresolved => exact (hresolved (by simp)).elim
    | connective joint =>
      cases hterm
      obtain ⟨chain, outer, heq, hlength, before, operand, value, rfl, hoperand, hleading⟩ := h
      rw [heq] at hchains
      refine ⟨joint :: chain, outer, hchains, hlength, ?_⟩
      rw [List.append_assoc]
      exact .joined hleading hoperand joint
    | closing =>
      cases depth with
      | zero => cases hterm
      | succ depth =>
        cases hterm
        exact h.closing ((isResolved_append front _).mp hresolved).1

/-- Resolved terms in turn lead to the stance behind them. -/
theorem leadsTo_of_through? {front : List Term} (hresolved : IsResolved front) {stance : Stance}
    (h : (Stance.wanting 0).through? (front.map Term.symbol) = some stance) :
    LeadsTo front stance := by
  induction front using List.reverseRecOn generalizing stance with
  | nil =>
    obtain rfl : Stance.wanting 0 = stance := Option.some.inj h
    exact ⟨[], [], rfl, rfl, .start⟩
  | append_singleton front term ih =>
    rw [List.map_append, Stance.through?_append] at h
    obtain ⟨earlier, hearlier, hlast⟩ := Option.bind_eq_some_iff.mp h
    obtain ⟨next, hterm, hnext⟩ := Option.bind_eq_some_iff.mp hlast
    obtain rfl : next = stance := Option.some.inj hnext
    exact (ih ((isResolved_append front _).mp hresolved).1 hearlier).append_term hresolved hterm

/-! ### What goes on from an operand -/

/-- Terms that go on from an operand to the end, with the connectives of the chains that are not
over before them: those of the innermost chain, and those of the chains around it. -/
inductive Trailing : List Term → List Connective → List (List Connective) → Prop where
  | finish : Trailing [] [] []
  | closing {back : List Term} {chain : List Connective} {outer : List (List Connective)}
      (h : Trailing back chain outer) : Trailing (.closing :: back) [] (chain :: outer)
  | joined {operand back : List Term} {chain : List Connective} {outer : List (List Connective)}
      {value : Bool} (h : Trailing back chain outer) (hoperand : Operand operand value)
      (joint : Connective) :
      Trailing (.connective joint :: (operand ++ back)) (joint :: chain) outer

/-- Inside a group the terms split at the bracket that closes the group. -/
theorem Trailing.exists_closing {back : List Term} {chain next : List Connective}
    {outer : List (List Connective)} (h : Trailing back chain (next :: outer)) :
    ∃ inner behind, back = inner ++ .closing :: behind ∧ Trailing behind next outer ∧
      (Stance.satisfied 0).through? (inner.map Term.symbol) = some (.satisfied 0) := by
  generalize hchains : next :: outer = chains at h
  induction h with
  | finish => cases hchains
  | @closing back _ _ h _ =>
    obtain ⟨rfl, rfl⟩ := List.cons.inj hchains
    exact ⟨[], back, rfl, h, rfl⟩
  | @joined operand _ _ _ _ _ hoperand joint ih =>
    obtain ⟨inner, behind, rfl, hbehind, hinner⟩ := ih hchains
    refine ⟨.connective joint :: (operand ++ inner), behind, by simp, hbehind, ?_⟩
    simp [Stance.through?_append, hinner, hoperand.through?_eq, Term.symbol, Stance.after?]

/-- What resolved terms that lead from a stance to the end consist of: terms that go on from an
operand, and an operand in front of them if one is due. -/
def EndsFrom (back : List Term) : Stance → Prop
  | .satisfied depth => ∃ chain outer, chainsBehind back = chain :: outer ∧ outer.length = depth ∧
      Trailing back chain outer
  | .wanting depth => ∃ chain outer, chainsBehind back = chain :: outer ∧ outer.length = depth ∧
      ∃ operand value behind, back = operand ++ behind ∧ Operand operand value ∧
        Trailing behind chain outer

/-- A group that opens is an operand before what follows its closing bracket. -/
theorem EndsFrom.opening {back : List Term} (hresolved : IsResolved back) {depth : Nat}
    (h : EndsFrom back (.wanting (depth + 1))) : EndsFrom (.opening :: back) (.wanting depth) := by
  obtain ⟨chain, outer, heq, hlength, operand, value, behind, rfl, hoperand, htrailing⟩ := h
  cases outer with
  | nil => cases hlength
  | cons next outer =>
    obtain ⟨inner, behind, rfl, hbehind, hinner⟩ := htrailing.exists_closing
    have hgroup : IsResolved (operand ++ inner) := by
      simp_all [isResolved_append, isResolved_cons]
    obtain ⟨value, hvalue⟩ := Operand.exists_group hgroup (by
      rw [List.map_append, Stance.through?_append, hoperand.through?_eq]
      exact hinner)
    exact ⟨next, outer, congrArg List.tail heq, Nat.succ.inj hlength, _, value, behind, by simp,
      hvalue, hbehind⟩

/-- One more term in front leads to where the other terms go on from. -/
theorem EndsFrom.cons_term {back : List Term} {term : Term} {stance next : Stance}
    (hresolved : IsResolved (term :: back)) (h : EndsFrom back next)
    (hterm : stance.after? term.symbol = some next) : EndsFrom (term :: back) stance := by
  cases stance with
  | wanting depth =>
    cases term with
    | connective _ | closing => cases hterm
    | unresolved => exact (hresolved List.mem_cons_self).elim
    | truth value =>
      cases hterm
      obtain ⟨chain, outer, heq, hlength, htrailing⟩ := h
      exact ⟨chain, outer, heq, hlength, _, value, back, rfl, .truth value, htrailing⟩
    | opening =>
      cases hterm
      exact h.opening ((isResolved_cons _ back).mp hresolved).2
  | satisfied depth =>
    cases term with
    | truth _ | opening => cases depth <;> cases hterm
    | unresolved => exact (hresolved List.mem_cons_self).elim
    | connective joint =>
      cases hterm
      obtain ⟨chain, outer, heq, hlength, operand, value, behind, rfl, hoperand, htrailing⟩ := h
      exact ⟨joint :: chain, outer, congrArg (List.modifyHead (joint :: ·)) heq, hlength,
        .joined htrailing hoperand joint⟩
    | closing =>
      cases depth with
      | zero => cases hterm
      | succ depth =>
        cases hterm
        obtain ⟨chain, outer, heq, rfl, htrailing⟩ := h
        exact ⟨[], chain :: outer, congrArg ([] :: ·) heq, rfl, .closing htrailing⟩

/-- Resolved terms in turn go on from the stance in front of them to the end. -/
theorem endsFrom_of_through? {back : List Term} (hresolved : IsResolved back) {stance : Stance}
    (h : stance.through? (back.map Term.symbol) = some (.satisfied 0)) : EndsFrom back stance := by
  induction back generalizing stance with
  | nil =>
    obtain rfl : stance = .satisfied 0 := Option.some.inj h
    exact ⟨[], [], rfl, rfl, .finish⟩
  | cons term back ih =>
    rw [List.map_cons, Stance.through?_cons] at h
    obtain ⟨next, hterm, hnext⟩ := Option.bind_eq_some_iff.mp h
    exact (ih ((isResolved_cons term back).mp hresolved).2 hnext).cons_term hresolved hterm

/-! ### A place for a chain -/

/-- Between the terms, all that matters of a chain with the connective is its value. -/
def Fits (joint : Connective) (front back : List Term) : Prop :=
  ∃ outcome : Bool → Bool, ∀ terms value, Chain joint terms value →
    settle (front ++ terms ++ back) = [.truth (outcome value)]

namespace Fits

variable {joint : Connective} {front back operand : List Term} {value : Bool}

theorem nil : Fits joint [] [] :=
  ⟨id, fun terms value h ↦ by rw [List.nil_append, List.append_nil]; exact h.settle_eq⟩

theorem before (h : Fits joint front back) (hoperand : Operand operand value) :
    Fits joint (front ++ (operand ++ [.connective joint])) back := by
  obtain ⟨outcome, houtcome⟩ := h
  refine ⟨fun other ↦ outcome (joint.apply value other), fun terms other hchain ↦ ?_⟩
  rw [← houtcome _ _ (.join hoperand hchain)]
  simp

theorem behind (h : Fits joint front back) (hoperand : Operand operand value) :
    Fits joint front (.connective joint :: (operand ++ back)) := by
  obtain ⟨outcome, houtcome⟩ := h
  refine ⟨fun other ↦ outcome (joint.apply other value), fun terms other hchain ↦ ?_⟩
  rw [← houtcome _ _ (hchain.append_operand hoperand)]
  simp

/-- A chain in brackets is an operand of the chain around it. -/
theorem inside (h : Fits joint front back) (inner : Connective) :
    Fits inner (front ++ [.opening]) (.closing :: back) := by
  obtain ⟨outcome, houtcome⟩ := h
  refine ⟨outcome, fun terms value hchain ↦ ?_⟩
  rw [← houtcome _ _ (.last (.group hchain.settle_eq))]
  simp

end Fits

/-- Assumes: as many open chains before a place as behind it, the innermost with the given
connective alone, and none of the others mixed. Then all that matters of a chain with this
connective at the place is its value. -/
theorem fits_of_leading_of_trailing {front back : List Term} {chain chain' : List Connective}
    {outer outer' : List (List Connective)} (hfront : Leading front chain outer)
    (hback : Trailing back chain' outer') (hlength : outer.length = outer'.length)
    {joint : Connective} (hchain : ∀ other ∈ chain ++ chain', other = joint)
    (houter : ∀ around ∈ List.zipWith (· ++ ·) outer outer', ¬ IsMixed around) :
    Fits joint front back := by
  induction hfront generalizing back chain' outer' joint with
  | start =>
    induction hback with
    | finish => exact .nil
    | closing => cases hlength
    | joined _ hoperand other ih =>
      obtain rfl : other = joint := hchain other (by simp)
      exact (ih hlength (fun another h ↦ hchain another (by simp_all)) houter).behind hoperand
  | opening hfront ih =>
    induction hback with
    | finish => cases hlength
    | closing hback =>
      obtain ⟨around, haround⟩ := exists_forall_eq_of_not_isMixed (houter _ List.mem_cons_self)
      exact (ih hback (Nat.succ.inj hlength) haround fun chains h ↦
        houter chains (List.mem_cons_of_mem _ h)).inside joint
    | joined _ hoperand other ih =>
      obtain rfl : other = joint := hchain other (by simp)
      exact (ih hlength (fun another h ↦ hchain another (by simp_all)) houter).behind hoperand
  | joined _ hoperand other ih =>
    obtain rfl : other = joint := hchain other (by simp)
    exact (ih hback hlength (fun another h ↦ hchain another (by simp_all)) houter).before hoperand

/-- Assumes: resolved terms that lead to an operand and on from it to the end, and no mixed chain
around the operand. Then a group settles between them as its value does. -/
theorem settle_group_of_not_isMixed {front body back : List Term} (hfront : IsResolved front)
    (hback : IsResolved back) {depth : Nat}
    (hleads : (Stance.wanting 0).through? (front.map Term.symbol) = some (.wanting depth))
    (hends : (Stance.satisfied depth).through? (back.map Term.symbol) = some (.satisfied 0))
    (hunmixed : ∀ chain ∈ chainsAround front back, ¬ IsMixed chain) {value : Bool}
    (h : settle body = [.truth value]) :
    settle (front ++ .opening :: (body ++ .closing :: back)) =
      settle (front ++ .truth value :: back) := by
  obtain ⟨chain, outer, hbefore, hlength, hleading⟩ := leadsTo_of_through? hfront hleads
  obtain ⟨chain', outer', hbehind, hlength', htrailing⟩ := endsFrom_of_through? hback hends
  rw [chainsAround, hbefore, hbehind, List.zipWith_cons_cons] at hunmixed
  obtain ⟨joint, hjoint⟩ := exists_forall_eq_of_not_isMixed (hunmixed _ List.mem_cons_self)
  obtain ⟨outcome, houtcome⟩ := fits_of_leading_of_trailing hleading htrailing
    (hlength.trans hlength'.symm) hjoint fun around h ↦ hunmixed around (List.mem_cons_of_mem _ h)
  have hgroup := houtcome _ value (.last (.group h))
  have hvalue := houtcome _ value (.last (.truth value))
  rw [← hvalue] at hgroup
  simpa using hgroup

end DocumentRules.Condition
