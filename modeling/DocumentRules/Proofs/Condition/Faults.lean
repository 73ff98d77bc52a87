import DocumentRules.Proofs.Condition.Grammar
import Mathlib.Data.List.Basic

/-!
# What a structural fault points at

The structure check stops at the first token out of turn, or at the end, and works out the position
that it reports from where it stops: that position, the one before it, or the last. What it may say
of the tokens there hangs on what it remembers of those in front (`Reading.Describes`), which one
token after the other keeps (`Describes.step`), and so every fault says what is found at its
position (`StructureFault.PointsAt`).

The check stops as early as it can. Whatever it has read up to then can be completed to a condition
that the grammar derives (`IsPartial.exists_derives`), and with the token at which it stops no
continuation is one (`StopsAt.not_derives`).
-/

set_option autoImplicit false
set_option relaxedAutoImplicit false

namespace DocumentRules.Condition

/-! ### Where a reading stops -/

/-- Each of some tokens stands in turn, and this is the reading after them. -/
inductive Reads : Condition → Reading → Prop where
  | nothing : Reads [] .initial
  | token {front : Condition} {reading next : Reading} {token : Token} (h : Reads front reading)
      (hstep : reading.step front.length token = .ok next) : Reads (front ++ [token]) next

/-- The structure check reads some tokens and finds fault with the one that follows them. -/
def StopsAt (front : Condition) (token : Token) (fault : StructureFault) : Prop :=
  ∃ reading, Reads front reading ∧ reading.step front.length token = .error fault

/-- The structure check reads all tokens of a condition and finds fault with its end. -/
def StopsBehind (condition : Condition) (fault : StructureFault) : Prop :=
  ∃ reading, Reads condition reading ∧ reading.finish condition.length = .error fault

section Stops

variable {front back : Condition} {reading : Reading} {token : Token} {fault : StructureFault}

/-- The structure check goes on from the reading of what stands in front. -/
theorem Reads.checkStructure_append (h : Reads front reading) (back : Condition) :
    checkStructure (front ++ back) = reading.check front.length back := by
  induction h generalizing back with
  | nothing => rfl
  | token h hstep ih =>
    rw [List.append_assoc, ih, List.singleton_append, Reading.check, hstep, List.length_append]
    rfl

/-- A check that finds fault stops at a token or behind the last one. -/
theorem Reads.exists_stopsAt_or_stopsBehind (h : Reads front reading)
    (hcheck : reading.check front.length back = .error fault) :
    (∃ middle token rest, back = middle ++ token :: rest ∧ StopsAt (front ++ middle) token fault) ∨
      StopsBehind (front ++ back) fault := by
  induction back generalizing front reading with
  | nil =>
    rw [List.append_nil]
    exact .inr ⟨reading, h, hcheck⟩
  | cons token rest ih =>
    unfold Reading.check at hcheck
    cases hstep : reading.step front.length token with
    | error other =>
      rw [hstep] at hcheck
      obtain rfl := Except.error.inj hcheck
      rw [← List.append_nil front] at h hstep
      exact .inl ⟨[], token, rest, rfl, reading, h, hstep⟩
    | ok next =>
      rw [hstep] at hcheck
      have hlength : (front ++ [token]).length = front.length + 1 := List.length_append
      rcases ih (h.token hstep) (by rwa [hlength]) with ⟨middle, last, behind, rfl, hstops⟩ | hend
      · rw [List.append_assoc] at hstops
        exact .inl ⟨token :: middle, last, behind, rfl, hstops⟩
      · rw [List.append_assoc] at hend
        exact .inr hend

/-- Whatever follows the token at which the check stops, the fault is the same. -/
theorem StopsAt.checkStructure_eq (h : StopsAt front token fault) (continuation : Condition) :
    checkStructure (front ++ token :: continuation) = .error fault := by
  obtain ⟨reading, hreads, hstep⟩ := h
  rw [hreads.checkStructure_append, Reading.check, hstep]

end Stops

/-- The ways in which a token at a position is out of turn after a reading. -/
inductive Reading.Refuses (reading : Reading) (position : Nat) : Token → StructureFault → Prop where
  | operand {token : Token} (hdue : reading.operandDue = false)
      (htoken : token.symbol = .operand ∨ token = .opening) :
      Refuses reading position token (.unexpectedToken position)
  | connective (joint : Connective) (hdue : reading.operandDue = true) :
      Refuses reading position (.connective joint) (.danglingOperator position)
  | unopened (hdepth : reading.depth = 0) : Refuses reading position .closing .unbalancedGroups
  | empty (hafter : reading.afterOpening = true) :
      Refuses reading position .closing (.emptyGroup position)
  | unfinished (hdepth : reading.depth ≠ 0) (hafter : reading.afterOpening = false)
      (hdue : reading.operandDue = true) :
      Refuses reading position .closing (.danglingOperator (position - 1))

theorem Reading.refuses_of_step {reading : Reading} {position : Nat} {token : Token}
    {fault : StructureFault} (h : reading.step position token = .error fault) :
    reading.Refuses position token fault := by
  cases token with
  | comparison _ | literal _ | error _ | opening =>
    simp only [step] at h
    split at h
    · cases h
    · rename_i hdue
      obtain rfl := Except.error.inj h
      exact .operand (Bool.eq_false_iff.mpr hdue) (by simp [Token.symbol])
  | connective joint =>
    simp only [step] at h
    split at h
    · rename_i hdue
      obtain rfl := Except.error.inj h
      exact .connective joint hdue
    · cases h
  | closing =>
    simp only [step] at h
    split at h
    · rename_i hdepth
      obtain rfl := Except.error.inj h
      exact .unopened hdepth
    rename_i hdepth
    split at h
    · rename_i hafter
      obtain rfl := Except.error.inj h
      exact .empty hafter
    rename_i hafter
    split at h
    · rename_i hdue
      obtain rfl := Except.error.inj h
      exact .unfinished hdepth (Bool.eq_false_iff.mpr hafter) hdue
    · cases h

/-- The ways in which the end is out of turn after a reading of `length` tokens. -/
inductive Reading.RefusesEnd (reading : Reading) (length : Nat) : StructureFault → Prop where
  | unclosed (hdepth : reading.depth ≠ 0) : RefusesEnd reading length .unbalancedGroups
  | unfinished (hdepth : reading.depth = 0) (hdue : reading.operandDue = true)
      (hlength : length ≠ 0) : RefusesEnd reading length (.danglingOperator (length - 1))

theorem Reading.refusesEnd_of_finish {reading : Reading} {length : Nat} {fault : StructureFault}
    (h : reading.finish length = .error fault) : reading.RefusesEnd length fault := by
  unfold finish at h
  split at h
  · rename_i hdepth
    obtain rfl := Except.error.inj h
    exact .unclosed hdepth
  rename_i hdepth
  split at h
  · rename_i hdue
    obtain rfl := Except.error.inj h
    rw [Bool.and_eq_true, bne_iff_ne] at hdue
    exact .unfinished (Decidable.of_not_not hdepth) hdue.1 hdue.2
  · cases h

/-! ### What a reading remembers -/

/-- What a reading remembers of some tokens: how many more brackets they open than they close, and
what sort of token the last one is. -/
structure Reading.Describes (reading : Reading) (front : Condition) : Prop where
  count_eq : front.count .opening = front.count .closing + reading.depth
  operandDue_iff : reading.operandDue = true ↔
    ∀ last ∈ front.getLast?, last.symbol = .connective ∨ last = .opening
  afterOpening_iff : reading.afterOpening = true ↔ front.getLast? = some .opening
  depth_ne_zero : reading.afterOpening = true → reading.depth ≠ 0

namespace Reading.Describes

variable {front : Condition} {reading next : Reading} {token : Token} {fault : StructureFault}

theorem initial : Reading.initial.Describes [] where
  count_eq := rfl
  operandDue_iff := by simp [Reading.initial]
  afterOpening_iff := by simp [Reading.initial]
  depth_ne_zero := by simp [Reading.initial]

/-- The reading after one more token describes the tokens with this one. -/
theorem step {position : Nat} (h : reading.Describes front)
    (hstep : reading.step position token = .ok next) : next.Describes (front ++ [token]) := by
  have hcount := h.count_eq
  cases token with
  | comparison _ | literal _ | error _ =>
    simp only [Reading.step] at hstep
    split at hstep
    · obtain rfl := Except.ok.inj hstep
      constructor <;> simp [List.count_append, Token.symbol, hcount]
    · cases hstep
  | connective joint =>
    simp only [Reading.step] at hstep
    split at hstep
    · cases hstep
    · obtain rfl := Except.ok.inj hstep
      constructor <;> simp [List.count_append, Token.symbol, hcount]
  | opening =>
    simp only [Reading.step] at hstep
    split at hstep
    · rename_i hdue
      obtain rfl := Except.ok.inj hstep
      constructor <;> simp [List.count_append, hcount, hdue, Nat.add_assoc]
    · cases hstep
  | closing =>
    simp only [Reading.step] at hstep
    split at hstep
    · cases hstep
    rename_i hdepth
    split at hstep
    · cases hstep
    split at hstep
    · cases hstep
    rename_i hdue
    obtain rfl := Except.ok.inj hstep
    constructor <;> simp [List.count_append, Token.symbol, hcount, hdue]
    omega

end Reading.Describes

theorem Reads.describes {front : Condition} {reading : Reading} (h : Reads front reading) :
    reading.Describes front := by
  induction h with
  | nothing => exact .initial
  | token _ hstep ih => exact ih.step hstep

/-! ### What a fault says -/

/-- What a fault says of the condition in which it is found. An operand is meant by its symbol,
which a part that could not be read has too. -/
def StructureFault.PointsAt (condition : Condition) : StructureFault → Prop
  | .unbalancedGroups =>
    (∃ front, front <+: condition ∧ front.count .opening < front.count .closing) ∨
      condition.count .closing < condition.count .opening
  | .emptyGroup position =>
    ∃ before, before + 1 = position ∧ condition[before]? = some .opening ∧
      condition[position]? = some .closing
  | .unexpectedToken position =>
    ∃ before last token, before + 1 = position ∧
      condition[before]? = some last ∧ (last.symbol = .operand ∨ last = .closing) ∧
      condition[position]? = some token ∧ (token.symbol = .operand ∨ token = .opening)
  | .danglingOperator position => ∃ joint, condition[position]? = some (.connective joint)

section PointsAt

variable {front rest : Condition} {reading : Reading} {token last : Token} {fault : StructureFault}

theorem getElem?_behind (front : Condition) (token : Token) (rest : Condition) :
    (front ++ token :: rest)[front.length]? = some token := by
  simp

theorem getElem?_before (front : Condition) (last token : Token) (rest : Condition) :
    (front ++ [last] ++ token :: rest)[front.length]? = some last := by
  simp

namespace Reading.Describes

/-- An operand or a closing bracket comes last where no operand is due. -/
theorem exists_last_of_not_due (h : reading.Describes front) (hdue : reading.operandDue = false) :
    ∃ inner last, front = inner ++ [last] ∧ (last.symbol = .operand ∨ last = .closing) := by
  rcases front.eq_nil_or_concat' with rfl | ⟨inner, last, rfl⟩
  · rw [h.operandDue_iff.mpr nofun] at hdue
    cases hdue
  refine ⟨inner, last, rfl, ?_⟩
  cases last with
  | comparison _ | literal _ | error _ => exact .inl rfl
  | closing => exact .inr rfl
  | connective _ | opening =>
    rw [h.operandDue_iff.mpr (by simp [Token.symbol])] at hdue
    cases hdue

theorem ne_nil_of_depth (h : reading.Describes front) (hdepth : reading.depth ≠ 0) :
    front ≠ [] := by
  rintro rfl
  have hcount := h.count_eq
  simp only [List.count_nil, Nat.zero_add] at hcount
  exact hdepth hcount.symm

/-- A connective comes last where an operand is due, unless there is nothing or an opening
bracket. -/
theorem exists_connective_of_due (h : reading.Describes front) (hdue : reading.operandDue = true)
    (hafter : reading.afterOpening = false) (hfront : front ≠ []) :
    ∃ inner joint, front = inner ++ [.connective joint] := by
  obtain ⟨inner, last, rfl⟩ := front.eq_nil_or_concat'.resolve_left hfront
  have hlast : (inner ++ [last]).getLast? = some last := List.getLast?_concat
  rcases h.operandDue_iff.mp hdue last hlast with hconnective | rfl
  · cases last with
    | connective joint => exact ⟨inner, joint, rfl⟩
    | comparison _ | literal _ | error _ | opening | closing => cases hconnective
  · rw [h.afterOpening_iff.mpr hlast] at hafter
    cases hafter

/-- A token that is refused makes the fault say what is found at its position. -/
theorem pointsAt_of_refuses (h : reading.Describes front)
    (hrefuses : reading.Refuses front.length token fault) (rest : Condition) :
    fault.PointsAt (front ++ token :: rest) := by
  have htoken := getElem?_behind front token rest
  cases hrefuses with
  | operand hdue hsymbol =>
    obtain ⟨inner, last, rfl, hlast⟩ := h.exists_last_of_not_due hdue
    exact ⟨inner.length, last, token, by simp, getElem?_before inner last token rest, hlast, htoken,
      hsymbol⟩
  | connective joint hdue => exact ⟨joint, htoken⟩
  | unopened hdepth =>
    have hcount := h.count_eq
    refine .inl ⟨front ++ [.closing], ⟨rest, by simp⟩, ?_⟩
    simp [List.count_append, hcount, hdepth]
  | empty hafter =>
    obtain ⟨inner, rfl⟩ := List.getLast?_eq_some_iff.mp (h.afterOpening_iff.mp hafter)
    exact ⟨inner.length, by simp, getElem?_before inner .opening .closing rest, htoken⟩
  | unfinished hdepth hafter hdue =>
    obtain ⟨inner, joint, rfl⟩ := h.exists_connective_of_due hdue hafter (h.ne_nil_of_depth hdepth)
    refine ⟨joint, ?_⟩
    rw [List.length_append]
    exact getElem?_before inner _ .closing rest

/-- A condition that is refused at its end makes the fault say what is found at its position. -/
theorem pointsAt_of_refusesEnd (h : reading.Describes front)
    (hrefuses : reading.RefusesEnd front.length fault) : fault.PointsAt front := by
  cases hrefuses with
  | unclosed hdepth =>
    have hcount := h.count_eq
    exact .inr (by omega)
  | unfinished hdepth hdue hlength =>
    have hafter := Bool.eq_false_iff.mpr fun hafter ↦ h.depth_ne_zero hafter hdepth
    have hfront : front ≠ [] := fun hempty ↦ hlength (congrArg List.length hempty)
    obtain ⟨inner, joint, rfl⟩ := h.exists_connective_of_due hdue hafter hfront
    exact ⟨joint, by simp⟩

end Reading.Describes

end PointsAt

/-! ### What can still be completed -/

theorem Reads.isCoherent_and_through?_eq {front : Condition} {reading : Reading}
    (h : Reads front reading) :
    reading.IsCoherent ∧
      (Stance.wanting 0).through? (front.map Token.symbol) = some reading.stance := by
  induction h with
  | nothing => exact ⟨Reading.isCoherent_initial, rfl⟩
  | token _ hstep ih =>
    obtain ⟨hcoherent, hfront⟩ := ih
    obtain ⟨hnext, hafter⟩ := Reading.stance_step hcoherent hstep
    refine ⟨hnext, ?_⟩
    rw [List.map_append, Stance.through?_append, hfront]
    simp [hafter]

/-- Closing every open bracket completes what lacks nothing else. -/
theorem IsPartial.exists_derives_of_satisfied {front : Condition} (depth : Nat)
    (h : IsPartial (.satisfied depth) front) :
    ∃ completion, Derives .expression (front ++ completion) := by
  induction depth generalizing front with
  | zero =>
    cases h with
    | complete h => exact ⟨[], by rwa [List.append_nil]⟩
  | succ depth ih =>
    obtain ⟨completion, hcompletion⟩ := ih h.append_closing
    rw [List.append_assoc] at hcompletion
    exact ⟨_, hcompletion⟩

/-- What has been seen of a derivation can be completed to one: by an operand if one is due, and
then by closing every open bracket. -/
theorem IsPartial.exists_derives {front : Condition} {stance : Stance}
    (h : IsPartial stance front) : ∃ completion, Derives .expression (front ++ completion) := by
  cases stance with
  | satisfied depth => exact h.exists_derives_of_satisfied depth
  | wanting depth =>
    obtain ⟨completion, hcompletion⟩ :=
      (h.append_operand (.literal true)).exists_derives_of_satisfied depth
    rw [List.append_assoc] at hcompletion
    exact ⟨_, hcompletion⟩

/-- What the grammar derives is accepted. -/
theorem Derives.checkStructure_eq_ok {condition : Condition} (h : Derives .expression condition) :
    checkStructure condition = .ok () :=
  (checkStructure_eq_ok_iff condition).mpr (.inr (h.through?_eq 0))

section Viable

variable {front : Condition} {token : Token} {fault : StructureFault}

/-- Readable tokens in front of the one at which the check stops can be completed. -/
theorem StopsAt.exists_derives (h : StopsAt front token fault)
    (hreadable : front.hasError = false) :
    ∃ completion, Derives .expression (front ++ completion) := by
  obtain ⟨reading, hreads, -⟩ := h
  obtain ⟨-, hstance⟩ := hreads.isCoherent_and_through?_eq
  exact ((IsPartial.begun .nothing).append hstance hreadable).exists_derives

/-- Nothing completes the tokens up to the one at which the check stops. -/
theorem StopsAt.not_derives (h : StopsAt front token fault) (continuation : Condition) :
    ¬ Derives .expression (front ++ token :: continuation) := by
  intro hderives
  cases (h.checkStructure_eq continuation).symm.trans hderives.checkStructure_eq_ok

end Viable

/-! ### Positions -/

/-- The position in front of a closing bracket is that of a token. -/
theorem StopsAt.succ_eq_length {front : Condition} {position : Nat}
    (h : StopsAt front .closing (.danglingOperator position)) : position + 1 = front.length := by
  obtain ⟨reading, hreads, hstep⟩ := h
  cases Reading.refuses_of_step hstep with
  | unfinished hdepth hafter hdue =>
    have hlength := List.length_pos_of_ne_nil (hreads.describes.ne_nil_of_depth hdepth)
    omega

/-- The last position is that of a token. -/
theorem StopsBehind.succ_eq_length {condition : Condition} {position : Nat}
    (h : StopsBehind condition (.danglingOperator position)) :
    position + 1 = condition.length := by
  obtain ⟨reading, -, hfinish⟩ := h
  cases Reading.refusesEnd_of_finish hfinish with
  | unfinished hdepth hdue hlength => omega

/-- Assumes: a condition without error tokens that the structure check refuses. The fault says what
is found at its position. The check stops at a token or behind the last one. The tokens in front of
the one at which it stops can be completed to a condition that the grammar derives and the check
accepts. With that token nothing completes them, and whatever follows it the fault is the same. The
positions that are counted back from where the check stops are those of tokens. -/
theorem checkStructure_points_at_fault {condition : Condition} {fault : StructureFault}
    (hreadable : condition.hasError = false) (h : checkStructure condition = .error fault) :
    fault.PointsAt condition ∧
    ((∃ front token rest, condition = front ++ token :: rest ∧ StopsAt front token fault) ∨
      StopsBehind condition fault) ∧
    (∀ front token rest, condition = front ++ token :: rest → StopsAt front token fault →
      (∃ completion, Derives .expression (front ++ completion) ∧
        checkStructure (front ++ completion) = .ok ()) ∧
      ∀ continuation, ¬ Derives .expression (front ++ token :: continuation) ∧
        checkStructure (front ++ token :: continuation) = .error fault) ∧
    (∀ front position, StopsAt front .closing (.danglingOperator position) →
      position + 1 = front.length) ∧
    ∀ position, StopsBehind condition (.danglingOperator position) →
      position + 1 = condition.length := by
  have hstops := Reads.nothing.exists_stopsAt_or_stopsBehind h
  refine ⟨?_, hstops, ?_, fun _ _ hstops ↦ hstops.succ_eq_length,
    fun _ hstops ↦ hstops.succ_eq_length⟩
  · rcases hstops with ⟨front, token, rest, rfl, reading, hreads, hstep⟩ |
      ⟨reading, hreads, hfinish⟩
    · exact hreads.describes.pointsAt_of_refuses (Reading.refuses_of_step hstep) rest
    · exact hreads.describes.pointsAt_of_refusesEnd (Reading.refusesEnd_of_finish hfinish)
  · rintro front token rest rfl hstops
    have hfront : front.hasError = false := by
      rw [Condition.hasError, List.any_append, Bool.or_eq_false_iff] at hreadable
      exact hreadable.1
    obtain ⟨completion, hcompletion⟩ := hstops.exists_derives hfront
    exact ⟨⟨completion, hcompletion, hcompletion.checkStructure_eq_ok⟩, fun continuation ↦
      ⟨hstops.not_derives continuation, hstops.checkStructure_eq continuation⟩⟩

/-- A closing bracket behind a connective: the fault is the connective in front of it, the tokens up
to the connective can be completed, and with the bracket they cannot. -/
theorem checkStructure_points_at_fault_unfinished :
    let front : Condition := [.opening, .literal true, .connective .and]
    let condition : Condition := front ++ .closing :: [.connective .or, .literal false]
    condition.hasError = false ∧ checkStructure condition = .error (.danglingOperator 2) ∧
      StopsAt front .closing (.danglingOperator 2) ∧
      (∃ joint, condition[2]? = some (.connective joint)) ∧
      (∃ completion, Derives .expression (front ++ completion)) ∧
      ∀ continuation, ¬ Derives .expression (front ++ .closing :: continuation) := by
  intro front condition
  have hreads : Reads ([] ++ [.opening] ++ [.literal true] ++ [.connective .and]) _ :=
    ((Reads.nothing.token rfl).token rfl).token rfl
  have hstops : StopsAt front .closing (.danglingOperator 2) := ⟨_, hreads, rfl⟩
  have hreadable : condition.hasError = false := rfl
  have hfault : checkStructure condition = .error (.danglingOperator 2) := rfl
  obtain ⟨hpoints, -, hviable, -⟩ := checkStructure_points_at_fault hreadable hfault
  obtain ⟨⟨completion, hcompletion, -⟩, hdead⟩ := hviable front .closing _ rfl hstops
  exact ⟨hreadable, hfault, hstops, hpoints, ⟨completion, hcompletion⟩, fun continuation ↦
    (hdead continuation).1⟩

end DocumentRules.Condition
