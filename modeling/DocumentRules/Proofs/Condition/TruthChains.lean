import DocumentRules.Proofs.Condition.GroupReplacement
import Mathlib.Algebra.Ring.Nat
import Mathlib.Data.Nat.Log
import Mathlib.Order.Bounds.Basic

/-!
# Chains of truth values

A chain of truth values without brackets shows how passes group operands where there is no
precedence. A pass joins neighbours in pairs and hands on an odd value at the end
(`TruthChain.pass_terms`), so it halves the chain. What all passes come to can be said without them:
the chain is split behind the largest power of two below its size, each part has its value in the
same way, and the connective at the split joins the two (`TruthChain.value`). A pass keeps this
value (`TruthChain.value_joinPairs`): it leaves the chain split at the same connective, because the
part in front of it consists of whole pairs, until that part is one truth value.
-/

set_option autoImplicit false
set_option relaxedAutoImplicit false

namespace DocumentRules.Condition

/-! ### Powers of two -/

/-- The largest power of two below a size, which is at least two. -/
def splitPoint (size : Nat) : Nat := 2 ^ Nat.log 2 (size - 1)

theorem isGreatest_splitPoint {size : Nat} (h : 2 ≤ size) :
    IsGreatest {power | (∃ exponent, power = 2 ^ exponent) ∧ power < size} (splitPoint size) := by
  refine ⟨⟨⟨_, rfl⟩, ?_⟩, ?_⟩
  · have hle := Nat.pow_log_le_self 2 (x := size - 1) (by omega)
    unfold splitPoint
    omega
  · rintro _ ⟨⟨exponent, rfl⟩, hlt⟩
    refine Nat.pow_le_pow_right (by decide) ?_
    exact Nat.le_log_of_pow_le (by decide) (by omega)

/-- Assumes: a size above a power of two and not above the next. The first is the largest below the
size. -/
theorem splitPoint_eq {size exponent : Nat} (hlt : 2 ^ exponent < size)
    (hle : size ≤ 2 ^ (exponent + 1)) : splitPoint size = 2 ^ exponent := by
  refine (isGreatest_splitPoint ?_).unique ⟨⟨⟨exponent, rfl⟩, hlt⟩, ?_⟩
  · have hpos := Nat.two_pow_pos exponent
    omega
  · rintro _ ⟨⟨other, rfl⟩, hother⟩
    refine Nat.pow_le_pow_right (by decide) (Nat.le_of_lt_succ ?_)
    exact (Nat.pow_lt_pow_iff_right (by decide)).mp (Nat.lt_of_lt_of_le hother hle)

/-! ### Chains -/

/-- Truth values with connectives between them and without brackets: the first value, and each
further one with the connective in front of it. -/
structure TruthChain where
  first : Bool
  rest : List (Connective × Bool)

namespace TruthChain

/-- The number of truth values. -/
def size (chain : TruthChain) : Nat := chain.rest.length + 1

/-- How a chain is written. -/
def tokens (chain : TruthChain) : Condition :=
  .literal chain.first :: chain.rest.flatMap fun (joint, value) ↦
    [.connective joint, .literal value]

/-- One truth value. -/
def single (value : Bool) : TruthChain := ⟨value, []⟩

/-- Two chains with a connective between them. -/
def join (front : TruthChain) (joint : Connective) (back : TruthChain) : TruthChain :=
  ⟨front.first, front.rest ++ (joint, back.first) :: back.rest⟩

/-- The value of a chain. A single truth value is its own value. Any other chain is split behind as
many truth values as the largest power of two below their number, and its value is what the
connective there makes of the values of the two parts. -/
def value (chain : TruthChain) : Bool :=
  match hback : chain.rest.drop (splitPoint chain.size - 1) with
  | [] => chain.first
  | (joint, next) :: back =>
    joint.apply (value ⟨chain.first, chain.rest.take (splitPoint chain.size - 1)⟩)
      (value ⟨next, back⟩)
termination_by chain.rest.length
decreasing_by
  · have hlength := congrArg List.length hback
    simp only [List.length_drop, List.length_cons] at hlength
    simp only [List.length_take]
    omega
  · have hlength := congrArg List.length hback
    simp only [List.length_drop, List.length_cons] at hlength
    omega

theorem size_pos (chain : TruthChain) : 0 < chain.size := Nat.succ_pos _

theorem eq_single {chain : TruthChain} (h : chain.size < 2) : ∃ value, chain = single value := by
  obtain ⟨first, rest⟩ := chain
  obtain rfl : rest = [] := List.length_eq_zero_iff.mp (by simp only [size] at h; omega)
  exact ⟨first, rfl⟩

theorem size_join (front : TruthChain) (joint : Connective) (back : TruthChain) :
    (front.join joint back).size = front.size + back.size := by
  simp only [size, join, List.length_append, List.length_cons]
  omega

/-! ### Splitting a chain -/

theorem value_single (first : Bool) : (single first).value = first := by
  rw [value]
  rfl

/-- Assumes: two chains, the first with a power of two of truth values and the second with no more.
Joined, they are split where they meet. -/
theorem value_join {front back : TruthChain} {exponent : Nat} (hfront : front.size = 2 ^ exponent)
    (hback : back.size ≤ 2 ^ exponent) (joint : Connective) :
    (front.join joint back).value = joint.apply front.value back.value := by
  have hsplit : splitPoint (front.join joint back).size - 1 = front.rest.length := by
    have hpos := back.size_pos
    have hpower : splitPoint (front.join joint back).size = 2 ^ exponent :=
      splitPoint_eq (by rw [size_join]; omega) (by rw [size_join, Nat.pow_succ]; omega)
    rw [hpower, ← hfront]
    rfl
  have hdrop : (front.join joint back).rest.drop front.rest.length =
      (joint, back.first) :: back.rest := List.drop_left
  have htake : (front.join joint back).rest.take front.rest.length = front.rest := List.take_left
  rw [value, hsplit]
  split
  · rename_i heq
    cases hdrop.symm.trans heq
  · rename_i heq
    obtain ⟨⟨rfl, rfl⟩, rfl⟩ := hdrop.symm.trans heq
    rw [htake]
    rfl

/-- Assumes: a chain with several truth values. It is two chains joined as they have to be for its
value to be taken from theirs. -/
theorem exists_join {chain : TruthChain} (h : 2 ≤ chain.size) :
    ∃ front joint back exponent, chain = join front joint back ∧ front.size = 2 ^ exponent ∧
      back.size ≤ 2 ^ exponent := by
  obtain ⟨first, rest⟩ := chain
  have hpow := Nat.pow_log_le_self 2 (x := rest.length) (by simp only [size] at h; omega)
  have hlt := Nat.lt_pow_succ_log_self (b := 2) (by decide) rest.length
  have hpos := Nat.two_pow_pos (Nat.log 2 rest.length)
  rw [Nat.pow_succ] at hlt
  generalize hexponent : Nat.log 2 rest.length = exponent at hpow hlt hpos
  obtain ⟨⟨joint, next⟩, back, hdrop⟩ : ∃ pair back, rest.drop (2 ^ exponent - 1) = pair :: back :=
    List.exists_cons_of_ne_nil (by rw [Ne, List.drop_eq_nil_iff]; omega)
  have hlength := congrArg List.length hdrop
  simp only [List.length_drop, List.length_cons] at hlength
  refine ⟨⟨first, rest.take (2 ^ exponent - 1)⟩, joint, ⟨next, back⟩, exponent, ?_, ?_, ?_⟩
  · simp only [join, ← hdrop, List.take_append_drop]
  · simp only [size, List.length_take]
    omega
  · simp only [size]
    omega

/-! ### One pass -/

/-- Neighbours joined in pairs from the left, and an odd truth value handed on. -/
def joinPairsFrom (first : Bool) : List (Connective × Bool) → TruthChain
  | [] => single first
  | [(joint, second)] => single (joint.apply first second)
  | (joint, second) :: (next, third) :: rest =>
    join (single (joint.apply first second)) next (joinPairsFrom third rest)

/-- What a pass makes of a chain. -/
def joinPairs (chain : TruthChain) : TruthChain := joinPairsFrom chain.first chain.rest

/-- A pass joins neighbours in pairs. -/
theorem pass_terms (chain : TruthChain) :
    pass (unanswered chain.tokens) = unanswered chain.joinPairs.tokens := by
  obtain ⟨first, rest⟩ := chain
  unfold joinPairs
  fun_induction joinPairsFrom first rest with
  | case1 first => rfl
  | case2 first joint second => rfl
  | case3 first joint second next third rest ih =>
    exact congrArg (fun terms ↦
      .truth (joint.apply first second) :: .connective next :: terms) ih

/-- A pass halves a chain, and rounds up. -/
theorem size_joinPairs (chain : TruthChain) : chain.joinPairs.size = (chain.size + 1) / 2 := by
  obtain ⟨first, rest⟩ := chain
  unfold joinPairs
  fun_induction joinPairsFrom first rest with
  | case1 first => simp [size, single]
  | case2 first joint second => simp [size, single]
  | case3 first joint second next third rest ih =>
    rw [size_join, ih]
    simp only [size, single, List.length_nil, List.length_cons]
    omega

/-- Assumes: a chain with an even number of truth values. Pairs are joined in it as they are when it
stands alone, and in what follows it too. -/
theorem joinPairs_join {front : TruthChain} (h : 2 ∣ front.size) (joint : Connective)
    (back : TruthChain) :
    (front.join joint back).joinPairs = front.joinPairs.join joint back.joinPairs := by
  obtain ⟨first, rest⟩ := front
  unfold joinPairs
  fun_induction joinPairsFrom first rest with
  | case1 first => simp [size] at h
  | case2 first joint second => rfl
  | case3 first former second next third rest ih =>
    have hrest := ih (by simp only [size, List.length_cons] at h ⊢; omega)
    exact congrArg (join (single (former.apply first second)) next) hrest

/-- A pass keeps the value of a chain. -/
theorem value_joinPairs (chain : TruthChain) : chain.joinPairs.value = chain.value := by
  induction hsize : chain.size using Nat.strongRecOn generalizing chain with
  | _ size ih =>
    rcases Nat.lt_or_ge chain.size 2 with hsmall | hlarge
    · obtain ⟨value, rfl⟩ := eq_single hsmall
      rfl
    · obtain ⟨front, joint, back, exponent, rfl, hfront, hback⟩ := exists_join hlarge
      cases exponent with
      | zero =>
        have hpos := back.size_pos
        obtain ⟨left, rfl⟩ : ∃ left, front = single left := eq_single (by omega)
        obtain ⟨right, rfl⟩ : ∃ right, back = single right := eq_single (by omega)
        rw [value_join hfront hback, value_single, value_single]
        exact value_single _
      | succ exponent =>
        -- The part in front consists of whole pairs, and half of it is a power of two again.
        have hfrontPos := front.size_pos
        have hbackPos := back.size_pos
        have hvalue := value_join hfront hback joint
        rw [size_join] at hsize
        rw [Nat.pow_succ] at hfront hback
        have hfrontHalf : front.joinPairs.size = 2 ^ exponent := by rw [size_joinPairs]; omega
        have hbackHalf : back.joinPairs.size ≤ 2 ^ exponent := by rw [size_joinPairs]; omega
        rw [joinPairs_join (by omega), value_join hfrontHalf hbackHalf,
          ih _ (by omega) front rfl, ih _ (by omega) back rfl, hvalue]

/-! ### All passes -/

theorem length_tokens (chain : TruthChain) : chain.tokens.length + 1 = 2 * chain.size := by
  simp only [tokens, size, List.length_cons, List.length_flatMap, List.length_nil,
    List.map_const', List.sum_replicate_nat]
  omega

/-- A pass shortens a chain of several truth values. -/
theorem length_pass_lt {chain : TruthChain} (h : 2 ≤ chain.size) :
    (pass (unanswered chain.tokens)).length < (unanswered chain.tokens).length := by
  have hbefore := chain.length_tokens
  have hafter := chain.joinPairs.length_tokens
  rw [size_joinPairs] at hafter
  rw [pass_terms, unanswered, unanswered, List.length_map, List.length_map]
  omega

/-- What holds of a single truth value, and of every chain of several if it holds of what a pass
makes of it, holds of every chain. -/
theorem induction_on_passes {motive : TruthChain → Prop} (hsingle : ∀ value, motive (single value))
    (hpass : ∀ chain, 2 ≤ chain.size → motive chain.joinPairs → motive chain)
    (chain : TruthChain) : motive chain := by
  induction hsize : chain.size using Nat.strongRecOn generalizing chain with
  | _ size ih =>
    rcases Nat.lt_or_ge chain.size 2 with hsmall | hlarge
    · obtain ⟨value, rfl⟩ := eq_single hsmall
      exact hsingle value
    · exact hpass chain hlarge (ih _ (by rw [size_joinPairs]; omega) chain.joinPairs rfl)

theorem settle_tokens (chain : TruthChain) :
    settle (unanswered chain.tokens) = [.truth chain.value] := by
  induction chain using induction_on_passes with
  | hsingle value =>
    rw [value_single]
    exact settle_singleton _
  | hpass chain hlarge ih =>
    rw [settle_of_length_lt (length_pass_lt hlarge), pass_terms, ih, value_joinPairs]

theorem passCount_tokens (chain : TruthChain) :
    passCount (unanswered chain.tokens) = Nat.clog 2 chain.size := by
  induction chain using induction_on_passes with
  | hsingle value => exact (Nat.clog_one_right 2).symm
  | hpass chain hlarge ih =>
    rw [passCount_of_length_lt (length_pass_lt hlarge), pass_terms, ih, size_joinPairs,
      Nat.clog_of_two_le Nat.one_lt_two hlarge]
    rfl

/-- The tokens of a chain settle as its value and reduce to it, after as many passes as the binary
logarithm of its size, rounded up. -/
theorem reduce_tokens_splits_at_powers_of_two (chain : TruthChain) :
    settle (unanswered chain.tokens) = [.truth chain.value] ∧
      reduce chain.tokens = chain.value ∧
      passCount (unanswered chain.tokens) = Nat.clog 2 chain.size :=
  ⟨chain.settle_tokens, reduceTerms_of_settle chain.settle_tokens, chain.passCount_tokens⟩

end TruthChain

end DocumentRules.Condition
