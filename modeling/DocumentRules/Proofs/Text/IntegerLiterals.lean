import DocumentRules.Text.Blank
import DocumentRules.Text.Integer

/-!
# Ways to write an integer

An integer literal is a sequence of decimal digits, with as many zeros in front as one likes, behind
a plus sign, a minus sign or none (`IsIntegerLiteral`). The reader accepts exactly the literals of
the integers that a signed 64-bit word holds (`readInteger?_eq_some_iff`), although it compares with
the limit behind every digit: further digits never make the number smaller. The usual decimal form
of an integer is one of its literals (`isIntegerLiteral_toString`).
-/

set_option autoImplicit false
set_option relaxedAutoImplicit false

namespace DocumentRules.Text

/-! ### Digits -/

/-- A sequence of decimal digits that is not empty, and the number that it denotes. -/
structure IsDecimal (digits : List Char) (number : Nat) : Prop where
  ne_nil : digits ≠ []
  isDigit : ∀ character ∈ digits, character.isDigit = true
  number_eq : Nat.ofDigitChars 10 digits 0 = number

theorem IsDecimal.ne_cons {digits : List Char} {number : Nat} (h : IsDecimal digits number)
    {sign : Char} (hsign : sign.isDigit = false) (rest : List Char) : digits ≠ sign :: rest := by
  rintro rfl
  exact Bool.false_ne_true (hsign.symm.trans (h.isDigit sign List.mem_cons_self))

theorem isDecimal_toDigits (number : Nat) : IsDecimal (Nat.toDigits 10 number) number where
  ne_nil := Nat.toDigits_ne_nil
  isDigit _ hmem := Nat.isDigit_of_mem_toDigits (by decide) (by decide) hmem
  number_eq := Nat.ofDigitChars_ten_toDigits

theorem isDigit_iff {character : Char} :
    character.isDigit = true ↔ '0' ≤ character ∧ character ≤ '9' := by
  rw [Char.isDigit, Bool.and_eq_true, decide_eq_true_eq, decide_eq_true_eq]
  rfl

theorem digitValue?_ten (character : Char) :
    digitValue? 10 character =
      if character.isDigit then some (character.toNat - '0'.toNat) else none := by
  unfold digitValue?
  by_cases hdigit : '0' ≤ character ∧ character ≤ '9'
  · have hle : character.toNat ≤ '9'.toNat := hdigit.2
    have hlt : character.toNat - '0'.toNat < 10 := by
      simp only [Char.reduceToNat] at hle ⊢
      omega
    rw [if_pos hdigit, if_pos (isDigit_iff.mpr hdigit), Option.filter_some,
      if_pos (decide_eq_true hlt)]
  · -- Letters are digits from ten on.
    rw [if_neg hdigit, if_neg (mt isDigit_iff.mp hdigit)]
    split
    · simp
    · split <;> simp

theorem le_ofDigitChars (digits : List Char) (value : Nat) :
    value ≤ Nat.ofDigitChars 10 digits value := by
  calc value ≤ 10 ^ digits.length * value := Nat.le_mul_of_pos_left value (Nat.pow_pos (by decide))
    _ ≤ 10 ^ digits.length * value + Nat.ofDigitChars 10 digits 0 := Nat.le_add_right _ _
    _ = Nat.ofDigitChars 10 digits value := Nat.ofDigitChars_eq_ofDigitChars_zero.symm

/-- Assumes: a number within the limit. Digits behind it are read exactly when what they lead to is
within the limit as well. -/
theorem readMagnitude?_eq_some_iff {limit value number : Nat} {digits : List Char}
    (hvalue : value ≤ limit) :
    readMagnitude? 10 limit value digits = some number ↔
      (∀ character ∈ digits, character.isDigit = true) ∧
        Nat.ofDigitChars 10 digits value = number ∧ number ≤ limit := by
  induction digits generalizing value with
  | nil =>
    rw [readMagnitude?, Nat.ofDigitChars_nil, Option.some.injEq]
    constructor
    · rintro rfl
      exact ⟨fun _ hmem ↦ absurd hmem List.not_mem_nil, rfl, hvalue⟩
    · exact fun h ↦ h.2.1
  | cons character rest ih =>
    rw [readMagnitude?, digitValue?_ten, List.forall_mem_cons, Nat.ofDigitChars_cons,
      Nat.mul_comm 10]
    cases hdigit : character.isDigit with
    | false => simp
    | true =>
      simp only [if_true, true_and]
      generalize value * 10 + (character.toNat - '0'.toNat) = next
      by_cases hnext : next ≤ limit
      · rw [if_pos hnext, ih hnext]
      · rw [if_neg hnext]
        constructor
        · intro h
          cases h
        · rintro ⟨-, rfl, hle⟩
          exact absurd (Nat.le_trans (le_ofDigitChars rest next) hle) hnext

theorem readDecimal?_eq_some_iff {limit number : Nat} {digits : List Char} :
    readDecimal? limit digits = some number ↔ IsDecimal digits number ∧ number ≤ limit := by
  cases digits with
  | nil =>
    constructor
    · intro h
      cases h
    · exact fun h ↦ absurd rfl h.1.ne_nil
  | cons character rest =>
    rw [readDecimal?, List.isEmpty_cons, if_neg Bool.false_ne_true,
      readMagnitude?_eq_some_iff (Nat.zero_le limit)]
    exact ⟨fun h ↦ ⟨⟨List.cons_ne_nil _ _, h.1, h.2.1⟩, h.2.2⟩,
      fun h ↦ ⟨h.1.isDigit, h.1.number_eq, h.2⟩⟩

/-! ### Signs -/

/-- The literals that stand for an integer. -/
inductive IsIntegerLiteral : List Char → Int → Prop where
  | bare {digits : List Char} {number : Nat} (h : IsDecimal digits number) :
    IsIntegerLiteral digits number
  | plus {digits : List Char} {number : Nat} (h : IsDecimal digits number) :
    IsIntegerLiteral ('+' :: digits) number
  | minus {digits : List Char} {number : Nat} (h : IsDecimal digits number) :
    IsIntegerLiteral ('-' :: digits) (-number)

/-- The integers that a signed 64-bit word holds. -/
def FitsWord (number : Int) : Prop := -integerLimit ≤ number ∧ number < integerLimit

instance (number : Int) : Decidable (FitsWord number) :=
  inferInstanceAs (Decidable (_ ∧ _))

theorem fitsWord_toInt (number : Int64) : FitsWord number.toInt :=
  ⟨number.le_toInt, number.toInt_lt⟩

theorem fitsWord_natCast {number : Nat} :
    FitsWord (number : Int) ↔ number ≤ integerLimit - 1 := by
  simp only [FitsWord, integerLimit]
  omega

theorem fitsWord_neg_natCast {number : Nat} :
    FitsWord (-(number : Int)) ↔ number ≤ integerLimit := by
  simp only [FitsWord, integerLimit]
  omega

theorem FitsWord.natCast_of_le {number larger : Nat} (h : FitsWord (larger : Int))
    (hle : number ≤ larger) : FitsWord (number : Int) :=
  fitsWord_natCast.mpr (Nat.le_trans hle (fitsWord_natCast.mp h))

/-! ### Reading a literal -/

theorem readDecimal?_map_eq_some_iff {limit : Nat} {digits : List Char} {sign : Nat → Int}
    {number : Int} :
    (readDecimal? limit digits).map sign = some number ↔
      ∃ magnitude, IsDecimal digits magnitude ∧ magnitude ≤ limit ∧ sign magnitude = number := by
  simp only [Option.map_eq_some_iff, readDecimal?_eq_some_iff, and_assoc]

theorem readInteger?_minus (digits : List Char) :
    readInteger? ('-' :: digits) =
      (readDecimal? integerLimit digits).map fun magnitude : Nat ↦ -(magnitude : Int) := by
  rw [readInteger?]
  cases readDecimal? integerLimit digits <;> rfl

theorem readInteger?_unsigned {text : List Char} (hminus : ∀ digits, text ≠ '-' :: digits)
    (hplus : ∀ digits, text ≠ '+' :: digits) :
    readInteger? text = (readDecimal? (integerLimit - 1) text).map Int.ofNat := by
  unfold readInteger?
  split
  · exact absurd rfl (hminus _)
  · exact absurd rfl (hplus _)
  · rfl

/-- A literal is read exactly when the integer that it stands for fits into a signed 64-bit word. -/
theorem readInteger?_eq_some_iff {text : List Char} {number : Int} :
    readInteger? text = some number ↔ IsIntegerLiteral text number ∧ FitsWord number := by
  constructor
  · intro h
    fun_cases readInteger? text with
    | case1 digits =>
      rw [readInteger?_minus] at h
      obtain ⟨magnitude, hdecimal, hle, rfl⟩ := readDecimal?_map_eq_some_iff.mp h
      exact ⟨.minus hdecimal, fitsWord_neg_natCast.mpr hle⟩
    | case2 digits =>
      obtain ⟨magnitude, hdecimal, hle, rfl⟩ := readDecimal?_map_eq_some_iff.mp h
      exact ⟨.plus hdecimal, fitsWord_natCast.mpr hle⟩
    | case3 text hminus hplus =>
      rw [readInteger?_unsigned hminus hplus] at h
      obtain ⟨magnitude, hdecimal, hle, rfl⟩ := readDecimal?_map_eq_some_iff.mp h
      exact ⟨.bare hdecimal, fitsWord_natCast.mpr hle⟩
  · rintro ⟨hliteral, hfits⟩
    cases hliteral with
    | minus hdecimal =>
      rw [readInteger?_minus]
      exact readDecimal?_map_eq_some_iff.mpr ⟨_, hdecimal, fitsWord_neg_natCast.mp hfits, rfl⟩
    | plus hdecimal =>
      exact readDecimal?_map_eq_some_iff.mpr ⟨_, hdecimal, fitsWord_natCast.mp hfits, rfl⟩
    | bare hdecimal =>
      rw [readInteger?_unsigned (hdecimal.ne_cons rfl) (hdecimal.ne_cons rfl)]
      exact readDecimal?_map_eq_some_iff.mpr ⟨_, hdecimal, fitsWord_natCast.mp hfits, rfl⟩

/-- The usual decimal form of an integer is a literal that stands for it. -/
theorem isIntegerLiteral_toString (number : Int) :
    IsIntegerLiteral (toString number).toList number := by
  rw [Int.toString_eq_repr, Int.repr_eq_if]
  split
  · rename_i hnonneg
    have hliteral := IsIntegerLiteral.bare (isDecimal_toDigits number.toNat)
    rwa [Int.toNat_of_nonneg hnonneg, ← Nat.toList_repr] at hliteral
  · rename_i hneg
    have hliteral := IsIntegerLiteral.minus (isDecimal_toDigits (-number).toNat)
    rw [Int.toNat_of_nonneg (by omega), Int.neg_neg, ← Nat.toList_repr] at hliteral
    rwa [String.toList_append]

/-! ### Blanks -/

theorem isBlank_of_isDigit {character : Char} (h : character.isDigit = true) :
    isBlank character = false := by
  have hge : '0'.toNat ≤ character.toNat := (isDigit_iff.mp h).1
  have hle : character.toNat ≤ '9'.toNat := (isDigit_iff.mp h).2
  simp only [Char.reduceToNat] at hge hle
  simp only [isBlank, Bool.or_eq_false_iff, Bool.and_eq_false_iff, beq_eq_false_iff_ne,
    decide_eq_false_iff_not]
  omega

theorem IsDecimal.any_isBlank {digits : List Char} {number : Nat} (h : IsDecimal digits number) :
    digits.any isBlank = false :=
  List.any_eq_false.mpr fun character hmem ↦
    Bool.eq_false_iff.mp (isBlank_of_isDigit (h.isDigit character hmem))

/-- A literal has no blanks in it. -/
theorem IsIntegerLiteral.any_isBlank {text : List Char} {number : Int}
    (h : IsIntegerLiteral text number) : text.any isBlank = false := by
  cases h with
  | bare hdecimal => exact hdecimal.any_isBlank
  | plus hdecimal | minus hdecimal =>
    rw [List.any_cons, hdecimal.any_isBlank]
    rfl

end DocumentRules.Text
