import DocumentRules.Proofs.Text.Utf8

/-!
# The order of texts as bytes

Texts are ordered by their characters. In UTF-8 this is also the order of their bytes: of two
different characters the bytes of the smaller one come first, whatever follows them
(`compare_encodeCharacter_append`), because the first byte grows with the number of bytes, and among
characters of one width the bytes are the digits of the code point. `compare_encodeText` says so of
whole texts.
-/

set_option autoImplicit false
set_option relaxedAutoImplicit false

namespace DocumentRules.Text

open Std

/-- Bytes come before others when they do at the first place where they differ. -/
theorem compare_cons_eq_lt_iff {first second : UInt8} {front back : Bytes} :
    compare (first :: front) (second :: back) = .lt ↔
      first.toNat < second.toNat ∨ first.toNat = second.toNat ∧ compare front back = .lt := by
  rw [List.compare_eq_compareLex, List.compareLex_cons_cons, Ordering.then_eq_lt, compare_eq_lt,
    LawfulEqOrd.compare_eq_iff_eq, UInt8.lt_iff_toNat_lt, UInt8.toNat_inj]

/-- The bytes of the smaller of two characters come first, whatever follows them. -/
theorem compare_encodeCharacter_append {left right : Char} (h : left < right)
    (front back : Bytes) :
    compare (encodeCharacter left ++ front) (encodeCharacter right ++ back) = .lt := by
  have hlt : left.toNat < right.toNat := h
  have hvalid : right.toNat < 0xD800 ∨ 0xDFFF < right.toNat ∧ right.toNat < 0x110000 :=
    right.valid
  have hbyte : ∀ value < 256, (UInt8.ofNat value).toNat = value := fun value hvalue ↦
    UInt8.toNat_ofNat_of_lt' hvalue
  simp only [encodeCharacter]
  generalize left.toNat = lower at *
  generalize right.toNat = upper at *
  -- one case for each pair of widths; those in which the smaller one is wider are void
  split_ifs <;> simp (disch := omega) only [List.cons_append, compare_cons_eq_lt_iff, hbyte] <;>
    omega

theorem compare_append_left (front : Bytes) {left right : Bytes} :
    compare (front ++ left) (front ++ right) = compare left right := by
  induction front with
  | nil => rfl
  | cons first rest ih =>
    rw [List.cons_append, List.cons_append, List.compare_eq_compareLex, List.compareLex_cons_cons,
      ReflOrd.compare_self, ← List.compare_eq_compareLex, ih]
    rfl

theorem encodeCharacter_ne_nil (character : Char) : encodeCharacter character ≠ [] := by
  unfold encodeCharacter
  simp only []
  split_ifs <;> exact List.cons_ne_nil _ _

/-- Assumes: characters that come before others. So do their bytes. -/
theorem compare_flatMap_encodeCharacter {left right : List Char} (h : left < right) :
    compare (left.flatMap encodeCharacter) (right.flatMap encodeCharacter) = .lt := by
  induction h with
  | @nil first rest =>
    obtain ⟨byte, bytes, hbytes⟩ :=
      List.exists_cons_of_ne_nil (encodeCharacter_ne_nil first)
    rw [List.flatMap_cons, hbytes]
    rfl
  | rel hlt => exact compare_encodeCharacter_append hlt _ _
  | cons _ ih =>
    rw [List.flatMap_cons, List.flatMap_cons, compare_append_left]
    exact ih

/-- Texts are ordered as their bytes are. -/
theorem compare_encodeText (left right : String) :
    compare (encodeText left) (encodeText right) = compare left right := by
  have hlower : ∀ {lower upper : String}, compare lower upper = .lt →
      compare (encodeText lower) (encodeText upper) = .lt := fun hlt ↦
    compare_flatMap_encodeCharacter (String.lt_iff.mp (compareOfLessAndEq_eq_lt.mp hlt))
  cases hcompare : compare left right with
  | lt => exact hlower hcompare
  | eq =>
    rw [LawfulEqOrd.eq_of_compare hcompare]
    exact ReflOrd.compare_self
  | gt => exact OrientedCmp.gt_of_lt (hlower (OrientedCmp.lt_of_gt hcompare))

end DocumentRules.Text
