import DocumentRules.Proofs.Archive.Freshness

/-!
# Which bytes of a blob matter

A header states how long the payload behind it is, and no check looks further than that, or at the
six bytes of the header that are not in use. So two blobs that agree on all other bytes of the first
come to the same, unless the first is found to be too short (`checkedPayload?_of_agrees`). In
particular nothing that is put behind a blob makes a difference.

A blob that is cut short is found to be so before anything else is: without a complete header by its
own length, and otherwise by the length that the header states (`checkedPayload?_take_encode`).
-/

set_option autoImplicit false
set_option relaxedAutoImplicit false

namespace DocumentRules.Archive

open Text Condition Report

/-! ### Bytes that are read -/

/-- The bytes of a header from 6 on and before 12 hold the version of the engine and flags, which no
reader looks at. -/
def IsRead (index : Nat) : Prop := index < 6 ∨ 12 ≤ index

/-- A blob has all bytes of another that are read. -/
def Agrees (blob other : Bytes) : Prop :=
  blob.length ≤ other.length ∧ ∀ index < blob.length, IsRead index → other[index]? = blob[index]?

theorem slice_congr {start length : Nat} {blob other : Bytes}
    (h : ∀ index, start ≤ index → index < start + length → other[index]? = blob[index]?) :
    slice start length other = slice start length blob := by
  refine List.ext_getElem? fun offset ↦ ?_
  unfold slice
  rw [List.getElem?_take, List.getElem?_take, List.getElem?_drop, List.getElem?_drop]
  split
  · exact h _ (Nat.le_add_right _ _) (by omega)
  · rfl

namespace Agrees

variable {blob other : Bytes}

/-- A part of a blob that is read and complete is a part of any blob that agrees with it. -/
theorem slice_eq (h : Agrees blob other) {start length : Nat}
    (hread : start + length ≤ 6 ∨ 12 ≤ start) (hcomplete : start + length ≤ blob.length) :
    slice start length other = slice start length blob := by
  refine slice_congr fun index hstart hend ↦ h.2 index (by omega) ?_
  unfold IsRead
  omega

/-- A part of a complete header that is read is a part of any blob that agrees with it. -/
theorem slice_header_eq (h : Agrees blob other) (hheader : headerLength ≤ blob.length)
    {start length : Nat} (hread : start + length ≤ 6 ∨ 12 ≤ start)
    (hend : start + length ≤ headerLength) :
    slice start length other = slice start length blob :=
  h.slice_eq hread (Nat.le_trans hend hheader)

end Agrees

/-- A blob agrees with what comes of it by putting bytes behind it. -/
theorem agrees_append (blob extra : Bytes) : Agrees blob (blob ++ extra) := by
  refine ⟨?_, fun index hindex _ ↦ List.getElem?_append_left hindex⟩
  rw [List.length_append]
  exact Nat.le_add_right _ _

/-- Assumes: a complete header. The blob agrees with what comes of it by replacing the bytes that no
reader looks at. -/
theorem agrees_replace {blob unread : Bytes} (hheader : headerLength ≤ blob.length)
    (hunread : unread.length = 6) : Agrees blob (blob.take 6 ++ unread ++ blob.drop 12) := by
  have hfront : (blob.take 6).length = 6 := by
    rw [List.length_take]
    unfold headerLength at hheader
    omega
  have hnew : (blob.take 6 ++ unread).length = 12 := by
    rw [List.length_append, hfront, hunread]
  refine ⟨?_, fun index _ hread ↦ ?_⟩
  · rw [List.length_append, hnew, List.length_drop]
    omega
  obtain hbefore | hbehind := hread
  · rw [List.append_assoc, List.getElem?_append_left (by omega), List.getElem?_take_of_lt hbefore]
  · rw [List.getElem?_append_right (by omega), hnew, List.getElem?_drop]
    congr 1
    omega

/-! ### Blobs that are not too short -/

theorem checkedPayload?_of_lt {blob : Bytes} (h : blob.length < headerLength) :
    checkedPayload? blob = .error (.lengthMismatch headerLength blob.length) :=
  if_pos h

/-- A blob is not found to be too short, neither for a header nor for the payload that is stated. -/
def IsComplete (blob : Bytes) : Prop :=
  ∀ expected actual, checkedPayload? blob ≠ .error (.lengthMismatch expected actual)

theorem headerLength_le_of_isComplete {blob : Bytes} (h : IsComplete blob) :
    headerLength ≤ blob.length := by
  by_contra hshort
  exact h _ _ (checkedPayload?_of_lt (Nat.lt_of_not_le hshort))

/-- Any blob that agrees with one that is not too short comes to the same. -/
theorem checkedPayload?_of_agrees {blob other : Bytes} (h : Agrees blob other)
    (hcomplete : IsComplete blob) : checkedPayload? other = checkedPayload? blob := by
  have hheader := headerLength_le_of_isComplete hcomplete
  have hother : headerLength ≤ other.length := Nat.le_trans hheader h.1
  have hmagic : other.take magic.length = blob.take magic.length := by
    show slice 0 magic.length other = slice 0 magic.length blob
    exact h.slice_header_eq hheader (.inl (by decide)) (by decide)
  have hversion : statedVersion other = statedVersion blob :=
    congrArg ofLittleEndian (h.slice_header_eq hheader (.inl (by decide)) (by decide))
  have hlength : statedLength other = statedLength blob :=
    congrArg ofLittleEndian (h.slice_header_eq hheader (.inr (by decide)) (by decide))
  have hchecksum : statedChecksum other = statedChecksum blob :=
    h.slice_header_eq hheader (.inr (by decide)) (by decide)
  unfold IsComplete at hcomplete
  unfold checkedPayload? at hcomplete ⊢
  rw [if_neg (Nat.not_lt.mpr hheader)] at hcomplete ⊢
  rw [if_neg (Nat.not_lt.mpr hother), hmagic, hversion, hlength, hchecksum]
  by_cases hword : blob.take magic.length ≠ magic
  · rw [if_pos hword, if_pos hword]
  by_cases hformat : statedVersion blob ≠ formatVersion
  · rw [if_neg hword, if_pos hformat, if_neg hword, if_pos hformat]
  rw [if_neg hword, if_neg hformat] at hcomplete ⊢
  rw [if_neg hword, if_neg hformat]
  -- The payload is complete in the first blob, and so in the other one, which is no shorter.
  have hpayload : headerLength + statedLength blob ≤ blob.length := by
    by_contra hshort
    exact hcomplete _ _ (if_pos (Nat.lt_of_not_le hshort))
  rw [if_neg (Nat.not_lt.mpr hpayload),
    if_neg (Nat.not_lt.mpr (Nat.le_trans hpayload h.1)), h.slice_eq (.inr (by decide)) hpayload]

/-- A blob whose decoding does not find it too short is not too short. -/
theorem isComplete_of_decode? {blob : Bytes}
    (h : ∀ expected actual, decode? blob ≠ .error (.lengthMismatch expected actual)) :
    IsComplete blob := by
  intro expected actual hshort
  exact h expected actual (of_checkedPayload?_eq_error hshort "").2

/-- Blobs that come to the same decode to the same and are fresh for the same texts. -/
theorem read_alike {blob other : Bytes} (h : checkedPayload? other = checkedPayload? blob) :
    decode? other = decode? blob ∧ ∀ source, isFresh? other source = isFresh? blob source := by
  unfold decode? isFresh?
  rw [h]
  exact ⟨rfl, fun _ ↦ rfl⟩

/-! ### Blobs that are cut short -/

section LayOut

variable {unread sum rest : Bytes} {length : Nat}

/-- Assumes: fewer bytes behind the header than it states. This is what the blob is refused for. -/
theorem checkedPayload?_layOut_of_lt (hunread : unread.length = 6) (hlength : length < capacity 4)
    (hsum : sum.length = checksumLength) (hshort : rest.length < length) :
    checkedPayload? (layOut unread length sum rest) =
      .error (.lengthMismatch length rest.length) := by
  have hmagic : (layOut unread length sum rest).take magic.length = magic := by
    unfold layOut
    exact List.take_left
  unfold checkedPayload?
  rw [statedLength_layOut hunread hlength, length_layOut hunread hsum,
    if_neg (Nat.not_lt.mpr (Nat.le_add_right _ _)), if_neg (not_not_intro hmagic),
    if_neg (not_not_intro (statedVersion_layOut unread length sum rest)),
    if_pos (Nat.add_lt_add_left hshort _), Nat.add_sub_cancel_left]

theorem layOut_append (unread : Bytes) (length : Nat) (sum rest : Bytes) :
    layOut unread length sum [] ++ rest = layOut unread length sum rest := by
  simp only [layOut, List.append_assoc, List.nil_append]

/-- Cutting a blob short behind its header cuts what is behind the header. -/
theorem take_layOut (hunread : unread.length = 6) (hsum : sum.length = checksumLength)
    (kept : Nat) :
    (layOut unread length sum rest).take (headerLength + kept) =
      layOut unread length sum (rest.take kept) := by
  have hfront : (layOut unread length sum []).length = headerLength := length_layOut hunread hsum
  rw [← layOut_append unread length sum rest, ← hfront, List.take_length_add_append, layOut_append]

end LayOut

/-- Assumes: an entry whose payload fits into a blob, and fewer bytes of the blob than there are.
They are refused for their number: for want of a header, or else for want of a payload. -/
theorem checkedPayload?_take_encode {entry : Entry} {source? : Option String} {count : Nat}
    (hlength : (writePayload (payloadOf entry source?)).length < capacity 4)
    (hcount : count < (encode entry source?).length) :
    checkedPayload? ((encode entry source?).take count) =
      .error (if count < headerLength then .lengthMismatch headerLength count
        else .lengthMismatch (writePayload (payloadOf entry source?)).length
          (count - headerLength)) := by
  have hcut : ((encode entry source?).take count).length = count :=
    List.length_take_of_le (Nat.le_of_lt hcount)
  by_cases hheader : count < headerLength
  · rw [checkedPayload?_of_lt (by rwa [hcut]), hcut, if_pos hheader]
  obtain ⟨kept, rfl⟩ := Nat.exists_eq_add_of_le (Nat.le_of_not_lt hheader)
  unfold encode at hcount ⊢
  have hsum := length_checksum (writePayload (payloadOf entry source?))
  rw [header_append, length_layOut rfl hsum] at hcount
  have hkept : kept < (writePayload (payloadOf entry source?)).length :=
    Nat.lt_of_add_lt_add_left hcount
  rw [header_append, take_layOut rfl hsum, if_neg hheader, Nat.add_sub_cancel_left]
  have hrest := List.length_take_of_le (Nat.le_of_lt hkept)
  rw [checkedPayload?_layOut_of_lt rfl hlength hsum (by rwa [hrest]), hrest]

/-- No cut of a blob that is written for an entry decodes: it is refused for its length, or for that
of its payload once the header is there. A blob that is not refused for a length, whether it is
readable or not, is read as before with anything behind it, and with any other values for the six
bytes of its header that are not in use: it decodes to the same, and is fresh for the same texts. -/
theorem decode?_within_stated_extent :
    (∀ (entry : Entry) (source? : Option String) (count : Nat),
      (writePayload (payloadOf entry source?)).length < 2 ^ 32 →
      count < (encode entry source?).length →
        decode? ((encode entry source?).take count) =
          .error (if count < 32 then .lengthMismatch 32 count
            else .lengthMismatch (writePayload (payloadOf entry source?)).length (count - 32))) ∧
    ∀ blob : Bytes,
      (∀ expected actual, decode? blob ≠ .error (.lengthMismatch expected actual)) →
        (∀ extra : Bytes, decode? (blob ++ extra) = decode? blob ∧
          ∀ source, isFresh? (blob ++ extra) source = isFresh? blob source) ∧
        ∀ unread : Bytes, unread.length = 6 →
          decode? (blob.take 6 ++ unread ++ blob.drop 12) = decode? blob ∧
          ∀ source, isFresh? (blob.take 6 ++ unread ++ blob.drop 12) source =
            isFresh? blob source := by
  constructor
  · intro entry source? count hlength hcount
    have hcut := checkedPayload?_take_encode hlength hcount
    exact (of_checkedPayload?_eq_error hcut "").2
  · intro blob hblob
    have hcomplete := isComplete_of_decode? hblob
    have hheader := headerLength_le_of_isComplete hcomplete
    constructor
    · intro extra
      exact read_alike (checkedPayload?_of_agrees (agrees_append blob extra) hcomplete)
    · intro unread hunread
      exact read_alike (checkedPayload?_of_agrees (agrees_replace hheader hunread) hcomplete)

/-- A blob cut short before and behind the end of its header, the blob with more bytes behind it and
others in its header, and 32 bytes that begin with no magic word. -/
theorem decode?_within_stated_extent_small :
    let entry : Entry := { name := "r", rules := [.draft { condition := [Token.within "A"] }] }
    let blob := encode entry (some "s")
    let length := (writePayload (payloadOf entry (some "s"))).length
    decode? (blob.take 31) = .error (.lengthMismatch 32 31) ∧
      decode? (blob.take 40) = .error (.lengthMismatch length 8) ∧
      decode? (blob ++ [0]) = .ok entry ∧
      decode? (blob.take 6 ++ [9, 9, 9, 9, 9, 9] ++ blob.drop 12) = .ok entry ∧
      decode? (List.replicate 32 0 ++ [7]) = .error .badMagic := by
  intro entry blob length
  have hfits : length < 2 ^ 32 := by decide +kernel
  have hlong : 40 < blob.length := by decide +kernel
  have hcut (count : Nat) (hcount : count < blob.length) :=
    decode?_within_stated_extent.1 entry (some "s") count hfits hcount
  have hwritten : decode? blob = .ok entry := by
    rw [decode?_encode hfits]
    decide +kernel
  have hread : ∀ expected actual, decode? blob ≠ .error (.lengthMismatch expected actual) := by
    intro expected actual hshort
    cases hwritten.symm.trans hshort
  have hmagic : decode? (List.replicate 32 0) = .error .badMagic := by decide +kernel
  have hrefused : ∀ expected actual,
      decode? (List.replicate 32 0) ≠ .error (.lengthMismatch expected actual) := by
    intro expected actual hshort
    cases hmagic.symm.trans hshort
  have hblob := decode?_within_stated_extent.2 blob hread
  refine ⟨hcut 31 (by omega), hcut 40 hlong, ?_, ?_, ?_⟩
  · rw [(hblob.1 [0]).1, hwritten]
  · rw [(hblob.2 [9, 9, 9, 9, 9, 9] rfl).1, hwritten]
  · rw [((decode?_within_stated_extent.2 _ hrefused).1 [7]).1, hmagic]

end DocumentRules.Archive
