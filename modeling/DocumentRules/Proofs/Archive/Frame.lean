import DocumentRules.Archive.Blob

/-!
# The frame of a blob

A blob frames a payload when its header is complete and begins with the magic word and the version
of the format, the payload is as long as the header states, and the checksum is that of the payload
(`IsFramed`). These are all the checks that come before the payload is read: a blob is readable
exactly when it is framed and its payload can be read (`checkedPayload?_eq_ok_iff`). What a framed
blob comes to depends on its payload alone (`checkedPayload?_of_isFramed`), and of any other blob
the payload is not looked at (`exists_checkedPayload?_of_not_isFramed`).
-/

set_option autoImplicit false
set_option relaxedAutoImplicit false

namespace DocumentRules.Archive

open Text

/-- The bytes behind the header, as many of them as the header states. -/
def statedPayload (blob : Bytes) : Bytes := slice headerLength (statedLength blob) blob

/-- A blob that passes all checks that come before its payload is read. -/
structure IsFramed (blob : Bytes) : Prop where
  headerLength_le : headerLength ≤ blob.length
  take_eq_magic : blob.take magic.length = magic
  statedVersion_eq : statedVersion blob = formatVersion
  payload_le : headerLength + statedLength blob ≤ blob.length
  checksum_eq : checksum (statedPayload blob) = statedChecksum blob

/-- A framed blob comes to what its payload can be read as. -/
theorem checkedPayload?_of_isFramed {blob : Bytes} (h : IsFramed blob) :
    checkedPayload? blob =
      match readPayload (statedPayload blob) with
      | some (payload, _) => .ok payload
      | none => .error .undecodable := by
  unfold checkedPayload?
  rw [if_neg (Nat.not_lt.mpr h.headerLength_le), if_neg (not_not_intro h.take_eq_magic),
    if_neg (not_not_intro h.statedVersion_eq), if_neg (Nat.not_lt.mpr h.payload_le)]
  exact if_neg (not_not_intro h.checksum_eq)

/-- The errors of blobs whose payload is not looked at. -/
def BlobError.IsOfFrame : BlobError → Prop
  | .badMagic | .incompatibleVersion _ | .checksumMismatch | .lengthMismatch _ _ => True
  | .undecodable | .inconsistent _ => False

/-- A blob that is not framed is refused before its payload is looked at. -/
theorem exists_checkedPayload?_of_not_isFramed {blob : Bytes} (h : ¬ IsFramed blob) :
    ∃ error : BlobError, checkedPayload? blob = .error error ∧ error.IsOfFrame := by
  unfold checkedPayload?
  split
  · exact ⟨_, rfl, trivial⟩
  rename_i hheader
  split
  · exact ⟨_, rfl, trivial⟩
  rename_i hmagic
  split
  · exact ⟨_, rfl, trivial⟩
  rename_i hversion
  split
  · exact ⟨_, rfl, trivial⟩
  rename_i hpayload
  dsimp only
  split
  · exact ⟨_, rfl, trivial⟩
  rename_i hchecksum
  exact absurd ⟨Nat.not_lt.mp hheader, Decidable.of_not_not hmagic, Decidable.of_not_not hversion,
    Nat.not_lt.mp hpayload, Decidable.of_not_not hchecksum⟩ h

theorem isFramed_of_checkedPayload? {blob : Bytes} {payload : Payload}
    (h : checkedPayload? blob = .ok payload) : IsFramed blob := by
  refine Classical.byContradiction fun hframe ↦ ?_
  obtain ⟨error, herror, -⟩ := exists_checkedPayload?_of_not_isFramed hframe
  cases herror.symm.trans h

/-- A blob is readable exactly when it is framed and its payload can be read. -/
theorem checkedPayload?_eq_ok_iff {blob : Bytes} {payload : Payload} :
    checkedPayload? blob = .ok payload ↔
      IsFramed blob ∧ ∃ rest, readPayload (statedPayload blob) = some (payload, rest) := by
  constructor
  · intro h
    have hframed := isFramed_of_checkedPayload? h
    rw [checkedPayload?_of_isFramed hframed] at h
    split at h
    · rename_i read rest hread
      obtain rfl := Except.ok.inj h
      exact ⟨hframed, rest, hread⟩
    · cases h
  · rintro ⟨hframed, rest, hread⟩
    rw [checkedPayload?_of_isFramed hframed, hread]

/-! ### Blobs by their parts -/

theorem length_digest (input : Bytes) : (digest input).length = digestLength := by
  unfold digest
  rw [List.length_flatMap]
  simp [Digest.bytesOf, digestLength, List.map_const']

theorem length_checksum (payload : Bytes) : (checksum payload).length = checksumLength := by
  unfold checksum
  rw [List.length_take, length_digest]
  rfl

/-- A part of a blob behind a front of known length. -/
theorem slice_append {start length : Nat} {front part rest : Bytes} (hfront : front.length = start)
    (hpart : part.length = length) : slice start length (front ++ (part ++ rest)) = part := by
  unfold slice
  rw [← hfront, ← hpart, List.drop_left, List.take_left]

/-- A blob of the present format, by what it leaves open: the bytes of the header that no reader
looks at, the stated length and checksum, and what follows the header. -/
def layOut (unread : Bytes) (length : Nat) (sum rest : Bytes) : Bytes :=
  magic ++ (littleEndian 2 formatVersion ++ (unread ++ (littleEndian 4 length ++ (sum ++ rest))))

section LayOut

variable {unread sum rest : Bytes} {length : Nat}

theorem statedVersion_layOut (unread : Bytes) (length : Nat) (sum rest : Bytes) :
    statedVersion (layOut unread length sum rest) = formatVersion := by
  have hfront : magic.length = 4 := rfl
  unfold statedVersion layOut
  rw [slice_append hfront (length_littleEndian 2 formatVersion)]
  rfl

theorem length_layOut (hunread : unread.length = 6) (hsum : sum.length = checksumLength) :
    (layOut unread length sum rest).length = headerLength + rest.length := by
  simp only [layOut, List.length_append, length_littleEndian, hunread, hsum, magic, checksumLength,
    headerLength, List.length_cons, List.length_nil]
  omega

theorem statedLength_layOut (hunread : unread.length = 6) (hlength : length < capacity 4)
    (sum rest : Bytes) : statedLength (layOut unread length sum rest) = length := by
  have hfront : (magic ++ littleEndian 2 formatVersion ++ unread).length = 12 := by
    rw [List.length_append, hunread]
    rfl
  unfold statedLength layOut
  rw [← List.append_assoc, ← List.append_assoc, slice_append hfront (length_littleEndian 4 length),
    ofLittleEndian_littleEndian hlength]

theorem statedChecksum_layOut (hunread : unread.length = 6) (length : Nat)
    (hsum : sum.length = checksumLength) (rest : Bytes) :
    statedChecksum (layOut unread length sum rest) = sum := by
  have hfront : (magic ++ littleEndian 2 formatVersion ++ unread ++ littleEndian 4 length).length =
      16 := by
    rw [List.length_append, List.length_append, hunread, length_littleEndian]
    rfl
  unfold statedChecksum layOut
  rw [← List.append_assoc, ← List.append_assoc, ← List.append_assoc, slice_append hfront hsum]

theorem statedPayload_layOut (hunread : unread.length = 6) (hlength : length < capacity 4)
    (hsum : sum.length = checksumLength) (rest : Bytes) :
    statedPayload (layOut unread length sum rest) = rest.take length := by
  have hfront : (magic ++ littleEndian 2 formatVersion ++ unread ++ littleEndian 4 length ++
      sum).length = headerLength := by
    rw [List.length_append, List.length_append, List.length_append, hunread, length_littleEndian,
      hsum]
    rfl
  unfold statedPayload
  rw [statedLength_layOut hunread hlength]
  unfold slice layOut
  rw [← List.append_assoc, ← List.append_assoc, ← List.append_assoc, ← List.append_assoc, ← hfront,
    List.drop_left]

/-- A blob of the present format is framed exactly when enough bytes follow its header for the
stated length, and the checksum is that of so many of them. -/
theorem isFramed_layOut_iff (hunread : unread.length = 6) (hlength : length < capacity 4)
    (hsum : sum.length = checksumLength) :
    IsFramed (layOut unread length sum rest) ↔
      length ≤ rest.length ∧ checksum (rest.take length) = sum := by
  have hstated := statedLength_layOut hunread hlength sum rest
  have hpayload := statedPayload_layOut hunread hlength hsum rest
  have hchecksum := statedChecksum_layOut hunread length hsum rest
  have htotal : (layOut unread length sum rest).length = headerLength + rest.length :=
    length_layOut hunread hsum
  constructor
  · intro h
    have hle := h.payload_le
    have heq := h.checksum_eq
    rw [hstated, htotal] at hle
    rw [hpayload, hchecksum] at heq
    exact ⟨Nat.le_of_add_le_add_left hle, heq⟩
  · rintro ⟨hle, heq⟩
    refine ⟨?_, by simp [layOut, magic], statedVersion_layOut unread length sum rest, ?_, ?_⟩
    · rw [htotal]
      exact Nat.le_add_right _ _
    · rw [hstated, htotal]
      exact Nat.add_le_add_left hle _
    · rw [hpayload, hchecksum, heq]

end LayOut

/-! ### Blobs as they are written -/

theorem header_append (payload : Bytes) :
    header payload ++ payload =
      layOut (littleEndian 2 engineVersion ++ littleEndian 4 0) payload.length (checksum payload)
        payload := by
  simp only [header, layOut, List.append_assoc]

section Header

variable {payload : Bytes}

theorem statedChecksum_header (payload : Bytes) :
    statedChecksum (header payload ++ payload) = checksum payload := by
  rw [header_append, statedChecksum_layOut rfl _ (length_checksum payload)]

/-- Assumes: a payload shorter than the length in a header can say. It is the payload of its
blob. -/
theorem statedPayload_header (hlength : payload.length < capacity 4) :
    statedPayload (header payload ++ payload) = payload := by
  rw [header_append, statedPayload_layOut rfl hlength (length_checksum payload), List.take_length]

/-- Assumes: a payload shorter than the length in a header can say. Its blob is framed. -/
theorem isFramed_header (hlength : payload.length < capacity 4) :
    IsFramed (header payload ++ payload) := by
  rw [header_append, isFramed_layOut_iff rfl hlength (length_checksum payload), List.take_length]
  exact ⟨Nat.le_refl _, rfl⟩

end Header

end DocumentRules.Archive
