import DocumentRules.Proofs.Archive.Freshness

/-!
# Blobs that were altered

Whatever is done to a blob, it must keep a payload with the checksum that it states. If the checksum
is left as it was, and the bytes that the altered header now delimits do not collide with the
payload as it was written (`Collide`), then the altered blob either has that very payload and reads
as before in every respect, or it is refused before its payload is looked at
(`altered_reads_alike_or_is_refused`). It makes no difference where the bytes were changed, and
whether there are now more or fewer of them.

Digests of 16 bytes do collide. That those of the two payloads at hand do not is what the hash
function is relied on for, and is assumed of them alone.
-/

set_option autoImplicit false
set_option relaxedAutoImplicit false

namespace DocumentRules.Archive

open Text Condition Report

/-- Two payloads are different and have the same checksum. -/
def Collide (first second : Bytes) : Prop := first ≠ second ∧ checksum first = checksum second

instance (first second : Bytes) : Decidable (Collide first second) :=
  inferInstanceAs (Decidable (first ≠ second ∧ checksum first = checksum second))

section Alteration

variable {original altered : Bytes}

/-- Assumes: two framed blobs that state the same checksum, and payloads that do not collide. The
payloads are the same. -/
theorem statedPayload_eq_of_isFramed (horiginal : IsFramed original) (haltered : IsFramed altered)
    (hchecksum : statedChecksum altered = statedChecksum original)
    (hcollide : ¬ Collide (statedPayload altered) (statedPayload original)) :
    statedPayload altered = statedPayload original := by
  by_contra hdifferent
  refine hcollide ⟨hdifferent, ?_⟩
  rw [haltered.checksum_eq, horiginal.checksum_eq, hchecksum]

/-- Assumes: a readable blob, and another that states the same checksum over a payload that does not
collide with that of the first. If the other is framed, it is read as the first is. -/
theorem checkedPayload?_altered {payload : Payload}
    (horiginal : checkedPayload? original = .ok payload)
    (hchecksum : statedChecksum altered = statedChecksum original)
    (hcollide : ¬ Collide (statedPayload altered) (statedPayload original))
    (haltered : IsFramed altered) : checkedPayload? altered = .ok payload := by
  obtain ⟨hframed, rest, hread⟩ := checkedPayload?_eq_ok_iff.mp horiginal
  have hpayload := statedPayload_eq_of_isFramed hframed haltered hchecksum hcollide
  exact checkedPayload?_eq_ok_iff.mpr ⟨haltered, rest, hpayload ▸ hread⟩

end Alteration

theorem exists_checkedPayload?_of_decode? {blob : Bytes} {entry : Entry}
    (h : decode? blob = .ok entry) : ∃ payload, checkedPayload? blob = .ok payload := by
  cases hchecked : checkedPayload? blob with
  | ok payload => exact ⟨payload, rfl⟩
  | error error =>
    have hrefused := (of_checkedPayload?_eq_error hchecked "").2
    cases hrefused.symm.trans h

/-- Assumes: an entry whose blob decodes to it, any bytes that state the checksum of the blob, and
payloads of the two that do not collide.

Either the bytes are framed; then they decode to the entry, and are fresh for a text exactly if the
blob is. Or they are not; then they are refused for their frame, and for the same reason cannot be
asked whether they are fresh. -/
theorem altered_reads_alike_or_is_refused {entry : Entry} {source? : Option String}
    {altered : Bytes} (hsurvives : decode? (encode entry source?) = .ok entry)
    (hchecksum : statedChecksum altered = statedChecksum (encode entry source?))
    (hcollide : ¬ Collide (statedPayload altered) (statedPayload (encode entry source?))) :
    (IsFramed altered ∧ decode? altered = .ok entry ∧
        ∀ source, isFresh? altered source = isFresh? (encode entry source?) source) ∨
      (¬ IsFramed altered ∧ ∃ error : BlobError, error.IsOfFrame ∧
        decode? altered = .error error ∧ ∀ source, isFresh? altered source = .error error) := by
  by_cases haltered : IsFramed altered
  · obtain ⟨payload, hpayload⟩ := exists_checkedPayload?_of_decode? hsurvives
    have hsame := checkedPayload?_altered hpayload hchecksum hcollide haltered
    refine .inl ⟨haltered, ?_, fun source ↦ ?_⟩
    · rw [← hsurvives]
      unfold decode?
      rw [hsame, hpayload]
    · rw [isFresh?_of_checkedPayload? hsame, isFresh?_of_checkedPayload? hpayload]
  · obtain ⟨error, herror, hframe⟩ := exists_checkedPayload?_of_not_isFramed haltered
    exact .inr ⟨haltered, error, hframe, (of_checkedPayload?_eq_error herror "").2,
      fun source ↦ (of_checkedPayload?_eq_error herror source).1⟩

/-- A blob with other bytes where no reader looks and one more byte behind its payload reads as
before. One that states a shorter payload is refused. -/
theorem altered_reads_alike_or_is_refused_small :
    let entry : Entry := { name := "r", rules := [.draft { condition := [Token.within "A"] }] }
    let payload := writePayload (payloadOf entry none)
    let relabelled := layOut [9, 9, 9, 9, 9, 9] payload.length (checksum payload) (payload ++ [0])
    let shortened := layOut [1, 0, 0, 0, 0, 0] 10 (checksum payload) payload
    (decode? relabelled = .ok entry ∧
        ∀ source, isFresh? relabelled source = isFresh? (encode entry none) source) ∧
      ∃ error : BlobError, error.IsOfFrame ∧ decode? shortened = .error error ∧
        ∀ source, isFresh? shortened source = .error error := by
  intro entry payload relabelled shortened
  have hfits : payload.length < capacity 4 := by decide +kernel
  have hshort : 10 < capacity 4 := by decide
  have hsum := length_checksum payload
  have hsurvives : decode? (encode entry none) = .ok entry := by
    rw [decode?_encode hfits]
    decide +kernel
  have hwritten : statedPayload (encode entry none) = payload := statedPayload_header hfits
  have hchecksum : ∀ {unread rest : Bytes} {length : Nat}, unread.length = 6 →
      statedChecksum (layOut unread length (checksum payload) rest) =
        statedChecksum (encode entry none) := fun hunread ↦
    (statedChecksum_layOut hunread _ hsum _).trans (statedChecksum_header payload).symm
  constructor
  · have hpayload : statedPayload relabelled = payload := by
      rw [statedPayload_layOut rfl hfits hsum, List.take_left]
    have hframed : IsFramed relabelled := by
      rw [isFramed_layOut_iff rfl hfits hsum, List.take_left, List.length_append]
      exact ⟨Nat.le_add_right _ _, rfl⟩
    have hreads := altered_reads_alike_or_is_refused hsurvives (hchecksum rfl)
      fun hcollide ↦ hcollide.1 (hpayload.trans hwritten.symm)
    exact (hreads.resolve_right fun hrefused ↦ hrefused.1 hframed).2
  · have hdiffer : checksum (payload.take 10) ≠ checksum payload := by decide +kernel
    have hpayload : statedPayload shortened = payload.take 10 :=
      statedPayload_layOut rfl hshort hsum payload
    have hcollide : ¬ Collide (statedPayload shortened) (statedPayload (encode entry none)) := by
      rw [hpayload, hwritten]
      exact fun hcollide ↦ hdiffer hcollide.2
    have hframed : ¬ IsFramed shortened := by
      rw [isFramed_layOut_iff rfl hshort hsum]
      exact fun hframed ↦ hdiffer hframed.2
    have hrefused := altered_reads_alike_or_is_refused hsurvives (hchecksum rfl) hcollide
    exact (hrefused.resolve_left fun hreads ↦ hframed hreads.1).2

end DocumentRules.Archive
