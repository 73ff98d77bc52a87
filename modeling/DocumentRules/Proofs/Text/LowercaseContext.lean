import DocumentRules.Text.Lowercase
import DocumentRules.Text.Search

/-!
# Lower case in context

The lower-case form of a text is made of those of its parts, each in the context of the others
(`lowercaseBetween_append`). A context is one truth value on either side: whether the nearest
character there that is not case-ignorable is cased. It makes a difference for capital sigmas alone
(`lowercaseBetween_eq_iff`), and only for those that are open at one side of the text
(`hasSettledSigmas_iff`).

A part of a text is therefore found again in lower case wherever it stands exactly if its sigmas are
settled (`forall_occursIn_lowercase_iff`).
-/

set_option autoImplicit false
set_option relaxedAutoImplicit false

namespace DocumentRules.Text

/-! ### Contexts -/

/-- Whether the nearest character in front that is not case-ignorable is cased, seen from behind a
text; `afterCased` tells it of what stands in front of the text. -/
def casedBehind (afterCased : Bool) (front : List Char) : Bool := front.foldl casedAfter afterCased

/-- Whether the nearest character behind that is not case-ignorable is cased, seen from in front of
a text; `beforeCased` tells it of what stands behind the text. -/
def casedAhead (beforeCased : Bool) (back : List Char) : Bool :=
  back.foldr (fun character cased ↦ casedAfter cased character) beforeCased

theorem startsCased_eq (text : List Char) : startsCased text = casedAhead false text := by
  induction text with
  | nil => rfl
  | cons character rest ih => rw [startsCased, ih]; rfl

theorem casedBehind_append (afterCased : Bool) (front back : List Char) :
    casedBehind afterCased (front ++ back) = casedBehind (casedBehind afterCased front) back :=
  List.foldl_append

theorem casedAhead_append (beforeCased : Bool) (front back : List Char) :
    casedAhead beforeCased (front ++ back) = casedAhead (casedAhead beforeCased back) front :=
  List.foldr_append

/-- What stands in front is seen through a text of case-ignorable characters only. -/
theorem casedBehind_eq (afterCased : Bool) (front : List Char) :
    casedBehind afterCased front =
      if front.all isCaseIgnorable then afterCased else casedBehind false front := by
  induction front generalizing afterCased with
  | nil => rfl
  | cons character rest ih =>
    change casedBehind (casedAfter afterCased character) rest =
      if _ then _ else casedBehind (casedAfter false character) rest
    rw [ih, ih (casedAfter false character), List.all_cons, casedAfter, casedAfter]
    cases isCaseIgnorable character <;> cases rest.all isCaseIgnorable <;> rfl

/-- What stands behind is seen through a text of case-ignorable characters only. -/
theorem casedAhead_eq (beforeCased : Bool) (back : List Char) :
    casedAhead beforeCased back =
      if back.all isCaseIgnorable then beforeCased else casedAhead false back := by
  induction back with
  | nil => rfl
  | cons character rest ih =>
    change casedAfter (casedAhead beforeCased rest) character =
      if _ then _ else casedAfter (casedAhead false rest) character
    rw [ih, List.all_cons, casedAfter, casedAfter]
    cases isCaseIgnorable character <;> cases rest.all isCaseIgnorable <;> rfl

/-! ### The lower-case form of a part of a text -/

/-- Whether a capital sigma between two texts becomes a final one, in the context of both. -/
def takesFinal (afterCased beforeCased : Bool) (front back : List Char) : Bool :=
  casedBehind afterCased front && !casedAhead beforeCased back

/-- The lower-case form of a character that stands in front of a text, in a context. -/
def lowercaseBeside (afterCased beforeCased : Bool) (character : Char) (back : List Char) :
    List Char :=
  if character == 'Σ' then [if takesFinal afterCased beforeCased [] back then 'ς' else 'σ']
  else lowercaseCharacter character

/-- The lower-case form of a part of a text, in the context of what stands around it. -/
def lowercaseBetween (afterCased beforeCased : Bool) : List Char → List Char
  | [] => []
  | character :: rest =>
    lowercaseBeside afterCased beforeCased character rest ++
      lowercaseBetween (casedAfter afterCased character) beforeCased rest

/-- The end of a text has nothing behind it. -/
theorem lowercaseFrom_eq (afterCased : Bool) (text : List Char) :
    lowercaseFrom afterCased text = lowercaseBetween afterCased false text := by
  induction text generalizing afterCased with
  | nil => rfl
  | cons character rest ih =>
    rw [lowercaseFrom, lowercaseBetween, ih, lowercaseInContext, startsCased_eq]
    rfl

/-- A whole text has nothing around it. -/
theorem lowercase_eq_lowercaseBetween (text : List Char) :
    lowercase text = lowercaseBetween false false text := by
  rw [lowercase_eq, lowercaseFrom_eq]

/-- Each of two parts is put in lower case in the context of the other. -/
theorem lowercaseBetween_append (afterCased beforeCased : Bool) (front back : List Char) :
    lowercaseBetween afterCased beforeCased (front ++ back) =
      lowercaseBetween afterCased (casedAhead beforeCased back) front ++
        lowercaseBetween (casedBehind afterCased front) beforeCased back := by
  induction front generalizing afterCased with
  | nil => rfl
  | cons character rest ih =>
    have hbeside : lowercaseBeside afterCased beforeCased character (rest ++ back) =
        lowercaseBeside afterCased (casedAhead beforeCased back) character rest := by
      rw [lowercaseBeside, lowercaseBeside, takesFinal, takesFinal, casedAhead_append]
    rw [List.cons_append, lowercaseBetween, lowercaseBetween, ih, hbeside, List.append_assoc]
    rfl

theorem lowercaseBetween_append_cons (afterCased beforeCased : Bool) (front : List Char)
    (character : Char) (back : List Char) :
    lowercaseBetween afterCased beforeCased (front ++ character :: back) =
      lowercaseBetween afterCased (casedAhead beforeCased (character :: back)) front ++
        (lowercaseBeside (casedBehind afterCased front) beforeCased character back ++
          lowercaseBetween (casedBehind afterCased (front ++ [character])) beforeCased back) := by
  rw [lowercaseBetween_append, lowercaseBetween, casedBehind_append]
  rfl

/-- No context changes the number of characters. -/
theorem length_lowercaseBetween (afterCased beforeCased : Bool) (text : List Char) :
    (lowercaseBetween afterCased beforeCased text).length =
      (text.flatMap lowercaseCharacter).length := by
  induction text generalizing afterCased with
  | nil => rfl
  | cons character rest ih =>
    have hbeside : (lowercaseBeside afterCased beforeCased character rest).length =
        (lowercaseCharacter character).length := by
      unfold lowercaseBeside
      split
      · rename_i hsigma
        rw [beq_iff_eq.mp hsigma]
        simp [lowercaseCharacter]
      · rfl
    rw [lowercaseBetween, List.length_append, ih, hbeside, List.flatMap_cons, List.length_append]

/-- A text without capital sigmas has one lower-case form in all contexts. -/
theorem lowercaseBetween_of_not_mem {text : List Char} (h : 'Σ' ∉ text)
    (afterCased beforeCased : Bool) :
    lowercaseBetween afterCased beforeCased text = text.flatMap lowercaseCharacter := by
  induction text generalizing afterCased with
  | nil => rfl
  | cons character rest ih =>
    have hne : ¬ (character == 'Σ') = true :=
      fun hsigma ↦ h (beq_iff_eq.mp hsigma ▸ List.mem_cons_self)
    rw [lowercaseBetween, ih (List.not_mem_of_not_mem_cons h), lowercaseBeside, if_neg hne,
      List.flatMap_cons]

/-! ### Sigmas -/

theorem forall_eq_append_cons_iff {character wanted : Char} {rest : List Char}
    {property : List Char → List Char → Prop} :
    (∀ front back, character :: rest = front ++ wanted :: back → property front back) ↔
      (character = wanted → property [] rest) ∧
        ∀ front back, rest = front ++ wanted :: back → property (character :: front) back := by
  constructor
  · intro h
    exact ⟨fun heq ↦ h [] rest (by rw [heq]; rfl),
      fun front back heq ↦ h (character :: front) back (by rw [heq]; rfl)⟩
  · rintro ⟨hfirst, hrest⟩ front back heq
    cases front with
    | nil =>
      obtain ⟨rfl, rfl⟩ := List.cons.inj heq
      exact hfirst rfl
    | cons first front =>
      obtain ⟨rfl, rfl⟩ := List.cons.inj heq
      exact hrest front back rfl

/-- Two contexts give a text the same lower-case form exactly if they give each of its capital
sigmas the same. -/
theorem lowercaseBetween_eq_iff {after before after' before' : Bool} {text : List Char} :
    lowercaseBetween after before text = lowercaseBetween after' before' text ↔
      ∀ front back, text = front ++ 'Σ' :: back →
        takesFinal after before front back = takesFinal after' before' front back := by
  induction text generalizing after after' with
  | nil => simp [lowercaseBetween]
  | cons character rest ih =>
    rw [forall_eq_append_cons_iff, lowercaseBetween, lowercaseBetween]
    change _ ↔ _ ∧ ∀ front back, rest = front ++ 'Σ' :: back →
      takesFinal (casedAfter after character) before front back =
        takesFinal (casedAfter after' character) before' front back
    rw [← ih, lowercaseBeside, lowercaseBeside]
    by_cases hsigma : character = 'Σ'
    · rw [if_pos (beq_iff_eq.mpr hsigma), if_pos (beq_iff_eq.mpr hsigma), List.singleton_append,
        List.singleton_append, List.cons.injEq]
      refine and_congr_left fun _ ↦ ?_
      cases takesFinal after before [] rest <;> cases takesFinal after' before' [] rest <;>
        simp [hsigma]
    · rw [if_neg (mt beq_iff_eq.mp hsigma), if_neg (mt beq_iff_eq.mp hsigma),
        List.append_cancel_left_eq]
      exact (and_iff_right fun heq ↦ absurd heq hsigma).symm

/-- The form of a capital sigma between two parts of a text hangs on what stands around the text:
either nothing but case-ignorable characters is in front of it, and it would be final behind a cased
character, or it is final, and nothing but case-ignorable characters follows. -/
def IsOpenSigma (front back : List Char) : Prop :=
  (front.all isCaseIgnorable = true ∧ casedAhead false back = false) ∨
    (casedBehind false front = true ∧ back.all isCaseIgnorable = true)

/-- No capital sigma of a text hangs on what stands around the text. -/
def HasSettledSigmas (text : List Char) : Prop :=
  ∀ front back, text = front ++ 'Σ' :: back → ¬ IsOpenSigma front back

/-- A cased character on one side changes an open sigma, and no context changes another one. -/
theorem takesFinal_in_contexts (front back : List Char) :
    (IsOpenSigma front back →
      takesFinal true false front back ≠ takesFinal false false front back ∨
        takesFinal false true front back ≠ takesFinal false false front back) ∧
    (¬ IsOpenSigma front back → ∀ afterCased beforeCased,
      takesFinal afterCased beforeCased front back = takesFinal false false front back) := by
  -- of each text two truth values matter: whether it is seen through, and what it says otherwise
  obtain ⟨frontIgnorable, behind, hfront, hbehind⟩ : ∃ ignorable cased,
      front.all isCaseIgnorable = ignorable ∧
        ∀ afterCased, casedBehind afterCased front = if ignorable then afterCased else cased :=
    ⟨_, _, rfl, (casedBehind_eq · front)⟩
  obtain ⟨backIgnorable, ahead, hback, hahead⟩ : ∃ ignorable cased,
      back.all isCaseIgnorable = ignorable ∧
        ∀ beforeCased, casedAhead beforeCased back = if ignorable then beforeCased else cased :=
    ⟨_, _, rfl, (casedAhead_eq · back)⟩
  simp only [IsOpenSigma, takesFinal, hfront, hback, hbehind, hahead]
  clear hfront hback hbehind hahead
  revert frontIgnorable behind backIgnorable ahead
  decide

theorem HasSettledSigmas.lowercaseBetween_eq {text : List Char} (h : HasSettledSigmas text)
    (afterCased beforeCased : Bool) :
    lowercaseBetween afterCased beforeCased text = lowercase text := by
  rw [lowercase_eq_lowercaseBetween, lowercaseBetween_eq_iff]
  exact fun front back htext ↦
    (takesFinal_in_contexts front back).2 (h front back htext) afterCased beforeCased

/-- The sigmas of a text are settled if a cased character on either side changes none of them. -/
theorem hasSettledSigmas_iff {text : List Char} :
    HasSettledSigmas text ↔
      lowercaseBetween true false text = lowercase text ∧
        lowercaseBetween false true text = lowercase text := by
  refine ⟨fun h ↦ ⟨h.lowercaseBetween_eq true false, h.lowercaseBetween_eq false true⟩, ?_⟩
  rw [lowercase_eq_lowercaseBetween, lowercaseBetween_eq_iff, lowercaseBetween_eq_iff]
  rintro ⟨hbehind, hahead⟩ front back htext hopen
  rcases (takesFinal_in_contexts front back).1 hopen with hchanged | hchanged
  · exact hchanged (hbehind front back htext)
  · exact hchanged (hahead front back htext)

instance (text : List Char) : Decidable (HasSettledSigmas text) :=
  decidable_of_iff _ hasSettledSigmas_iff.symm

/-! ### Finding a part in lower case -/

/-- A needle is found in lower case where a part of the text has the needle's lower-case form. -/
theorem occursIn_lowercase_of_eq {needle before text after : List Char}
    (h : lowercaseBetween (casedBehind false before) (casedAhead false after) text =
      lowercase needle) :
    occursIn (lowercase needle) (lowercase (before ++ text ++ after)) = true := by
  rw [occursIn_iff, lowercase_eq_lowercaseBetween (before ++ text ++ after), List.append_assoc,
    lowercaseBetween_append, lowercaseBetween_append, h]
  exact ⟨_, _, (List.append_assoc _ _ _).symm⟩

theorem eq_of_occursIn_of_length_eq {needle text : List Char} (h : occursIn needle text = true)
    (hlength : needle.length = text.length) : needle = text := by
  obtain ⟨before, after, htext⟩ := (occursIn_iff needle text).mp h
  exact List.IsInfix.eq_of_length ⟨before, after, htext.symm⟩ hlength

/-- A text that is found in one with a further character in front is that text, or begins with the
character. -/
theorem eq_or_head?_of_occursIn_cons {needle text : List Char} {character : Char}
    (h : occursIn needle (character :: text) = true) (hlength : needle.length = text.length) :
    needle = text ∨ needle.head? = some character := by
  rw [occursIn, Bool.or_eq_true, List.isPrefixOf_iff_prefix, List.prefix_cons_iff] at h
  rcases h with (rfl | ⟨rest, rfl, -⟩) | h
  · exact Or.inl (List.eq_nil_of_length_eq_zero hlength.symm).symm
  · exact Or.inr rfl
  · exact Or.inl (eq_of_occursIn_of_length_eq h hlength)

/-- A text that is found in one with a further character behind is that text, or ends with the
character. -/
theorem eq_or_getLast?_of_occursIn_append {needle text : List Char} {character : Char}
    (h : occursIn needle (text ++ [character]) = true) (hlength : needle.length = text.length) :
    needle = text ∨ needle.getLast? = some character := by
  obtain ⟨before, after, htext⟩ := (occursIn_iff _ _).mp h
  rcases List.infix_concat_iff.mp ⟨before, after, htext.symm⟩ with hend | hinside
  · rcases List.suffix_concat_iff.mp hend with rfl | ⟨rest, rfl, -⟩
    · exact Or.inl (List.eq_nil_of_length_eq_zero hlength.symm).symm
    · exact Or.inr List.getLast?_concat
  · exact Or.inl (hinside.eq_of_length hlength)

/-- A letter that is its own lower-case form. -/
structure IsPlainLetter (letter : Char) : Prop where
  lowercaseBetween_eq : ∀ afterCased beforeCased,
    lowercaseBetween afterCased beforeCased [letter] = [letter]
  casedAfter_eq : ∀ afterCased, casedAfter afterCased letter = true

/-- One of two letters is not the given one. -/
theorem exists_isPlainLetter_ne (avoided : Option Char) :
    ∃ letter, IsPlainLetter letter ∧ avoided ≠ some letter := by
  by_cases h : avoided = some 'a'
  · exact ⟨'b', ⟨by decide, by decide⟩, by rw [h]; decide⟩
  · exact ⟨'a', ⟨by decide, by decide⟩, h⟩

/-- A text whose sigmas are not settled is lost in lower case behind some letter, or in front of
one. -/
theorem exists_occursIn_of_not_hasSettledSigmas {text : List Char} (h : ¬ HasSettledSigmas text) :
    ∃ content, occursIn text content = true ∧
      occursIn (lowercase text) (lowercase content) = false := by
  have hlength (afterCased beforeCased : Bool) : (lowercase text).length =
      (lowercaseBetween afterCased beforeCased text).length := by
    rw [lowercase_eq_lowercaseBetween, length_lowercaseBetween, length_lowercaseBetween]
  rw [hasSettledSigmas_iff, Decidable.not_and_iff_not_or_not] at h
  rcases h with hchanged | hchanged
  · obtain ⟨letter, hletter, hne⟩ := exists_isPlainLetter_ne (lowercase text).head?
    refine ⟨letter :: text, (occursIn_iff _ _).mpr ⟨[letter], [], by simp⟩, ?_⟩
    have hcontent : lowercase (letter :: text) = letter :: lowercaseBetween true false text := by
      rw [lowercase_eq_lowercaseBetween, ← List.singleton_append, lowercaseBetween_append,
        hletter.lowercaseBetween_eq, casedBehind, List.foldl_cons, hletter.casedAfter_eq]
      rfl
    rw [hcontent, Bool.eq_false_iff]
    intro hfound
    rcases eq_or_head?_of_occursIn_cons hfound (hlength true false) with heq | hhead
    · exact hchanged heq.symm
    · exact hne hhead
  · obtain ⟨letter, hletter, hne⟩ := exists_isPlainLetter_ne (lowercase text).getLast?
    refine ⟨text ++ [letter], (occursIn_iff _ _).mpr ⟨[], [letter], by simp⟩, ?_⟩
    have hcontent :
        lowercase (text ++ [letter]) = lowercaseBetween false true text ++ [letter] := by
      rw [lowercase_eq_lowercaseBetween, lowercaseBetween_append, hletter.lowercaseBetween_eq,
        casedAhead, List.foldr_cons, hletter.casedAfter_eq]
    rw [hcontent, Bool.eq_false_iff]
    intro hfound
    rcases eq_or_getLast?_of_occursIn_append hfound (hlength false true) with heq | hlast
    · exact hchanged heq.symm
    · exact hne hlast

/-- A text is found again in lower case wherever it stands exactly if its sigmas are settled. -/
theorem forall_occursIn_lowercase_iff {text : List Char} :
    (∀ content, occursIn text content = true →
      occursIn (lowercase text) (lowercase content) = true) ↔ HasSettledSigmas text := by
  constructor
  · refine fun h ↦ Decidable.byContradiction fun hopen ↦ ?_
    obtain ⟨content, hfound, hlost⟩ := exists_occursIn_of_not_hasSettledSigmas hopen
    rw [h content hfound] at hlost
    cases hlost
  · intro h content hfound
    obtain ⟨before, after, rfl⟩ := (occursIn_iff _ _).mp hfound
    exact occursIn_lowercase_of_eq (h.lowercaseBetween_eq _ _)

end DocumentRules.Text
