import DocumentRules.Evaluation.NodeView
import DocumentRules.Proofs.Project.Growth
import DocumentRules.Proofs.Text.Segments
import Mathlib.Data.List.DropRight

/-!
# Spellings of a scope

A scope can be written in many ways: with blanks around it, with slashes at either end, and with an
asterisk behind the last slash (`Spelling`). A text names a scope as it stands (`NamesScope`) when
it is none of these ways of writing something else, or of writing nothing. Then all its spellings
are read as scopes whose targets have the same segments (`NamesScope.exists_parse?_write`), and as a
`path` comparison looks at nothing but the segments, it has the same answer under all of them
(`spellings_hold_alike`).

The excluded texts do differ from their spellings. Slashes alone name nothing, and with an asterisk
they name the root. An asterisk alone is the name of a folder, and behind a slash it is not.
-/

set_option autoImplicit false
set_option relaxedAutoImplicit false

namespace DocumentRules.Text

/-! ### Texts without blanks at their ends -/

/-- A text neither starts nor ends with a blank. -/
def HasBareEnds (text : List Char) : Prop :=
  ∀ character, character ∈ text.head? ∨ character ∈ text.getLast? → isBlank character = false

theorem HasBareEnds.trim_eq {text : List Char} (h : HasBareEnds text) : trim text = text := by
  have hstart : trimStart text = text := by
    refine List.dropWhile_eq_self_iff.mpr fun hlength hblank ↦ ?_
    rw [h _ (.inl (List.head?_eq_getElem?.trans (List.getElem?_eq_getElem hlength)))] at hblank
    exact Bool.false_ne_true hblank
  rw [trim, hstart]
  refine List.rdropWhile_eq_self_iff.mpr fun hne hblank ↦ ?_
  rw [h _ (.inr (List.getLast?_eq_some_getLast hne))] at hblank
  exact Bool.false_ne_true hblank

theorem HasBareEnds.append {first second : List Char} (hfirst : HasBareEnds first)
    (hsecond : HasBareEnds second) : HasBareEnds (first ++ second) := by
  intro character hend
  rw [List.head?_append, List.getLast?_append, Option.mem_def, Option.mem_def,
    Option.or_eq_some_iff, Option.or_eq_some_iff] at hend
  rcases hend with (hhead | ⟨-, hhead⟩) | (hlast | ⟨-, hlast⟩)
  · exact hfirst character (.inl hhead)
  · exact hsecond character (.inl hhead)
  · exact hsecond character (.inr hlast)
  · exact hfirst character (.inr hlast)

theorem hasBareEnds_of_any_eq_false {text : List Char} (h : text.any isBlank = false) :
    HasBareEnds text := by
  intro character hend
  have hmem : character ∈ text := hend.elim List.mem_of_mem_head? List.mem_of_mem_getLast?
  exact Bool.eq_false_iff.mpr (List.any_eq_false.mp h character hmem)

theorem hasBareEnds_replicate_slash (slashes : Nat) : HasBareEnds (List.replicate slashes '/') := by
  refine hasBareEnds_of_any_eq_false ?_
  rw [List.any_replicate]
  split <;> rfl

end DocumentRules.Text

namespace DocumentRules.Evaluation

open Text Condition Project

/-! ### Slashes and the asterisk at the end -/

theorem segments_trimSlashes (text : List Char) : segments (trimSlashes text) = segments text := by
  have hslashes : text.rtakeWhile (· == '/') =
      List.replicate (text.rtakeWhile (· == '/')).length '/' := by
    refine List.eq_replicate_of_mem fun character hmem ↦ ?_
    have hslash := List.mem_rtakeWhile_imp hmem
    exact beq_iff_eq.mp hslash
  have htext : trimSlashes text ++ text.rtakeWhile (· == '/') = text :=
    List.rdropWhile_append_rtakeWhile
  rw [hslashes] at htext
  rw [← segments_append_replicate_slash (trimSlashes text), htext]

theorem dropAsterisk?_append (text : List Char) :
    dropAsterisk? (text ++ ['/', '*']) = some text := by
  simp [dropAsterisk?]

theorem dropAsterisk?_eq_none {text : List Char} (h : ¬ ['/', '*'] <:+ text) :
    dropAsterisk? text = none := by
  unfold dropAsterisk?
  split
  · rename_i rest hreverse
    refine absurd ⟨rest.reverse, ?_⟩ h
    rw [← List.reverse_reverse text, hreverse]
    simp
  · rfl

/-! ### Ways to write a scope -/

/-- A text that names a scope as it stands. -/
structure NamesScope (text : List Char) : Prop where
  hasBareEnds : HasBareEnds text
  exists_ne_slash : ∃ character ∈ text, character ≠ '/'
  ne_asterisk : text ≠ ['*']
  not_suffix_asterisk : ¬ ['/', '*'] <:+ text

/-- A way to write a scope: the blanks in front and behind, the number of slashes at either end of
the text, and whether a slash and an asterisk follow. -/
structure Spelling where
  front : List Char := []
  leading : Nat := 0
  trailing : Nat := 0
  starred : Bool := false
  back : List Char := []
  isBlank_front : front.all isBlank = true := by rfl
  isBlank_back : back.all isBlank = true := by rfl

namespace Spelling

/-- A text with slashes at its ends. -/
def withSlashes (spelling : Spelling) (text : List Char) : List Char :=
  List.replicate spelling.leading '/' ++ text ++ List.replicate spelling.trailing '/'

/-- A text with all that a spelling adds but the blanks. -/
def withoutBlanks (spelling : Spelling) (text : List Char) : List Char :=
  spelling.withSlashes text ++ if spelling.starred then ['/', '*'] else []

/-- A text in some spelling. -/
def write (spelling : Spelling) (text : List Char) : List Char :=
  spelling.front ++ spelling.withoutBlanks text ++ spelling.back

theorem segments_withSlashes (spelling : Spelling) (text : List Char) :
    segments (spelling.withSlashes text) = segments text := by
  rw [withSlashes, segments_append_replicate_slash, segments_replicate_slash]

end Spelling

namespace NamesScope

variable {text : List Char}

theorem segments_ne_nil (h : NamesScope text) : segments text ≠ [] := by
  obtain ⟨character, hmem, hne⟩ := h.exists_ne_slash
  obtain ⟨segment, hsegment, -⟩ := exists_mem_segments hne hmem
  exact List.ne_nil_of_mem hsegment

theorem trim_withoutBlanks (h : NamesScope text) (spelling : Spelling) :
    trim (spelling.withoutBlanks text) = spelling.withoutBlanks text := by
  have hstar : HasBareEnds (if spelling.starred then ['/', '*'] else []) := by
    cases spelling.starred <;> exact hasBareEnds_of_any_eq_false rfl
  exact (((hasBareEnds_replicate_slash _).append h.hasBareEnds).append
    (hasBareEnds_replicate_slash _)).append hstar |>.trim_eq

/-- Slashes at its ends do not make a text that names a scope end in an asterisk behind a slash. -/
theorem not_suffix_withSlashes (h : NamesScope text) (spelling : Spelling) :
    ¬ ['/', '*'] <:+ spelling.withSlashes text := by
  intro hsuffix
  unfold Spelling.withSlashes at hsuffix
  cases htrailing : spelling.trailing with
  | succ slashes =>
    rw [htrailing, List.replicate_succ', ← List.append_assoc] at hsuffix
    obtain ⟨front, hfront⟩ := hsuffix
    have hlast := congrArg List.getLast? hfront
    simp at hlast
  | zero =>
    rw [htrailing, List.replicate_zero, List.append_nil] at hsuffix
    rcases List.suffix_or_suffix_of_suffix hsuffix (List.suffix_append _ text) with hend | hstart
    · exact h.not_suffix_asterisk hend
    · rw [List.suffix_cons_iff, List.suffix_cons_iff, List.suffix_nil] at hstart
      rcases hstart with heq | heq | heq
      · exact h.not_suffix_asterisk (heq ▸ List.suffix_rfl)
      · exact h.ne_asterisk heq
      · exact h.segments_ne_nil (heq ▸ rfl)

/-- Every spelling of a text that names a scope is read as a scope, and its target has the segments
of the text. -/
theorem exists_parse?_write (h : NamesScope text) (spelling : Spelling) {value : Value}
    (hvalue : value.literal.toList = spelling.write text) :
    ∃ scope, PathScope.parse? value = some scope ∧ segments scope.target = segments text := by
  have htrimmed : value.trimmed = spelling.withoutBlanks text := by
    rw [Value.trimmed, hvalue, Spelling.write, trim_append_append
      (List.all_eq_true.mp spelling.isBlank_front) (List.all_eq_true.mp spelling.isBlank_back),
      h.trim_withoutBlanks]
  have htarget : segments (trimSlashes (spelling.withSlashes text)) = segments text := by
    rw [segments_trimSlashes, spelling.segments_withSlashes]
  refine ⟨⟨trimSlashes (spelling.withSlashes text)⟩, ?_, htarget⟩
  unfold PathScope.parse?
  rw [htrimmed, Spelling.withoutBlanks]
  cases spelling.starred with
  | true => rw [if_pos rfl, dropAsterisk?_append]
  | false =>
    have hnonempty : (trimSlashes (spelling.withSlashes text)).isEmpty = false := by
      refine List.isEmpty_eq_false_iff.mpr fun hempty ↦ h.segments_ne_nil ?_
      rw [← htarget, hempty]
      rfl
    rw [if_neg Bool.false_ne_true, List.append_nil,
      dropAsterisk?_eq_none (h.not_suffix_withSlashes spelling)]
    simp [hnonempty]

end NamesScope

/-! ### Comparisons with a scope -/

/-- The folder that a scope names depends on the segments of its target alone. -/
theorem PathScope.folder?_congr {first second : PathScope}
    (h : segments first.target = segments second.target) (project : Project) :
    first.folder? project = second.folder? project := by
  unfold PathScope.folder? resolve?
  rw [h]

/-- Assumes: two values that are read as scopes whose targets have the same segments. A `path`
comparison with either asks the same of a node. -/
theorem inquireNode_path_congr [PatternLibrary] {value other : Value} {first second : PathScope}
    (hvalue : PathScope.parse? value = some first) (hother : PathScope.parse? other = some second)
    (hsegments : segments first.target = segments second.target) (project : Project)
    (view : NodeView) (id : NodeId) (node : Node) (fieldName : String) (operator : Operator) :
    inquireNode project view id node ⟨⟨fieldName, .path⟩, operator, value⟩ =
      inquireNode project view id node ⟨⟨fieldName, .path⟩, operator, other⟩ := by
  have hfolder := PathScope.folder?_congr hsegments project
  have hleaf (folder? : Option NodeId) :
      folderInScope project folder? operator value =
        folderInScope project folder? operator other := by
    simp only [folderInScope, hvalue, hother, hfolder]
  have hcontainer :
      containerInScope project id operator value = containerInScope project id operator other := by
    simp only [containerInScope, hvalue, hother, hfolder]
  cases view with
  | live => simp only [inquireNode, inquireLive, hleaf]
  | descent => simp only [inquireNode, compareDescent, hcontainer]
  | outOfTree => simp only [inquireNode, compareOutOfTree, hleaf, hcontainer]

/-- Assumes: a text that names a scope as it stands, and two values, one with the text itself and
one with a spelling of it.

A `path` comparison with either value has the same answer for every node of every project, whether
the project has the node or not, in whichever way it is looked at and by every operator. -/
theorem spellings_hold_alike [PatternLibrary] {text : List Char} (h : NamesScope text)
    (spelling : Spelling) {value other : Value} (hvalue : value.literal.toList = text)
    (hother : other.literal.toList = spelling.write text) (project : Project)
    (backend : History.Backend) (view : NodeView) (id : NodeId) (fieldName : String)
    (operator : Operator) :
    project.holds backend view id ⟨⟨fieldName, .path⟩, operator, other⟩ =
      project.holds backend view id ⟨⟨fieldName, .path⟩, operator, value⟩ := by
  have hplain : value.literal.toList = ({} : Spelling).write text := by
    rw [hvalue]
    simp [Spelling.write, Spelling.withoutBlanks, Spelling.withSlashes]
  obtain ⟨first, hfirst, hsegments⟩ := h.exists_parse?_write {} hplain
  obtain ⟨second, hsecond, hspelled⟩ := h.exists_parse?_write spelling hother
  simp only [Project.holds,
    inquireNode_path_congr hsecond hfirst (hspelled.trans hsegments.symm)]

/-- The document in the folder is in the scope of the folder under all its spellings. -/
theorem spellings_hold_alike_sample :
    let spellings : List Spelling :=
      [{ trailing := 1 }, { leading := 1 }, { starred := true }, { front := [' '], back := ['\t'] }]
    (spellings.map fun spelling ↦ String.ofList (spelling.write ['A'])) =
        ["A/", "/A", "A/*", " A\t"] ∧
      ∀ spelling ∈ spellings, sample.holds sample.backend .live 2
        ⟨Field.path, .equal, .ofText (String.ofList (spelling.write ['A']))⟩ = true := by
  have hnames : NamesScope ['A'] :=
    { hasBareEnds := hasBareEnds_of_any_eq_false rfl
      exists_ne_slash := ⟨'A', List.mem_cons_self, by decide⟩
      ne_asterisk := by decide
      not_suffix_asterisk := by decide }
  have hplain : (Value.ofText "A").literal.toList = ['A'] := by decide
  have hinside :
      sample.holds sample.backend .live 2 ⟨Field.path, .equal, .ofText "A"⟩ = true := by
    decide
  refine ⟨by decide, fun spelling _ ↦ ?_⟩
  have hwritten : (Value.ofText (String.ofList (spelling.write ['A']))).literal.toList =
      spelling.write ['A'] := String.toList_ofList
  rw [← hinside]
  exact spellings_hold_alike hnames spelling hplain hwritten sample sample.backend .live 2 "path"
    .equal

end DocumentRules.Evaluation
