import DocumentRules.Proofs.Condition.Passes
import DocumentRules.Proofs.Disk.Mirror
import DocumentRules.Proofs.Evaluation.Scope
import DocumentRules.Proofs.History.Sequencing

/-!
# Files and the nodes that they stand for

In a directory that mirrors a project a condition is answered for a file as it is for the document
that the file stands for, comparison by comparison and with the same queries to a history
(`inquire_file_eq_inquire_node`). The two are told apart by form fields, which a file does not have,
and by dots in the value of a `path` comparison, which are names in a project and steps on disk.

They are also told apart in two more ways (`exists_file_unlike_node`). A path with many slashes in a
row leads to its folder in a project, and on disk it exceeds what the file system accepts. And if
the directory is given by a relative path, the path of a file that begins with the same names is
taken to begin with the directory.
-/

set_option autoImplicit false
set_option relaxedAutoImplicit false

namespace DocumentRules.Evaluation

open Condition History

/-- Comparisons that are answered in the same way make conditions that are. -/
theorem inquireCondition_congr {first second : Comparison → Inquiry Bool} {condition : Condition}
    (h : ∀ comparison ∈ condition.comparisons, first comparison = second comparison) :
    inquireCondition first condition = inquireCondition second condition := by
  have hterms : ∀ token ∈ condition, inquireTerm first token = inquireTerm second token := by
    intro token htoken
    cases token with
    | comparison statement =>
      have hmem : statement ∈ condition.comparisons := List.mem_filterMap.mpr ⟨_, htoken, rfl⟩
      simp only [inquireTerm, h statement hmem]
    | connective | opening | closing | literal | error => rfl
  unfold inquireCondition inquireAll
  rw [Inquiry.forEach_congr hterms]

/-- A single comparison is answered by itself. -/
theorem answer_inquireCondition_singleton (backend : Backend)
    (inquire : Comparison → Inquiry Bool) (comparison : Comparison) :
    (inquireCondition inquire [.comparison comparison]).answer backend =
      (inquire comparison).answer backend := by
  rw [inquireCondition, if_neg (by exact Bool.false_ne_true), answer_inquireAll]
  exact reduceTerms_truth _

end DocumentRules.Evaluation

namespace DocumentRules.Disk

open Text Condition History Project Evaluation

/-- No segment of the folder that a `path` comparison names is a dot or a pair of dots. -/
def NamesNoDots (comparison : Comparison) : Prop :=
  comparison.field.kind = .path → ∀ scope ∈ PathScope.parse? comparison.value,
    ∀ segment ∈ segments scope.target, segment ≠ ['.'] ∧ segment ≠ ['.', '.']

instance (comparison : Comparison) : Decidable (NamesNoDots comparison) :=
  inferInstanceAs (Decidable (_ → _))

/-- The path on disk that a comparison has to find for a file is short enough for the file system:
the file itself for a search, and the folder that a `path` value names, if it names one. -/
def FileEvaluator.Reaches (evaluator : FileEvaluator) (project : Project) (file : List Char)
    (comparison : Comparison) : Prop :=
  (comparison.field.kind.isSearch = true → byteLength (joinPath evaluator.root file) ≤ pathLimit) ∧
  (comparison.field.kind = .path → ∀ scope ∈ PathScope.parse? comparison.value,
    (scope.folder? project).isSome = true →
      byteLength (joinPath evaluator.root (FileEvaluator.scopeTarget scope)) ≤ pathLimit)

instance (evaluator : FileEvaluator) (project : Project) (file : List Char)
    (comparison : Comparison) : Decidable (evaluator.Reaches project file comparison) :=
  inferInstanceAs (Decidable (_ ∧ _))

/-- A root that is given by a relative path does not begin the path of a file with it. -/
def FileEvaluator.StandsApart (evaluator : FileEvaluator) (file : List Char) : Prop :=
  isAbsolute evaluator.root = false → stripBase? evaluator.root file = none

theorem FileEvaluator.standsApart_of_isAbsolute {evaluator : FileEvaluator}
    (h : isAbsolute evaluator.root = true) (file : List Char) : evaluator.StandsApart file :=
  fun hrelative ↦ absurd h (Bool.eq_false_iff.mp hrelative)

/-! ### The path of a file -/

section Path

variable {project : Project} (hproject : Grown Node.IsPlain project) {id : NodeId}

include hproject

theorem isAbsolute_routePath (hid : id < project.size) :
    isAbsolute (project.routePath id) = false :=
  isAbsolute_joinWith (hproject.isFileName_of_mem_route hid)

theorem components_routePath (hid : id < project.size) :
    components (project.routePath id) = (project.route id).map .name := by
  have hsegments := hproject.isDerived.segments_routePath hid
  rw [components_of_segments (isAbsolute_routePath hproject hid), hsegments]
  intro segment hsegment
  have hname := hproject.isFileName_of_mem_route hid segment (hsegments ▸ hsegment)
  exact ⟨hname.ne_dot, hname.ne_dots⟩

/-- A resource path has the same extension as a path on disk. -/
theorem extension?_eq_pathExtension? (hid : id < project.size) (hroute : project.route id ≠ [])
    {node : Node} (hnode : project.node? id = some node) :
    node.extension? = (pathExtension? (project.routePath id)).map String.ofList := by
  unfold Node.extension? pathExtension?
  rw [hproject.resource?_eq_routePath hnode, Option.bind_some, String.toList_ofList,
    hproject.isDerived.splitOn_routePath hid hroute, components_routePath hproject hid,
    List.getLast?_map]
  cases (project.route id).getLast? <;> rfl

/-- A history has a file under the resource path of the node. -/
theorem resourceOf_routePath (hid : id < project.size) :
    FileEvaluator.resourceOf (project.routePath id) = String.ofList (project.routePath id) := by
  unfold FileEvaluator.resourceOf ofComponents
  rw [components_routePath hproject hid, List.map_map]
  congr 2
  exact List.map_id _

/-- A path of the project is taken to be relative to the root, unless it begins with a relative path
of the root. -/
theorem FileEvaluator.relative?_routePath {evaluator : FileEvaluator} (hid : id < project.size)
    (hapart : evaluator.StandsApart (project.routePath id)) :
    evaluator.relative? (project.routePath id) = some (project.routePath id) := by
  have hbase : stripBase? evaluator.root (project.routePath id) = none := by
    cases hroot : isAbsolute evaluator.root with
    | false => exact hapart hroot
    | true => exact stripBase?_eq_none_of_isAbsolute hroot (isAbsolute_routePath hproject hid)
  unfold relative?
  rw [hbase, isAbsolute_routePath hproject hid]
  rfl

end Path

namespace FileEvaluator.Mirrors

variable {evaluator : FileEvaluator} {place : Place} {project : Project}

/-- A search reads the content of the document. -/
theorem content?_routePath (h : evaluator.Mirrors place project)
    (hproject : Grown Node.IsPlain project) (hnamed : IsNamed project) {id : NodeId} {node : Node}
    (hnode : project.node? id = some node) (hleaf : node.isContainer = false)
    (hlength : byteLength (joinPath evaluator.root (project.routePath id)) ≤ pathLimit) :
    evaluator.content? (project.routePath id) = some (node.content?.getD "") := by
  unfold content?
  rw [h.read?_joinPath hproject hnamed hnode hleaf hlength, Option.bind_some,
    if_pos (h.length_content_le hnode hleaf), decodeLossy_encodeText, String.ofList_toList]

/-- The components of a folder's path begin those of the folder that holds a file exactly when the
folder is above the file's node. -/
theorem isPrefixOf_folderComponents (hproject : Grown Node.IsPlain project)
    (hnamed : IsNamed project) {target id parent : NodeId} (htarget : target < project.size)
    (hparent : project.IsParent id parent) :
    ((project.route target).map Component.name).isPrefixOf
      (folderComponents (project.routePath id)) = project.isAncestor target id := by
  have hinjective : Function.Injective Component.name := fun _ _ heq ↦ Component.name.inj heq
  rw [folderComponents, components_routePath hproject (lt_size_of_isParent hparent),
    hnamed.route_of_isParent hparent, List.map_append, List.map_singleton, List.dropLast_concat,
    Bool.eq_iff_iff, List.isPrefixOf_iff_prefix, List.prefix_map_iff_of_injective hinjective,
    hnamed.isAncestor_iff_route_prefix htarget hparent]

/-- A `path` comparison asks the same of a file as of its node. -/
theorem compareScope_eq (h : evaluator.Mirrors place project)
    (hproject : Grown Node.IsPlain project) (hnamed : IsNamed project) {id parent : NodeId}
    (hparent : project.IsParent id parent) {comparison : Comparison}
    (hpath : comparison.field.kind = .path) (hdots : NamesNoDots comparison)
    (hreach : evaluator.Reaches project (project.routePath id) comparison) :
    evaluator.compareScope (project.routePath id) comparison.operator comparison.value =
      folderInScope project (some parent) comparison.operator comparison.value := by
  rw [hnamed.folderInScope_eq hparent]
  unfold compareScope
  cases hscope : PathScope.parse? comparison.value with
  | none => rfl
  | some scope =>
    have hsegments : segments (scopeTarget scope) = segments scope.target :=
      segments_dropWhile_slash scope.target
    have hfolder : leadsToFolder project (scopeTarget scope) = (scope.folder? project).isSome := by
      rw [leadsToFolder, resolve?, hsegments, PathScope.folder?, Option.isSome_filter]
      rfl
    have hrelative : isAbsolute (scopeTarget scope) = false :=
      isAbsolute_dropWhile_slash scope.target
    have hdots := hdots hpath scope hscope
    rw [← hsegments] at hdots
    have hdirectory := h.isDirectory_joinPath hnamed hrelative
      (fun segment hsegment ↦ isFileName_of_mem_segments hsegment (hdots segment hsegment))
      (fun hleads ↦ hreach.2 hpath scope hscope (hfolder.symm.trans hleads))
    rw [hfolder] at hdirectory
    simp only [Option.all_some, hdirectory]
    cases hfolder : scope.folder? project with
    | none => rfl
    | some target =>
      obtain ⟨htarget, hroute⟩ :=
        hnamed.resolve?_eq_some_iff.mp (Option.filter_eq_some_iff.mp hfolder).1
      rw [if_pos (Option.isSome_some), components_of_segments hrelative hdots, hsegments, ← hroute,
        isPrefixOf_folderComponents hproject hnamed htarget hparent, Option.any_some]

/-- Assumes: a comparison that asks for no form field and names no folder with dots, and that finds
what it looks up on disk. It asks the same of a file as of an enabled document. -/
theorem inquireComparison_eq [PatternLibrary] (h : evaluator.Mirrors place project)
    (hproject : Grown Node.IsPlain project) (hnamed : IsNamed project) {id : NodeId} {node : Node}
    (hnode : project.node? id = some node) (hleaf : node.isContainer = false)
    (henabled : node.disabled = false) {comparison : Comparison}
    (hfield : comparison.field.kind ≠ .formField) (hdots : NamesNoDots comparison)
    (hreach : evaluator.Reaches project (project.routePath id) comparison) :
    evaluator.inquireComparison (project.routePath id) comparison =
      inquireLive project id node comparison := by
  have hid := lt_size_of_node? hnode
  have hroot := hnamed.ne_root hnode hleaf
  unfold inquireComparison inquireLive
  cases hkind : comparison.field.kind with
  | extension =>
    rw [extension?_eq_pathExtension? hproject hid (hnamed.route_ne_nil hid hroot) hnode]
  | path =>
    obtain ⟨parent, hparent⟩ := hnamed.exists_isParent hnode hroot
    dsimp only
    rw [h.compareScope_eq hproject hnamed hparent hkind hdots hreach,
      hnamed.containingFolder?_eq hparent]
  | enabled => rw [henabled]; rfl
  | formField => exact absurd hkind hfield
  | text | caseText | word | caseWord =>
    have hlength := hreach.1 (by rw [hkind]; rfl)
    rw [h.content?_routePath hproject hnamed hnode hleaf hlength]
    rfl
  | version => rw [resourceOf_routePath hproject hid, hproject.resource?_eq_routePath hnode]

/-- Assumes: a plain project, no two siblings of which have the same name, a directory that mirrors
it, and an enabled document whose path does not begin with a relative path of the directory. A
condition that asks for no form field and names no folder with dots is answered for the document's
file as it is for the document, whatever the history says, if the paths that it has to find on disk
are short enough for the file system. -/
theorem inquire_file_eq_inquire_node [PatternLibrary] (h : evaluator.Mirrors place project)
    (hproject : Grown Node.IsPlain project) (hdiffer : SiblingsDiffer project) {id : NodeId}
    {node : Node} (hnode : project.node? id = some node) (hdocument : node.kind = .document)
    (henabled : node.disabled = false) (hapart : evaluator.StandsApart (project.routePath id))
    {condition : Condition}
    (hfields : ∀ comparison ∈ condition.comparisons, comparison.field.kind ≠ .formField)
    (hdots : ∀ comparison ∈ condition.comparisons, NamesNoDots comparison)
    (hreach : ∀ comparison ∈ condition.comparisons,
      evaluator.Reaches project (project.routePath id) comparison) :
    node.resource? = some (String.ofList (project.routePath id)) ∧
      evaluator.inquire (project.routePath id) condition = project.inquire .live id condition := by
  have hleaf : node.isContainer = false := by
    rw [Node.isContainer, hdocument]
    rfl
  refine ⟨hproject.resource?_eq_routePath hnode, ?_⟩
  unfold FileEvaluator.inquire Project.inquire
  rw [relative?_routePath hproject (lt_size_of_node? hnode) hapart, hnode]
  exact inquireCondition_congr fun comparison hmem ↦
    h.inquireComparison_eq hproject (hproject.isNamed hdiffer) hnode hleaf henabled
      (hfields comparison hmem) (hdots comparison hmem) (hreach comparison hmem)

end FileEvaluator.Mirrors

/-- The document of the small project is found by its folder and by a part of its content, and so is
its file. -/
theorem inquire_file_eq_inquire_node_nested :
    let condition : Condition := [.within "A/B", .connective .and,
      .comparison ⟨⟨"case_text", .caseText⟩, .equal, .ofText "ex"⟩]
    (nestedEvaluator ['/', 'A']).inquire (nested.routePath 3) condition =
        nested.inquire .live 3 condition ∧
      nested.satisfies nested.backend .live 3 condition = true := by
  have hnode : nested.node? 3 = some _ := rfl
  have hmirrors : (nestedEvaluator ['/', 'A']).Mirrors [['A']] nested := mirrors_nested (by decide)
  have habsolute : isAbsolute (nestedEvaluator ['/', 'A']).root = true := rfl
  have hapart := FileEvaluator.standsApart_of_isAbsolute habsolute (nested.routePath 3)
  exact ⟨(hmirrors.inquire_file_eq_inquire_node grown_nested siblingsDiffer_nested hnode rfl rfl
    hapart (by decide) (by decide) (by decide)).2, rfl⟩

/-! ### Where files and nodes differ -/

/-- A condition that asks for no form field and names no folder with dots is true of a node, but not
of its file. -/
structure FileEvaluator.TellsApart [PatternLibrary] (evaluator : FileEvaluator) (project : Project)
    (backend : Backend) (id : NodeId) (condition : Condition) : Prop where
  ne_formField : ∀ comparison ∈ condition.comparisons, comparison.field.kind ≠ .formField
  namesNoDots : ∀ comparison ∈ condition.comparisons, NamesNoDots comparison
  satisfies_node : project.satisfies backend .live id condition = true
  satisfies_file : evaluator.satisfies backend (project.routePath id) condition = false

/-- Assumes: a scope whose path on disk is too long. No file is in it, whatever its target is. -/
theorem FileEvaluator.compareScope_eq_false (evaluator : FileEvaluator) {value : Value}
    {scope : PathScope} (hscope : PathScope.parse? value = some scope)
    (hlength : pathLimit < (joinPath evaluator.root (scopeTarget scope)).length) (file : List Char)
    (operator : Operator) : evaluator.compareScope file operator value = false := by
  unfold compareScope
  rw [hscope]
  exact if_neg (Bool.eq_false_iff.mp (evaluator.volume.isDirectory_eq_false hlength))

/-- A path to the inner folder of the small project, with a number of slashes in a row. -/
def stretchedPath (slashes : Nat) : List Char := 'A' :: (List.replicate slashes '/' ++ ['B'])

/-- The comparison that asks for the inner folder by such a path. -/
def stretchedBounds (slashes : Nat) : Comparison :=
  ⟨Field.path, .equal, .ofText (String.ofList (stretchedPath slashes))⟩

theorem parse?_stretchedBounds (slashes : Nat) :
    PathScope.parse? (stretchedBounds slashes).value = some ⟨stretchedPath slashes⟩ := by
  have hreverse : (stretchedPath slashes).reverse =
      'B' :: (List.replicate slashes '/' ++ ['A']) := by
    simp [stretchedPath]
  have hslashes : trimSlashes (stretchedPath slashes) = stretchedPath slashes := by
    rw [trimSlashes, hreverse, List.dropWhile_cons, if_neg (by decide), ← hreverse,
      List.reverse_reverse]
  have htrim : trim (stretchedPath slashes) = stretchedPath slashes := by
    have hstart : trimStart (stretchedPath slashes) = stretchedPath slashes :=
      List.dropWhile_cons_of_neg (by decide)
    rw [trim, hstart, trimEnd, hreverse, List.dropWhile_cons, if_neg (by decide), ← hreverse,
      List.reverse_reverse]
  unfold PathScope.parse? Value.trimmed stretchedBounds Value.ofText
  simp only [String.toList_ofList, htrim, dropAsterisk?, hreverse, hslashes]
  rfl

theorem segments_stretchedPath (slashes : Nat) :
    segments (stretchedPath (slashes + 1)) = [['A'], ['B']] := by
  have hpath : stretchedPath (slashes + 1) =
      ['A'] ++ '/' :: (List.replicate slashes '/' ++ ['B']) := rfl
  rw [hpath, segments_append_slash, segments_replicate_slash]
  rfl

theorem namesNoDots_stretchedBounds (slashes : Nat) :
    NamesNoDots (stretchedBounds (slashes + 1)) := by
  rintro - scope hscope
  obtain rfl := Option.some.inj ((parse?_stretchedBounds (slashes + 1)).symm.trans hscope)
  show ∀ segment ∈ segments (stretchedPath (slashes + 1)), _
  rw [segments_stretchedPath]
  decide

/-- In the project the path leads to the folder, whatever the number of slashes. -/
theorem satisfies_node_stretchedBounds [PatternLibrary] (slashes : Nat) (backend : Backend) :
    nested.satisfies backend .live 3 [.comparison (stretchedBounds (slashes + 1))] = true := by
  have hnode : nested.node? 3 = some _ := rfl
  have hfolder : PathScope.folder? ⟨stretchedPath (slashes + 1)⟩ nested = some 2 := by
    rw [PathScope.folder?, resolve?, segments_stretchedPath]
    rfl
  have hscope : folderInScope nested (some 2) .equal (stretchedBounds (slashes + 1)).value =
      true := by
    unfold folderInScope
    simp only [parse?_stretchedBounds, hfolder]
    rfl
  unfold Project.satisfies Project.inquire
  rw [hnode]
  exact (answer_inquireCondition_singleton _ _ _).trans hscope

/-- On disk it leads nowhere if there are too many. -/
theorem satisfies_file_stretchedBounds [PatternLibrary] {slashes : Nat} (h : pathLimit ≤ slashes)
    (backend : Backend) :
    (nestedEvaluator ['/', 'A']).satisfies backend (nested.routePath 3)
      [.comparison (stretchedBounds slashes)] = false := by
  have hjoin : joinPath (nestedEvaluator ['/', 'A']).root (stretchedPath slashes) =
      ['/', 'A', '/'] ++ stretchedPath slashes := rfl
  have hlength : pathLimit <
      (joinPath (nestedEvaluator ['/', 'A']).root (stretchedPath slashes)).length := by
    rw [hjoin]
    simp only [stretchedPath, List.length_append, List.length_cons, List.length_replicate]
    omega
  unfold FileEvaluator.satisfies FileEvaluator.inquire
  rw [FileEvaluator.relative?_routePath grown_nested (by decide)
    (FileEvaluator.standsApart_of_isAbsolute rfl _)]
  exact (answer_inquireCondition_singleton _ _ _).trans
    (FileEvaluator.compareScope_eq_false _ (parse?_stretchedBounds slashes) hlength _ _)

/-- The document of the small project is in its folder also when the folder is asked for by a path
with five thousand slashes, but its file is not: such a path cannot be looked up on disk. Nor is the
file in the folder when the directory is given by the relative path `A`: then the path `A/B/inside`
begins with that of the directory and is read as `B/inside`. -/
theorem exists_file_unlike_node :
    ∃ (place : Place) (project : Project) (id : NodeId) (node : Node) (backend : Backend),
      Grown Node.IsPlain project ∧ SiblingsDiffer project ∧
      project.node? id = some node ∧ node.kind = .document ∧ node.disabled = false ∧
      (∃ (evaluator : FileEvaluator) (condition : Condition), evaluator.Mirrors place project ∧
        evaluator.StandsApart (project.routePath id) ∧
        evaluator.TellsApart project backend id condition) ∧
      ∃ (evaluator : FileEvaluator) (condition : Condition), evaluator.Mirrors place project ∧
        (∀ comparison ∈ condition.comparisons,
          evaluator.Reaches project (project.routePath id) comparison) ∧
        evaluator.TellsApart project backend id condition := by
  have hnode : nested.node? 3 = some _ := rfl
  refine ⟨[['A']], nested, 3, _, nested.backend, grown_nested, siblingsDiffer_nested, hnode, rfl,
    rfl, ?_, ?_⟩
  · exact ⟨nestedEvaluator ['/', 'A'], [.comparison (stretchedBounds (4999 + 1))],
      mirrors_nested (by decide), FileEvaluator.standsApart_of_isAbsolute rfl _,
      { ne_formField := List.forall_mem_singleton.mpr nofun
        namesNoDots := List.forall_mem_singleton.mpr (namesNoDots_stretchedBounds 4999)
        satisfies_node := satisfies_node_stretchedBounds 4999 _
        satisfies_file := satisfies_file_stretchedBounds (by decide) _ }⟩
  · exact ⟨nestedEvaluator ['A'], [.within "A/B"], mirrors_nested (by decide), by decide,
      { ne_formField := by decide
        namesNoDots := by decide
        satisfies_node := rfl
        satisfies_file := rfl }⟩

end DocumentRules.Disk
