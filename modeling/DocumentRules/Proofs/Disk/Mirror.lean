import DocumentRules.Disk.FileEvaluation
import DocumentRules.Proofs.Disk.Following
import DocumentRules.Proofs.Project.Routes

/-!
# Directories that mirror a project

A directory mirrors a project when there is a directory for each folder and a file for each
document, at the place that the node's route leads to, and nothing else (`FileEvaluator.Mirrors`).
Names then lead to the same on disk as in the project (`Mirrors.followAll?_eq`), so a relative path
leads to a directory exactly when it leads to a folder (`Mirrors.isDirectory_joinPath`), and the
file of a document holds its content (`Mirrors.read?_joinPath`).

Both statements need the path on disk to be short enough for the file system. A path that leads to
no folder is found neither way, so its length does not matter. -/

set_option autoImplicit false
set_option relaxedAutoImplicit false

namespace DocumentRules.Disk

open Text Project

/-- What stands in a directory for a node. -/
def itemOf (node : Node) : Item :=
  if node.isContainer then .directory else .file (encodeText (node.content?.getD ""))

/-- The root of an evaluator is the path of a place that mirrors a project: what is there, and
beneath it, stands for the nodes of the project, and no file is too large to be searched. A file
system holds no names that are too long for it or that hold a NUL. -/
structure FileEvaluator.Mirrors (evaluator : FileEvaluator) (place : Place) (project : Project) :
    Prop where
  locate?_root : evaluator.volume.locate? evaluator.root = some place
  item?_eq : ∀ {id : NodeId} {node : Node}, project.node? id = some node →
    evaluator.volume.item? (place ++ project.route id) = some (itemOf node)
  exists_of_item? : ∀ {names : Place}, (evaluator.volume.item? (place ++ names)).isSome = true →
    ∃ id < project.size, project.route id = names
  byteLength_nameOf_le : ∀ id < project.size, byteLength (project.nameOf id) ≤ nameLimit
  not_mem_nul : ∀ id < project.size, '\x00' ∉ project.nameOf id
  length_content_le : ∀ {id : NodeId} {node : Node}, project.node? id = some node →
    node.isContainer = false →
      (encodeText (node.content?.getD "")).length ≤ evaluator.settings.maxTextBytes

/-- Whether a path leads to a folder of a project. -/
def leadsToFolder (project : Project) (path : List Char) : Bool :=
  (project.resolve? path).any fun id ↦ (project.node? id).any Node.isContainer

namespace FileEvaluator.Mirrors

variable {evaluator : FileEvaluator} {place : Place} {project : Project}

theorem isDirectoryAt_eq (h : evaluator.Mirrors place project) {id : NodeId} {node : Node}
    (hnode : project.node? id = some node) :
    evaluator.volume.isDirectoryAt (place ++ project.route id) = node.isContainer := by
  unfold Volume.isDirectoryAt
  rw [h.item?_eq hnode, itemOf]
  cases node.isContainer <;> rfl

/-- A name leads from a directory to what it leads to from the folder. -/
theorem follow?_eq (h : evaluator.Mirrors place project) (hnamed : IsNamed project) {top : NodeId}
    (htop : top < project.size) {name : List Char} (hname : IsFileName name) :
    evaluator.volume.follow? (place ++ project.route top) name =
      (project.childNamed? name top).map fun child ↦ place ++ project.route child := by
  obtain ⟨folder, hfolder⟩ := exists_node?_of_lt_size htop
  rw [Volume.follow?_of_isFileName _ _ hname, h.isDirectoryAt_eq hfolder, List.append_assoc]
  cases hchild : project.childNamed? name top with
  | some child =>
    obtain ⟨hparent, rfl⟩ := hnamed.childNamed?_eq_some_iff.mp hchild
    have hsize := lt_size_of_isParent hparent
    obtain ⟨node, hnode⟩ := exists_node?_of_lt_size hsize
    obtain ⟨-, other, hother, hcontainer⟩ := hnamed.parent_of_isParent hparent
    obtain rfl : other = folder := Option.some.inj (hother.symm.trans hfolder)
    rw [← hnamed.route_of_isParent hparent, h.item?_eq hnode, hcontainer]
    simp [h.byteLength_nameOf_le child hsize]
  | none =>
    -- anything there by the name would be a child that has it
    have hitem :
        (evaluator.volume.item? (place ++ (project.route top ++ [name]))).isSome = false := by
      refine Bool.eq_false_iff.mpr fun hitem ↦ ?_
      obtain ⟨id, hid, hroute⟩ := h.exists_of_item? hitem
      have hdescend := (hnamed.descend?_eq_some_iff htop hid).mpr hroute
      rw [descend?, hchild] at hdescend
      cases hdescend
    rw [hitem, Bool.and_false]
    rfl

/-- Names lead on disk to where they lead in the project. -/
theorem followAll?_eq (h : evaluator.Mirrors place project) (hnamed : IsNamed project)
    {top : NodeId} (htop : top < project.size) {names : List (List Char)}
    (hnames : ∀ name ∈ names, IsFileName name) :
    evaluator.volume.followAll? (place ++ project.route top) names =
      (project.descend? top names).map fun id ↦ place ++ project.route id := by
  induction names generalizing top with
  | nil => rfl
  | cons name rest ih =>
    obtain ⟨hname, hrest⟩ := List.forall_mem_cons.mp hnames
    rw [Volume.followAll?, descend?, h.follow?_eq hnamed htop hname]
    cases hchild : project.childNamed? name top with
    | none => rfl
    | some child =>
      have hparent := (hnamed.childNamed?_eq_some_iff.mp hchild).1
      exact ih (lt_size_of_isParent hparent) hrest

theorem not_mem_nul_route (h : evaluator.Mirrors place project) (hnamed : IsNamed project)
    {id : NodeId} (hid : id < project.size) : ∀ name ∈ project.route id, '\x00' ∉ name := by
  exact hnamed.forall_mem_route (fun id hid _ ↦ h.not_mem_nul id hid) hid

theorem followAll?_of_resolve (h : evaluator.Mirrors place project) (hnamed : IsNamed project)
    {path : List Char} (hnames : ∀ name ∈ segments path, IsFileName name) :
    evaluator.volume.followAll? place (segments path) =
      (project.resolve? path).map fun id ↦ place ++ project.route id := by
  have hfollow := h.followAll?_eq hnamed hnamed.root_lt_size hnames
  rwa [hnamed.route_root, List.append_nil] at hfollow

/-- Assumes: a relative path without dots among its segments, which is short enough on disk if it
leads to a folder of the project. It leads to a directory exactly when it leads to a folder. -/
theorem isDirectory_joinPath (h : evaluator.Mirrors place project) (hnamed : IsNamed project)
    {path : List Char} (hrelative : isAbsolute path = false)
    (hnames : ∀ name ∈ segments path, IsFileName name)
    (hlength : leadsToFolder project path = true →
      byteLength (joinPath evaluator.root path) ≤ pathLimit) :
    evaluator.volume.isDirectory (joinPath evaluator.root path) =
      leadsToFolder project path := by
  have hwalk : (evaluator.volume.followAll? place (splitOn '/' path)).any
      evaluator.volume.isDirectoryAt =
        leadsToFolder project path := by
    unfold leadsToFolder
    rw [Volume.any_isDirectoryAt_filter, ← segments, h.followAll?_of_resolve hnamed hnames]
    cases hresolve : project.resolve? path with
    | none => rfl
    | some id =>
      obtain ⟨node, hnode⟩ := exists_node?_of_lt_size (hnamed.resolve?_eq_some_iff.mp hresolve).1
      simp [h.isDirectoryAt_eq hnode, hnode]
  unfold Volume.isDirectory
  rw [Volume.locate?_joinPath h.locate?_root hrelative]
  split
  · exact hwalk
  · rename_i hblocked
    -- the path of a folder can be followed
    refine (Bool.eq_false_iff.mpr fun hfolder ↦ hblocked ?_).symm
    obtain ⟨id, hresolve, -⟩ := Option.any_eq_true _ _ |>.mp hfolder
    obtain ⟨hid, hroute⟩ := hnamed.resolve?_eq_some_iff.mp hresolve
    refine Volume.isPassable_joinPath h.locate?_root hrelative (fun hnul ↦ ?_) (hlength hfolder)
    obtain ⟨segment, hsegment, hmem⟩ := exists_mem_segments (by decide) hnul
    exact h.not_mem_nul_route hnamed hid segment (hroute ▸ hsegment) hmem

/-- Assumes: a document whose path on disk is short enough. The file there holds its content. -/
theorem read?_joinPath (h : evaluator.Mirrors place project) (hproject : Grown Node.IsPlain project)
    (hnamed : IsNamed project) {id : NodeId} {node : Node} (hnode : project.node? id = some node)
    (hleaf : node.isContainer = false)
    (hlength : byteLength (joinPath evaluator.root (project.routePath id)) ≤ pathLimit) :
    evaluator.volume.read? (joinPath evaluator.root (project.routePath id)) =
      some (encodeText (node.content?.getD "")) := by
  have hid := lt_size_of_node? hnode
  have hnames := hproject.isFileName_of_mem_route hid
  have hsegments := hproject.isDerived.segments_routePath hid
  have hrelative : isAbsolute (project.routePath id) = false := isAbsolute_joinWith hnames
  have hnul : '\x00' ∉ project.routePath id := by
    intro hnul
    obtain ⟨segment, hsegment, hmem⟩ := exists_mem_segments (by decide) hnul
    exact h.not_mem_nul_route hnamed hid segment (hsegments ▸ hsegment) hmem
  have hpieces := hproject.isDerived.splitOn_routePath hid
    (hnamed.route_ne_nil hid (hnamed.ne_root hnode hleaf))
  have hresolve : project.resolve? (project.routePath id) = some id :=
    hnamed.resolve?_eq_some_iff.mpr ⟨hid, hsegments.symm⟩
  have hfollow := h.followAll?_of_resolve hnamed (hsegments.symm ▸ hnames)
  rw [hresolve, Option.map_some, hsegments] at hfollow
  have hlocate : evaluator.volume.locate? (joinPath evaluator.root (project.routePath id)) =
      some (place ++ project.route id) := by
    rw [Volume.locate?_joinPath h.locate?_root hrelative,
      if_pos (Volume.isPassable_joinPath h.locate?_root hrelative hnul hlength), hpieces, hfollow]
  unfold Volume.read?
  rw [hlocate, Option.bind_some, h.item?_eq hnode, itemOf, hleaf]
  rfl

end FileEvaluator.Mirrors

/-! ### A small mirror -/

/-- A project of a folder in a folder, with a document in it. -/
def nested : Project where
  nodes := #[
    { rootNode with children := [1] },
    { Node.folder "A" with resource? := some "A", parent? := some Project.root, children := [2] },
    { Node.folder "B" with resource? := some "A/B", parent? := some 1, children := [3] },
    { Node.document "inside" with
      resource? := some "A/B/inside", parent? := some 2, order? := some 0
      content? := some "text" }]
  schema := .empty
  history? := none
  nextOrder := 1

theorem isPlain_folder {name : String} (hname : IsFileName name.toList) :
    (Node.folder name).IsPlain :=
  ⟨⟨rfl, rfl⟩, nofun, rfl, rfl, hname⟩

theorem grown_nested : Grown Node.IsPlain nested := by
  have hfolder : Grown Node.IsPlain _ :=
    @Grown.insert _ _ _ Project.root 1 (Node.folder "A") .empty
      (isPlain_folder ⟨by decide, by decide, by decide, by decide⟩) rfl
  have hinner : Grown Node.IsPlain _ :=
    @Grown.insert _ _ _ 1 2 (Node.folder "B") hfolder
      (isPlain_folder ⟨by decide, by decide, by decide, by decide⟩) rfl
  exact @Grown.insert _ _ _ 2 3 { Node.document "inside" with content? := some "text" } hinner
    ⟨⟨rfl, rfl⟩, nofun, rfl, rfl, ⟨by decide, by decide, by decide, by decide⟩⟩ rfl

/-- The names of the nodes of the project on the way down. -/
def nestedNames : Place := [['A'], ['B'], ['i', 'n', 's', 'i', 'd', 'e']]

/-- A file system with a directory that mirrors the project and has the name of the folder in it. -/
def nestedVolume : Volume where
  items := [([['A']], .directory), (['A'] :: nestedNames.take 1, .directory),
    (['A'] :: nestedNames.take 2, .directory), (['A'] :: nestedNames, .file (encodeText "text"))]

/-- An evaluator for files of the file system. -/
def nestedEvaluator (root : List Char) : FileEvaluator where
  volume := nestedVolume
  root := root

theorem siblingsDiffer_nested : SiblingsDiffer nested := siblingsDiffer_of_forall (by decide)

/-- Assumes: a path of the directory, which may be relative. -/
theorem mirrors_nested {root : List Char} (hroot : nestedVolume.locate? root = some [['A']]) :
    (nestedEvaluator root).Mirrors [['A']] nested where
  locate?_root := hroot
  item?_eq := by
    intro id node hnode
    have hall : ∀ id : Nat, id < 4 → nestedVolume.item? ([['A']] ++ nested.route id) =
        (nested.node? id).map itemOf := by
      intro id hid
      obtain rfl | rfl | rfl | rfl : id = 0 ∨ id = 1 ∨ id = 2 ∨ id = 3 := by omega
      all_goals rfl
    refine (hall id (lt_size_of_node? hnode)).trans ?_
    rw [hnode]
    rfl
  exists_of_item? := by
    intro names hnames
    obtain ⟨⟨other, item⟩, hmem, heq⟩ := List.lookup_isSome_iff.mp hnames
    have hplaces : ∀ entry ∈ nestedVolume.items, ∃ id < 4,
        entry.1 = [['A']] ++ nested.route id := by decide
    obtain ⟨id, hid, hplace⟩ := hplaces _ hmem
    exact ⟨id, hid, (List.append_cancel_left ((beq_iff_eq.mp heq).trans hplace)).symm⟩
  byteLength_nameOf_le := by decide
  not_mem_nul := by decide
  length_content_le := by
    intro id node hnode _
    have hall : ∀ id < 4, ∀ node ∈ nested.node? id,
        (encodeText (node.content?.getD "")).length ≤ ({} : Settings).maxTextBytes := by
      decide
    exact hall id (lt_size_of_node? hnode) node hnode

end DocumentRules.Disk
