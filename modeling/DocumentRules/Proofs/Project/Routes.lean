import DocumentRules.Proofs.Project.Placement
import DocumentRules.Proofs.Project.Subtree
import DocumentRules.Proofs.Text.Segments

/-!
# Routes

The route of a node is the list of names on the way down to it from the root. Where siblings have
different names (`IsNamed`) a node is known by its route (`eq_of_route_eq`), one node is above
another exactly when its route is the beginning of the other's (`isWithin_iff_route_prefix`), and
following names down from a node leads to the node whose route continues with them
(`descend?_eq_some_iff`).

A node that is put into a project without a resource path gets its route as one
(`Grown.resource?_eq_some_routePath`).
-/

set_option autoImplicit false
set_option relaxedAutoImplicit false

namespace DocumentRules.Project

open Text

/-- The name of the node with an identifier. -/
def nameOf (project : Project) (id : NodeId) : List Char :=
  (project.node? id).elim [] fun node ↦ node.name.toList

/-- The names on the way down from the root to a node, which is the last of them. -/
def route (project : Project) (id : NodeId) : List (List Char) :=
  ((id :: project.ancestors id).dropLast.map project.nameOf).reverse

/-- The route of a node, written as a path. -/
def routePath (project : Project) (id : NodeId) : List Char := joinWith '/' (project.route id)

/-- No two nodes under one parent have the same name. -/
def SiblingsDiffer (project : Project) : Prop :=
  ∀ first second parent, project.IsParent first parent → project.IsParent second parent →
    project.nameOf first = project.nameOf second → first = second

/-- Assumes: a project in which no two nodes have both the same parent and the same name. Then no
two siblings have the same name. -/
theorem siblingsDiffer_of_forall {project : Project}
    (h : ∀ first < project.size, ∀ second < project.size,
      (project.parentOf? first, project.nameOf first) =
        (project.parentOf? second, project.nameOf second) → first = second) :
    SiblingsDiffer project :=
  fun first second _ hfirst hsecond hnames ↦
    h first (lt_size_of_isParent hfirst) second (lt_size_of_isParent hsecond)
      (Prod.ext (hfirst.trans hsecond.symm) hnames)

theorem siblingsDiffer_sample : SiblingsDiffer sample := siblingsDiffer_of_forall (by decide)

/-- A tree in which siblings have different names. -/
structure IsNamed (project : Project) : Prop extends IsTree project where
  eq_of_siblings : SiblingsDiffer project

theorem Rooted.route_root {project : Project} (h : Rooted project) : project.route root = [] := by
  obtain ⟨node, hnode, hparent, -⟩ := h.root_node
  have hnone : project.parentOf? root = none := by rw [parentOf?, hnode, Option.bind_some, hparent]
  rw [route, ancestors_of_parentOf?_eq_none hnone]
  rfl

/-- The route of a node is that of its parent with the node's name at the end. -/
theorem Rooted.route_of_isParent {project : Project} (h : Rooted project) {id parent : NodeId}
    (hparent : project.IsParent id parent) :
    project.route id = project.route parent ++ [project.nameOf id] := by
  rw [route, h.ancestors_of_isParent hparent, List.dropLast_cons_of_ne_nil (List.cons_ne_nil _ _),
    List.map_cons, List.reverse_cons]
  rfl

/-- The way up from a node ends at the root. -/
theorem Rooted.eq_root_or_exists_isParent {project : Project} (h : Rooted project) {id : NodeId}
    (hsize : id < project.size) : id = root ∨ ∃ parent, project.IsParent id parent := by
  obtain ⟨node, hnode⟩ := exists_node?_of_lt_size hsize
  by_cases hroot : id = root
  · exact Or.inl hroot
  · exact Or.inr (h.exists_isParent hnode hroot)

/-- A route is made of names of nodes that are not the root. -/
theorem Rooted.forall_mem_route {project : Project} (h : Rooted project)
    {property : List Char → Prop}
    (hname : ∀ id, id < project.size → id ≠ root → property (project.nameOf id)) {id : NodeId}
    (hid : id < project.size) : ∀ name ∈ project.route id, property name := by
  induction id using Nat.strongRecOn with
  | _ id ih =>
    rcases h.eq_root_or_exists_isParent hid with rfl | ⟨parent, hparent⟩
    · rw [h.route_root]
      exact nofun
    · have hlt := h.lt_of_isParent hparent
      rw [h.route_of_isParent hparent]
      intro name hmem
      rcases List.mem_append.mp hmem with hmem | hmem
      · exact ih parent hlt (Nat.lt_trans hlt hid) name hmem
      · rw [List.mem_singleton.mp hmem]
        exact hname id hid (Nat.ne_of_gt (Nat.lt_of_le_of_lt (Nat.zero_le parent) hlt))

namespace IsNamed

variable {project : Project}

theorem lt_size_parent (h : IsNamed project) {id parent : NodeId}
    (hparent : project.IsParent id parent) : parent < project.size :=
  Nat.lt_trans (h.lt_of_isParent hparent) (lt_size_of_isParent hparent)

/-- Two nodes with the same route are the same. -/
theorem eq_of_route_eq (h : IsNamed project) {first second : NodeId}
    (hfirst : first < project.size) (hsecond : second < project.size)
    (hroute : project.route first = project.route second) : first = second := by
  induction first using Nat.strongRecOn generalizing second with
  | _ first ih =>
    rcases h.eq_root_or_exists_isParent hfirst with rfl | ⟨upper, hupper⟩ <;>
      rcases h.eq_root_or_exists_isParent hsecond with rfl | ⟨other, hother⟩
    · rfl
    · rw [h.route_root, h.route_of_isParent hother] at hroute
      exact absurd hroute.symm (List.append_ne_nil_of_right_ne_nil _ (List.cons_ne_nil _ _))
    · rw [h.route_root, h.route_of_isParent hupper] at hroute
      exact absurd hroute (List.append_ne_nil_of_right_ne_nil _ (List.cons_ne_nil _ _))
    · rw [h.route_of_isParent hupper, h.route_of_isParent hother] at hroute
      obtain ⟨hparents, hnames⟩ := List.append_inj' hroute rfl
      obtain rfl : upper = other := ih upper (h.lt_of_isParent hupper) (h.lt_size_parent hupper)
        (h.lt_size_parent hother) hparents
      exact h.eq_of_siblings first second upper hupper hother (List.cons.inj hnames).1

/-- What begins the route of a node is the route of a node at or above it. -/
theorem exists_of_prefix_route (h : IsNamed project) {id : NodeId} (hid : id < project.size)
    {names : List (List Char)} (hnames : names <+: project.route id) :
    ∃ upper < project.size, project.IsWithin id upper ∧ project.route upper = names := by
  induction id using Nat.strongRecOn with
  | _ id ih =>
    rcases h.eq_root_or_exists_isParent hid with rfl | ⟨parent, hparent⟩
    · rw [h.route_root] at hnames
      exact ⟨root, hid, .refl, h.route_root.trans (List.prefix_nil.mp hnames).symm⟩
    · rw [h.route_of_isParent hparent, List.prefix_concat_iff] at hnames
      rcases hnames with heq | hnames
      · exact ⟨id, hid, .refl, (h.route_of_isParent hparent).trans heq.symm⟩
      · obtain ⟨upper, hsize, hwithin, hroute⟩ :=
          ih parent (h.lt_of_isParent hparent) (h.lt_size_parent hparent) hnames
        exact ⟨upper, hsize, .head hparent hwithin, hroute⟩

theorem route_prefix_of_isWithin (h : IsNamed project) {id top : NodeId}
    (hwithin : project.IsWithin id top) : project.route top <+: project.route id := by
  induction hwithin using Relation.ReflTransGen.head_induction_on with
  | refl => exact List.prefix_rfl
  | head hparent _ ih =>
    rw [h.route_of_isParent hparent]
    exact ih.trans (List.prefix_append _ _)

/-- A node is at or beneath another when its route begins with the other's. -/
theorem isWithin_iff_route_prefix (h : IsNamed project) {id top : NodeId} (hid : id < project.size)
    (htop : top < project.size) :
    project.IsWithin id top ↔ project.route top <+: project.route id := by
  refine ⟨h.route_prefix_of_isWithin, fun hprefix ↦ ?_⟩
  obtain ⟨upper, hupper, hwithin, hroute⟩ := h.exists_of_prefix_route hid hprefix
  exact h.eq_of_route_eq hupper htop hroute ▸ hwithin

/-- A node is above another when its route begins that of the other's parent. -/
theorem isAncestor_iff_route_prefix (h : IsNamed project) {target id parent : NodeId}
    (htarget : target < project.size) (hparent : project.IsParent id parent) :
    project.isAncestor target id = true ↔ project.route target <+: project.route parent := by
  rw [h.isAncestor_iff_isWithin hparent,
    h.isWithin_iff_route_prefix (h.lt_size_parent hparent) htarget]

/-- The child with a name. -/
theorem childNamed?_eq_some_iff (h : IsNamed project) {name : List Char} {id child : NodeId} :
    project.childNamed? name id = some child ↔
      project.IsParent child id ∧ project.nameOf child = name := by
  have hcarries : ∀ {candidate : NodeId}, project.IsParent candidate id →
      ((project.node? candidate).any (fun node ↦ node.name.toList == name) = true ↔
        project.nameOf candidate = name) := by
    intro candidate hparent
    obtain ⟨node, hnode⟩ := exists_node?_of_lt_size (lt_size_of_isParent hparent)
    simp [nameOf, hnode]
  unfold childNamed?
  constructor
  · intro hfind
    obtain ⟨node, hnode, hfind⟩ := Option.bind_eq_some_iff.mp hfind
    have hparent := (h.mem_children_iff hnode).mp (List.mem_of_find?_eq_some hfind)
    have hfound := List.find?_some hfind
    exact ⟨hparent, (hcarries hparent).mp hfound⟩
  · rintro ⟨hparent, hname⟩
    obtain ⟨-, node, hnode, -⟩ := h.parent_of_isParent hparent
    rw [hnode, Option.bind_some]
    cases hfind : node.children.find? _ with
    | none =>
      have hmem := (h.mem_children_iff hnode).mpr hparent
      exact absurd ((hcarries hparent).mpr hname) (List.find?_eq_none.mp hfind child hmem)
    | some first =>
      have hfirst := (h.mem_children_iff hnode).mp (List.mem_of_find?_eq_some hfind)
      have hfound := List.find?_some hfind
      have hnames := ((hcarries hfirst).mp hfound).trans hname.symm
      rw [h.eq_of_siblings first child id hfirst hparent hnames]

theorem lt_size_of_descend? (h : IsNamed project) {top id : NodeId} (htop : top < project.size)
    {names : List (List Char)} (hid : project.descend? top names = some id) :
    id < project.size := by
  induction names generalizing top with
  | nil => exact Option.some.inj hid ▸ htop
  | cons name rest ih =>
    obtain ⟨child, hchild, hrest⟩ := Option.bind_eq_some_iff.mp hid
    exact ih (lt_size_of_isParent (h.childNamed?_eq_some_iff.mp hchild).1) hrest

/-- Names lead down from a node to the node whose route continues with them. -/
theorem descend?_eq_some_iff (h : IsNamed project) {top id : NodeId} (htop : top < project.size)
    (hid : id < project.size) {names : List (List Char)} :
    project.descend? top names = some id ↔ project.route id = project.route top ++ names := by
  induction names generalizing top with
  | nil =>
    rw [descend?, List.append_nil, Option.some.injEq]
    exact ⟨fun heq ↦ heq ▸ rfl, fun hroute ↦ (h.eq_of_route_eq hid htop hroute).symm⟩
  | cons name rest ih =>
    rw [descend?, Option.bind_eq_some_iff]
    constructor
    · rintro ⟨child, hchild, hrest⟩
      obtain ⟨hparent, rfl⟩ := h.childNamed?_eq_some_iff.mp hchild
      rw [(ih (lt_size_of_isParent hparent)).mp hrest, h.route_of_isParent hparent,
        List.append_assoc]
      rfl
    · intro hroute
      have hprefix : project.route top ++ [name] <+: project.route id :=
        ⟨rest, by rw [hroute, List.append_assoc]; rfl⟩
      obtain ⟨child, hsize, -, hchild⟩ := h.exists_of_prefix_route hid hprefix
      rcases h.eq_root_or_exists_isParent hsize with rfl | ⟨parent, hparent⟩
      · rw [h.route_root] at hchild
        exact absurd hchild.symm (List.append_ne_nil_of_right_ne_nil _ (List.cons_ne_nil _ _))
      · rw [h.route_of_isParent hparent] at hchild
        obtain ⟨hparents, hnames⟩ := List.append_inj' hchild rfl
        obtain rfl : parent = top :=
          h.eq_of_route_eq (h.lt_size_parent hparent) htop hparents
        refine ⟨child, h.childNamed?_eq_some_iff.mpr ⟨hparent, (List.cons.inj hnames).1⟩,
          (ih hsize).mpr ?_⟩
        rw [hroute, h.route_of_isParent hparent, (List.cons.inj hnames).1, List.append_assoc]
        rfl

/-- Only the root has an empty route. -/
theorem route_ne_nil (h : IsNamed project) {id : NodeId} (hid : id < project.size)
    (hroot : id ≠ root) : project.route id ≠ [] := by
  rcases h.eq_root_or_exists_isParent hid with heq | ⟨parent, hparent⟩
  · exact absurd heq hroot
  · rw [h.route_of_isParent hparent]
    exact List.append_ne_nil_of_right_ne_nil _ (List.cons_ne_nil _ _)

theorem root_lt_size (h : IsNamed project) : root < project.size := by
  obtain ⟨node, hnode, -⟩ := h.root_node
  exact lt_size_of_node? hnode

/-- A path leads to the node whose route are its segments. -/
theorem resolve?_eq_some_iff (h : IsNamed project) {path : List Char} {id : NodeId} :
    project.resolve? path = some id ↔ id < project.size ∧ project.route id = segments path := by
  have hdescend : ∀ hid : id < project.size,
      project.resolve? path = some id ↔ project.route id = segments path := by
    intro hid
    rw [resolve?, h.descend?_eq_some_iff h.root_lt_size hid, h.route_root, List.nil_append]
  constructor
  · intro hresolve
    have hid := h.lt_size_of_descend? h.root_lt_size hresolve
    exact ⟨hid, (hdescend hid).mp hresolve⟩
  · rintro ⟨hid, hroute⟩
    exact (hdescend hid).mpr hroute

end IsNamed

/-! ### Resource paths -/

/-- A newly constructed node that gets its resource path from where it is put, and whose name can be
a segment of a path. -/
structure Node.IsDerived (node : Node) : Prop where
  isNew : node.IsNew
  resource?_eq_none : node.resource? = none
  detached_eq_false : node.detached = false
  name_ne_nil : node.name.toList ≠ []
  slash_notMem_name : '/' ∉ node.name.toList

/-- A newly constructed folder or document that is named as a file can be, and that gets its
resource path from where it is put. -/
structure Node.IsPlain (node : Node) : Prop where
  isNew : node.IsNew
  kind_ne_item : node.kind ≠ .item
  resource?_eq_none : node.resource? = none
  detached_eq_false : node.detached = false
  isFileName : IsFileName node.name.toList

/-- A derived node gets its name behind the resource path of its parent. -/
theorem placedResource_of_isDerived {parent node : Node} (hnode : node.IsDerived)
    {base : List Char} (hparent : parent.resource? = some (String.ofList base)) :
    placedResource parent node = some (String.ofList
      (if base = [] then node.name.toList else base ++ '/' :: node.name.toList)) := by
  unfold placedResource
  rw [hnode.resource?_eq_none, hnode.detached_eq_false, hparent]
  by_cases hbase : base = []
  · simp [hbase]
  · have hpath : String.ofList base ++ "/" ++ node.name =
        String.ofList (base ++ '/' :: node.name.toList) := String.toList_inj.mp (by simp)
    simp [hbase, hpath]

namespace Grown

variable {admitted : Node → Prop} {project : Project}

/-- A node other than the root was placed under its parent as an admitted node. -/
theorem exists_isParent_placed (h : Grown admitted project) {id : NodeId} {node : Node}
    (hnode : project.node? id = some node) (hroot : id ≠ root) :
    ∃ inserted parentId parent, admitted inserted ∧ project.IsParent id parentId ∧
      project.node? parentId = some parent ∧ node.name = inserted.name ∧
      node.resource? = placedResource parent inserted := by
  obtain ⟨inserted, next, parentId, parent, hinserted, hparent, hplaced⟩ :=
    h.exists_placed hnode hroot
  refine ⟨inserted, parentId, parent, hinserted, ?_, hparent, ?_, ?_⟩
  · rw [IsParent, parentOf?, hnode, Option.bind_some, hplaced]
    rfl
  all_goals
    rw [hplaced]
    rfl

/-- The names on a route are names of admitted nodes. -/
theorem forall_mem_route (h : Grown admitted project) {property : List Char → Prop}
    (hname : ∀ node, admitted node → property node.name.toList) {id : NodeId}
    (hid : id < project.size) : ∀ name ∈ project.route id, property name := by
  refine h.rooted.forall_mem_route (fun other hother hroot ↦ ?_) hid
  obtain ⟨node, hnode⟩ := exists_node?_of_lt_size hother
  obtain ⟨inserted, -, -, hinserted, -, -, heq, -⟩ := h.exists_isParent_placed hnode hroot
  rw [nameOf, hnode, Option.elim_some, heq]
  exact hname inserted hinserted

/-! #### Derived nodes -/

theorem ne_nil_of_mem_route (h : Grown Node.IsDerived project) {id : NodeId}
    (hid : id < project.size) : ∀ name ∈ project.route id, name ≠ [] :=
  h.forall_mem_route (fun _ hnode ↦ hnode.name_ne_nil) hid

theorem slash_notMem_of_mem_route (h : Grown Node.IsDerived project) {id : NodeId}
    (hid : id < project.size) : ∀ name ∈ project.route id, '/' ∉ name :=
  h.forall_mem_route (fun _ hnode ↦ hnode.slash_notMem_name) hid

theorem segments_routePath (h : Grown Node.IsDerived project) {id : NodeId}
    (hid : id < project.size) : segments (project.routePath id) = project.route id :=
  segments_joinWith (h.ne_nil_of_mem_route hid) (h.slash_notMem_of_mem_route hid)

theorem splitOn_routePath (h : Grown Node.IsDerived project) {id : NodeId}
    (hid : id < project.size) (hroute : project.route id ≠ []) :
    splitOn '/' (project.routePath id) = project.route id :=
  splitOn_joinWith hroute (h.slash_notMem_of_mem_route hid)

theorem routePath_of_isParent (h : Grown Node.IsDerived project) {id parent : NodeId}
    (hparent : project.IsParent id parent) :
    project.routePath id = if project.routePath parent = [] then project.nameOf id
      else project.routePath parent ++ '/' :: project.nameOf id := by
  have hsize := Nat.lt_trans (h.rooted.lt_of_isParent hparent) (lt_size_of_isParent hparent)
  have hempty : project.routePath parent = [] ↔ project.route parent = [] :=
    joinWith_eq_nil_iff (h.ne_nil_of_mem_route hsize)
  unfold routePath at *
  rw [h.rooted.route_of_isParent hparent]
  split
  · rename_i hnil
    rw [hempty.mp hnil]
    rfl
  · rename_i hne
    exact joinWith_append_singleton '/' (mt hempty.mpr hne) _

/-- The resource path of a node is its route. -/
theorem resource?_eq_some_routePath (h : Grown Node.IsDerived project) {id : NodeId} {node : Node}
    (hnode : project.node? id = some node) :
    node.resource? = some (String.ofList (project.routePath id)) := by
  induction id using Nat.strongRecOn generalizing node with
  | _ id ih =>
    by_cases hroot : id = root
    · subst hroot
      obtain ⟨children, hchildren⟩ := h.exists_root
      obtain rfl : _ = node := Option.some.inj (hchildren.symm.trans hnode)
      rw [routePath, h.rooted.route_root]
      rfl
    · obtain ⟨inserted, parentId, parent, hinserted, hparent, hparentNode, hname, hresource⟩ :=
        h.exists_isParent_placed hnode hroot
      have hnameOf : project.nameOf id = inserted.name.toList := by
        rw [nameOf, hnode, Option.elim_some, hname]
      rw [hresource, h.routePath_of_isParent hparent, hnameOf]
      exact placedResource_of_isDerived hinserted
        (ih parentId (h.rooted.lt_of_isParent hparent) hparentNode)

/-! #### Plain nodes -/

theorem isNamed (h : Grown Node.IsPlain project) (hdiffer : SiblingsDiffer project) :
    IsNamed project where
  toIsTree := (h.mono fun _ hnode ↦ hnode.isNew).isTree
  eq_of_siblings := hdiffer

theorem isFileName_of_mem_route (h : Grown Node.IsPlain project) {id : NodeId}
    (hid : id < project.size) : ∀ name ∈ project.route id, IsFileName name :=
  h.forall_mem_route (fun _ hnode ↦ hnode.isFileName) hid

theorem isDerived (h : Grown Node.IsPlain project) : Grown Node.IsDerived project :=
  h.mono fun _ hnode ↦ {
    isNew := hnode.isNew
    resource?_eq_none := hnode.resource?_eq_none
    detached_eq_false := hnode.detached_eq_false
    name_ne_nil := hnode.isFileName.ne_nil
    slash_notMem_name := hnode.isFileName.not_mem_slash }

theorem resource?_eq_routePath (h : Grown Node.IsPlain project) {id : NodeId} {node : Node}
    (hnode : project.node? id = some node) :
    node.resource? = some (String.ofList (project.routePath id)) :=
  h.isDerived.resource?_eq_some_routePath hnode

end Grown

end DocumentRules.Project
