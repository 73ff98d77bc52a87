import DocumentRules.Proofs.Project.Routes

/-!
# Resource paths lead back

A node that brings no resource path gets one when it is put into a project: its name behind the path
of its parent. A path is looked up the other way round, from the root down, by the first child that
has the next name. In a project of derived nodes, no two siblings of which have the same name, the
one undoes the other (`Grown.resource_paths_lead_back`): the path of a node leads to the node, no
two nodes have the same path, and another path leads to a node exactly when it has the same
segments.

The root is no exception. It has no name, its path is empty, and so is its route. Names may be `.`
or `..`, which have no meaning of their own in a project.
-/

set_option autoImplicit false
set_option relaxedAutoImplicit false

namespace DocumentRules.Project

open Text

/-- Assumes: a project grown from newly constructed nodes that bring no resource path and have names
that can be segments, no two siblings of which have the same name.

The resource path of every node leads to the node. Two nodes with the same path are the same. A path
leads to a node exactly when its segments, joined by single slashes, are the path of the node. -/
theorem Grown.resource_paths_lead_back {project : Project} (h : Grown Node.IsDerived project)
    (hdiffer : SiblingsDiffer project) :
    (∀ id node, project.node? id = some node → ∃ resource, node.resource? = some resource ∧
      project.resolve? resource.toList = some id) ∧
    (∀ first second node other, project.node? first = some node →
      project.node? second = some other → node.resource? = other.resource? → first = second) ∧
    ∀ path id, project.resolve? path = some id ↔ ∃ node, project.node? id = some node ∧
      node.resource? = some (String.ofList (joinWith '/' (segments path))) := by
  have hnamed : IsNamed project :=
    { toIsTree := (h.mono fun _ hnode ↦ hnode.isNew).isTree, eq_of_siblings := hdiffer }
  have hback {id : NodeId} {node : Node} (hnode : project.node? id = some node) :
      node.resource? = some (String.ofList (project.routePath id)) ∧
        project.resolve? (project.routePath id) = some id := by
    have hid := lt_size_of_node? hnode
    exact ⟨h.resource?_eq_some_routePath hnode,
      hnamed.resolve?_eq_some_iff.mpr ⟨hid, (h.segments_routePath hid).symm⟩⟩
  refine ⟨fun id node hnode ↦ ?_, fun first second node other hnode hother hsame ↦ ?_,
    fun path id ↦ ⟨fun hresolve ↦ ?_, ?_⟩⟩
  · obtain ⟨hresource, hresolve⟩ := hback hnode
    exact ⟨_, hresource, by rw [String.toList_ofList, hresolve]⟩
  · obtain ⟨hresource, hresolve⟩ := hback hnode
    obtain ⟨hresource', hresolve'⟩ := hback hother
    rw [hresource, hresource', Option.some.injEq, String.ofList_inj] at hsame
    rw [hsame, hresolve'] at hresolve
    exact (Option.some.inj hresolve).symm
  · obtain ⟨hid, hroute⟩ := hnamed.resolve?_eq_some_iff.mp hresolve
    obtain ⟨node, hnode⟩ := exists_node?_of_lt_size hid
    exact ⟨node, hnode, by rw [(hback hnode).1, routePath, hroute]⟩
  · rintro ⟨node, hnode, hresource⟩
    have hid := lt_size_of_node? hnode
    rw [(hback hnode).1, Option.some.injEq, String.ofList_inj] at hresource
    rw [hnamed.resolve?_eq_some_iff, ← h.segments_routePath hid, hresource]
    exact ⟨hid, segments_joinWith_segments path⟩

/-- In the sample the document in the folder is found by its path, with slashes to spare as well,
and the root by the empty one. No node has the path of a document that is not in the folder. -/
theorem resource_paths_lead_back_sample :
    Grown Node.IsDerived sample ∧ SiblingsDiffer sample ∧
      sample.resolve? "A/inside".toList = some 2 ∧ sample.resolve? "//A//inside/".toList = some 2 ∧
      sample.resolve? [] = some root ∧ sample.resolve? "A/beside".toList = none := by
  have hgrown : Grown Node.IsDerived sample := grown_sample_of
    ⟨⟨rfl, rfl⟩, rfl, rfl, by decide, by decide⟩ ⟨⟨rfl, rfl⟩, rfl, rfl, by decide, by decide⟩
    ⟨⟨rfl, rfl⟩, rfl, rfl, by decide, by decide⟩
  obtain ⟨hback, -, hleads⟩ := hgrown.resource_paths_lead_back siblingsDiffer_sample
  have hroot : sample.node? root = some _ := rfl
  have hinside : sample.node? 2 = some _ := rfl
  obtain ⟨resource, hresource, hresolve⟩ := hback 2 _ hinside
  obtain rfl : "A/inside" = resource := Option.some.inj hresource
  obtain ⟨empty, hempty, hresolveRoot⟩ := hback root _ hroot
  obtain rfl : "" = empty := Option.some.inj hempty
  refine ⟨hgrown, siblingsDiffer_sample, hresolve, (hleads _ _).mpr ⟨_, hinside, rfl⟩,
    hresolveRoot, Option.eq_none_iff_forall_ne_some.mpr fun id hid ↦ ?_⟩
  obtain ⟨node, hnode, hpath⟩ := (hleads _ id).mp hid
  have hall : ∀ id < 4, ∀ node ∈ sample.node? id, node.resource? ≠ some "A/beside" := by decide
  exact hall id (lt_size_of_node? hnode) node hnode hpath

end DocumentRules.Project
