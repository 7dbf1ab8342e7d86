import ClassScaffold.Proofs.Resolution.SameHierarchy
import ClassScaffold.Proofs.Resolution.Surroundings

/-! Diagrams that list the same nodes in different orders. Resolution looks nodes up by id, so it
accepts both or neither, and every class resolves to the same model. -/
namespace ClassScaffold

/-- The same package with its children in another order. -/
def PackageNode.Reordered (p q : PackageNode) : Prop :=
  ∃ children, p.body.children.Perm children ∧ q = { p with body := { p.body with children } }

namespace PackageNode.Reordered
variable {p q : PackageNode}

theorem symm (h : p.Reordered q) : q.Reordered p := by
  obtain ⟨children, hp, rfl⟩ := h
  exact ⟨p.body.children, hp.symm, rfl⟩

theorem id_eq (h : p.Reordered q) : q.id = p.id := by
  obtain ⟨_, _, rfl⟩ := h
  rfl

theorem name_eq (h : p.Reordered q) : q.name = p.name := by
  obtain ⟨_, _, rfl⟩ := h
  rfl

theorem parentId_eq (h : p.Reordered q) : q.parentId = p.parentId := by
  obtain ⟨_, _, rfl⟩ := h
  rfl

theorem mem_children_iff (h : p.Reordered q) {id : String} :
    id ∈ q.body.children ↔ id ∈ p.body.children := by
  obtain ⟨_, hp, rfl⟩ := h
  exact hp.mem_iff.symm

end PackageNode.Reordered

/-- The same diagram with its classes, its packages and the children of each package in other
orders. -/
structure Diagram.Reordered (d e : Diagram) : Prop where
  target : e.target = d.target
  classes : d.classes.Perm e.classes
  packages : ∃ packages, d.packages.Perm packages ∧
    List.Forall₂ PackageNode.Reordered packages e.packages

/-- A walk does not depend on the order of what it has not met. -/
theorem walkInterfaces_of_perm {pool others : List ClassNode} (hp : pool.Perm others)
    (hn : (pool.map (·.id)).Nodup) (ids : List String) :
    walkInterfaces pool ids = walkInterfaces others ids := by
  fun_induction walkInterfaces pool ids generalizing others with
  | case1 => rw [walkInterfaces]
  | case2 pool id waiting h ih =>
    rw [walkInterfaces_of_none (find?_key_of_perm hp hn id ▸ h)]
    exact ih hp hn
  | case3 pool id waiting node h ih =>
    rw [walkInterfaces_of_some (find?_key_of_perm hp hn id ▸ h)]
    exact congrArg _ (ih (hp.filter _) (hn.sublist (List.filter_sublist.map _)))

namespace Diagram.Reordered
variable {d e : Diagram} {p q : PackageNode}

theorem symm (h : d.Reordered e) : e.Reordered d where
  target := h.target.symm
  classes := h.classes.symm
  packages := by
    obtain ⟨packages, hp, hr⟩ := h.packages
    have hflip : List.Forall₂ PackageNode.Reordered e.packages packages :=
      .flip (hr.imp fun _ _ => .symm)
    obtain ⟨others, hr', hp'⟩ : (Relation.Comp List.Perm (List.Forall₂ PackageNode.Reordered))
        e.packages d.packages := by
      rw [← List.forall₂_comp_perm_eq_perm_comp_forall₂]
      exact ⟨packages, hflip, hp.symm⟩
    exact ⟨others, hr', hp'⟩

theorem exists_package (h : d.Reordered e) (hp : p ∈ d.packages) :
    ∃ q ∈ e.packages, p.Reordered q := by
  obtain ⟨packages, hperm, hr⟩ := h.packages
  exact exists_of_forall₂ hr (hperm.mem_iff.mp hp)

theorem nodeIds_perm (h : d.Reordered e) : d.nodeIds.Perm e.nodeIds := by
  obtain ⟨packages, hperm, hr⟩ := h.packages
  have hids := map_eq_of_forall₂ hr fun _ _ hpq => PackageNode.Reordered.id_eq hpq |>.symm
  exact (h.classes.map _).append (hids ▸ hperm.map _)

theorem samePackage (h : d.Reordered e) (hr : p.Reordered q) : d.SamePackage e p q where
  id := hr.id_eq
  name := hr.name_eq
  parentId := hr.parentId_eq
  isChild id := by simp only [IsChild, hr.mem_children_iff, hr.id_eq, h.classes.mem_iff]

theorem ownersKnown (h : d.Reordered e) (ho : d.OwnersKnown) : e.OwnersKnown := by
  intro c hc id hid
  obtain ⟨p, hp, rfl⟩ := ho c (h.classes.mem_iff.mpr hc) id hid
  obtain ⟨q, hq, hr⟩ := h.exists_package hp
  exact ⟨q, hq, hr.id_eq⟩

theorem sameHierarchy (h : d.Reordered e) : d.SameHierarchy e where
  target := h.target
  nodeIds _ := h.nodeIds_perm.mem_iff.symm
  left p hp := by
    obtain ⟨q, hq, hr⟩ := h.exists_package hp
    exact ⟨q, hq, h.samePackage hr⟩
  right q hq := by
    obtain ⟨p, hp, hr⟩ := h.symm.exists_package hq
    exact ⟨p, hp, h.samePackage hr.symm⟩
  owners := ⟨h.ownersKnown, h.symm.ownersKnown⟩

theorem violations_perm (h : d.Reordered e) : d.violations.Perm e.violations := by
  obtain ⟨packages, hperm, hr⟩ := h.packages
  have hnames : packages.flatMap PackageNode.violations = e.packages.flatMap PackageNode.violations := by
    rw [List.flatMap_def, List.flatMap_def]
    refine congrArg _ (map_eq_of_forall₂ hr fun p q hpq => ?_)
    rw [PackageNode.violations, PackageNode.violations, hpq.name_eq]
  rw [violations, violations, h.target, ← hnames]
  exact (h.classes.flatMap_right _).append (hperm.flatMap_right _)

section Lookup
variable (h : d.Reordered e) (hn : d.nodeIds.Nodup)
include h hn

theorem nodup_nodeIds : e.nodeIds.Nodup :=
  h.nodeIds_perm.nodup_iff.mp hn

theorem class?_eq (id : String) : e.registry.class? id = d.registry.class? id := by
  refine Option.ext fun node => ?_
  rw [class?_eq_some_iff hn, class?_eq_some_iff (h.nodup_nodeIds hn), h.classes.mem_iff]

theorem seenAlike (node : ClassNode) : node.SeenAlike d e node where
  target := h.target
  node := ⟨node.packageId, rfl⟩
  implemented := by
    have hperm : d.interfaces.Perm e.interfaces := h.classes.filter _
    rw [implemented, implemented, walkInterfaces_of_perm hperm (nodup_interfaceIds hn)]
  shown id := by rw [h.class?_eq hn]

theorem classViolations_perm : d.registry.classViolations.Perm e.registry.classViolations := by
  have hparents : ClassNode.parentViolations e.registry = ClassNode.parentViolations d.registry :=
    funext fun node => (h.seenAlike hn node).parentViolations_eq
  have hfriends : ClassNode.friendViolations e.registry = ClassNode.friendViolations d.registry :=
    funext fun node => (h.seenAlike hn node).friendViolations_eq
  have hlifecycle : ClassNode.lifecycleViolations e = ClassNode.lifecycleViolations d :=
    funext fun node => (h.seenAlike hn node).lifecycleViolations_eq
  simp only [Registry.classViolations, diagram_registry, hparents, hfriends, hlifecycle]
  exact ((h.classes.flatMap_right _).append (h.classes.flatMap_right _)).append
    (h.classes.flatMap_right _)

theorem toModel_eq {all all' : List (PackageNode × String)} (hd : d.Walked all [])
    (he : e.Walked all' []) {c : ClassNode} (hc : c ∈ d.classes) :
    c.toModel e.registry (e.placementAfter (e.encountersOf all')) =
      c.toModel d.registry (d.placementAfter (d.encountersOf all)) :=
  (h.seenAlike hn c).toModel_eq <| h.sameHierarchy.packagePath_eq hn (h.nodup_nodeIds hn) hd he hc
    (h.classes.mem_iff.mp hc) rfl

end Lookup

private theorem verdict_ok_of_perm {rs others : List Rejection} (hp : rs.Perm others)
    (h : verdict rs = .ok ()) : verdict others = .ok () := by
  rw [verdict_eq_ok_iff] at h ⊢
  exact List.nil_perm.mp (h ▸ hp)

/-- What is accepted in one order is accepted in the other, and the classes of both models are the
same ones. -/
theorem accept {m : Model} (h : d.Reordered e) (ha : d.accept = .ok m) :
    (m.classes.map (·.id)).Nodup ∧
      ∃ m', e.accept = .ok m' ∧ m'.target = m.target ∧ m.classes.Perm m'.classes := by
  obtain ⟨hvalid, hresolve⟩ := accept_eq_ok_iff.mp ha
  obtain ⟨-, hv, -⟩ := resolve_eq_ok_iff.mp hresolve
  obtain ⟨hn, hf, all, hd, rfl⟩ := walked_of_resolve hresolve
  have hn' := h.nodup_nodeIds hn
  constructor
  · rw [Registry.toModel, List.map_map]
    exact (List.nodup_append.mp hn).1
  rcases ofRegistry_cases hn' with ⟨_, all', he, hok⟩ | ⟨hf', _⟩
  · have hvalid' := verdict_ok_of_perm h.violations_perm hvalid
    have hresolve' := resolve_eq_ok_iff.mpr ⟨hn',
      verdict_ok_of_perm (h.classViolations_perm hn) hv, _, hok, rfl⟩
    refine ⟨_, accept_eq_ok_iff.mpr ⟨hvalid', hresolve'⟩, h.target, ?_⟩
    have hsame : e.classes.map (ClassNode.toModel e.registry (e.placementAfter (e.encountersOf all'))) =
        e.classes.map (ClassNode.toModel d.registry (d.placementAfter (d.encountersOf all))) :=
      List.map_congr_left fun c hc => h.toModel_eq hn hd he (h.classes.mem_iff.mpr hc)
    simp only [Registry.toModel, diagram_registry, hsame]
    exact h.classes.map _
  · exact absurd (h.sameHierarchy.isForest hn' hf) hf'

end Diagram.Reordered

end ClassScaffold
