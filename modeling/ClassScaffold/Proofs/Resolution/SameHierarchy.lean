import ClassScaffold.Proofs.Resolution.Paths

/-! Diagrams with the same hierarchy. Their packages hold the same nodes, however that is spelled, so the
same ways lead down from the roots, and both are forests or neither is. -/
namespace ClassScaffold

namespace Diagram

/-- A package and its counterpart in another diagram, which holds the same nodes. -/
structure SamePackage (d e : Diagram) (p q : PackageNode) : Prop where
  id : q.id = p.id
  name : q.name = p.name
  parentId : q.parentId = p.parentId
  isChild : ∀ id, e.IsChild q id ↔ d.IsChild p id

def OwnersKnown (d : Diagram) : Prop :=
  ∀ c ∈ d.classes, ∀ id, c.packageId = some id → ∃ p ∈ d.packages, p.id = id

/-- Every package has a counterpart in the other diagram. -/
structure SameHierarchy (d e : Diagram) : Prop where
  target : e.target = d.target
  nodeIds : ∀ id, id ∈ e.nodeIds ↔ id ∈ d.nodeIds
  left : ∀ p ∈ d.packages, ∃ q ∈ e.packages, d.SamePackage e p q
  right : ∀ q ∈ e.packages, ∃ p ∈ d.packages, d.SamePackage e p q
  owners : d.OwnersKnown ↔ e.OwnersKnown

variable {d e : Diagram} {p q : PackageNode} {ps : List PackageNode}

namespace SamePackage

theorem symm (h : d.SamePackage e p q) : e.SamePackage d q p where
  id := h.id.symm
  name := h.name.symm
  parentId := h.parentId.symm
  isChild id := (h.isChild id).symm

theorem isRoot (h : d.SamePackage e p q) : q.isRoot = p.isRoot := by
  rw [PackageNode.isRoot, h.parentId, PackageNode.isRoot]

end SamePackage

namespace SameHierarchy

theorem symm (h : d.SameHierarchy e) : e.SameHierarchy d where
  target := h.target.symm
  nodeIds id := (h.nodeIds id).symm
  left q hq := by
    obtain ⟨p, hp, hs⟩ := h.right q hq
    exact ⟨p, hp, hs.symm⟩
  right p hp := by
    obtain ⟨q, hq, hs⟩ := h.left p hp
    exact ⟨q, hq, hs.symm⟩
  owners := h.owners.symm

/-- A way down from a root is there in both, with the same names along it. -/
theorem chain (h : d.SameHierarchy e) (hc : d.Chain ps p) :
    ∃ qs q, e.Chain qs q ∧ d.SamePackage e p q ∧
      qs.map PackageNode.name = ps.map PackageNode.name := by
  induction hc with
  | root hp hroot =>
    obtain ⟨q, hq, hs⟩ := h.left _ hp
    exact ⟨[q], q, .root hq (hs.isRoot ▸ hroot), hs, by simp [hs.name]⟩
  | child _ hch hp ih =>
    obtain ⟨qs, q, hc, hs, hnames⟩ := ih
    obtain ⟨q', hq, hs'⟩ := h.left _ hp
    refine ⟨qs ++ [q'], q', .child hc ?_ hq, hs', by simp [hnames, hs'.name]⟩
    rw [hs'.id]
    exact (hs.isChild _).mpr hch

theorem reachable (h : d.SameHierarchy e) (hr : d.Reachable p) :
    ∃ q, e.Reachable q ∧ d.SamePackage e p q := by
  obtain ⟨ps, hc⟩ := hr
  obtain ⟨qs, q, hc', hs, _⟩ := h.chain hc
  exact ⟨q, ⟨qs, hc'⟩, hs⟩

private theorem leadsTo (h : d.SameHierarchy e) {path id : String} (hl : d.LeadsTo path id) :
    e.LeadsTo path id := by
  obtain ⟨ps, p, hps, hch, rfl⟩ := hl
  obtain ⟨qs, q, hqs, hs, hnames⟩ := h.chain hps
  exact ⟨qs, q, hqs, (hs.isChild id).mpr hch, by rw [h.target, hnames]⟩

theorem leadsTo_iff (h : d.SameHierarchy e) {path id : String} :
    e.LeadsTo path id ↔ d.LeadsTo path id :=
  ⟨h.symm.leadsTo, h.leadsTo⟩

theorem isForest (h : d.SameHierarchy e) (hn : e.nodeIds.Nodup) (hf : d.IsForest) : e.IsForest where
  parents := by
    intro q hq hroot
    obtain ⟨p, hp, hs⟩ := h.right q hq
    obtain ⟨r, hrm, hid⟩ := hf.parents p hp (hs.isRoot ▸ hroot)
    obtain ⟨s, hsm, hrs⟩ := h.left r hrm
    exact ⟨s, hsm, by rw [hrs.id, hid, hs.parentId]⟩
  owners := h.owners.mp hf.owners
  named := by
    intro q hq id hc
    obtain ⟨p, hp, hs⟩ := h.symm.reachable hq
    exact (h.nodeIds id).mpr (hf.named p hp id ((hs.isChild id).mpr hc))
  roots := by
    intro q hq r hrm hroot hc
    obtain ⟨p, hp, hs⟩ := h.symm.reachable hq
    obtain ⟨s, hsm, hrs⟩ := h.right r hrm
    refine hf.roots p hp s hsm (hrs.isRoot.symm ▸ hroot) ((hs.isChild s.id).mpr ?_)
    rwa [← hrs.id]
  single := by
    intro q r hq hr id hid hcq hcr
    obtain ⟨p, hp, hqp⟩ := h.symm.reachable hq
    obtain ⟨s, hs, hrs⟩ := h.symm.reachable hr
    have heq : p = s := hf.single p s hp hs id ((h.nodeIds id).mp hid)
      ((hqp.isChild id).mpr hcq) ((hrs.isChild id).mpr hcr)
    obtain ⟨_, hcq⟩ := hq
    obtain ⟨_, hcr⟩ := hr
    refine package_eq_of_id hn hcq.mem hcr.mem ?_
    rw [← hqp.id, ← hrs.id, heq]

section Placed
variable (h : d.SameHierarchy e) (hn : d.nodeIds.Nodup) (hn' : e.nodeIds.Nodup)
  {all all' : List (PackageNode × String)} (hd : d.Walked all []) (he : e.Walked all' [])
include h hn hn' hd he

private theorem path_of_same (hp : p ∈ d.packages) (hq : q ∈ e.packages) (hs : d.SamePackage e p q)
    {path : String} (hpath : (p.toModel (d.placementAfter (d.encountersOf all))).path = some path) :
    (q.toModel (e.placementAfter (e.encountersOf all'))).path = some path := by
  obtain ⟨ps, hps, rfl⟩ := (hd.path_eq_some_iff hn hp).mp hpath
  obtain ⟨qs, r, hqs, hr, hnames⟩ := h.chain hps
  obtain rfl := package_eq_of_id hn' hqs.mem hq (hr.id.trans hs.id.symm)
  exact (he.path_eq_some_iff hn' hq).mpr ⟨qs, hqs, by rw [h.target, hnames]⟩

theorem package_toModel_eq (hp : p ∈ d.packages) (hq : q ∈ e.packages) (hs : d.SamePackage e p q) :
    q.toModel (e.placementAfter (e.encountersOf all')) =
      p.toModel (d.placementAfter (d.encountersOf all)) := by
  have hpath : (q.toModel (e.placementAfter (e.encountersOf all'))).path =
      (p.toModel (d.placementAfter (d.encountersOf all))).path :=
    Option.ext fun _ => ⟨h.symm.path_of_same hn' hn he hd hq hp hs.symm,
      h.path_of_same hn hn' hd he hp hq hs⟩
  simp only [PackageNode.toModel] at hpath ⊢
  rw [hpath, hs.id, hs.name]

theorem packagePath_eq {c c' : ClassNode} (hc : c ∈ d.classes) (hc' : c' ∈ e.classes)
    (hid : c'.id = c.id) :
    (c'.toModel e.registry (e.placementAfter (e.encountersOf all'))).packagePath =
      (c.toModel d.registry (d.placementAfter (d.encountersOf all))).packagePath := by
  refine Option.ext fun path => ?_
  rw [he.packagePath_eq_some_iff hn' hc', hd.packagePath_eq_some_iff hn hc, hid, h.leadsTo_iff]

end Placed

end SameHierarchy

end Diagram

end ClassScaffold
