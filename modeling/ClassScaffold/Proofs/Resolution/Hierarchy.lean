import ClassScaffold.Proofs.Resolution.Lookup
import ClassScaffold.Resolution.Packages

/-! The hierarchy of packages: children, chains that start at a root, and what makes it a forest. -/
namespace ClassScaffold

namespace Diagram

/-- A package holds the children it lists and the classes that name it as theirs. -/
def IsChild (d : Diagram) (p : PackageNode) (id : String) : Prop :=
  id ∈ p.body.children ∨ ∃ c ∈ d.classes, c.id = id ∧ c.packageId = some p.id

/-- The packages on a way down from a root, both ends included. -/
inductive Chain (d : Diagram) : List PackageNode → PackageNode → Prop where
  | root {p : PackageNode} : p ∈ d.packages → p.isRoot → d.Chain [p] p
  | child {ps : List PackageNode} {p q : PackageNode} :
    d.Chain ps p → d.IsChild p q.id → q ∈ d.packages → d.Chain (ps ++ [q]) q

def Reachable (d : Diagram) (p : PackageNode) : Prop :=
  ∃ ps, d.Chain ps p

/-- The path spells a way down to a package that holds the node of that id. -/
def LeadsTo (d : Diagram) (path id : String) : Prop :=
  ∃ ps p, d.Chain ps p ∧ d.IsChild p id ∧
    path = d.target.separator.intercalate (ps.map PackageNode.name)

/-- All references between packages and to them are known, and as far as the roots reach nothing has
two places. -/
structure IsForest (d : Diagram) : Prop where
  parents : ∀ p ∈ d.packages, ¬ p.isRoot → ∃ q ∈ d.packages, q.id = p.parentId
  owners : ∀ c ∈ d.classes, ∀ id, c.packageId = some id → ∃ q ∈ d.packages, q.id = id
  named : ∀ p, d.Reachable p → ∀ id, d.IsChild p id → id ∈ d.nodeIds
  roots : ∀ p, d.Reachable p → ∀ r ∈ d.packages, r.isRoot → ¬ d.IsChild p r.id
  single : ∀ p q, d.Reachable p → d.Reachable q → ∀ id ∈ d.nodeIds, d.IsChild p id →
    d.IsChild q id → p = q

theorem mem_childrenOf {d : Diagram} {p : PackageNode} {id : String} :
    id ∈ d.childrenOf p ↔ d.IsChild p id := by
  unfold childrenOf IsChild
  by_cases hl : id ∈ p.body.children
  · simp [hl]
  · simp [hl, and_comm, and_left_comm]

theorem nodup_childrenOf {d : Diagram} (hn : d.nodeIds.Nodup) (p : PackageNode) :
    (d.childrenOf p).Nodup := by
  unfold childrenOf
  refine List.nodup_append.mpr ⟨nodup_eraseDups _, ?_, ?_⟩
  · have hc : (d.classes.map (·.id)).Nodup := (List.nodup_append.mp hn).1
    exact (hc.sublist (List.filter_sublist.map _)).filter _
  · rintro id hid _ ho rfl
    simp [List.mem_filter] at ho hid
    exact ho.2 hid

namespace Chain
variable {d : Diagram} {ps qs : List PackageNode} {p q : PackageNode}

theorem mem (h : d.Chain ps p) : p ∈ d.packages := by
  cases h with
  | root hp _ => exact hp
  | child _ _ hq => exact hq

theorem ne_nil (h : d.Chain ps p) : ps ≠ [] := by
  cases h with
  | root => exact List.cons_ne_nil _ _
  | child => simp

theorem forall_mem (h : d.Chain ps p) : ∀ q ∈ ps, q ∈ d.packages := by
  induction h with
  | root hp _ => exact List.forall_mem_singleton.mpr hp
  | child _ _ hq ih => exact List.forall_mem_append.mpr ⟨ih, List.forall_mem_singleton.mpr hq⟩

theorem unique (hf : d.IsForest) (h : d.Chain ps p) (h' : d.Chain qs p) :
    ps = qs := by
  induction h generalizing qs with
  | root hp hr =>
    cases h' with
    | root => rfl
    | child hc hch _ => exact absurd hch (hf.roots _ ⟨_, hc⟩ _ hp hr)
  | child hc hch hq ih =>
    cases h' with
    | root _ hr => exact absurd hch (hf.roots _ ⟨_, hc⟩ _ hq hr)
    | child hc' hch' _ =>
      cases hf.single _ _ ⟨_, hc⟩ ⟨_, hc'⟩ _ (mem_nodeIds.mpr (.inr ⟨_, hq, rfl⟩)) hch hch'
      rw [ih hc']

end Chain

end Diagram

end ClassScaffold
