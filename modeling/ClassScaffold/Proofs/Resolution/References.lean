import ClassScaffold.Proofs.Resolution.Inheritance
import ClassScaffold.Proofs.Resolution.Lifecycle
import ClassScaffold.Proofs.Resolution.Paths

/-! Ids by which parts of a diagram refer to each other. In a resolved diagram they name what they
should, but for the children of packages that no root reaches. -/
namespace ClassScaffold

namespace ClassNode
variable {registry : Registry} {node : ClassNode}

theorem isSome_class?_of_parentViolationsFrom {regular : Nat} {edges : List ParentEdge}
    (h : node.parentViolationsFrom registry regular edges = []) :
    ∀ edge ∈ edges, (registry.class? edge.id).isSome = true := by
  intro edge he
  obtain ⟨_, parent, hp, _⟩ := (parentViolationsFrom_eq_nil_iff.mp h).1 edge he
  rw [hp, Option.isSome_some]

theorem isSome_class?_of_friendViolations (h : node.friendViolations registry = []) :
    ∀ id ∈ node.body.friends, (registry.class? id).isSome = true := by
  simpa only [friendViolations, List.flatMap_eq_nil_iff, require_eq_nil_iff] using h

/-- What constructors and destructors of a class list are fields of the resolved class. -/
structure FieldsFound (node : ClassNode) (c : ModelClass) : Prop where
  id : c.id = node.id
  initialized : ∀ k ∈ node.body.constructors, ∀ id ∈ k.fields, ∃ f ∈ c.fields, f.id = id
  released : ∀ k ∈ node.body.destructor, ∀ id ∈ k.fields, ∃ f ∈ c.fields, f.id = id

end ClassNode

namespace Diagram
variable {d : Diagram} {m : Model} {id : String}

def NamesClass (d : Diagram) (id : String) : Prop :=
  ∃ c ∈ d.classes, c.id = id

def NamesPackage (d : Diagram) (id : String) : Prop :=
  ∃ p ∈ d.packages, p.id = id

/-- Every id names a node of the kind that it should name. Of packages that no root reaches nothing is
said about their children. -/
structure ReferencesHold (d : Diagram) (m : Model) : Prop where
  parents : ∀ c ∈ d.classes, ∀ edge ∈ c.parents, d.NamesClass edge.id
  friends : ∀ c ∈ d.classes, ∀ id ∈ c.body.friends, d.NamesClass id
  owners : ∀ c ∈ d.classes, ∀ id ∈ c.packageId, d.NamesPackage id
  parentPackages : ∀ p ∈ d.packages, p.parentId ≠ "" → d.NamesPackage p.parentId
  children : ∀ p ∈ d.packages, d.Reachable p → ∀ id ∈ p.body.children,
    d.NamesClass id ∨ d.NamesPackage id
  fields : List.Forall₂ ClassNode.FieldsFound d.classes m.classes

theorem namesClass_of_isSome (hn : d.nodeIds.Nodup) (h : (d.registry.class? id).isSome = true) :
    d.NamesClass id := by
  obtain ⟨c, hc⟩ := Option.isSome_iff_exists.mp h
  exact ⟨c, (class?_eq_some_iff hn).mp hc⟩

/-- Children of every package name nodes exactly if those of the packages do that no root reaches: all
other references of a resolved diagram hold. -/
theorem resolve_references_hold (h : d.resolve = .ok m) :
    d.ReferencesHold m ∧
      ((∀ p ∈ d.packages, ∀ id ∈ p.body.children, d.NamesClass id ∨ d.NamesPackage id) ↔
        ∀ p ∈ d.packages, ¬ d.Reachable p → ∀ id ∈ p.body.children,
          d.NamesClass id ∨ d.NamesPackage id) := by
  obtain ⟨-, hv, -⟩ := resolve_eq_ok_iff.mp h
  simp only [verdict_eq_ok_iff, Registry.classViolations, List.append_eq_nil_iff,
    List.flatMap_eq_nil_iff, diagram_registry] at hv
  obtain ⟨⟨hparents, hfriends⟩, -⟩ := hv
  have hlifecycle := lifecycle_eq_ok_iff.mp (lifecycle_of_resolve h)
  obtain ⟨hn, hf, _, _, rfl⟩ := walked_of_resolve h
  have hchildren : ∀ p ∈ d.packages, d.Reachable p → ∀ id ∈ p.body.children,
      d.NamesClass id ∨ d.NamesPackage id :=
    fun p _ hr id hid => mem_nodeIds.mp (hf.named p hr id (.inl hid))
  refine ⟨{
    parents := fun c hc edge he => namesClass_of_isSome hn
      (ClassNode.isSome_class?_of_parentViolationsFrom (hparents c hc) edge he)
    friends := fun c hc id hid => namesClass_of_isSome hn
      (ClassNode.isSome_class?_of_friendViolations (hfriends c hc) id hid)
    owners := fun c hc id hid => hf.owners c hc id hid
    parentPackages := fun p hp hne => hf.parents p hp (by simpa [PackageNode.isRoot] using hne)
    children := hchildren
    fields := ?_ }, fun hall p hp _ => hall p hp, fun hrest p hp => ?_⟩
  · rw [Registry.toModel, List.forall₂_map_right_iff]
    refine List.forall₂_same.mpr fun node hc => ?_
    have hnames := (hlifecycle node hc).1
    exact ⟨rfl, hnames.initialized, hnames.released⟩
  · by_cases hr : d.Reachable p
    · exact hchildren p hp hr
    · exact hrest p hp hr

/-- References of every kind, to nodes and to fields. -/
def workshop : Diagram where
  target := .cpp
  packages := [{ id := "o", body := { name := "outer", children := ["i", "c"] } },
    { id := "i", parentId := "o", body := { name := "inner" } }]
  classes := [
    { id := "c", parents := [{ id := "e" }], body :=
      { name := "Buffer", friends := ["e"],
        properties := [
          { id := "d", name := "data", type := { name := "int", pointers := [⟨false, true, "size"⟩] } }],
        constructors := [{ name := "sized", fields := ["d.size"] }],
        destructor := some { fields := ["d"] } } },
    { id := "e", packageId := some "i", body := { name := "Store" } }]

theorem resolve_references_hold_workshop :
    ∃ m, workshop.resolve = .ok m ∧ workshop.ReferencesHold m := by
  have hok : workshop.resolve.toBool = true := by decide +kernel
  obtain ⟨m, hm⟩ := exists_ok_of_toBool hok
  exact ⟨m, hm, (resolve_references_hold hm).1⟩

/-- A package that names its parent, but that its parent does not list, with a child that is no node. -/
def strayChild : Diagram where
  target := .java
  packages := [{ id := "o", body := { name := "outer" } },
    { id := "s", parentId := "o", body := { name := "stray", children := ["ghost"] } }]

theorem strayChild_dangles :
    ∃ m, strayChild.resolve = .ok m ∧ ∃ p ∈ strayChild.packages, ∃ id ∈ p.body.children,
      ¬ strayChild.NamesClass id ∧ ¬ strayChild.NamesPackage id := by
  have hok : strayChild.resolve.toBool = true := by decide +kernel
  obtain ⟨m, hm⟩ := exists_ok_of_toBool hok
  refine ⟨m, hm, strayChild.packages[1], by decide, "ghost", by decide, ?_, ?_⟩
  · rintro ⟨c, hc, _⟩
    cases hc
  · rintro ⟨p, hp, hid⟩
    have hno : ∀ p ∈ strayChild.packages, p.id ≠ "ghost" := by decide
    exact hno p hp hid

end Diagram

end ClassScaffold
