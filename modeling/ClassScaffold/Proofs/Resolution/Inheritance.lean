import Mathlib.Logic.Relation
import ClassScaffold.Proofs.Resolution.Acceptance

/-! Parent edges of a resolved diagram. No class is its own parent, and where interfaces extend no
classes a cycle is of one kind. Nothing else keeps edges from going round in a cycle. -/
namespace ClassScaffold

namespace ClassNode

/-- The edges that lead to classes that are no interfaces. -/
def regularEdges (registry : Registry) (edges : List ParentEdge) : List ParentEdge :=
  edges.filter fun edge => (registry.class? edge.id).any fun parent => !parent.isInterface

/-- Parents are in order if each of them is another class, of a kind that may be extended, and those
that are no interfaces are within the limit. -/
theorem parentViolationsFrom_eq_nil_iff {registry : Registry} {node : ClassNode} {regular : Nat}
    {edges : List ParentEdge} :
    node.parentViolationsFrom registry regular edges = [] ↔
      (∀ edge ∈ edges, edge.id ≠ node.id ∧ ∃ parent, registry.class? edge.id = some parent ∧
        (parent.isInterface = false → node.isInterface = true →
          registry.diagram.target.interfacesExtendClasses = true)) ∧
      ∀ limit ∈ registry.diagram.target.baseClassLimit, regularEdges registry edges ≠ [] →
        regular + (regularEdges registry edges).length ≤ limit := by
  induction edges generalizing regular with
  | nil => simp [parentViolationsFrom, regularEdges]
  | cons edge rest ih =>
    rw [parentViolationsFrom, List.forall_mem_cons]
    by_cases hself : edge.id = node.id
    · simp [hself]
    · rw [if_neg hself]
      cases hp : registry.class? edge.id with
      | none => simp
      | some parent =>
        cases hi : parent.isInterface with
        | true =>
          have hr : regularEdges registry (edge :: rest) = regularEdges registry rest := by
            simp [regularEdges, hp, hi]
          simp [ih, hr, hself, hi]
        | false =>
          have hr : regularEdges registry (edge :: rest) = edge :: regularEdges registry rest := by
            simp [regularEdges, hp, hi]
          -- the edge counts itself, and those behind it count on from there
          have hcount (limit : Nat) : (regular + 1 ≤ limit ∧ (regularEdges registry rest ≠ [] →
              regular + 1 + (regularEdges registry rest).length ≤ limit)) ↔
              regular + (regularEdges registry rest).length + 1 ≤ limit := by
            cases regularEdges registry rest with
            | nil => simp
            | cons first others =>
              simp only [ne_eq, List.cons_ne_nil, not_false_eq_true, true_imp_iff, List.length_cons]
              omega
          have hkind : (!node.isInterface || registry.diagram.target.interfacesExtendClasses) = true ↔
              (node.isInterface = true → registry.diagram.target.interfacesExtendClasses = true) := by
            cases node.isInterface <;> simp
          simp only [hi, Bool.false_eq_true, if_false, List.append_eq_nil_iff, require_eq_nil_iff, hkind,
            List.flatMap_eq_nil_iff, Option.mem_toList, decide_eq_true_eq, ih, hr, ne_eq,
            List.cons_ne_nil, not_false_eq_true, true_imp_iff, List.length_cons, hself,
            Option.some.injEq, exists_eq_left', true_and, ← Nat.add_assoc, ← hcount]
          constructor
          · rintro ⟨⟨hk, hl⟩, hrest, hlater⟩
            exact ⟨⟨hk, hrest⟩, fun limit hm => ⟨hl limit hm, hlater limit hm⟩⟩
          · rintro ⟨⟨hk, hrest⟩, hlimit⟩
            exact ⟨⟨hk, fun limit hm => (hlimit limit hm).1⟩, hrest,
              fun limit hm => (hlimit limit hm).2⟩

end ClassNode

namespace Diagram
variable {d : Diagram} {m : Model} {c p : ClassNode}

/-- A parent edge between classes of the diagram. -/
def HasParent (d : Diagram) (c p : ClassNode) : Prop :=
  p ∈ d.classes ∧ p.id ∈ c.parentIds

def HasAncestor (d : Diagram) : ClassNode → ClassNode → Prop :=
  Relation.TransGen d.HasParent

theorem HasAncestor.mem (h : d.HasAncestor c p) : p ∈ d.classes := by
  induction h with
  | single hp => exact hp.1
  | tail _ hp _ => exact hp.1

theorem parentViolations_of_resolve (h : d.resolve = .ok m) (hc : c ∈ d.classes) :
    c.parentViolations d.registry = [] := by
  obtain ⟨_, hv, _⟩ := resolve_eq_ok_iff.mp h
  simp only [verdict_eq_ok_iff, Registry.classViolations, List.append_eq_nil_iff,
    List.flatMap_eq_nil_iff, diagram_registry] at hv
  exact hv.1.1 c hc

section Resolved
variable (h : d.resolve = .ok m)
include h

theorem not_hasParent_self (hc : c ∈ d.classes) : ¬ d.HasParent c c := by
  rintro ⟨_, hid⟩
  obtain ⟨edge, he, hself⟩ := List.mem_map.mp hid
  have hedges := (ClassNode.parentViolationsFrom_eq_nil_iff.mp (parentViolations_of_resolve h hc)).1
  exact (hedges edge he).1 hself

theorem isInterface_of_hasParent (ht : d.target ≠ .cpp) (hc : c ∈ d.classes)
    (hi : c.isInterface = true) (hp : d.HasParent c p) : p.isInterface = true := by
  obtain ⟨hn, _⟩ := resolve_eq_ok_iff.mp h
  obtain ⟨hm, hid⟩ := hp
  obtain ⟨edge, he, hto⟩ := List.mem_map.mp hid
  have hedges := (ClassNode.parentViolationsFrom_eq_nil_iff.mp (parentViolations_of_resolve h hc)).1
  obtain ⟨_, parent, hfound, hkind⟩ := hedges edge he
  obtain ⟨hparent, hsame⟩ := (class?_eq_some_iff hn).mp hfound
  have heq : parent = p := class_eq_of_id hn hparent hm (hsame.trans hto)
  subst heq
  cases hpi : parent.isInterface with
  | true => rfl
  | false =>
    have hext := hkind hpi hi
    cases htarget : d.target with
    | cpp => exact absurd htarget ht
    | csharp | java =>
      rw [diagram_registry, htarget] at hext
      cases hext

theorem isInterface_of_hasAncestor (ht : d.target ≠ .cpp) (hc : c ∈ d.classes)
    (hi : c.isInterface = true) (ha : d.HasAncestor c p) : p.isInterface = true := by
  induction ha with
  | single hp => exact isInterface_of_hasParent h ht hc hi hp
  | tail ha hp ih => exact isInterface_of_hasParent h ht (HasAncestor.mem ha) ih hp

theorem exists_other_of_cycle (hc : c ∈ d.classes) (ha : d.HasAncestor c c) :
    ∃ p ∈ d.classes, p ≠ c ∧ d.HasParent c p ∧ d.HasAncestor p c := by
  obtain ⟨p, hp, hrest⟩ := Relation.TransGen.head'_iff.mp ha
  have hne : p ≠ c := by
    rintro rfl
    exact not_hasParent_self h hc hp
  refine ⟨p, hp.1, hne, hp, ?_⟩
  exact (Relation.reflTransGen_iff_eq_or_transGen.mp hrest).resolve_left hne.symm

theorem isInterface_eq_of_cycle (ht : d.target ≠ .cpp) (hcp : d.HasAncestor c p)
    (hpc : d.HasAncestor p c) : p.isInterface = c.isInterface := by
  rw [Bool.eq_iff_iff]
  constructor
  · intro hi
    exact isInterface_of_hasAncestor h ht hcp.mem hi hpc
  · intro hi
    exact isInterface_of_hasAncestor h ht hpc.mem hi hcp

end Resolved

section Ring
variable {target : Target} {isInterface : Bool} {n i j : Nat}

/-- An id for every number. -/
def ringId (i : Nat) : String :=
  String.ofList (List.replicate (i + 1) 'C')

/-- One of `n` classes that come from each other in a circle. -/
def ringNode (isInterface : Bool) (n i : Nat) : ClassNode where
  id := ringId i
  parents := [{ id := ringId ((i + 1) % n) }]
  isInterface := isInterface
  body := { name := ringId i }

def parentRing (target : Target) (isInterface : Bool) (n : Nat) : Diagram where
  target := target
  classes := (List.range n).map (ringNode isInterface n)

theorem ringId_inj : ringId i = ringId j ↔ i = j := by
  rw [ringId, ringId, String.ofList_inj]
  constructor
  · intro he
    have hlength := congrArg List.length he
    simpa using hlength
  · rintro rfl
    rfl

theorem ringNode_mem_ring (hi : i < n) :
    ringNode isInterface n i ∈ (parentRing target isInterface n).classes :=
  List.mem_map_of_mem (List.mem_range.mpr hi)

theorem nodup_nodeIds_ring : (parentRing target isInterface n).nodeIds.Nodup := by
  have hids : (parentRing target isInterface n).nodeIds = (List.range n).map ringId := by
    simp [nodeIds, parentRing, Function.comp_def, ringNode]
  rw [hids]
  exact List.nodup_range.map fun i j he => ringId_inj.mp he

private theorem next_ne (hn : 2 ≤ n) (hi : i < n) : (i + 1) % n ≠ i := by
  by_cases hlast : i + 1 = n
  · rw [hlast, Nat.mod_self]
    omega
  · rw [Nat.mod_eq_of_lt (by omega)]
    omega

private theorem parentViolations_ringNode (hn : 2 ≤ n) (hi : i < n) :
    (ringNode isInterface n i).parentViolations (parentRing target isInterface n).registry = [] := by
  have hnext : (i + 1) % n < n := Nat.mod_lt _ (by omega)
  rw [ClassNode.parentViolations, ClassNode.parentViolationsFrom_eq_nil_iff]
  constructor
  · intro edge he
    rw [List.mem_singleton.mp he]
    refine ⟨fun hid => next_ne hn hi (ringId_inj.mp hid), ringNode isInterface n ((i + 1) % n), ?_, ?_⟩
    · exact (class?_eq_some_iff nodup_nodeIds_ring).mpr ⟨ringNode_mem_ring hnext, rfl⟩
    · intro hregular hkind
      cases hregular.symm.trans hkind
  · intro limit hlimit _
    have hone : limit = 1 := by
      cases target with
      | cpp => cases hlimit
      | csharp | java => exact (Option.some.inj hlimit).symm
    have hle : (ClassNode.regularEdges (parentRing target isInterface n).registry
        (ringNode isInterface n i).parents).length ≤ 1 := List.length_filter_le _ _
    omega

theorem exists_resolve_ring (hn : 2 ≤ n) : ∃ m, (parentRing target isInterface n).resolve = .ok m := by
  have hids : (parentRing target isInterface n).nodeIds.Nodup := nodup_nodeIds_ring
  have hv : verdict (parentRing target isInterface n).registry.classViolations = .ok () := by
    simp only [verdict_eq_ok_iff, Registry.classViolations, List.append_eq_nil_iff,
      List.flatMap_eq_nil_iff, diagram_registry]
    refine ⟨⟨?_, ?_⟩, ?_⟩
    · intro c hc
      obtain ⟨i, hi, rfl⟩ := List.mem_map.mp hc
      exact parentViolations_ringNode hn (List.mem_range.mp hi)
    · intro c hc
      obtain ⟨i, _, rfl⟩ := List.mem_map.mp hc
      rfl
    · intro c hc
      obtain ⟨i, _, rfl⟩ := List.mem_map.mp hc
      rfl
  have hp : ∃ placement,
      Placement.ofRegistry (parentRing target isInterface n).registry = .ok placement := by
    have howners : (parentRing target isInterface n).classes.flatMap
        (ClassNode.ownerViolations (parentRing target isInterface n).registry) = [] := by
      apply List.flatMap_eq_nil_iff.mpr
      intro c hc
      obtain ⟨i, _, rfl⟩ := List.mem_map.mp hc
      rfl
    refine ⟨Placement.start (parentRing target isInterface n), ?_⟩
    have hwalk : Placement.walk (parentRing target isInterface n).registry
        (Placement.start (parentRing target isInterface n)) [] =
          .ok (.start (parentRing target isInterface n)) := by
      rw [Placement.walk]
    simp only [Placement.ofRegistry, diagram_registry, howners]
    exact hwalk
  obtain ⟨placement, hp⟩ := hp
  exact ⟨_, resolve_eq_ok_iff.mpr ⟨hids, hv, placement, hp, rfl⟩⟩

theorem hasAncestor_ring (hi : i < n) (steps : Nat) :
    (parentRing target isInterface n).HasAncestor (ringNode isInterface n i)
      (ringNode isInterface n ((i + steps + 1) % n)) := by
  have hstep {k : Nat} (hk : k < n) : (parentRing target isInterface n).HasParent
      (ringNode isInterface n k) (ringNode isInterface n ((k + 1) % n)) :=
    ⟨ringNode_mem_ring (Nat.mod_lt _ (by omega)), List.mem_singleton_self _⟩
  induction steps with
  | zero => exact .single (hstep hi)
  | succ steps ih =>
    have hnext := hstep (k := (i + steps + 1) % n) (Nat.mod_lt _ (by omega))
    rw [Nat.mod_add_mod] at hnext
    exact .tail ih hnext

theorem hasAncestor_ring_all (hi : i < n) (hj : j < n) :
    (parentRing target isInterface n).HasAncestor (ringNode isInterface n i)
      (ringNode isInterface n j) := by
  have hsteps : (parentRing target isInterface n).HasAncestor (ringNode isInterface n i)
      (ringNode isInterface n ((i + (n + j - i - 1) + 1) % n)) := hasAncestor_ring hi _
  have hround : (i + (n + j - i - 1) + 1) % n = j := by
    rw [show i + (n + j - i - 1) + 1 = n + j by omega, Nat.add_mod_left, Nat.mod_eq_of_lt hj]
  rwa [hround] at hsteps

end Ring

/-- In a resolved diagram no class is its own parent, so that a cycle of parent edges leads through
another class. Where interfaces extend no classes, it is one of interfaces or one of other classes.
Cycles of two or more classes of either kind are resolved in every language. -/
theorem ancestors_of_resolve :
    (∀ (d : Diagram) (m : Model), d.resolve = .ok m →
      (∀ c ∈ d.classes, ¬ d.HasParent c c) ∧
      (∀ c ∈ d.classes, d.HasAncestor c c →
        ∃ p ∈ d.classes, p ≠ c ∧ d.HasParent c p ∧ d.HasAncestor p c) ∧
      (d.target ≠ .cpp → ∀ c p, d.HasAncestor c p → d.HasAncestor p c →
        p.isInterface = c.isInterface)) ∧
    ∀ (target : Target) (isInterface : Bool) (n : Nat), 2 ≤ n →
      ∃ (d : Diagram) (m : Model), d.resolve = .ok m ∧ d.target = target ∧ d.classes.length = n ∧
        (∀ c ∈ d.classes, c.isInterface = isInterface ∧ c.parents.length = 1) ∧
        ∀ c ∈ d.classes, ∀ p ∈ d.classes, d.HasAncestor c p := by
  constructor
  · intro d m h
    exact ⟨fun c hc => not_hasParent_self h hc, fun c hc ha => exists_other_of_cycle h hc ha,
      fun ht c p hcp hpc => isInterface_eq_of_cycle h ht hcp hpc⟩
  · intro target isInterface n hn
    have hr : ∃ m, (parentRing target isInterface n).resolve = .ok m := exists_resolve_ring hn
    obtain ⟨m, hm⟩ := hr
    refine ⟨parentRing target isInterface n, m, hm, rfl, by simp [parentRing], ?_, ?_⟩
    · intro c hc
      obtain ⟨i, _, rfl⟩ := List.mem_map.mp hc
      exact ⟨rfl, rfl⟩
    · intro c hc p hp
      obtain ⟨i, hi, rfl⟩ := List.mem_map.mp hc
      obtain ⟨j, hj, rfl⟩ := List.mem_map.mp hp
      exact hasAncestor_ring_all (List.mem_range.mp hi) (List.mem_range.mp hj)

/-- Two classes that come from each other. -/
def entwined : Diagram where
  target := .java
  classes := [{ id := "a", parents := [{ id := "b" }], body := { name := "Chicken" } },
    { id := "b", parents := [{ id := "a" }], body := { name := "Egg" } }]

private theorem hasAncestor_entwined :
    entwined.HasAncestor entwined.classes[0] entwined.classes[1] ∧
      entwined.HasAncestor entwined.classes[1] entwined.classes[0] :=
  ⟨.single ⟨by decide, by decide⟩, .single ⟨by decide, by decide⟩⟩

theorem ancestors_of_resolve_entwined :
    ∃ m, entwined.resolve = .ok m ∧ (∀ c ∈ entwined.classes, ¬ entwined.HasParent c c) ∧
      entwined.classes[1].isInterface = entwined.classes[0].isInterface ∧
      ∃ (d : Diagram) (m : Model), d.resolve = .ok m ∧ d.target = .csharp ∧ d.classes.length = 5 := by
  have hok : entwined.resolve.toBool = true := by decide +kernel
  obtain ⟨m, hm⟩ := exists_ok_of_toBool hok
  obtain ⟨hall, hcycles⟩ := ancestors_of_resolve
  obtain ⟨hself, _, hkind⟩ := hall entwined m hm
  obtain ⟨d, m', hd, ht, hl, _⟩ := hcycles .csharp true 5 (by decide)
  exact ⟨m, hm, hself, hkind (by decide) _ _ hasAncestor_entwined.1 hasAncestor_entwined.2,
    d, m', hd, ht, hl⟩

/-- Parent edges that are resolved can lead back to where they start. -/
theorem entwined_cycles :
    ¬ ∀ (d : Diagram) (m : Model), d.resolve = .ok m → ∀ c ∈ d.classes, ¬ d.HasAncestor c c := by
  intro hacyclic
  have hok : entwined.resolve.toBool = true := by decide +kernel
  obtain ⟨m, hm⟩ := exists_ok_of_toBool hok
  obtain ⟨hdown, hup⟩ := hasAncestor_entwined
  exact hacyclic entwined m hm entwined.classes[0] List.mem_cons_self (hdown.trans hup)

end Diagram

end ClassScaffold
