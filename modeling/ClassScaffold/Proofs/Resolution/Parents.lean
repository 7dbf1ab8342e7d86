import ClassScaffold.Proofs.FirstViolation
import ClassScaffold.Proofs.Resolution.Inheritance

/-! Parents of classes: which parent edges are in order, what is reported of those that are not, and
what a class shows of its parents. -/
namespace ClassScaffold

namespace Diagram
variable {d : Diagram} {node : ClassNode} {edge : ParentEdge} {earlier edges : List ParentEdge}
  {r s : Rejection}

/-- The edge leads to a class that is no interface. -/
def LeadsToRegular (d : Diagram) (edge : ParentEdge) : Prop :=
  ∃ p ∈ d.classes, p.id = edge.id ∧ p.isInterface = false

instance (d : Diagram) (edge : ParentEdge) : Decidable (d.LeadsToRegular edge) :=
  inferInstanceAs (Decidable (∃ p ∈ d.classes, _))

def regularCount (d : Diagram) (edges : List ParentEdge) : Nat :=
  edges.countP fun edge => d.LeadsToRegular edge

/-- What is wrong with an edge that stands behind the earlier ones of a class. -/
inductive EdgeFault (d : Diagram) (node : ClassNode) (earlier : List ParentEdge) (edge : ParentEdge) :
    Rejection → Prop
  | itself : edge.id = node.id → d.EdgeFault node earlier edge (.structural (.selfInheritance node.name))
  | unknown : edge.id ≠ node.id → (∀ p ∈ d.classes, p.id ≠ edge.id) →
    d.EdgeFault node earlier edge (.reference (.unknownParent node.name edge.id))
  | extendsClass {p : ClassNode} : edge.id ≠ node.id → d.target ≠ .cpp → node.isInterface = true →
    p ∈ d.classes → p.id = edge.id → p.isInterface = false →
    d.EdgeFault node earlier edge (.structural (.interfaceExtendsClass node.name p.name))
  | secondBase {first : ParentEdge} : edge.id ≠ node.id → d.target ≠ .cpp →
    node.isInterface = false → d.LeadsToRegular edge → first ∈ earlier → d.LeadsToRegular first →
    d.EdgeFault node earlier edge (.structural (.tooManyBaseClasses node.name 1))

/-- What is wrong with an edge, by the positions of its class and of the edge. -/
inductive EdgeFaultAt (d : Diagram) : List Nat → Rejection → Prop
  | edge {i j : Nat} {node : ClassNode} {edge : ParentEdge} {r : Rejection} :
    d.classes[i]? = some node → node.parents[j]? = some edge →
    d.EdgeFault node (node.parents.take j) edge r → d.EdgeFaultAt [i, j] r

/-- Every edge leads to another class of the diagram. Where interfaces extend no classes, a class has one
regular parent at most, and an interface has none. -/
structure ParentsFit (d : Diagram) : Prop where
  others : ∀ c ∈ d.classes, ∀ edge ∈ c.parents, edge.id ≠ c.id
  known : ∀ c ∈ d.classes, ∀ edge ∈ c.parents, ∃ p ∈ d.classes, p.id = edge.id
  contracts : d.target ≠ .cpp → ∀ c ∈ d.classes, c.isInterface = true →
    ∀ edge ∈ c.parents, ¬ d.LeadsToRegular edge
  single : d.target ≠ .cpp → ∀ c ∈ d.classes, d.regularCount c.parents ≤ 1

theorem regularCount_pos_iff : 0 < d.regularCount edges ↔ ∃ first ∈ edges, d.LeadsToRegular first := by
  simp [regularCount, List.countP_pos_iff]

theorem regularCount_concat :
    d.regularCount (edges ++ [edge]) =
      d.regularCount edges + if d.LeadsToRegular edge then 1 else 0 := by
  simp [regularCount, List.countP_append, List.countP_singleton]

private theorem target_cases (target : Target) :
    (target = .cpp ∧ target.interfacesExtendClasses = true ∧ target.baseClassLimit = none) ∨
      target ≠ .cpp ∧ target.interfacesExtendClasses = false ∧ target.baseClassLimit = some 1 := by
  cases target with
  | cpp => exact .inl ⟨rfl, rfl, rfl⟩
  | csharp | java => exact .inr ⟨nofun, rfl, rfl⟩

section Ids
variable (hn : d.nodeIds.Nodup)
include hn

theorem leadsToRegular_iff {p : ClassNode} (hp : d.registry.class? edge.id = some p) :
    d.LeadsToRegular edge ↔ p.isInterface = false := by
  obtain ⟨hm, hid⟩ := (class?_eq_some_iff hn).mp hp
  constructor
  · rintro ⟨q, hq, hqid, hi⟩
    rwa [class_eq_of_id hn hm hq (hid.trans hqid.symm)]
  · intro hi
    exact ⟨p, hm, hid, hi⟩

theorem length_regularEdges :
    (ClassNode.regularEdges d.registry edges).length = d.regularCount edges := by
  rw [ClassNode.regularEdges, regularCount, List.countP_eq_length_filter]
  congr 1
  refine List.filter_congr fun edge _ => ?_
  rw [Bool.eq_iff_iff, decide_eq_true_iff, Option.any_eq_true]
  constructor
  · rintro ⟨p, hp, hi⟩
    exact (leadsToRegular_iff hn hp).mpr (by simpa using hi)
  · rintro ⟨p, hp, hid, hi⟩
    exact ⟨p, (class?_eq_some_iff hn).mpr ⟨hp, hid⟩, by simpa using hi⟩

theorem EdgeFault.unique (h : d.EdgeFault node earlier edge r) (h' : d.EdgeFault node earlier edge s) :
    r = s := by
  cases h with
  | itself hself =>
    cases h' with
    | itself => rfl
    | unknown hne | extendsClass hne | secondBase hne => exact absurd hself hne
  | unknown hne hno =>
    cases h' with
    | itself hself => exact absurd hself hne
    | unknown => rfl
    | extendsClass _ _ _ hp hid => exact absurd hid (hno _ hp)
    | secondBase _ _ _ hregular =>
      obtain ⟨p, hp, hid, _⟩ := hregular
      exact absurd hid (hno p hp)
  | extendsClass hne _ hi hp hid =>
    cases h' with
    | itself hself => exact absurd hself hne
    | unknown _ hno => exact absurd hid (hno _ hp)
    | extendsClass _ _ _ hq hid' => rw [class_eq_of_id hn hp hq (hid.trans hid'.symm)]
    | secondBase _ _ hi' => cases hi.symm.trans hi'
  | secondBase hne _ hi hregular =>
    cases h' with
    | itself hself => exact absurd hself hne
    | unknown _ hno =>
      obtain ⟨p, hp, hid, _⟩ := hregular
      exact absurd hid (hno p hp)
    | extendsClass _ _ hi' => cases hi.symm.trans hi'
    | secondBase => rfl

/-- An edge to another class is passed over, unless it makes an interface extend a class or a class extend
a second one. -/
theorem not_edgeFault {p : ClassNode} (hp : d.registry.class? edge.id = some p)
    (hother : edge.id ≠ node.id)
    (hkind : d.target ≠ .cpp → p.isInterface = false → node.isInterface = false)
    (hfirst : d.target ≠ .cpp → p.isInterface = false → ¬ ∃ first ∈ earlier, d.LeadsToRegular first) :
    ¬ d.EdgeFault node earlier edge r := by
  obtain ⟨hm, hid⟩ := (class?_eq_some_iff hn).mp hp
  have hregular := leadsToRegular_iff hn hp
  intro h
  cases h with
  | itself he => exact hother he
  | unknown _ hunknown => exact hunknown p hm hid
  | extendsClass _ ht hi hq hqid hqi =>
    cases hi.symm.trans (hkind ht (hregular.mp ⟨_, hq, hqid, hqi⟩))
  | secondBase _ ht _ hedge hf hfr => exact hfirst ht (hregular.mp hedge) ⟨_, hf, hfr⟩

/-- One edge is refused, or it is passed over and counts for those behind it. -/
theorem parentViolationsFrom_cons (node : ClassNode) (earlier : List ParentEdge) (edge : ParentEdge)
    (rest : List ParentEdge) :
    (∃ r, d.EdgeFault node earlier edge r ∧
      (node.parentViolationsFrom d.registry (d.regularCount earlier) (edge :: rest)).head? = some r) ∨
    (∀ r, ¬ d.EdgeFault node earlier edge r) ∧
      node.parentViolationsFrom d.registry (d.regularCount earlier) (edge :: rest) =
        node.parentViolationsFrom d.registry (d.regularCount (earlier ++ [edge])) rest := by
  rw [ClassNode.parentViolationsFrom]
  by_cases hself : edge.id = node.id
  · rw [if_pos hself]
    exact .inl ⟨_, .itself hself, rfl⟩
  rw [if_neg hself]
  cases hp : d.registry.class? edge.id with
  | none =>
    refine .inl ⟨_, .unknown hself fun p hm hid => ?_, rfl⟩
    cases hp.symm.trans ((class?_eq_some_iff hn).mpr ⟨hm, hid⟩)
  | some p =>
    obtain ⟨hm, hid⟩ := (class?_eq_some_iff hn).mp hp
    have hregular := leadsToRegular_iff hn hp
    rw [regularCount_concat]
    cases hi : p.isInterface with
    | true =>
      have hno : ¬ d.LeadsToRegular edge := by simp [hregular, hi]
      have hinterface : ¬ p.isInterface = false := by simp [hi]
      refine .inr ⟨fun r => not_edgeFault hn hp hself (fun _ hf => absurd hf hinterface)
        fun _ hf => absurd hf hinterface, ?_⟩
      simp [hi, hno]
    | false =>
      have hyes : d.LeadsToRegular edge := hregular.mpr hi
      rcases target_cases d.target with ⟨ht, hextend, hlimit⟩ | ⟨ht, hextend, hlimit⟩
      · refine .inr ⟨fun r => not_edgeFault hn hp hself (absurd ht) (absurd ht), ?_⟩
        simp [hi, hyes, hextend, hlimit, require]
      · cases hkind : node.isInterface with
        | true =>
          refine .inl ⟨_, .extendsClass hself ht hkind hm hid hi, ?_⟩
          simp [hi, hextend, require]
        | false =>
          by_cases hfirst : ∃ first ∈ earlier, d.LeadsToRegular first
          · obtain ⟨first, hf, hfr⟩ := hfirst
            have hcount : d.regularCount earlier ≠ 0 :=
              Nat.pos_iff_ne_zero.mp (regularCount_pos_iff.mpr ⟨first, hf, hfr⟩)
            refine .inl ⟨_, .secondBase hself ht hkind hyes hf hfr, ?_⟩
            simp [hi, hlimit, require, hcount]
          · have hcount : d.regularCount earlier = 0 :=
              Nat.eq_zero_of_not_pos (mt regularCount_pos_iff.mp hfirst)
            refine .inr ⟨fun r => not_edgeFault hn hp hself (fun _ _ => hkind) fun _ _ => hfirst, ?_⟩
            simp [hi, hyes, hlimit, require, hcount]

/-- The edges that are left report the first of them that is refused. -/
theorem reports_parentViolationsFrom (node : ClassNode) (earlier edges : List ParentEdge) :
    Reports (fun place r => ∃ j edge, place = [j] ∧ edges[j]? = some edge ∧
        d.EdgeFault node (earlier ++ edges.take j) edge r)
      (node.parentViolationsFrom d.registry (d.regularCount earlier) edges) := by
  induction edges generalizing earlier with
  | nil =>
    refine ⟨?_, nofun⟩
    rintro _ _ _ ⟨j, edge, _, hj, _⟩
    simp at hj
  | cons edge rest ih =>
    rcases parentViolationsFrom_cons hn node earlier edge rest with ⟨r, hr, hhead⟩ | ⟨hno, heq⟩
    · constructor
      · intro hnil
        rw [hnil] at hhead
        cases hhead
      · intro s hs
        cases hhead.symm.trans hs
        refine ⟨[0], ⟨0, edge, rfl, rfl, by simpa using hr⟩, ?_⟩
        rintro _ _ ⟨j, _, rfl, _⟩
        simp [List.cons_lex_cons_iff]
    · have hrest := ih (earlier ++ [edge])
      rw [heq]
      constructor
      · rintro hnil _ s ⟨j, e, rfl, hj, hs⟩
        cases j with
        | zero =>
          cases hj
          exact hno s (by simpa using hs)
        | succ j => exact hrest.nothing hnil [j] s ⟨j, e, rfl, hj, by simpa using hs⟩
      · intro s hs
        obtain ⟨_, ⟨j, e, rfl, hj, hf⟩, hfirst⟩ := hrest.first s hs
        refine ⟨[j + 1], ⟨j + 1, e, rfl, hj, by simpa using hf⟩, ?_⟩
        rintro _ t ⟨i, e', rfl, hi, ht⟩
        cases i with
        | zero =>
          cases hi
          exact absurd (by simpa using ht) (hno t)
        | succ i =>
          have hafter := hfirst [i] t ⟨i, e', rfl, hi, by simpa using ht⟩
          simp [List.cons_lex_cons_iff] at hafter ⊢
          omega

theorem reports_parentViolations :
    Reports d.EdgeFaultAt (d.classes.flatMap (ClassNode.parentViolations d.registry)) := by
  apply Reports.flatMap fun node => reports_parentViolationsFrom hn node [] node.parents
  intro place r
  constructor
  · intro h
    cases h with
    | edge hi hj hf => exact ⟨_, _, _, hi, rfl, _, _, rfl, hj, hf⟩
  · rintro ⟨i, node, _, hi, rfl, j, edge, rfl, hj, hf⟩
    exact .edge hi hj hf

theorem EdgeFaultAt.unique {place : List Nat} (h : d.EdgeFaultAt place r) (h' : d.EdgeFaultAt place s) :
    r = s := by
  cases h with
  | edge hi hj hf =>
    cases h' with
    | edge hi' hj' hf' =>
      cases hi.symm.trans hi'
      cases hj.symm.trans hj'
      exact hf.unique hn hf'

theorem parentViolations_eq_nil_iff :
    d.classes.flatMap (ClassNode.parentViolations d.registry) = [] ↔ d.ParentsFit := by
  have hlimit (c : ClassNode) : (∀ limit ∈ d.target.baseClassLimit,
      ClassNode.regularEdges d.registry c.parents ≠ [] →
        0 + (ClassNode.regularEdges d.registry c.parents).length ≤ limit) ↔
      (d.target ≠ .cpp → d.regularCount c.parents ≤ 1) := by
    rw [← length_regularEdges hn]
    rcases target_cases d.target with ⟨ht, _, hlimit⟩ | ⟨ht, _, hlimit⟩
    · constructor
      · intro _ hne
        exact absurd ht hne
      · intro _ limit hl
        cases hlimit.symm.trans hl
    · cases ClassNode.regularEdges d.registry c.parents <;> simp [hlimit, ht]
  have hedge (c : ClassNode) (edge : ParentEdge) : (∃ p, d.registry.class? edge.id = some p ∧
      (p.isInterface = false → c.isInterface = true → d.target.interfacesExtendClasses = true)) ↔
      (∃ p ∈ d.classes, p.id = edge.id) ∧
        (d.target ≠ .cpp → c.isInterface = true → ¬ d.LeadsToRegular edge) := by
    constructor
    · rintro ⟨p, hp, hkind⟩
      refine ⟨⟨p, (class?_eq_some_iff hn).mp hp⟩, fun ht hc hregular => ?_⟩
      rcases target_cases d.target with ⟨hcpp, _⟩ | ⟨_, hextend, _⟩
      · exact ht hcpp
      · cases hextend.symm.trans (hkind ((leadsToRegular_iff hn hp).mp hregular) hc)
    · rintro ⟨⟨p, hm, hid⟩, hkind⟩
      refine ⟨p, (class?_eq_some_iff hn).mpr ⟨hm, hid⟩, fun hi hc => ?_⟩
      rcases target_cases d.target with ⟨_, hextend, _⟩ | ⟨ht, _⟩
      · exact hextend
      · exact absurd ⟨p, hm, hid, hi⟩ (hkind ht hc)
  simp only [List.flatMap_eq_nil_iff, ClassNode.parentViolations,
    ClassNode.parentViolationsFrom_eq_nil_iff, diagram_registry, hlimit, hedge]
  constructor
  · intro h
    exact {
      others := fun c hc edge he => ((h c hc).1 edge he).1
      known := fun c hc edge he => ((h c hc).1 edge he).2.1
      contracts := fun ht c hc hi edge he => ((h c hc).1 edge he).2.2 ht hi
      single := fun ht c hc => (h c hc).2 ht }
  · intro h c hc
    exact ⟨fun edge he => ⟨h.others c hc edge he, h.known c hc edge he,
      fun ht hi => h.contracts ht c hc hi edge he⟩, fun ht => h.single ht c hc⟩

end Ids

end Diagram

/-- The class shows its parents in the order of its edges, each with its name, its kind and the access of
the edge. Base classes and interfaces are its parents, parted by kind and else in their order. -/
structure ModelClass.ShowsParents (c : ModelClass) (d : Diagram) (node : ClassNode) : Prop where
  parents : List.Forall₂ (fun edge parent => ∃ p ∈ d.classes, p.id = edge.id ∧
    parent = ⟨p.name, edge.access, p.isInterface⟩) node.parents c.parents
  parted : (c.baseClasses ++ c.interfaces).Perm c.parents
  baseClasses : c.baseClasses.Sublist c.parents ∧ ∀ parent ∈ c.baseClasses, parent.isInterface = false
  interfaces : c.interfaces.Sublist c.parents ∧ ∀ parent ∈ c.interfaces, parent.isInterface = true

namespace Diagram
variable {d : Diagram}

theorem showsParents_toModel (hn : d.nodeIds.Nodup) (hfit : d.ParentsFit) {node : ClassNode}
    (hc : node ∈ d.classes) (placement : Placement) :
    (node.toModel d.registry placement).ShowsParents d node where
  parents := by
    have hfound : ∀ edge ∈ node.parents, ((d.registry.class? edge.id).map fun parent =>
        ({ name := parent.name, access := edge.access, isInterface := parent.isInterface } :
          ModelParent)).isSome = true := by
      intro edge he
      obtain ⟨p, hp⟩ := hfit.known node hc edge he
      rw [(class?_eq_some_iff hn).mpr hp]
      rfl
    refine (forall₂_filterMap hfound).imp fun edge parent h => ?_
    obtain ⟨p, hp, rfl⟩ := Option.map_eq_some_iff.mp h
    obtain ⟨hm, hid⟩ := (class?_eq_some_iff hn).mp hp
    exact ⟨p, hm, hid, rfl⟩
  parted := by
    refine List.perm_append_comm.trans ?_
    exact List.filter_append_perm _ _
  baseClasses := ⟨List.filter_sublist, fun parent hp => by simpa using (List.mem_filter.mp hp).2⟩
  interfaces := ⟨List.filter_sublist, fun _ hp => (List.mem_filter.mp hp).2⟩

theorem resolve_of_parentViolations (hn : d.nodeIds.Nodup) {r : Rejection}
    (h : verdict (d.classes.flatMap (ClassNode.parentViolations d.registry)) = .error r) :
    d.resolve = .error r := by
  have hv : verdict d.registry.classViolations = .error r := by
    rw [verdict_eq_error_iff] at h ⊢
    rw [Registry.classViolations, List.append_assoc, List.head?_append, diagram_registry, h]
    rfl
  exact bind_eq_error_iff.mpr (.inr ⟨d.registry, build_eq_ok_iff.mpr ⟨hn, rfl⟩,
    bind_eq_error_iff.mpr (.inl hv)⟩)

/-- Where ids are distinct, the parents of all classes are in order exactly if they fit, and then every
class shows them as its edges give them. Otherwise resolution is refused for the first edge that is
not in order, by the position of its class and then by its own. -/
theorem verdict_parentViolations (d : Diagram) (hn : d.nodeIds.Nodup) :
    ∃ registry, Registry.build d = .ok registry ∧
      (verdict (d.classes.flatMap (ClassNode.parentViolations registry)) = .ok () ↔ d.ParentsFit) ∧
      (d.ParentsFit → ∀ node ∈ d.classes, ∀ placement,
        (node.toModel registry placement).ShowsParents d node) ∧
      ∀ r, (verdict (d.classes.flatMap (ClassNode.parentViolations registry)) = .error r ↔
          ∃ place, IsFirst d.EdgeFaultAt place r) ∧
        ((∃ place, IsFirst d.EdgeFaultAt place r) → d.resolve = .error r) := by
  have hfirst (r : Rejection) :
      verdict (d.classes.flatMap (ClassNode.parentViolations d.registry)) = .error r ↔
        ∃ place, IsFirst d.EdgeFaultAt place r :=
    (reports_parentViolations hn).verdict_error_iff fun _ _ _ h h' => h.unique hn h'
  refine ⟨d.registry, build_eq_ok_iff.mpr ⟨hn, rfl⟩, ?_, ?_, fun r => ⟨hfirst r, fun h => ?_⟩⟩
  · rw [verdict_eq_ok_iff]
    exact parentViolations_eq_nil_iff hn
  · intro hfit node hc placement
    exact showsParents_toModel hn hfit hc placement
  · exact resolve_of_parentViolations hn ((hfirst r).mpr h)

/-- A class that extends another one twice, before a class whose parent is not known. -/
def lineage : Diagram where
  target := .csharp
  classes := [
    { id := "i", isInterface := true, body := { name := "IShape" } },
    { id := "a", parents := [{ id := "i" }], body := { name := "Shape" } },
    { id := "b", parents := [{ id := "a" }, { id := "i", access := .prot }, { id := "a" }], body :=
      { name := "Circle" } },
    { id := "c", parents := [{ id := "ghost" }], body := { name := "Stray" } }]

theorem verdict_parentViolations_lineage :
    lineage.nodeIds.Nodup ∧ ¬ lineage.ParentsFit ∧
      (∃ place, IsFirst lineage.EdgeFaultAt place (.structural (.tooManyBaseClasses "Circle" 1))) ∧
      lineage.resolve = .error (.structural (.tooManyBaseClasses "Circle" 1)) := by
  have hn : lineage.nodeIds.Nodup := by decide
  obtain ⟨registry, hb, hok, _, herror⟩ := verdict_parentViolations lineage hn
  obtain ⟨_, rfl⟩ := build_eq_ok_iff.mp hb
  have hv : verdict (lineage.classes.flatMap (ClassNode.parentViolations lineage.registry)) =
      .error (.structural (.tooManyBaseClasses "Circle" 1)) := by rfl
  obtain ⟨hfirst, hresolve⟩ := herror (.structural (.tooManyBaseClasses "Circle" 1))
  refine ⟨hn, fun hfit => ?_, hfirst.mp hv, hresolve (hfirst.mp hv)⟩
  cases hv.symm.trans (hok.mpr hfit)

end Diagram

end ClassScaffold
