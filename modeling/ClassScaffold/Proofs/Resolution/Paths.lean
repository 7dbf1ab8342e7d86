import ClassScaffold.Proofs.Resolution.Acceptance
import ClassScaffold.Proofs.Resolution.Walk

/-! Package paths: the walk succeeds on forests, and a path spells the one chain from a root. -/
namespace ClassScaffold

namespace Diagram

variable {d : Diagram} {met : List Encounter} {all : List (PackageNode × String)}
  {ps : List PackageNode} {p q : PackageNode}

theorem start_eq (hn : d.nodeIds.Nodup) : Placement.start d = d.placementAfter [] := by
  have hu : d.packages.filter (fun p => !p.isRoot) = (d.placementAfter []).unplaced := by
    refine List.filter_congr fun p hp => ?_
    rw [Bool.eq_iff_iff]
    have hr : p.id ∈ (d.visits []).map (·.1.id) ↔ p.isRoot := by
      rw [mem_visits_iff hn hp]
      constructor
      · rintro (⟨r, hr, he⟩ | hm)
        · obtain ⟨hrm, hroot⟩ := mem_roots.mp hr
          exact package_eq_of_id hn hrm hp he ▸ hroot
        · exact absurd hm List.not_mem_nil
      · exact fun h => .inl ⟨p, mem_roots.mpr ⟨hp, h⟩, rfl⟩
    simp only [List.contains_eq_mem, hr]
    simp
  rw [Placement.start, hu]
  simp [placementAfter, visits]

/-- What is recorded about some of the children is recorded in their order. -/
private theorem sublist_of_recorded {β : Type} {record : Encounter → Option β} {key : β → String}
    (h : ∀ e b, record e = some b → key b = e.child) (met : List Encounter) :
    ((met.filterMap record).map key).Sublist (met.map (·.child)) := by
  induction met with
  | nil => simp
  | cons e rest ih =>
    rw [List.filterMap_cons, List.map_cons]
    cases hf : record e with
    | none => exact ih.cons _
    | some b =>
      rw [List.map_cons, h e b hf]
      exact ih.cons_cons _

theorem Orderly.nodup_visits (hn : d.nodeIds.Nodup) (ho : d.Orderly met) :
    ((d.visits met).map (·.1.id)).Nodup := by
  have hroots : ((d.roots.map fun p => (p, p.name)).map (·.1.id)).Nodup := by
    rw [List.map_map]
    exact ((List.nodup_append.mp hn).2.1).sublist (List.filter_sublist.map _)
  have hfound : ((met.filterMap d.found?).map (·.1.id)).Sublist (met.map (·.child)) := by
    refine sublist_of_recorded (fun e visit hf => ?_) met
    obtain ⟨q, hq, rfl⟩ := Option.map_eq_some_iff.mp hf
    exact ((package?_eq_some_iff hn).mp hq).2
  rw [visits, List.map_append, List.nodup_append]
  refine ⟨hroots, ho.nodup.sublist hfound, fun id hid other ho' he => ?_⟩
  obtain ⟨_, hv, rfl⟩ := List.mem_map.mp hid
  obtain ⟨r, hr, rfl⟩ := List.mem_map.mp hv
  obtain ⟨e, hm, hc⟩ := List.mem_map.mp (hfound.subset ho')
  exact ho.roots e hm r hr (he.trans hc.symm)

namespace Walked
variable (hn : d.nodeIds.Nodup) (h : d.Walked all [])
include hn h

/-- A finished walk has gone down every chain. -/
theorem mem_of_chain (hc : d.Chain ps p) :
    (p, d.target.separator.intercalate (ps.map PackageNode.name)) ∈ all := by
  have hv : d.visits (d.encountersOf all) = all := h.visits.trans (List.append_nil all)
  induction hc with
  | @root p hp hr =>
    rw [← hv]
    refine List.mem_append_left _ (List.mem_map.mpr ⟨p, mem_roots.mpr ⟨hp, hr⟩, by simp⟩)
  | @child ps p q hc hch hq ih =>
    have hne : ps.map PackageNode.name ≠ [] := by simpa using hc.ne_nil
    let e : Encounter := ⟨p, d.target.separator.intercalate (ps.map PackageNode.name), q.id⟩
    have he : e ∈ d.encountersOf all := mem_encountersOf.mpr ⟨ih, hch⟩
    rw [← hv]
    refine List.mem_append_right _ (List.mem_filterMap.mpr ⟨e, he, ?_⟩)
    rw [found?, (package?_eq_some_iff hn).mpr ⟨hq, rfl⟩, List.map_append,
      String.intercalate_append_of_ne_nil hne (by simp)]
    simp [e]

/-- What a finished walk has met is in order, so the hierarchy below the roots is. -/
theorem isForest (hparents : ∀ p ∈ d.packages, ¬ p.isRoot → ∃ q ∈ d.packages, q.id = p.parentId)
    (howners : ∀ c ∈ d.classes, ∀ id, c.packageId = some id → ∃ q ∈ d.packages, q.id = id) :
    d.IsForest := by
  have hmet {p : PackageNode} {id : String} (hr : d.Reachable p) (hc : d.IsChild p id) :
      ∃ e ∈ d.encountersOf all, e.parent = p ∧ e.child = id := by
    obtain ⟨ps, hps⟩ := hr
    exact ⟨⟨p, _, id⟩, mem_encountersOf.mpr ⟨h.mem_of_chain hn hps, hc⟩, rfl, rfl⟩
  exact {
    parents := hparents
    owners := howners
    named := by
      intro p hr id hc
      obtain ⟨e, he, _, rfl⟩ := hmet hr hc
      exact h.orderly.named e he
    roots := by
      intro p hr r hrm hroot hc
      obtain ⟨e, he, _, hid⟩ := hmet hr hc
      exact h.orderly.roots e he r (mem_roots.mpr ⟨hrm, hroot⟩) hid.symm
    single := by
      intro p q hp hq id _ hcp hcq
      obtain ⟨e, he, rfl, hid⟩ := hmet hp hcp
      obtain ⟨f, hf, rfl, hid'⟩ := hmet hq hcq
      rw [List.inj_on_of_nodup_map h.orderly.nodup he hf (hid.trans hid'.symm)] }

end Walked

/-- Packages of a forest that were reached one by one hold nothing that is out of order. -/
theorem IsForest.orderly (hn : d.nodeIds.Nodup) (hf : d.IsForest)
    {visited : List (PackageNode × String)} (hr : ∀ visit ∈ visited, d.Reachable visit.1)
    (hv : (visited.map (·.1.id)).Nodup) : d.Orderly (d.encountersOf visited) := by
  have hmet {e : Encounter} (he : e ∈ d.encountersOf visited) :
      d.Reachable e.parent ∧ d.IsChild e.parent e.child := by
    obtain ⟨hvisit, hc⟩ := mem_encountersOf.mp he
    exact ⟨hr _ hvisit, hc⟩
  have hchildren (visit : PackageNode × String) :
      (d.encounters visit).map (·.child) = d.childrenOf visit.1 := by
    simp [encounters, Function.comp_def]
  exact {
    named := by
      intro e he
      obtain ⟨hp, hc⟩ := hmet he
      exact hf.named _ hp _ hc
    roots := by
      intro e he r hroot hid
      obtain ⟨hp, hc⟩ := hmet he
      obtain ⟨hrm, hr⟩ := mem_roots.mp hroot
      exact hf.roots _ hp r hrm hr (hid ▸ hc)
    nodup := by
      rw [encountersOf, List.map_flatMap, List.nodup_flatMap]
      simp only [hchildren]
      refine ⟨fun visit _ => nodup_childrenOf hn visit.1, ?_⟩
      apply (List.pairwise_map.mp hv).imp_of_mem
      intro v w hvm hwm hne id hid hid'
      have hp := mem_childrenOf.mp hid
      have hq := mem_childrenOf.mp hid'
      have hnode := hf.named _ (hr v hvm) id hp
      exact hne (by rw [hf.single _ _ (hr v hvm) (hr w hwm) id hnode hp hq]) }

private theorem verdict_ok_iff :
    verdict (d.packages.flatMap (PackageNode.parentViolations d.registry) ++
        d.classes.flatMap (ClassNode.ownerViolations d.registry)) = .ok () ↔
      (∀ p ∈ d.packages, ¬ p.isRoot → (d.registry.package? p.parentId).isSome) ∧
      ∀ c ∈ d.classes, ∀ id, c.packageId = some id → (d.registry.package? id).isSome := by
  rw [verdict_eq_ok_iff, List.append_eq_nil_iff, List.flatMap_eq_nil_iff, List.flatMap_eq_nil_iff]
  refine and_congr (forall₂_congr fun p _ => ?_) (forall₂_congr fun c _ => ?_)
  · rw [PackageNode.parentViolations, require_eq_nil_iff]
    cases p.isRoot <;> simp
  · rw [ClassNode.ownerViolations, List.flatMap_eq_nil_iff]
    simp

/-- The placement exists for forests only, and comes from a walk that was finished. -/
theorem ofRegistry_cases (hn : d.nodeIds.Nodup) :
    (d.IsForest ∧ ∃ all, d.Walked all [] ∧
        Placement.ofRegistry d.registry = .ok (d.placementAfter (d.encountersOf all))) ∨
      ¬ d.IsForest ∧ ∃ fault, Placement.ofRegistry d.registry = .error fault := by
  cases hv : verdict (d.packages.flatMap (PackageNode.parentViolations d.registry) ++
        d.classes.flatMap (ClassNode.ownerViolations d.registry)) with
  | error fault =>
    refine .inr ⟨fun hf => ?_, fault, by
      simp only [Placement.ofRegistry, diagram_registry, hv, bind, Except.bind]⟩
    have hok := verdict_ok_iff.mpr
      ⟨fun p hp hr => (isSome_package?_iff hn).mpr (hf.parents p hp hr),
        fun c hc id hid => (isSome_package?_iff hn).mpr (hf.owners c hc id hid)⟩
    cases hv.symm.trans hok
  | ok u =>
    obtain ⟨hp, ho⟩ := verdict_ok_iff.mp hv
    have hwalk : Placement.ofRegistry d.registry = Placement.walk d.registry
        (d.placementAfter (d.encountersOf [])) (d.roots.map (fun p => (p, p.name))) := by
      simp only [Placement.ofRegistry, diagram_registry, hv, start_eq hn, bind, Except.bind]
      rfl
    rcases (Walked.start d).run hn with ⟨all, hw, hall⟩ | ⟨done, visit, waiting, fault, hw, hd, hne⟩
    · refine .inl ⟨hall.isForest hn ?_ ?_, all, hall, hwalk.trans hw⟩
      · intro p hpm hr
        exact (isSome_package?_iff hn).mp (hp p hpm hr)
      · intro c hc id hid
        exact (isSome_package?_iff hn).mp (ho c hc id hid)
    · refine .inr ⟨fun hf => hne (hf.orderly hn ?_ ?_), fault, hwalk.trans hw⟩
      · intro v hv
        apply hd.reachable
        rw [List.append_cons]
        exact List.mem_append_left _ hv
      · have hnd := hd.orderly.nodup_visits hn
        rw [hd.visits, List.append_cons, List.map_append] at hnd
        exact (List.nodup_append.mp hnd).1

/-- What is resolved is a forest, and its model is placed by a walk that was finished. -/
theorem walked_of_resolve {m : Model} (h : d.resolve = .ok m) :
    d.nodeIds.Nodup ∧ d.IsForest ∧ ∃ all, d.Walked all [] ∧
      m = d.registry.toModel (d.placementAfter (d.encountersOf all)) := by
  obtain ⟨hn, _, placement, hp, rfl⟩ := resolve_eq_ok_iff.mp h
  rcases ofRegistry_cases hn with ⟨hf, all, hw, hok⟩ | ⟨_, fault, he⟩
  · obtain rfl := Except.ok.inj (hok.symm.trans hp)
    exact ⟨hn, hf, all, hw, rfl⟩
  · cases he.symm.trans hp

namespace Walked
variable (hn : d.nodeIds.Nodup) (h : d.Walked all [])
include hn h

private theorem lookup_packages {id path : String} :
    (d.placementAfter (d.encountersOf all)).packages.lookup id = some path ↔
      ∃ p, (p, path) ∈ all ∧ p.id = id := by
  have hv : d.visits (d.encountersOf all) = all := h.visits.trans (List.append_nil all)
  have hk := h.orderly.nodup_visits hn
  rw [lookup_eq_some_iff_mem (by simpa [placementAfter, Function.comp_def] using hk)]
  simp [placementAfter, hv]

theorem path_of_chain (hc : d.Chain ps p) :
    (p.toModel (d.placementAfter (d.encountersOf all))).path =
      some (d.target.separator.intercalate (ps.map PackageNode.name)) :=
  (h.lookup_packages hn).mpr ⟨p, h.mem_of_chain hn hc, rfl⟩

/-- A package has no other path than one that spells a chain. -/
theorem exists_chain_of_path (hp : p ∈ d.packages) {path : String}
    (hpath : (p.toModel (d.placementAfter (d.encountersOf all))).path = some path) :
    ∃ ps, d.Chain ps p ∧ path = d.target.separator.intercalate (ps.map PackageNode.name) := by
  obtain ⟨q, hq, hid⟩ := (h.lookup_packages hn).mp hpath
  obtain ⟨ps, hps, hspelled⟩ := h.chained _ (List.mem_append_left _ hq)
  rw [← package_eq_of_id hn hps.mem hp hid]
  exact ⟨ps, hps, hspelled⟩

theorem path_eq_some_iff (hp : p ∈ d.packages) {path : String} :
    (p.toModel (d.placementAfter (d.encountersOf all))).path = some path ↔
      ∃ ps, d.Chain ps p ∧ path = d.target.separator.intercalate (ps.map PackageNode.name) := by
  refine ⟨h.exists_chain_of_path hn hp, ?_⟩
  rintro ⟨ps, hps, rfl⟩
  exact h.path_of_chain hn hps

theorem path_of_not_reachable (hp : p ∈ d.packages) (hr : ¬ d.Reachable p) :
    (p.toModel (d.placementAfter (d.encountersOf all))).path = none := by
  refine Option.eq_none_iff_forall_ne_some.mpr fun path hpath => hr ?_
  obtain ⟨ps, hps, _⟩ := h.exists_chain_of_path hn hp hpath
  exact ⟨ps, hps⟩

private theorem lookup_classes {c : ClassNode} (hc : c ∈ d.classes) {path : String} :
    (d.placementAfter (d.encountersOf all)).classes.lookup c.id = some path ↔
      ∃ p, (p, path) ∈ all ∧ d.IsChild p c.id := by
  have hk : ((d.placementAfter (d.encountersOf all)).classes.map Prod.fst).Nodup := by
    refine h.orderly.nodup.sublist (sublist_of_recorded (fun e pair hf => ?_) _)
    obtain ⟨_, _, rfl⟩ := Option.map_eq_some_iff.mp hf
    rfl
  rw [lookup_eq_some_iff_mem hk]
  constructor
  · intro hm
    obtain ⟨e, he, hf⟩ := List.mem_filterMap.mp hm
    obtain ⟨_, _, hpair⟩ := Option.map_eq_some_iff.mp hf
    obtain ⟨hchild, hpath⟩ := Prod.mk.inj hpair
    obtain ⟨hv, hch⟩ := mem_encountersOf.mp he
    exact ⟨e.parent, hpath ▸ hv, hchild ▸ hch⟩
  · rintro ⟨p, hp, hch⟩
    refine List.mem_filterMap.mpr
      ⟨⟨p, path, c.id⟩, mem_encountersOf.mpr ⟨hp, hch⟩, ?_⟩
    rw [(class?_eq_some_iff hn).mpr ⟨hc, rfl⟩]
    rfl

/-- The path of a class is one that leads to it. -/
theorem packagePath_eq_some_iff {c : ClassNode} (hc : c ∈ d.classes) {path : String} :
    (c.toModel d.registry (d.placementAfter (d.encountersOf all))).packagePath = some path ↔
      d.LeadsTo path c.id := by
  refine (h.lookup_classes hn hc).trans ⟨fun ⟨p, hp, hch⟩ => ?_, ?_⟩
  · obtain ⟨ps, hps, hspelled⟩ := h.chained _ (List.mem_append_left _ hp)
    exact ⟨ps, p, hps, hch, hspelled⟩
  · rintro ⟨ps, p, hps, hch, rfl⟩
    exact ⟨p, h.mem_of_chain hn hps, hch⟩

theorem packagePath_of_child {c : ClassNode} (hc : c ∈ d.classes) (hr : d.Reachable p)
    (hch : d.IsChild p c.id) :
    (c.toModel d.registry (d.placementAfter (d.encountersOf all))).packagePath =
      (p.toModel (d.placementAfter (d.encountersOf all))).path := by
  obtain ⟨ps, hps⟩ := hr
  rw [h.path_of_chain hn hps]
  exact (h.packagePath_eq_some_iff hn hc).mpr ⟨ps, p, hps, hch, rfl⟩

theorem packagePath_of_not_child {c : ClassNode} (hc : c ∈ d.classes)
    (hno : ∀ p, d.Reachable p → ¬ d.IsChild p c.id) :
    (c.toModel d.registry (d.placementAfter (d.encountersOf all))).packagePath = none := by
  refine Option.eq_none_iff_forall_ne_some.mpr fun path hpath => ?_
  obtain ⟨ps, p, hps, hch, _⟩ := (h.packagePath_eq_some_iff hn hc).mp hpath
  exact hno p ⟨ps, hps⟩ hch

end Walked

/-- Where ids are distinct, packages get paths exactly in forests. A path spells the one chain from a
root, a class has the path of the reachable package that holds it, and nothing else has a path. -/
theorem ofRegistry_ok_iff_isForest (d : Diagram) (hn : d.nodeIds.Nodup) :
    ∃ registry, Registry.build d = .ok registry ∧
      ((∃ s, Placement.ofRegistry registry = .ok s) ↔ d.IsForest) ∧
      ∀ s, Placement.ofRegistry registry = .ok s →
        (∀ p ps, d.Chain ps p → (∀ qs, d.Chain qs p → qs = ps) ∧
          (p.toModel s).path = some (d.target.separator.intercalate (ps.map PackageNode.name))) ∧
        (∀ c ∈ d.classes, ∀ p, d.Reachable p → d.IsChild p c.id →
          (c.toModel registry s).packagePath = (p.toModel s).path) ∧
        (∀ p ∈ d.packages, ¬ d.Reachable p → (p.toModel s).path = none) ∧
        ∀ c ∈ d.classes, (∀ p, d.Reachable p → ¬ d.IsChild p c.id) →
          (c.toModel registry s).packagePath = none := by
  refine ⟨d.registry, build_eq_ok_iff.mpr ⟨hn, rfl⟩, ?_⟩
  rcases ofRegistry_cases hn with ⟨hf, all, hw, hok⟩ | ⟨hf, fault, he⟩
  · refine ⟨iff_of_true ⟨_, hok⟩ hf, fun s hs => ?_⟩
    cases hok.symm.trans hs
    exact ⟨fun p ps hc => ⟨fun qs hc' => hc'.unique hf hc, hw.path_of_chain hn hc⟩,
      fun c hc p hr hch => hw.packagePath_of_child hn hc hr hch,
      fun p hp hr => hw.path_of_not_reachable hn hp hr,
      fun c hc hno => hw.packagePath_of_not_child hn hc hno⟩
  · refine ⟨iff_of_false (fun ⟨s, hs⟩ => ?_) hf, fun s hs => ?_⟩
    · cases he.symm.trans hs
    · cases he.symm.trans hs

/-- A package inside another one, with a class in it. -/
def nested : Diagram where
  target := .cpp
  packages := [{ id := "o", body := { name := "outer", children := ["i"] } },
    { id := "i", parentId := "o", body := { name := "inner" } }]
  classes := [{ id := "c", packageId := some "i", body := { name := "Widget" } }]

private theorem isForest_nested : nested.IsForest := by
  have hmem {p : PackageNode} (h : nested.Reachable p) : p ∈ nested.packages :=
    h.choose_spec.mem
  refine ⟨by decide, by simp [nested], fun p hp id hc => ?_, fun p hp r hr hroot hc => ?_,
    fun p q hp hq id hid hc hc' => ?_⟩
  · have h : ∀ p ∈ nested.packages, ∀ id ∈ nested.childrenOf p, id ∈ nested.nodeIds := by decide
    exact h p (hmem hp) id (mem_childrenOf.mpr hc)
  · have h : ∀ p ∈ nested.packages, ∀ r ∈ nested.packages, r.isRoot →
        r.id ∉ nested.childrenOf p := by decide
    exact h p (hmem hp) r hr hroot (mem_childrenOf.mpr hc)
  · have h : ∀ p ∈ nested.packages, ∀ q ∈ nested.packages, ∀ id ∈ nested.nodeIds,
        id ∈ nested.childrenOf p → id ∈ nested.childrenOf q → p = q := by decide
    exact h p (hmem hp) q (hmem hq) id hid (mem_childrenOf.mpr hc) (mem_childrenOf.mpr hc')

theorem packagePath_nested :
    nested.nodeIds.Nodup ∧ ∃ registry s, Registry.build nested = .ok registry ∧
      Placement.ofRegistry registry = .ok s ∧
      nested.classes.map (fun c => (c.toModel registry s).packagePath) = [some "outer::inner"] := by
  have hn : nested.nodeIds.Nodup := by decide
  obtain ⟨registry, hb, hf, hpaths⟩ := ofRegistry_ok_iff_isForest nested hn
  obtain ⟨s, hs⟩ := hf.mpr isForest_nested
  obtain ⟨hchain, hclass, -, -⟩ := hpaths s hs
  have hr : nested.Chain [nested.packages[0]] nested.packages[0] := .root (by decide) rfl
  have hc : nested.Chain [nested.packages[0], nested.packages[1]] nested.packages[1] :=
    hr.child (mem_childrenOf.mp (by decide)) (by decide)
  have hpath := hclass nested.classes[0] (by decide) _ ⟨_, hc⟩ (mem_childrenOf.mp (by decide))
  refine ⟨hn, registry, s, hb, hs, ?_⟩
  change [(nested.classes[0].toModel registry s).packagePath] = _
  rw [hpath, (hchain _ _ hc).2]
  rfl

end Diagram

end ClassScaffold
