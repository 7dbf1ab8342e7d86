import ClassScaffold.Proofs.Resolution.Hierarchy

/-! The walk from the roots. Its state is a function of the children that it has met, and it goes on
as long as each of them is a node that is not a root and was not met before. -/
namespace ClassScaffold

/-- A child that is met, the package that holds it, and the path of that package. -/
structure Encounter where
  parent : PackageNode
  path : String
  child : String

namespace Diagram

/-- The children of a package that has a path. -/
def encounters (d : Diagram) (visit : PackageNode × String) : List Encounter :=
  (d.childrenOf visit.1).map (⟨visit.1, visit.2, ·⟩)

def found? (d : Diagram) (e : Encounter) : Option (PackageNode × String) :=
  (d.registry.package? e.child).map fun p => (p, e.path ++ d.target.separator ++ p.name)

/-- The packages that have a path after some children were met, in the order in which they got it. -/
def visits (d : Diagram) (met : List Encounter) : List (PackageNode × String) :=
  d.roots.map (fun p => (p, p.name)) ++ met.filterMap d.found?

/-- The state of the walk after some children were met. -/
def placementAfter (d : Diagram) (met : List Encounter) : Placement where
  packages := (d.visits met).map fun visit => (visit.1.id, visit.2)
  classes := met.filterMap fun e => (d.registry.class? e.child).map fun _ => (e.child, e.path)
  unplaced := d.packages.filter fun p => !((d.visits met).map (·.1.id)).contains p.id

/-- Every child that was met is a node, not a root, and was met once. -/
structure Orderly (d : Diagram) (met : List Encounter) : Prop where
  named : ∀ e ∈ met, e.child ∈ d.nodeIds
  roots : ∀ e ∈ met, ∀ r ∈ d.roots, r.id ≠ e.child
  nodup : (met.map (·.child)).Nodup

variable {d : Diagram} {met more : List Encounter} {e : Encounter}

theorem mem_roots {p : PackageNode} : p ∈ d.roots ↔ p ∈ d.packages ∧ p.isRoot := by
  simp [roots]

theorem visits_append : d.visits (met ++ more) = d.visits met ++ more.filterMap d.found? := by
  simp [visits, List.append_assoc]

namespace Orderly

theorem nil : d.Orderly [] :=
  ⟨fun _ h => absurd h List.not_mem_nil, fun _ h => absurd h List.not_mem_nil, List.nodup_nil⟩

theorem left (h : d.Orderly (met ++ more)) : d.Orderly met :=
  ⟨fun e he => h.named e (List.mem_append_left _ he),
    fun e he => h.roots e (List.mem_append_left _ he),
    (List.nodup_append.mp (List.map_append ▸ h.nodup)).1⟩

theorem concat_iff (h : d.Orderly met) :
    d.Orderly (met ++ [e]) ↔
      e.child ∈ d.nodeIds ∧ (∀ r ∈ d.roots, r.id ≠ e.child) ∧ e.child ∉ met.map (·.child) := by
  constructor
  · intro hc
    have hn := hc.nodup
    rw [List.map_append, List.nodup_append] at hn
    have he : e ∈ met ++ [e] := by simp
    exact ⟨hc.named e he, hc.roots e he, fun hm => hn.2.2 _ hm _ List.mem_cons_self rfl⟩
  · rintro ⟨hn, hr, hm⟩
    exact {
      named := by
        intro f hf
        rcases List.mem_append.mp hf with hf | hf
        · exact h.named f hf
        · exact List.mem_singleton.mp hf ▸ hn
      roots := by
        intro f hf
        rcases List.mem_append.mp hf with hf | hf
        · exact h.roots f hf
        · exact List.mem_singleton.mp hf ▸ hr
      nodup := by
        rw [List.map_append, List.nodup_append]
        refine ⟨h.nodup, List.nodup_singleton _, fun a ha b hb hab => hm ?_⟩
        rw [List.map_singleton, List.mem_singleton] at hb
        exact hb ▸ hab ▸ ha }

end Orderly

section Place
variable (hn : d.nodeIds.Nodup)
include hn

/-- A package has a path exactly when it is a root or was met. -/
theorem mem_visits_iff {p : PackageNode} (hp : p ∈ d.packages) :
    p.id ∈ (d.visits met).map (·.1.id) ↔
      (∃ r ∈ d.roots, r.id = p.id) ∨ p.id ∈ met.map (·.child) := by
  have hfound (e : Encounter) (h : e.child = p.id) :
      d.found? e = some (p, e.path ++ d.target.separator ++ p.name) := by
    rw [found?, (package?_eq_some_iff hn).mpr ⟨hp, h.symm⟩]
    rfl
  have hid (e : Encounter) (q : PackageNode × String) (h : d.found? e = some q) :
      q.1.id = e.child := by
    obtain ⟨q', hq', rfl⟩ := Option.map_eq_some_iff.mp h
    exact ((package?_eq_some_iff hn).mp hq').2
  unfold visits
  rw [List.map_append, List.mem_append]
  refine or_congr (by simp) ⟨fun h => ?_, fun h => ?_⟩
  · obtain ⟨q, hq, he⟩ := List.mem_map.mp h
    obtain ⟨e, hm, hf⟩ := List.mem_filterMap.mp hq
    exact List.mem_map.mpr ⟨e, hm, (hid e q hf).symm.trans he⟩
  · obtain ⟨e, hm, he⟩ := List.mem_map.mp h
    exact List.mem_map.mpr ⟨_, List.mem_filterMap.mpr ⟨e, hm, hfound e he⟩, rfl⟩

private theorem find?_unplaced {child : String} {p : PackageNode} :
    (d.placementAfter met).unplaced.find? (fun p => p.id == child) = some p ↔
      p ∈ d.packages ∧ p.id = child ∧ child ∉ (d.visits met).map (·.1.id) := by
  have hids : ((d.placementAfter met).unplaced.map (·.id)).Nodup :=
    (List.nodup_append.mp hn).2.1.sublist (List.filter_sublist.map _)
  rw [find?_key_eq_some_iff hids]
  constructor
  · rintro ⟨hm, rfl⟩
    obtain ⟨hp, hv⟩ := List.mem_filter.mp hm
    exact ⟨hp, rfl, by simpa using hv⟩
  · rintro ⟨hp, rfl, hv⟩
    exact ⟨List.mem_filter.mpr ⟨hp, by simpa using hv⟩, rfl⟩

private theorem isSome_lookup_classes {node : ClassNode} (hc : node ∈ d.classes) :
    ((d.placementAfter met).classes.lookup node.id).isSome ↔ node.id ∈ met.map (·.child) := by
  have hclass := (class?_eq_some_iff hn).mpr ⟨hc, rfl⟩
  rw [List.lookup_isSome_iff, List.mem_map]
  constructor
  · rintro ⟨pair, hp, he⟩
    obtain ⟨e, hm, hf⟩ := List.mem_filterMap.mp hp
    obtain ⟨_, _, rfl⟩ := Option.map_eq_some_iff.mp hf
    exact ⟨e, hm, (beq_iff_eq.mp he).symm⟩
  · rintro ⟨e, hm, he⟩
    refine ⟨(e.child, e.path), List.mem_filterMap.mpr ⟨e, hm, ?_⟩, beq_iff_eq.mpr he.symm⟩
    rw [he, hclass]
    rfl

private theorem entry_cases {id : String} (h : id ∈ d.nodeIds) :
    (∃ i node, d.registry.get? id = some (.cls i) ∧ node ∈ d.classes ∧ node.id = id) ∨
      ∃ i p, d.registry.get? id = some (.package i) ∧ p ∈ d.packages ∧ p.id = id := by
  rcases mem_nodeIds.mp h with ⟨node, hc, hid⟩ | ⟨p, hp, hid⟩
  · obtain ⟨i, hi⟩ := List.getElem?_of_mem hc
    exact .inl ⟨i, node, (get?_eq_class_iff hn).mpr ⟨node, hi, hid⟩, hc, hid⟩
  · obtain ⟨i, hi⟩ := List.getElem?_of_mem hp
    exact .inr ⟨i, p, (get?_eq_package_iff hn).mpr ⟨p, hi, hid⟩, hp, hid⟩

private theorem place_class {i : Nat} {node : ClassNode}
    (hg : d.registry.get? e.child = some (.cls i)) (hc : node ∈ d.classes) (hid : node.id = e.child)
    (hnew : e.child ∉ met.map (·.child)) :
    (d.placementAfter met).place d.registry e.parent e.path e.child =
      .ok (d.placementAfter (met ++ [e]), (d.found? e).toList) := by
  have hclass : d.registry.class? e.child = some node := (class?_eq_some_iff hn).mpr ⟨hc, hid⟩
  have hfound : d.found? e = none := by simp [found?, Registry.package?, hg]
  have hlook : ¬ ((d.placementAfter met).classes.lookup e.child).isSome := by
    rwa [← hid, isSome_lookup_classes hn hc, hid]
  simp only [Placement.place, hg, hlook, hfound, Option.toList_none]
  simp [placementAfter, visits_append, hfound, hclass]

private theorem place_package {i : Nat} {p : PackageNode}
    (hg : d.registry.get? e.child = some (.package i)) (hp : p ∈ d.packages) (hid : p.id = e.child)
    (hnew : e.child ∉ (d.visits met).map (·.1.id)) :
    (d.placementAfter met).place d.registry e.parent e.path e.child =
      .ok (d.placementAfter (met ++ [e]), (d.found? e).toList) := by
  have hpackage : d.registry.package? e.child = some p := (package?_eq_some_iff hn).mpr ⟨hp, hid⟩
  have hclass : d.registry.class? e.child = none := by simp [Registry.class?, hg]
  have hfound : d.found? e = some (p, e.path ++ d.target.separator ++ p.name) := by
    simp [found?, hpackage]
  have hfind : (d.placementAfter met).unplaced.find? (fun p => p.id == e.child) = some p :=
    (find?_unplaced hn).mpr ⟨hp, hid, hnew⟩
  have hrest : (d.placementAfter met).unplaced.filter (fun q => q.id != e.child) =
      (d.placementAfter (met ++ [e])).unplaced := by
    simp only [placementAfter, List.filter_filter, visits_append]
    refine List.filter_congr fun q _ => ?_
    rw [Bool.eq_iff_iff]
    simp [hfound, hid, and_comm, not_or]
  simp only [Placement.place, hg, hfind, hfound, Option.toList_some]
  rw [hrest]
  simp [placementAfter, visits_append, hfound, hclass, hid]

/-- The walk can take one more child that has no place yet. -/
theorem place_of_orderly (ho : d.Orderly (met ++ [e])) :
    (d.placementAfter met).place d.registry e.parent e.path e.child =
      .ok (d.placementAfter (met ++ [e]), (d.found? e).toList) := by
  obtain ⟨hmem, hroot, hnew⟩ := ho.left.concat_iff.mp ho
  rcases entry_cases hn hmem with ⟨i, node, hg, hc, hid⟩ | ⟨i, p, hg, hp, hid⟩
  · exact place_class hn hg hc hid hnew
  · apply place_package hn hg hp hid
    rw [← hid, mem_visits_iff hn hp, hid]
    rintro (⟨r, hr, he⟩ | hm)
    · exact hroot r hr he
    · exact hnew hm

/-- Any other child ends the walk. -/
theorem place_of_not_orderly (ho : d.Orderly met) (hne : ¬ d.Orderly (met ++ [e])) :
    ∃ fault, (d.placementAfter met).place d.registry e.parent e.path e.child = .error fault := by
  by_cases hmem : e.child ∈ d.nodeIds
  · have hold : (∃ r ∈ d.roots, r.id = e.child) ∨ e.child ∈ met.map (·.child) := by
      by_contra hno
      rw [not_or] at hno
      exact hne (ho.concat_iff.mpr ⟨hmem, fun r hr he => hno.1 ⟨r, hr, he⟩, hno.2⟩)
    rcases entry_cases hn hmem with ⟨i, node, hg, hc, hid⟩ | ⟨i, p, hg, hp, hid⟩
    · have hm : e.child ∈ met.map (·.child) := hold.resolve_left fun ⟨r, hr, he⟩ =>
        class_id_ne_package_id hn hc (mem_roots.mp hr).1 (hid.trans he.symm)
      have hlook : ((d.placementAfter met).classes.lookup e.child).isSome := by
        rwa [← hid, isSome_lookup_classes hn hc, hid]
      exact ⟨_, by simp only [Placement.place, hg, hlook, if_true]; rfl⟩
    · have hvisit : e.child ∈ (d.visits met).map (·.1.id) := by
        rwa [← hid, mem_visits_iff hn hp, hid]
      cases hfind : (d.placementAfter met).unplaced.find? (fun p => p.id == e.child) with
      | none => exact ⟨_, by simp only [Placement.place, hg, hfind]; rfl⟩
      | some q => exact absurd hvisit ((find?_unplaced hn).mp hfind).2.2
  · exact ⟨_, by simp only [Placement.place, get?_eq_none_iff.mpr hmem]; rfl⟩

theorem placeAll_of_orderly {visit : PackageNode × String} {children : List String}
    (ho : d.Orderly (met ++ children.map (⟨visit.1, visit.2, ·⟩))) :
    (d.placementAfter met).placeAll d.registry visit.1 visit.2 children =
      .ok (d.placementAfter (met ++ children.map (⟨visit.1, visit.2, ·⟩)),
        (children.map (⟨visit.1, visit.2, ·⟩)).filterMap d.found?) := by
  induction children generalizing met with
  | nil => simp [Placement.placeAll]
  | cons child rest ih =>
    rw [List.map_cons, List.append_cons] at ho
    have hp := place_of_orderly hn ho.left
    have hr := ih ho
    simp only at hp
    rw [List.map_cons, List.append_cons, List.filterMap_cons]
    simp only [Placement.placeAll, hp, hr, bind, Except.bind, pure, Except.pure]
    cases d.found? ⟨visit.1, visit.2, child⟩ <;> rfl

theorem placeAll_of_not_orderly {visit : PackageNode × String} {children : List String}
    (ho : d.Orderly met) (hne : ¬ d.Orderly (met ++ children.map (⟨visit.1, visit.2, ·⟩))) :
    ∃ fault, (d.placementAfter met).placeAll d.registry visit.1 visit.2 children =
      .error fault := by
  induction children generalizing met with
  | nil => exact absurd (by simpa using ho) hne
  | cons child rest ih =>
    rw [List.map_cons, List.append_cons] at hne
    by_cases hc : d.Orderly (met ++ [⟨visit.1, visit.2, child⟩])
    · obtain ⟨fault, hf⟩ := ih hc hne
      have hp := place_of_orderly hn hc
      simp only at hp
      exact ⟨fault, by simp only [Placement.placeAll, hp, hf, bind, Except.bind]⟩
    · obtain ⟨fault, hf⟩ := place_of_not_orderly hn ho hc
      simp only at hf
      exact ⟨fault, by simp only [Placement.placeAll, hf, bind, Except.bind]⟩

end Place

/-- All that packages hold, in the order in which the walk comes to them. -/
def encountersOf (d : Diagram) (visited : List (PackageNode × String)) : List Encounter :=
  visited.flatMap d.encounters

theorem encountersOf_concat (d : Diagram) (visited : List (PackageNode × String))
    (visit : PackageNode × String) :
    d.encountersOf (visited ++ [visit]) = d.encountersOf visited ++ d.encounters visit := by
  simp [encountersOf]

/-- What is met is the children of what was visited, with the paths of their packages. -/
theorem mem_encountersOf {visited : List (PackageNode × String)} :
    e ∈ d.encountersOf visited ↔ (e.parent, e.path) ∈ visited ∧ d.IsChild e.parent e.child := by
  unfold encountersOf encounters
  rw [List.mem_flatMap]
  constructor
  · rintro ⟨visit, hv, he⟩
    obtain ⟨id, hid, rfl⟩ := List.mem_map.mp he
    exact ⟨hv, mem_childrenOf.mp hid⟩
  · rintro ⟨hv, hc⟩
    exact ⟨_, hv, List.mem_map.mpr ⟨e.child, mem_childrenOf.mpr hc, rfl⟩⟩

private theorem walk_of_ok {s t : Placement} {visit : PackageNode × String}
    {waiting next : List (PackageNode × String)}
    (h : s.placeAll d.registry visit.1 visit.2 (d.childrenOf visit.1) = .ok (t, next)) :
    Placement.walk d.registry s (visit :: waiting) =
      Placement.walk d.registry t (waiting ++ next) := by
  rw [Placement.walk]
  split
  · rename_i he
    cases he.symm.trans h
  · rename_i he
    cases he.symm.trans h
    rfl

private theorem walk_of_error {s : Placement} {visit : PackageNode × String}
    {waiting : List (PackageNode × String)} {fault : Rejection}
    (h : s.placeAll d.registry visit.1 visit.2 (d.childrenOf visit.1) = .error fault) :
    Placement.walk d.registry s (visit :: waiting) = .error fault := by
  rw [Placement.walk]
  split
  · rename_i he
    cases he.symm.trans h
    rfl
  · rename_i he
    cases he.symm.trans h

/-- A walk in which some packages are done and others wait: nothing went wrong so far, and every path
spells a chain. -/
structure Walked (d : Diagram) (done waiting : List (PackageNode × String)) : Prop where
  visits : d.visits (d.encountersOf done) = done ++ waiting
  orderly : d.Orderly (d.encountersOf done)
  chained : ∀ visit ∈ done ++ waiting, ∃ ps, d.Chain ps visit.1 ∧
    visit.2 = d.target.separator.intercalate (ps.map PackageNode.name)

namespace Walked
variable {done waiting : List (PackageNode × String)} {visit : PackageNode × String}

theorem reachable (h : d.Walked done waiting) (hm : visit ∈ done ++ waiting) :
    d.Reachable visit.1 := by
  obtain ⟨ps, hps, _⟩ := h.chained visit hm
  exact ⟨ps, hps⟩

theorem start (d : Diagram) : d.Walked [] (d.roots.map (fun p => (p, p.name))) := by
  refine ⟨by simp [Diagram.visits, encountersOf], .nil, fun visit hv => ?_⟩
  obtain ⟨p, hp, rfl⟩ := List.mem_map.mp hv
  obtain ⟨hm, hr⟩ := mem_roots.mp hp
  exact ⟨[p], .root hm hr, by simp⟩

theorem step (hn : d.nodeIds.Nodup) (h : d.Walked done (visit :: waiting))
    (ho : d.Orderly (d.encountersOf (done ++ [visit]))) :
    d.Walked (done ++ [visit]) (waiting ++ (d.encounters visit).filterMap d.found?) := by
  exact {
    visits := by
      rw [encountersOf_concat, visits_append, h.visits]
      simp
    orderly := ho
    chained := by
      intro next hv
      rw [← List.append_assoc, List.mem_append, List.append_assoc] at hv
      rcases hv with hv | hv
      · exact h.chained next (by simpa using hv)
      · obtain ⟨e, he, hf⟩ := List.mem_filterMap.mp hv
        obtain ⟨child, hc, rfl⟩ := List.mem_map.mp he
        obtain ⟨q, hq, rfl⟩ := Option.map_eq_some_iff.mp hf
        obtain ⟨hm, rfl⟩ := (package?_eq_some_iff hn).mp hq
        obtain ⟨ps, hps, hpath⟩ := h.chained visit (by simp)
        have hne : ps.map PackageNode.name ≠ [] := by simpa using hps.ne_nil
        refine ⟨ps ++ [q], .child hps (mem_childrenOf.mp hc) hm, ?_⟩
        rw [List.map_append, String.intercalate_append_of_ne_nil hne (by simp), ← hpath]
        simp }

/-- The walk ends in one of two ways: nothing waits any more, or the next package holds something
that is out of order. -/
theorem run (hn : d.nodeIds.Nodup) (h : d.Walked done waiting) :
    (∃ all, Placement.walk d.registry (d.placementAfter (d.encountersOf done)) waiting =
        .ok (d.placementAfter (d.encountersOf all)) ∧ d.Walked all []) ∨
      ∃ done' visit waiting' fault,
        Placement.walk d.registry (d.placementAfter (d.encountersOf done)) waiting =
          .error fault ∧ d.Walked done' (visit :: waiting') ∧
        ¬ d.Orderly (d.encountersOf (done' ++ [visit])) := by
  -- on the packages without a path and those that wait, which get fewer by the one that is done
  generalize hm : (d.placementAfter (d.encountersOf done)).unplaced.length + waiting.length = size
  induction size using Nat.strongRecOn generalizing done waiting with
  | _ size ih =>
    cases waiting with
    | nil => exact .inl ⟨done, by rw [Placement.walk], h⟩
    | cons visit waiting =>
      by_cases ho : d.Orderly (d.encountersOf (done ++ [visit]))
      · have hp := placeAll_of_orderly hn (encountersOf_concat d done visit ▸ ho)
        have hs := Placement.placeAll_size hp
        rw [walk_of_ok hp]
        have hw := h.step hn ho
        have hnext := encountersOf_concat d done visit
        unfold encounters at hnext hw
        rw [← hnext] at hs ⊢
        refine ih _ ?_ hw rfl
        simp only [List.length_append, List.length_cons] at hm ⊢
        omega
      · obtain ⟨fault, hf⟩ := placeAll_of_not_orderly hn h.orderly
          (encountersOf_concat d done visit ▸ ho)
        exact .inr ⟨done, visit, waiting, fault, walk_of_error hf, h, ho⟩

end Walked

end Diagram

end ClassScaffold
