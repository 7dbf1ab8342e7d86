import ClassScaffold.Proofs.Resolution.SameHierarchy
import ClassScaffold.Proofs.Resolution.Surroundings

/-! Two ways to say that a package holds a class: the package lists the class, or the class names the
package. Resolution does not tell them apart. -/
namespace ClassScaffold

def ClassNode.ownedBy (c : ClassNode) (p : PackageNode) : ClassNode :=
  { c with packageId := some p.id }

def PackageNode.withoutChild (p : PackageNode) (id : String) : PackageNode :=
  { p with body := { p.body with children := p.body.children.filter (· != id) } }

/-- The diagram in which the class at position `i` names the package at position `j` as its own, and that
package does not list it. -/
def Diagram.nameOwner (d : Diagram) (i j : Nat) (c : ClassNode) (p : PackageNode) : Diagram where
  classes := d.classes.set i (c.ownedBy p)
  packages := d.packages.set j (p.withoutChild c.id)
  target := d.target

/-- The same class, which may name another package. -/
def ClassNode.SameButOwner (c c' : ClassNode) : Prop :=
  ∃ owner, c' = { c with packageId := owner }

namespace ClassNode.SameButOwner
variable {c c' : ClassNode}

theorem symm (h : c.SameButOwner c') : c'.SameButOwner c := by
  obtain ⟨_, rfl⟩ := h
  exact ⟨c.packageId, rfl⟩

theorem id_eq (h : c.SameButOwner c') : c'.id = c.id := by
  obtain ⟨_, rfl⟩ := h
  rfl

theorem parentIds_eq (h : c.SameButOwner c') : c'.parentIds = c.parentIds := by
  obtain ⟨_, rfl⟩ := h
  rfl

theorem isInterface_eq (h : c.SameButOwner c') : c'.isInterface = c.isInterface := by
  obtain ⟨_, rfl⟩ := h
  rfl

theorem body_eq (h : c.SameButOwner c') : c'.body = c.body := by
  obtain ⟨_, rfl⟩ := h
  rfl

theorem shown_eq (h : c.SameButOwner c') : c'.shown = c.shown := by
  obtain ⟨_, rfl⟩ := h
  rfl

end ClassNode.SameButOwner

/-- A walk takes the same way whatever packages the interfaces name. -/
theorem forall₂_walkInterfaces {pool others : List ClassNode}
    (h : List.Forall₂ ClassNode.SameButOwner pool others) (ids : List String) :
    List.Forall₂ ClassNode.SameButOwner (walkInterfaces pool ids) (walkInterfaces others ids) := by
  have hfound {pool others : List ClassNode} (h : List.Forall₂ ClassNode.SameButOwner pool others)
      (id : String) : Option.Rel ClassNode.SameButOwner (pool.find? (fun c => c.id == id))
        (others.find? (fun c => c.id == id)) :=
    rel_find? h fun _ _ hr => by rw [hr.id_eq]
  fun_induction walkInterfaces pool ids generalizing others with
  | case1 =>
    rw [walkInterfaces]
    exact .nil
  | case2 pool id waiting hp ih =>
    have hrel := hfound h id
    cases ho : others.find? (fun c => c.id == id) with
    | none =>
      rw [walkInterfaces_of_none ho]
      exact ih h
    | some node' =>
      rw [hp, ho] at hrel
      cases hrel
  | case3 pool id waiting node hp ih =>
    have hrel := hfound h id
    cases ho : others.find? (fun c => c.id == id) with
    | none =>
      rw [hp, ho] at hrel
      cases hrel
    | some node' =>
      rw [hp, ho, Option.rel_some_some] at hrel
      rw [walkInterfaces_of_some ho, hrel.parentIds_eq]
      exact .cons hrel (ih (List.rel_filter (fun _ _ hr => by simp only [hr.id_eq]) h))

/-- Two diagrams that differ in how packages hold their children only: by their own lists, or by the
classes that name them. -/
structure Diagram.SameButOwners (d e : Diagram) : Prop where
  target : e.target = d.target
  classes : List.Forall₂ ClassNode.SameButOwner d.classes e.classes
  packages : List.Forall₂ (d.SamePackage e) d.packages e.packages
  owners : d.OwnersKnown ↔ e.OwnersKnown

namespace Diagram.SameButOwners
variable {d e : Diagram}

theorem symm (h : d.SameButOwners e) : e.SameButOwners d where
  target := h.target.symm
  classes := .flip (h.classes.imp fun _ _ => .symm)
  packages := .flip (h.packages.imp fun _ _ => .symm)
  owners := h.owners.symm

theorem nodeIds_eq (h : d.SameButOwners e) : e.nodeIds = d.nodeIds := by
  have hclasses := map_eq_of_forall₂ h.classes fun _ _ hr => hr.id_eq.symm
  have hpackages := map_eq_of_forall₂ h.packages fun _ _ hr => hr.id.symm
  rw [nodeIds, nodeIds, hclasses, hpackages]

theorem sameHierarchy (h : d.SameButOwners e) : d.SameHierarchy e where
  target := h.target
  nodeIds id := by rw [h.nodeIds_eq]
  left _ hp := exists_of_forall₂ h.packages hp
  right q hq := by
    obtain ⟨p, hp, hs⟩ := exists_of_forall₂ h.symm.packages hq
    exact ⟨p, hp, hs.symm⟩
  owners := h.owners

theorem implemented (h : d.SameButOwners e) {c c' : ClassNode} (hr : c.SameButOwner c') :
    List.Forall₂ ClassNode.SameButOwner (d.implemented c) (e.implemented c') := by
  have hinterfaces : List.Forall₂ ClassNode.SameButOwner d.interfaces e.interfaces :=
    List.rel_filter (fun _ _ hr => by simp only [hr.isInterface_eq]) h.classes
  unfold Diagram.implemented
  rw [hr.isInterface_eq, hr.parentIds_eq]
  split
  · exact .nil
  · exact forall₂_walkInterfaces hinterfaces _

section Lookup
variable (h : d.SameButOwners e) (hn : d.nodeIds.Nodup)
include h hn

theorem seenAlike {c c' : ClassNode} (hr : c.SameButOwner c') : c.SeenAlike d e c' where
  target := h.target
  node := hr
  implemented := (map_eq_of_forall₂ (h.implemented hr) fun _ _ hr => hr.body_eq.symm).symm
  shown id := by
    have hrel := rel_class? hn (h.nodeIds_eq ▸ hn) h.classes (fun _ _ hr => hr.id_eq) id
    exact map_eq_of_rel hrel fun _ _ hr => hr.shown_eq

theorem classViolations_eq : e.registry.classViolations = d.registry.classViolations := by
  have hall {f g : ClassNode → List Rejection} (hfg : ∀ c c', c.SameButOwner c' → g c' = f c) :
      e.classes.flatMap g = d.classes.flatMap f := by
    rw [List.flatMap_def, List.flatMap_def, map_eq_of_forall₂ h.classes fun c c' hr => (hfg c c' hr).symm]
  simp only [Registry.classViolations, diagram_registry]
  rw [hall fun _ _ hr => (h.seenAlike hn hr).parentViolations_eq,
    hall fun _ _ hr => (h.seenAlike hn hr).friendViolations_eq,
    hall fun _ _ hr => (h.seenAlike hn hr).lifecycleViolations_eq]

end Lookup

/-- What one of them resolves to, so does the other. -/
theorem resolve_ok (h : d.SameButOwners e) {m : Model} (hr : d.resolve = .ok m) : e.resolve = .ok m := by
  obtain ⟨-, hv, -⟩ := resolve_eq_ok_iff.mp hr
  obtain ⟨hn, hf, all, hd, rfl⟩ := walked_of_resolve hr
  have hn' : e.nodeIds.Nodup := h.nodeIds_eq ▸ hn
  have hs := h.sameHierarchy
  rcases ofRegistry_cases hn' with ⟨_, all', he, hok⟩ | ⟨hf', _⟩
  · refine resolve_eq_ok_iff.mpr ⟨hn', (h.classViolations_eq hn).symm ▸ hv, _, hok, ?_⟩
    have hclasses := map_eq_of_forall₂ (mem_of_forall₂ h.classes) fun c c' ⟨hc, hc', hr⟩ =>
      (h.seenAlike hn hr).toModel_eq (hs.packagePath_eq hn hn' hd he hc hc' hr.id_eq) |>.symm
    have hpackages := map_eq_of_forall₂ (mem_of_forall₂ h.packages) fun p q ⟨hp, hq, hr⟩ =>
      (hs.package_toModel_eq hn hn' hd he hp hq hr).symm
    simp only [Registry.toModel, diagram_registry, h.target, hclasses, hpackages]
  · exact absurd (hs.isForest hn' hf) hf'

theorem resolve_iff (h : d.SameButOwners e) {m : Model} : d.resolve = .ok m ↔ e.resolve = .ok m :=
  ⟨h.resolve_ok, h.symm.resolve_ok⟩

end Diagram.SameButOwners

namespace Diagram
variable {d : Diagram} {i j : Nat} {c : ClassNode} {p q : PackageNode}

/-- A class that names a package as its own belongs to it besides all others that belong to one. -/
private theorem exists_owned_iff (hc : d.classes[i]? = some c) (hnone : c.packageId = none)
    {id owner : String} :
    (∃ x ∈ d.classes.set i (c.ownedBy p), x.id = id ∧ x.packageId = some owner) ↔
      (∃ x ∈ d.classes, x.id = id ∧ x.packageId = some owner) ∨ c.id = id ∧ p.id = owner := by
  obtain ⟨hi, hci⟩ := List.getElem?_eq_some_iff.mp hc
  constructor
  · rintro ⟨x, hx, hid, hox⟩
    rcases List.mem_or_eq_of_mem_set hx with hm | rfl
    · exact .inl ⟨x, hm, hid, hox⟩
    · exact .inr ⟨hid, Option.some.inj hox⟩
  · rintro (⟨x, hx, hid, hox⟩ | ⟨hid, ho⟩)
    · obtain ⟨k, hk⟩ := List.getElem?_of_mem hx
      -- `x` names a package and `c` does not, so `x` stays in its place.
      have hki : i ≠ k := by
        rintro rfl
        cases hk.symm.trans hc
        cases hnone.symm.trans hox
      exact ⟨x, List.mem_of_getElem? ((List.getElem?_set_ne hki).trans hk), hid, hox⟩
    · exact ⟨c.ownedBy p, List.mem_set hi _, hid, congrArg some ho⟩

private theorem ownersKnown_iff : d.OwnersKnown ↔
    ∀ id owner, (∃ x ∈ d.classes, x.id = id ∧ x.packageId = some owner) →
      owner ∈ d.packages.map (·.id) := by
  constructor
  · rintro h id owner ⟨x, hx, rfl, ho⟩
    exact List.mem_map.mpr (h x hx owner ho)
  · exact fun h x hx owner ho => List.mem_map.mp (h x.id owner ⟨x, hx, rfl, ho⟩)

private theorem sameButOwners_nameOwner (hn : d.nodeIds.Nodup) (hc : d.classes[i]? = some c)
    (hp : d.packages[j]? = some p) (hnone : c.packageId = none) (hlisted : c.id ∈ p.body.children) :
    d.SameButOwners (d.nameOwner i j c p) where
  target := rfl
  classes := forall₂_set hc ⟨_, rfl⟩ fun _ x _ _ => ⟨x.packageId, rfl⟩
  packages := by
    refine forall₂_set hp ⟨rfl, rfl, rfl, fun id => ?_⟩ fun k q hk hkj => ⟨rfl, rfl, rfl, fun id => ?_⟩
    · simp only [IsChild, nameOwner, exists_owned_iff hc hnone]
      by_cases hid : id = c.id
      · simp [hid, hlisted, PackageNode.withoutChild]
      · simp [hid, Ne.symm hid, PackageNode.withoutChild]
    · -- With another position the package has another id, so the class is not among its children.
      have hne : p.id ≠ q.id := by
        intro he
        have hids : (d.packages.map (·.id))[k]? = (d.packages.map (·.id))[j]? := by
          rw [List.getElem?_map, List.getElem?_map, hk, hp, Option.map_some, Option.map_some, he]
        refine hkj ((List.getElem?_inj ?_ (List.nodup_append.mp hn).2.1).mp hids)
        rw [List.length_map]
        exact (List.getElem?_eq_some_iff.mp hk).1
      simp [IsChild, nameOwner, exists_owned_iff hc hnone, hne]
  owners := by
    have hids : (d.packages.set j (p.withoutChild c.id)).map (·.id) = d.packages.map (·.id) :=
      map_set_of_eq hp rfl
    simp only [ownersKnown_iff, nameOwner, exists_owned_iff hc hnone, hids]
    constructor
    · rintro h id owner (ho | ⟨-, rfl⟩)
      · exact h id owner ho
      · exact List.mem_map_of_mem (List.mem_of_getElem? hp)
    · exact fun h id owner ho => h id owner (.inl ho)

/-- A class that names no package may be listed by one or may name that one instead: one diagram resolves
where the other does, and to the same model. -/
theorem resolve_nameOwner (hc : d.classes[i]? = some c) (hp : d.packages[j]? = some p)
    (hnone : c.packageId = none) (hlisted : c.id ∈ p.body.children) (m : Model) :
    d.resolve = .ok m ↔ (d.nameOwner i j c p).resolve = .ok m := by
  have hids : (d.nameOwner i j c p).nodeIds = d.nodeIds := by
    have hclasses : (d.classes.set i (c.ownedBy p)).map (·.id) = d.classes.map (·.id) :=
      map_set_of_eq hc rfl
    have hpackages : (d.packages.set j (p.withoutChild c.id)).map (·.id) = d.packages.map (·.id) :=
      map_set_of_eq hp rfl
    simp only [nodeIds, nameOwner, hclasses, hpackages]
  by_cases hn : d.nodeIds.Nodup
  · exact (sameButOwners_nameOwner hn hc hp hnone hlisted).resolve_iff
  · refine iff_of_false (fun hr => hn (resolve_eq_ok_iff.mp hr).1) fun hr => hn ?_
    exact hids ▸ (resolve_eq_ok_iff.mp hr).1

/-- A package that lists a class twice, with another class before it. -/
def listing : Diagram where
  target := .cpp
  packages := [{ id := "p", body := { name := "io", children := ["b", "a", "b"] } }]
  classes := [{ id := "a", body := { name := "Reader" } }, { id := "b", body := { name := "Writer" } }]

theorem resolve_listing :
    listing.classes[1].packageId = none ∧ listing.classes[1].id ∈ listing.packages[0].body.children ∧
      ∃ m, listing.resolve = .ok m ∧
        (listing.nameOwner 1 0 listing.classes[1] listing.packages[0]).resolve = .ok m ∧
        m.classes.map (·.packagePath) = [some "io", some "io"] := by
  have hpaths : listing.resolve.toOption.map (fun m => m.classes.map (·.packagePath)) =
      some [some "io", some "io"] := by
    decide +kernel
  have hnone : listing.classes[1].packageId = none := rfl
  have hlisted : listing.classes[1].id ∈ listing.packages[0].body.children := by decide
  cases hr : listing.resolve with
  | error fault =>
    rw [hr] at hpaths
    cases hpaths
  | ok m =>
    rw [hr] at hpaths
    exact ⟨hnone, hlisted, m, rfl, (resolve_nameOwner rfl rfl hnone hlisted m).mp hr,
      Option.some.inj hpaths⟩

end Diagram

end ClassScaffold
