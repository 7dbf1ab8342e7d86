import ClassScaffold.Proofs.Resolution.SameHierarchy
import ClassScaffold.Proofs.Resolution.Surroundings
import ClassScaffold.Proofs.Sources

/-! Sources by themselves: the source of a class depends on the other regular classes by their ids,
their names and their packages only. -/
namespace ClassScaffold

/-- The same class, or another regular one than the class of that id, with other parents and another
body of the same name. -/
inductive ClassNode.RewrittenBeside (id : String) (c : ClassNode) : ClassNode → Prop where
  | refl : c.RewrittenBeside id c
  | rewrite (parents : List ParentEdge) (body : ClassBody) :
    c.id ≠ id → c.isInterface = false → body.name = c.name →
      c.RewrittenBeside id { c with parents := parents, body := body }

namespace ClassNode.RewrittenBeside
variable {id : String} {c c' : ClassNode}

theorem symm (h : c.RewrittenBeside id c') : c'.RewrittenBeside id c := by
  cases h with
  | refl => exact .refl
  | rewrite parents body hid hi hname => exact .rewrite c.parents c.body hid hi hname.symm

theorem id_eq (h : c.RewrittenBeside id c') : c'.id = c.id := by
  cases h <;> rfl

theorem packageId_eq (h : c.RewrittenBeside id c') : c'.packageId = c.packageId := by
  cases h <;> rfl

theorem isInterface_eq (h : c.RewrittenBeside id c') : c'.isInterface = c.isInterface := by
  cases h <;> rfl

theorem name_eq (h : c.RewrittenBeside id c') : c'.name = c.name := by
  cases h with
  | refl => rfl
  | rewrite _ _ _ _ hname => exact hname

theorem eq_of_id (h : c.RewrittenBeside id c') (hid : c.id = id) : c' = c := by
  cases h with
  | refl => rfl
  | rewrite _ _ hne => exact absurd hid hne

theorem eq_of_isInterface (h : c.RewrittenBeside id c') (hi : c.isInterface = true) : c' = c := by
  cases h with
  | refl => rfl
  | rewrite _ _ _ hregular => cases hi.symm.trans hregular

end ClassNode.RewrittenBeside

/-- The same diagram with other parents and other bodies of regular classes. What stays as it is are the
names of these classes, the class of that id, all interfaces and all packages. -/
structure Diagram.RewrittenBeside (id : String) (d e : Diagram) : Prop where
  target : e.target = d.target
  packages : e.packages = d.packages
  classes : List.Forall₂ (ClassNode.RewrittenBeside id) d.classes e.classes

namespace Diagram.RewrittenBeside
variable {d e : Diagram} {id : String} {c : ClassNode}

theorem symm (h : d.RewrittenBeside id e) : e.RewrittenBeside id d where
  target := h.target.symm
  packages := h.packages.symm
  classes := .flip (h.classes.imp fun _ _ => .symm)

theorem exists_class (h : d.RewrittenBeside id e) (hc : c ∈ d.classes) :
    ∃ c' ∈ e.classes, c.RewrittenBeside id c' :=
  exists_of_forall₂ h.classes hc

theorem mem_classes (h : d.RewrittenBeside id e) (hc : c ∈ d.classes) (hid : c.id = id) :
    c ∈ e.classes := by
  obtain ⟨c', hc', hr⟩ := h.exists_class hc
  exact hr.eq_of_id hid ▸ hc'

theorem nodeIds_eq (h : d.RewrittenBeside id e) : e.nodeIds = d.nodeIds := by
  have hids := map_eq_of_forall₂ h.classes fun _ _ hr => hr.id_eq.symm
  rw [nodeIds, nodeIds, h.packages, hids]

theorem interfaces_eq (h : d.RewrittenBeside id e) : e.interfaces = d.interfaces :=
  filter_eq_of_forall₂ h.classes fun _ _ hr => ⟨hr.isInterface_eq, hr.eq_of_isInterface⟩

theorem implemented_eq (h : d.RewrittenBeside id e) (node : ClassNode) :
    e.implemented node = d.implemented node := by
  rw [implemented, implemented, h.interfaces_eq]

theorem isChild (h : d.RewrittenBeside id e) {p : PackageNode} {child : String}
    (hch : d.IsChild p child) : e.IsChild p child := by
  rcases hch with hlisted | ⟨c, hc, hid, hp⟩
  · exact .inl hlisted
  · obtain ⟨c', hc', hr⟩ := h.exists_class hc
    exact .inr ⟨c', hc', hr.id_eq.trans hid, hr.packageId_eq.trans hp⟩

theorem samePackage (h : d.RewrittenBeside id e) (p : PackageNode) : d.SamePackage e p p :=
  ⟨rfl, rfl, rfl, fun _ => ⟨h.symm.isChild, h.isChild⟩⟩

theorem ownersKnown (h : d.RewrittenBeside id e) (ho : d.OwnersKnown) : e.OwnersKnown := by
  intro c' hc' owner howner
  obtain ⟨c, hc, hr⟩ := h.symm.exists_class hc'
  rw [h.packages]
  exact ho c hc owner (hr.packageId_eq.trans howner)

theorem sameHierarchy (h : d.RewrittenBeside id e) : d.SameHierarchy e where
  target := h.target
  nodeIds _ := by rw [h.nodeIds_eq]
  left p hp := ⟨p, h.packages ▸ hp, h.samePackage p⟩
  right p hp := ⟨p, h.packages ▸ hp, h.samePackage p⟩
  owners := ⟨h.ownersKnown, h.symm.ownersKnown⟩

section Lookup
variable (h : d.RewrittenBeside id e) (hn : d.nodeIds.Nodup)
include h hn

theorem seenAlike (node : ClassNode) : node.SeenAlike d e node where
  target := h.target
  node := ⟨node.packageId, rfl⟩
  implemented := by rw [h.implemented_eq]
  shown other := by
    have hrel := rel_class? hn (h.nodeIds_eq ▸ hn) h.classes (fun _ _ hr => hr.id_eq) other
    refine map_eq_of_rel hrel fun _ _ hr => ?_
    rw [ClassNode.shown, hr.name_eq, hr.isInterface_eq, ClassNode.shown]

theorem toModel_eq {all all' : List (PackageNode × String)} (hd : d.Walked all [])
    (he : e.Walked all' []) (hc : c ∈ d.classes) (hid : c.id = id) :
    c.toModel e.registry (e.placementAfter (e.encountersOf all')) =
      c.toModel d.registry (d.placementAfter (d.encountersOf all)) :=
  (h.seenAlike hn c).toModel_eq <| h.sameHierarchy.packagePath_eq hn (h.nodeIds_eq ▸ hn) hd he hc
    (h.mem_classes hc hid) rfl

end Lookup

end Diagram.RewrittenBeside

namespace Diagram

/-- The source of a class stays the same, whatever is done to the parents and the bodies of other
regular classes, as long as there are sources at all. -/
theorem source_of_rewrittenBeside {d e : Diagram} {x : ClassNode} {engine : TemplateEngine}
    {skeletons : SkeletonSet} {sources others : Sources} (hx : x ∈ d.classes)
    (h : d.RewrittenBeside x.id e)
    (hs : d.generate engine skeletons = .ok sources) (ho : e.generate engine skeletons = .ok others) :
    ∃ text, sources.lookup x.id = some text ∧ others.lookup x.id = some text := by
  obtain ⟨all, writer, hn, hd, hw, htexts⟩ := lookup_of_generate hs
  obtain ⟨all', writer', _, he, hw', htexts'⟩ := lookup_of_generate ho
  obtain ⟨text, ht, hl⟩ := htexts x hx
  obtain ⟨text', ht', hl'⟩ := htexts' x (h.mem_classes hx rfl)
  rw [h.target] at hw'
  cases hw.symm.trans hw'
  rw [h.toModel_eq hn hd he hx rfl] at ht'
  cases ht.symm.trans ht'
  exact ⟨text, hl, hl'⟩

/-- A class with an interface, a base class and a friend. -/
def drivers : Diagram where
  target := .cpp
  packages := [{ id := "p", body := { name := "io" } }]
  classes := [
    { id := "i", isInterface := true, body :=
      { name := "Readable",
        methods := [{ name := "read", returnType := .named "int", isVirtual := true }] } },
    { id := "b", body := { name := "Device" } },
    { id := "f", packageId := some "p", body :=
      { name := "Probe", properties := [{ id := "q", name := "count", type := .named "int" }] } },
    { id := "x", packageId := some "p", parents := [{ id := "i" }, { id := "b" }], body :=
      { name := "Reader", friends := ["f"],
        properties := [{ id := "s", name := "size", type := .named "int" }] } }]

/-- The same drivers with another base class and another friend under their names. -/
def revisedDrivers : Diagram where
  target := .cpp
  packages := drivers.packages
  classes := [
    drivers.classes[0],
    { id := "b", parents := [{ id := "i" }], body :=
      { name := "Device", friends := ["x"], templateParameters := ["T"],
        properties := [
          { id := "d", name := "data", type := { name := "T", pointers := [⟨false, true, "length"⟩] } }],
        destructor := some { fields := ["d"] }, copyConstructor := true } },
    { id := "f", packageId := some "p", parents := [{ id := "x" }], body :=
      { name := "Probe",
        methods := [{ name := "read", returnType := .named "int", isVirtual := true }] } },
    drivers.classes[3]]

theorem source_of_revisedDrivers :
    ∃ sources others text, drivers.generate Skeleton.engine Target.cpp.bundledSkeletons = .ok sources ∧
      revisedDrivers.generate Skeleton.engine Target.cpp.bundledSkeletons = .ok others ∧
      sources.lookup "x" = some text ∧ others.lookup "x" = some text := by
  have hr : drivers.RewrittenBeside "x" revisedDrivers := by
    refine ⟨rfl, rfl, .cons .refl (.cons ?_ (.cons ?_ (.cons .refl .nil)))⟩
    · exact .rewrite _ _ (by decide) rfl rfl
    · exact .rewrite _ _ (by decide) rfl rfl
  have hok : drivers.accept.toBool = true ∧ revisedDrivers.accept.toBool = true := by decide +kernel
  obtain ⟨_, ha⟩ := exists_ok_of_toBool hok.1
  obtain ⟨_, hb⟩ := exists_ok_of_toBool hok.2
  obtain ⟨sources, hs⟩ := generate_bundled_ok ha
  obtain ⟨others, ho⟩ := generate_bundled_ok hb
  have hx : drivers.classes[3] ∈ drivers.classes := by decide
  obtain ⟨text, ht, ht'⟩ := source_of_rewrittenBeside hx hr hs ho
  exact ⟨sources, others, text, hs, ho, ht, ht'⟩

end Diagram

end ClassScaffold
