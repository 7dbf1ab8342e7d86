import Mathlib
import ClassScaffold.Ownership.Plan
import ClassScaffold.Proofs.Ownership.Symmetry
import ClassScaffold.Proofs.Resolution.Lookup
import ClassScaffold.Resolution

/-! Copy assignment: an object gives back what its destructor lists and then takes the memory of a
copy. Fields of the class take part in the first step only. -/
namespace ClassScaffold

open Fragment

namespace Place

/-- The variable or member from which a place is reached. -/
def root : Place → String
  | .named name => name
  | .deref p => p.root
  | .element p _ => p.root

end Place

namespace Fragment

theorem allocationsOf_append (fs gs : List Fragment) :
    allocationsOf (fs ++ gs) = allocationsOf fs ++ allocationsOf gs := by
  induction fs with
  | nil => rfl
  | cons f rest ih => simp only [List.cons_append, allocationsOf, ih, List.append_assoc]

theorem releasesOf_append (fs gs : List Fragment) :
    releasesOf (fs ++ gs) = releasesOf fs ++ releasesOf gs := by
  induction fs with
  | nil => rfl
  | cons f rest ih => simp only [List.cons_append, releasesOf, ih, List.append_assoc]

theorem mem_allocationsOf_flatMap {α : Type} {xs : List α} {g : α → List Fragment} {p : Place} :
    p ∈ allocationsOf (xs.flatMap g) ↔ ∃ x ∈ xs, p ∈ allocationsOf (g x) := by
  induction xs with
  | nil => simp [allocationsOf]
  | cons x rest ih => simp [allocationsOf_append, ih]

theorem mem_releasesOf_flatMap {α : Type} {xs : List α} {g : α → List Fragment} {p : Place} :
    p ∈ releasesOf (xs.flatMap g) ↔ ∃ x ∈ xs, p ∈ releasesOf (g x) := by
  induction xs with
  | nil => simp [releasesOf]
  | cons x rest ih => simp [releasesOf_append, ih]

end Fragment

private theorem allocationsOf_copySteps (around : List LoopHeader) (target source : Place)
    (base : String) (levels : List Level) :
    allocationsOf (copySteps target source base levels) =
      (allocationSitesOf around (copySteps target source base levels)).map (·.pointer) := by
  induction levels generalizing around target source with
  | nil => rfl
  | cons level rest ih =>
    cases level with
    | dimension capacity length =>
      simp only [copySteps, allocationsOf, allocations, allocationSitesOf, allocationSites,
        List.append_nil]
      exact ih _ _ _
    | pointer isConst =>
      simp only [copySteps, allocationsOf, allocations, allocationSitesOf, allocationSites,
        List.cons_append, List.nil_append, List.map_cons]
      rw [ih around]
    | arrayPointer isConst length =>
      simp only [copySteps, allocationsOf, allocations, allocationSitesOf, allocationSites,
        List.append_nil, List.map_cons]
      rw [ih (around ++ [⟨loopIndex length, length⟩])]

private theorem releasesOf_releaseSteps (around : List LoopHeader) (target : Place)
    (levels : List Level) :
    releasesOf (releaseSteps target levels) =
      (releaseSitesOf around (releaseSteps target levels)).map (·.pointer) := by
  induction levels generalizing around target with
  | nil => rfl
  | cons level rest ih =>
    cases level with
    | dimension capacity length =>
      have hi := ih (around ++ [⟨loopIndex length, length⟩]) (.element target (loopIndex length))
      simp only [releaseSteps]
      split
      · rfl
      · simpa only [releasesOf, releases, releaseSitesOf, releaseSites, List.append_nil] using hi
    | pointer isConst =>
      rw [releaseSteps, releasesOf_append, releaseSitesOf_append, List.map_append, ih around]
      rfl
    | arrayPointer isConst length =>
      cases rest with
      | nil => rfl
      | cons inner rest =>
        simp only [releaseSteps, releasesOf, releases, releaseSitesOf, releaseSites,
          List.append_nil, List.map_append, List.map_cons, List.map_nil]
        rw [ih (around ++ [⟨loopIndex length, length⟩])]

private theorem root_of_mem_copySteps {target source p : Place} {base : String}
    {levels : List Level} (h : p ∈ allocationsOf (copySteps target source base levels)) :
    p.root = target.root := by
  induction levels generalizing target source with
  | nil => simp [copySteps, allocationsOf, allocations] at h
  | cons level rest ih =>
    cases level with
    | dimension capacity length =>
      simp only [copySteps, allocationsOf, allocations, List.append_nil] at h
      have hr := ih h
      exact hr
    | pointer isConst =>
      simp only [copySteps, allocationsOf, allocations, List.cons_append, List.nil_append] at h
      rcases List.mem_cons.mp h with rfl | h
      · rfl
      · have hr := ih h
        exact hr
    | arrayPointer isConst length =>
      simp only [copySteps, allocationsOf, allocations, List.append_nil] at h
      rcases List.mem_cons.mp h with rfl | h
      · rfl
      · have hr := ih h
        exact hr

namespace Field

/-- What a field releases is what its copy allocates, the last first. -/
theorem releasesOf_release (f : Field) :
    releasesOf f.release = (allocationsOf f.deepCopy).reverse := by
  unfold release deepCopy DataType.release DataType.deepCopy
  rw [releasesOf_releaseSteps [], allocationsOf_copySteps [], ← List.map_reverse,
    releaseSites_releaseSteps [] f.place f.otherPlace f.type.name]

theorem length_allocationsOf_deepCopy (f : Field) :
    (allocationsOf f.deepCopy).length = f.type.pointers.length := by
  unfold deepCopy DataType.deepCopy
  rw [allocationsOf_copySteps [], List.length_map, length_allocationSites_copySteps,
    DataType.countP_isPointer_levels]

theorem releasesOf_eq_nil_iff (f : Field) : releasesOf f.release = [] ↔ f.type.pointers = [] := by
  rw [releasesOf_release, List.reverse_eq_nil_iff, ← List.length_eq_zero_iff,
    length_allocationsOf_deepCopy, List.length_eq_zero_iff]

theorem root_of_mem_allocationsOf {f : Field} {p : Place} (h : p ∈ allocationsOf f.deepCopy) :
    p.root = f.name :=
  root_of_mem_copySteps h

theorem mem_releasesOf {f : Field} {p : Place} :
    p ∈ releasesOf f.release ↔ p ∈ allocationsOf f.deepCopy := by
  rw [releasesOf_release, List.mem_reverse]

end Field

namespace ModelClass
variable {c : ModelClass} {p : Place}

def releasedFields (c : ModelClass) : List Field :=
  c.destructor.toList.flatMap fun d => c.select d.fields

theorem mem_fields_of_released {f : Field} (h : f ∈ c.releasedFields) : f ∈ c.fields := by
  obtain ⟨d, _, hf⟩ := List.mem_flatMap.mp h
  obtain ⟨i, _, hi⟩ := List.mem_filterMap.mp hf
  exact List.mem_of_getElem? hi

theorem releaseBody_eq (c : ModelClass) : c.releaseBody = c.releasedFields.flatMap Field.release := by
  rw [releaseBody, releasedFields, List.flatMap_assoc]

theorem mem_releasesOf_releaseBody :
    p ∈ releasesOf c.releaseBody ↔ ∃ f ∈ c.releasedFields, p ∈ releasesOf f.release := by
  rw [releaseBody_eq, mem_releasesOf_flatMap]

/-- A plain field is not copied piece by piece, and has no pointer to allocate. -/
theorem mem_allocationsOf_copyBody :
    p ∈ allocationsOf c.copyBody ↔ ∃ f ∈ c.instanceFields, p ∈ allocationsOf f.deepCopy := by
  rw [copyBody, mem_allocationsOf_flatMap]
  constructor
  · rintro ⟨f, hf, hp⟩
    exact ⟨f, (List.mem_filter.mp hf).1, hp⟩
  · rintro ⟨f, hf, hp⟩
    refine ⟨f, List.mem_filter.mpr ⟨hf, ?_⟩, hp⟩
    have hlen : 0 < f.type.pointers.length := by
      rw [← f.length_allocationsOf_deepCopy]
      exact List.length_pos_of_mem hp
    have hne : f.type.pointers ≠ [] := List.length_pos_iff.mp hlen
    simp [DataType.isPlain, hne]

/-- A pointer that is released for a field of the object gets memory again. Where no field of the
object is called like a listed field of the class, nothing stays without memory exactly if the listed
fields of the class own nothing. -/
theorem copyBody_reallocates (c : ModelClass) :
    (∀ f ∈ c.releasedFields, f.isStatic = false →
        ∀ p ∈ releasesOf f.release, p ∈ allocationsOf c.copyBody) ∧
      ((∀ f ∈ c.releasedFields, f.isStatic = true → ∀ g ∈ c.instanceFields, g.name ≠ f.name) →
        ((∀ p ∈ releasesOf c.releaseBody, p ∈ allocationsOf c.copyBody) ↔
          ∀ f ∈ c.releasedFields, f.isStatic = true → f.type.pointers = [])) := by
  have hinstance : ∀ f ∈ c.releasedFields, f.isStatic = false →
      ∀ p ∈ releasesOf f.release, p ∈ allocationsOf c.copyBody := by
    intro f hf hs p hp
    refine mem_allocationsOf_copyBody.mpr ⟨f, ?_, Field.mem_releasesOf.mp hp⟩
    exact List.mem_filter.mpr ⟨mem_fields_of_released hf, by rw [hs]; rfl⟩
  refine ⟨hinstance, fun hnames => ⟨fun hall f hf hs => ?_, fun howns p hp => ?_⟩⟩
  · -- a pointer of the field would be allocated for another field, of the same name
    rw [← f.releasesOf_eq_nil_iff]
    refine List.eq_nil_iff_forall_not_mem.mpr fun p hp => ?_
    have hc := hall p (mem_releasesOf_releaseBody.mpr ⟨f, hf, hp⟩)
    obtain ⟨g, hg, hpg⟩ := mem_allocationsOf_copyBody.mp hc
    have hroot := Field.root_of_mem_allocationsOf (Field.mem_releasesOf.mp hp)
    exact hnames f hf hs g hg ((Field.root_of_mem_allocationsOf hpg).symm.trans hroot)
  · obtain ⟨f, hf, hpf⟩ := mem_releasesOf_releaseBody.mp hp
    cases hs : f.isStatic with
    | false => exact hinstance f hf hs p hpf
    | true =>
      rw [f.releasesOf_eq_nil_iff.mpr (howns f hf hs)] at hpf
      cases hpf

end ModelClass

namespace Diagram

/-- A class whose objects share an array and have another one each. The destructor lists both. -/
def sharedPool : Diagram where
  target := .cpp
  classes := [{ id := "c", body :=
    { name := "Cache",
      properties := [
        { id := "p", name := "pool", isStatic := true,
          type := { name := "int", pointers := [⟨false, true, "poolLength"⟩] } },
        { id := "q", name := "items",
          type := { name := "int", pointers := [⟨false, true, "itemsLength"⟩] } }],
      destructor := some { fields := ["p", "q"] },
      copyAssignment := true } }]

def sharedPoolClass : ModelClass :=
  sharedPool.classes[0].toModel sharedPool.registry ⟨[], [], []⟩

private theorem accept_sharedPool :
    sharedPool.accept = .ok { target := .cpp, classes := [sharedPoolClass], packages := [] } := by
  cbv

/-- An assignment to such an object deletes the array of the class and leaves it deleted. -/
theorem sharedPool_dangles :
    ¬ ∀ (d : Diagram) (m : Model), d.target = .cpp → d.accept = .ok m → ∀ c ∈ m.classes,
      ∀ p ∈ releasesOf c.releaseBody, p ∈ allocationsOf c.copyBody := by
  intro h
  have hreleased : releasesOf sharedPoolClass.releaseBody = [.named "pool", .named "items"] := by
    cbv
  have hcopied : allocationsOf sharedPoolClass.copyBody = [.named "items"] := by cbv
  have hp := h sharedPool _ rfl accept_sharedPool _ List.mem_cons_self (.named "pool")
    (by rw [hreleased]; exact List.mem_cons_self)
  rw [hcopied] at hp
  exact absurd hp (by decide)

/-- The array of each object gets memory again, the array of the class does not. -/
theorem copyBody_reallocates_sharedPool :
    (∀ f ∈ sharedPoolClass.releasedFields, f.isStatic = true →
        ∀ g ∈ sharedPoolClass.instanceFields, g.name ≠ f.name) ∧
      .named "items" ∈ allocationsOf sharedPoolClass.copyBody ∧
      ¬ ∀ p ∈ releasesOf sharedPoolClass.releaseBody, p ∈ allocationsOf sharedPoolClass.copyBody := by
  obtain ⟨hinstance, hiff⟩ := sharedPoolClass.copyBody_reallocates
  have hnames : ∀ f ∈ sharedPoolClass.releasedFields, f.isStatic = true →
      ∀ g ∈ sharedPoolClass.instanceFields, g.name ≠ f.name := by
    decide +kernel
  have howned : ¬ ∀ f ∈ sharedPoolClass.releasedFields, f.isStatic = true →
      f.type.pointers = [] := by
    decide +kernel
  have hitems : ∃ f ∈ sharedPoolClass.releasedFields, f.isStatic = false ∧
      .named "items" ∈ releasesOf f.release := by
    decide +kernel
  obtain ⟨f, hf, hs, hp⟩ := hitems
  exact ⟨hnames, hinstance f hf hs _ hp, mt (hiff hnames).mp howned⟩

end Diagram

end ClassScaffold
