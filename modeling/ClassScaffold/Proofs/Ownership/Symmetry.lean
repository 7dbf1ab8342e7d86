import ClassScaffold.Ownership.Synthesis
import ClassScaffold.Proofs.Ownership.Levels

/-! Copies and releases mirror each other: what a copy allocates a release gives back in the opposite
order, inside the same loops and by the deletion that fits the allocation. -/
namespace ClassScaffold

/-- The variable that a loop runs and the name of the length it runs to. -/
structure LoopHeader where
  index : String
  length : String
  deriving DecidableEq

/-- Where memory is taken or given back: the loops around, the outermost first, the pointer, and
whether it stands for an array. -/
structure MemorySite where
  loops : List LoopHeader
  pointer : Place
  isArray : Bool
  deriving DecidableEq

namespace Fragment

mutual

/-- The sites at which a fragment takes memory, an array before what is allocated inside its loop. -/
def allocationSites (around : List LoopHeader) : Fragment → List MemorySite
  | .allocate pointer _ => [⟨around, pointer, false⟩]
  | .allocateThenIterate pointer _ index length body =>
    ⟨around, pointer, true⟩ :: allocationSitesOf (around ++ [⟨index, length⟩]) body
  | .iterate index length body | .iterateThenDelete _ index length body =>
    allocationSitesOf (around ++ [⟨index, length⟩]) body
  | .assign .. | .delete .. => []

def allocationSitesOf (around : List LoopHeader) : List Fragment → List MemorySite
  | [] => []
  | f :: rest => f.allocationSites around ++ allocationSitesOf around rest

end

mutual

/-- The sites at which a fragment gives memory back, an array after what is released inside its
loop. -/
def releaseSites (around : List LoopHeader) : Fragment → List MemorySite
  | .delete pointer isArray => [⟨around, pointer, isArray⟩]
  | .iterateThenDelete pointer index length body =>
    releaseSitesOf (around ++ [⟨index, length⟩]) body ++ [⟨around, pointer, true⟩]
  | .iterate index length body | .allocateThenIterate _ _ index length body =>
    releaseSitesOf (around ++ [⟨index, length⟩]) body
  | .assign .. | .allocate .. => []

def releaseSitesOf (around : List LoopHeader) : List Fragment → List MemorySite
  | [] => []
  | f :: rest => f.releaseSites around ++ releaseSitesOf around rest

end

mutual

/-- Every loop of the fragment has something to do, at any depth. -/
def LoopsFilled : Fragment → Prop
  | .allocateThenIterate _ _ _ _ body | .iterate _ _ body | .iterateThenDelete _ _ _ body =>
    body ≠ [] ∧ AllLoopsFilled body
  | .assign .. | .allocate .. | .delete .. => True

def AllLoopsFilled : List Fragment → Prop
  | [] => True
  | f :: rest => f.LoopsFilled ∧ AllLoopsFilled rest

end

theorem releaseSitesOf_append (around : List LoopHeader) (fs gs : List Fragment) :
    releaseSitesOf around (fs ++ gs) = releaseSitesOf around fs ++ releaseSitesOf around gs := by
  induction fs with
  | nil => rfl
  | cons f rest ih => simp only [List.cons_append, releaseSitesOf, ih, List.append_assoc]

theorem allLoopsFilled_append {fs gs : List Fragment} :
    AllLoopsFilled (fs ++ gs) ↔ AllLoopsFilled fs ∧ AllLoopsFilled gs := by
  induction fs with
  | nil => simp [AllLoopsFilled]
  | cons f rest ih => simp only [List.cons_append, AllLoopsFilled, ih, and_assoc]

theorem allLoopsFilled_flatMap {α : Type} {items : List α} {plan : α → List Fragment}
    (h : ∀ item ∈ items, AllLoopsFilled (plan item)) : AllLoopsFilled (items.flatMap plan) := by
  induction items with
  | nil => trivial
  | cons item rest ih =>
    obtain ⟨hitem, hrest⟩ := List.forall_mem_cons.mp h
    rw [List.flatMap_cons, allLoopsFilled_append]
    exact ⟨hitem, ih hrest⟩

end Fragment

open Fragment

/-- A loop over elements that own nothing is left out, and has no sites either. -/
private theorem releaseSites_dimension (around : List LoopHeader) (target : Place)
    (capacity : UInt32) (length : String) (rest : List Level) :
    releaseSitesOf around (releaseSteps target (.dimension capacity length :: rest)) =
      releaseSitesOf (around ++ [⟨loopIndex length, length⟩])
        (releaseSteps (.element target (loopIndex length)) rest) := by
  simp only [releaseSteps]
  split
  · rename_i he
    rw [he]
    rfl
  · simp only [releaseSitesOf, releaseSites, List.append_nil]

/-- A last array is deleted without a loop, which would have released nothing. -/
private theorem releaseSites_arrayPointer (around : List LoopHeader) (target : Place)
    (isConst : Bool) (length : String) (rest : List Level) :
    releaseSitesOf around (releaseSteps target (.arrayPointer isConst length :: rest)) =
      releaseSitesOf (around ++ [⟨loopIndex length, length⟩])
        (releaseSteps (.element target (loopIndex length)) rest) ++ [⟨around, target, true⟩] := by
  cases rest with
  | nil => rfl
  | cons level rest =>
    simp only [releaseSteps, releaseSitesOf, releaseSites, List.append_nil]

/-- The mirror law for levels of any order. -/
theorem releaseSites_releaseSteps (around : List LoopHeader) (target source : Place)
    (base : String) (levels : List Level) :
    releaseSitesOf around (releaseSteps target levels) =
      (allocationSitesOf around (copySteps target source base levels)).reverse := by
  induction levels generalizing around target source with
  | nil => rfl
  | cons level rest ih =>
    cases level with
    | dimension capacity length =>
      rw [releaseSites_dimension, ih _ _ (.element source (loopIndex length))]
      simp only [copySteps, allocationSitesOf, allocationSites, List.append_nil]
    | pointer isConst =>
      rw [releaseSteps, releaseSitesOf_append, ih _ _ (.deref source)]
      simp only [copySteps, allocationSitesOf, allocationSites, releaseSitesOf, releaseSites,
        List.append_nil, List.cons_append, List.nil_append, List.reverse_cons]
    | arrayPointer isConst length =>
      rw [releaseSites_arrayPointer, ih _ _ (.element source (loopIndex length))]
      simp only [copySteps, allocationSitesOf, allocationSites, List.append_nil,
        List.reverse_cons]

/-- Every pointer level has one site, and no other level has any. -/
theorem length_allocationSites_copySteps (around : List LoopHeader) (target source : Place)
    (base : String) (levels : List Level) :
    (allocationSitesOf around (copySteps target source base levels)).length =
      levels.countP Level.isPointer := by
  induction levels generalizing around target source with
  | nil => rfl
  | cons level rest ih =>
    cases level with
    | dimension capacity length =>
      simp only [copySteps, allocationSitesOf, allocationSites, List.append_nil, ih]
      exact (List.countP_cons_of_neg (by simp [Level.isPointer])).symm
    | pointer isConst =>
      simp only [copySteps, allocationSitesOf, allocationSites, List.cons_append,
        List.nil_append, List.length_cons, ih]
      exact (List.countP_cons_of_pos rfl).symm
    | arrayPointer isConst length =>
      simp only [copySteps, allocationSitesOf, allocationSites, List.append_nil,
        List.length_cons, ih]
      exact (List.countP_cons_of_pos rfl).symm

theorem releaseSteps_eq_nil_iff (target : Place) (levels : List Level) :
    releaseSteps target levels = [] ↔ levels.countP Level.isPointer = 0 := by
  induction levels generalizing target with
  | nil => simp [releaseSteps]
  | cons level rest ih =>
    cases level with
    | dimension capacity length =>
      rw [List.countP_cons_of_neg (by simp [Level.isPointer]),
        ← ih (.element target (loopIndex length))]
      simp only [releaseSteps]
      split
      · rename_i he
        simp [he]
      · rename_i hne
        simpa using hne
    | pointer isConst => simp [releaseSteps, Level.isPointer]
    | arrayPointer isConst length => cases rest <;> simp [releaseSteps, Level.isPointer]

private theorem releaseSteps_ne_nil (target : Place) {levels : List Level} (hn : levels ≠ [])
    (hp : ∀ level ∈ levels, level.isPointer) : releaseSteps target levels ≠ [] := by
  intro he
  obtain ⟨level, hl⟩ := List.exists_mem_of_ne_nil _ hn
  exact List.countP_eq_zero.mp ((releaseSteps_eq_nil_iff target levels).mp he) level hl (hp level hl)

/-- The loops of a release run over elements that own something: what lies inside an array of unknown
length is pointers again. -/
theorem allLoopsFilled_releaseSteps (target : Place) (levels : List Level)
    (h : DimensionsFirst levels) : AllLoopsFilled (releaseSteps target levels) := by
  induction levels generalizing target with
  | nil => trivial
  | cons level rest ih =>
    cases level with
    | dimension capacity length =>
      have hi := ih (.element target (loopIndex length)) h
      simp only [releaseSteps]
      split
      · trivial
      · rename_i hne
        exact ⟨⟨hne, hi⟩, trivial⟩
    | pointer isConst =>
      rw [releaseSteps, allLoopsFilled_append]
      exact ⟨ih _ (dimensionsFirst_of_pointers h), trivial, trivial⟩
    | arrayPointer isConst length =>
      cases rest with
      | nil => exact ⟨trivial, trivial⟩
      | cons inner rest =>
        simp only [releaseSteps]
        exact ⟨⟨releaseSteps_ne_nil _ (List.cons_ne_nil _ _) h,
          ih _ (dimensionsFirst_of_pointers h)⟩, trivial⟩

/-- The loops of a copy end in an assignment at the latest. -/
theorem allLoopsFilled_copySteps (target source : Place) (base : String) (levels : List Level) :
    AllLoopsFilled (copySteps target source base levels) := by
  have hne (target source : Place) : ∀ levels, copySteps target source base levels ≠ []
    | [] | .dimension .. :: _ | .pointer _ :: _ | .arrayPointer .. :: _ => List.cons_ne_nil _ _
  induction levels generalizing target source with
  | nil => exact ⟨trivial, trivial⟩
  | cons level rest ih =>
    cases level with
    | dimension | arrayPointer => exact ⟨⟨hne _ _ rest, ih _ _⟩, trivial⟩
    | pointer => exact ⟨trivial, ih _ _⟩

namespace DataType

/-- A release is the mirror image of a deep copy of the same type. It has a site for every pointer
of the type, so that it is empty exactly where there is none, and no loop without a body. -/
theorem release_mirrors_deepCopy (type : DataType) (target source : Place) :
    releaseSitesOf [] (type.release target) =
        (allocationSitesOf [] (type.deepCopy target source)).reverse ∧
      (releaseSitesOf [] (type.release target)).length = type.pointers.length ∧
      (type.release target = [] ↔ type.pointers = []) ∧
      AllLoopsFilled (type.release target) := by
  have hm := releaseSites_releaseSteps [] target source type.name type.levels
  refine ⟨hm, ?_, ?_, allLoopsFilled_releaseSteps _ _ type.dimensionsFirst_levels⟩
  · rw [release, hm, List.length_reverse, length_allocationSites_copySteps,
      countP_isPointer_levels]
  · rw [release, releaseSteps_eq_nil_iff, countP_isPointer_levels, List.length_eq_zero_iff]

end DataType

end ClassScaffold
