import ClassScaffold.Proofs.Ownership.Completeness

/-! What a deep copy does, step by step: it takes memory for every pointer level, the outermost first,
and assigns once, inside all of its loops. -/
namespace ClassScaffold

/-- One step of a copy or a release, on the spelled places. Arrays are allocated with a length. -/
inductive MemoryStep where
  | allocate (pointer type : String) (length : Option String)
  | delete (pointer : String) (isArray : Bool)
  | assign (target source : String)
  deriving DecidableEq

/-- A step and the loops around it, the outermost first. -/
structure LoopedStep where
  loops : List LoopHeader
  step : MemoryStep
  deriving DecidableEq

namespace Fragment

mutual

/-- The steps of a fragment in the order in which one turn of every loop takes them. -/
def steps (around : List LoopHeader) : Fragment → List LoopedStep
  | .assign target source => [⟨around, .assign target.spell source.spell⟩]
  | .allocate pointer type => [⟨around, .allocate pointer.spell type none⟩]
  | .allocateThenIterate pointer type index length body =>
    ⟨around, .allocate pointer.spell type (some length)⟩ ::
      stepsOf (around ++ [⟨index, length⟩]) body
  | .iterate index length body => stepsOf (around ++ [⟨index, length⟩]) body
  | .iterateThenDelete pointer index length body =>
    stepsOf (around ++ [⟨index, length⟩]) body ++ [⟨around, .delete pointer.spell true⟩]
  | .delete pointer isArray => [⟨around, .delete pointer.spell isArray⟩]

def stepsOf (around : List LoopHeader) : List Fragment → List LoopedStep
  | [] => []
  | f :: rest => f.steps around ++ stepsOf around rest

end

end Fragment

def LoopHeader.over (length : String) : LoopHeader where
  index := length ++ "Idx"
  length := length

namespace Level

/-- The path of what is one level further inside. -/
def enter (path : String) : Level → String
  | .dimension _ length | .arrayPointer _ length => path ++ "[" ++ (length ++ "Idx") ++ "]"
  | .pointer _ => "(*" ++ path ++ ")"

/-- The path of what is inside all of these levels. -/
def path (start : String) (levels : List Level) : String :=
  levels.foldl enter start

/-- The loop that goes through a level. -/
def loop? (level : Level) : Option LoopHeader :=
  level.lengthField?.map LoopHeader.over

/-- The loops around what is inside all of these levels. -/
def loops (levels : List Level) : List LoopHeader :=
  levels.filterMap loop?

theorem loops_cons (level : Level) (rest : List Level) :
    loops (level :: rest) = level.loop?.toList ++ loops rest := by
  rw [loops, List.filterMap_cons]
  cases level.loop? <;> rfl

/-- The memory that a place gets for a level of its type. -/
def allocation (around : List LoopHeader) (place : Place) (type : String) : Level → List LoopedStep
  | .dimension _ _ => []
  | .pointer _ => [⟨around, .allocate place.spell type none⟩]
  | .arrayPointer _ length => [⟨around, .allocate place.spell type (some length)⟩]

theorem allocation_pointer (around : List LoopHeader) (place : Place) (type : String) (p : Pointer) :
    allocation around place type p.level =
      [⟨around, .allocate place.spell type (if p.isArray then some p.lengthField else none)⟩] := by
  cases h : p.isArray <;> simp [Pointer.level, allocation, h]

end Level

namespace Place

/-- The place one level further inside. -/
def enter (p : Place) : Level → Place
  | .dimension _ length | .arrayPointer _ length => p.element (loopIndex length)
  | .pointer _ => p.deref

theorem inside_cons (p : Place) (level : Level) (rest : List Level) :
    p.inside (level :: rest) = (p.enter level).inside rest := by
  cases level <;> rfl

theorem spell_inside (p : Place) (levels : List Level) :
    (p.inside levels).spell = Level.path p.spell levels := by
  induction levels generalizing p with
  | nil => rfl
  | cons level rest ih =>
    rw [p.inside_cons, ih, Level.path, Level.path, List.foldl_cons]
    cases level <;> rfl

end Place

open Fragment Level

section Steps
variable (base : String) (around : List LoopHeader) (target source : Place)

/-- A copy goes through the first level and then does the same inside of it. -/
private theorem stepsOf_copySteps_cons (level : Level) (rest : List Level) :
    stepsOf around (copySteps target source base (level :: rest)) =
      allocation around target (starred base rest.length) level ++
        stepsOf (around ++ level.loop?.toList)
          (copySteps (target.enter level) (source.enter level) base rest) := by
  cases level with
  | pointer isConst =>
    have hloop : around ++ (pointer isConst).loop?.toList = around := List.append_nil _
    rw [copySteps, stepsOf, hloop]
    rfl
  | dimension | arrayPointer =>
    rw [copySteps, stepsOf, steps, stepsOf, List.append_nil]
    rfl

/-- Static dimensions open loops and take no memory. -/
private theorem stepsOf_dimensions (dimensions : List Dimension) (inner : List Level) :
    stepsOf around (copySteps target source base (dimensions.map Dimension.level ++ inner)) =
      stepsOf (around ++ loops (dimensions.map Dimension.level))
        (copySteps (target.inside (dimensions.map Dimension.level))
          (source.inside (dimensions.map Dimension.level)) base inner) := by
  induction dimensions generalizing around target source with
  | nil => rw [List.map_nil, loops, List.filterMap_nil, List.append_nil]; rfl
  | cons d rest ih =>
    rw [List.map_cons, List.cons_append, stepsOf_copySteps_cons, ih, target.inside_cons,
      source.inside_cons, loops_cons, List.append_assoc]
    rfl

/-- Every pointer gets memory before what is inside of it, and the innermost value is assigned. -/
private theorem stepsOf_pointers (pointers : List Pointer) :
    stepsOf around (copySteps target source base (pointers.map Pointer.level)) =
      pointers.mapIdx (fun k p => ⟨around ++ loops ((pointers.map Pointer.level).take k),
        .allocate (target.inside ((pointers.map Pointer.level).take k)).spell
          (starred base (pointers.length - 1 - k)) (if p.isArray then some p.lengthField else none)⟩) ++
      [⟨around ++ loops (pointers.map Pointer.level),
        .assign (target.inside (pointers.map Pointer.level)).spell
          (source.inside (pointers.map Pointer.level)).spell⟩] := by
  induction pointers generalizing around target source with
  | nil => simp [copySteps, stepsOf, steps, loops, Place.inside]
  | cons p rest ih =>
    have hdepth (k : Nat) : rest.length + 1 - 1 - (k + 1) = rest.length - 1 - k := by omega
    rw [List.map_cons, stepsOf_copySteps_cons, allocation_pointer, ih, List.mapIdx_cons]
    simp only [List.take_zero, List.take_succ_cons, List.length_cons, List.length_map, hdepth,
      Place.inside_cons, loops_cons, List.append_assoc]
    simp [loops, Place.inside]

end Steps

namespace DataType

/-- The levels before a pointer level. -/
def outerLevels (type : DataType) (k : Nat) : List Level :=
  type.levels.take (type.dimensions.length + k)

private theorem outerLevels_eq (type : DataType) (k : Nat) : type.outerLevels k =
    type.dimensions.map Dimension.level ++ (type.pointers.map Pointer.level).take k := by
  have hlength : type.dimensions.length = (type.dimensions.map Dimension.level).length :=
    (List.length_map _).symm
  rw [outerLevels, levels, hlength, List.take_length_add_append]

private theorem loops_levels (type : DataType) :
    loops type.levels = type.lengthFields.map .over := by
  rw [← type.filterMap_lengthField?_levels, List.map_filterMap]
  rfl

/-- A deep copy takes memory for the pointer levels in their order and then makes its one assignment,
inside the loops of all static dimensions and arrays. A pointer level gets memory at the path inside
of the levels before it, within their loops and so before the assignment in every turn of them. What
it points to has the base name with a star for every pointer level after it. -/
theorem stepsOf_deepCopy (type : DataType) (target source : Place) :
    let loops := (type.dimensions.map (·.lengthField) ++
      (type.pointers.filter (·.isArray)).map (·.lengthField)).map LoopHeader.over
    stepsOf [] (type.deepCopy target source) =
        type.pointers.mapIdx (fun k p => ⟨Level.loops (type.outerLevels k),
          .allocate (path target.spell (type.outerLevels k))
            (type.name ++ String.ofList (List.replicate (type.pointers.length - 1 - k) '*'))
            (if p.isArray then some p.lengthField else none)⟩) ++
        [⟨loops, .assign (path target.spell type.levels) (path source.spell type.levels)⟩] ∧
      ∀ k, Level.loops (type.outerLevels k) <+: loops := by
  intro loops
  have hloops : Level.loops type.levels = loops := type.loops_levels
  have hinside (p : Place) (inner : List Level) :
      ((p.inside (type.dimensions.map Dimension.level)).inside inner).spell =
        path p.spell (type.dimensions.map Dimension.level ++ inner) := by
    rw [Place.spell_inside, Place.spell_inside, path, path, path, List.foldl_append]
  constructor
  · simp only [outerLevels_eq, ← hloops, Level.loops, List.filterMap_append]
    rw [deepCopy, levels, stepsOf_dimensions, stepsOf_pointers]
    simp only [hinside, Level.loops, List.nil_append, starred]
    rw [List.filterMap_append]
  · intro k
    rw [← hloops]
    exact (List.take_prefix _ type.levels).filterMap _

end DataType

end ClassScaffold
