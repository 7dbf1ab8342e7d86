import ClassScaffold.DataType

namespace ClassScaffold

def DimensionsFirst : List Level → Prop
  | [] => True
  | .dimension _ _ :: rest => DimensionsFirst rest
  | .pointer _ :: rest | .arrayPointer _ _ :: rest => ∀ level ∈ rest, level.isPointer

theorem dimensionsFirst_of_pointers {levels : List Level} (h : ∀ level ∈ levels, level.isPointer) :
    DimensionsFirst levels := by
  cases levels with
  | nil => trivial
  | cons level rest =>
    have hr : ∀ inner ∈ rest, inner.isPointer := fun inner hi => h inner (List.mem_cons_of_mem _ hi)
    cases level with
    | dimension capacity length => exact absurd (h _ List.mem_cons_self) (by simp [Level.isPointer])
    | pointer isConst => exact hr
    | arrayPointer isConst length => exact hr

namespace DataType

private theorem isPointer_level (p : Pointer) : p.level.isPointer := by
  unfold Pointer.level
  split <;> rfl

theorem dimensionsFirst_levels (type : DataType) : DimensionsFirst type.levels := by
  have hp : ∀ level ∈ type.pointers.map Pointer.level, level.isPointer := by
    intro level hl
    obtain ⟨p, _, rfl⟩ := List.mem_map.mp hl
    exact isPointer_level p
  unfold levels
  induction type.dimensions with
  | nil => exact dimensionsFirst_of_pointers hp
  | cons d rest ih => exact ih

theorem countP_isPointer_levels (type : DataType) :
    type.levels.countP Level.isPointer = type.pointers.length := by
  have hd : (type.dimensions.map Dimension.level).countP Level.isPointer = 0 := by
    simp [List.countP_eq_zero, Dimension.level, Level.isPointer]
  have hp : (type.pointers.map Pointer.level).countP Level.isPointer = type.pointers.length := by
    simp [List.countP_map, Function.comp_def, isPointer_level]
  rw [levels, List.countP_append, hd, hp, Nat.zero_add]

theorem filterMap_lengthField?_levels (type : DataType) :
    type.levels.filterMap Level.lengthField? = type.lengthFields := by
  have hp (ps : List Pointer) : (ps.map Pointer.level).filterMap Level.lengthField? =
      (ps.filter (·.isArray)).map (·.lengthField) := by
    induction ps with
    | nil => rfl
    | cons p rest ih =>
      cases h : p.isArray <;>
        simp [List.filterMap_cons, Pointer.level, Level.lengthField?, h, ih]
  have hd (ds : List Dimension) : (ds.map Dimension.level).filterMap Level.lengthField? =
      ds.map (·.lengthField) := by
    induction ds with
    | nil => rfl
    | cons d rest ih => simp [Dimension.level, Level.lengthField?, ih]
  rw [levels, List.filterMap_append, hd, hp, lengthFields]

end DataType

end ClassScaffold
