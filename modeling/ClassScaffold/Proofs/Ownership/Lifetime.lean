import ClassScaffold.Proofs.Ownership.Copying
import ClassScaffold.Proofs.Ownership.Releasing

/-! The life of a deep copy: what it takes from memory its release gives back. -/
namespace ClassScaffold

namespace DataType

/-- The index variables of the type differ from one another, from the length fields and from the
name of the field. -/
structure Unambiguous (type : DataType) (name : String) : Prop where
  indices : (type.lengthFields.map loopIndex).Nodup
  lengths : ∀ f ∈ type.lengthFields, ∀ g ∈ type.lengthFields, loopIndex f ≠ g
  name : ∀ f ∈ type.lengthFields, loopIndex f ≠ name

end DataType

namespace Memory
variable {α : Type} {m m' : Memory α} {type : DataType} {name : String} {lengths : String → Nat}
  {tree : ValueTree α}

/-- Cells that are left alone, and what they lead to, still hold the same tree. -/
private theorem Keeps.holds {changing : Cell → Prop} {levels : List Level} {l : Cell}
    (h : m.Keeps changing m') (hd : DimensionsFirst levels) (hk : l.Known m.size)
    (hn : ∀ k : Cell, k.region = l.region ∨ (∃ a, k.region = .block a) → ¬ changing k)
    (hh : m.Holds lengths levels l tree) : m'.Holds lengths levels l tree := by
  have hl : m'.read l = m.read l := h.read l hk (hn l (.inl rfl))
  have hin (a i : Nat) (k : Cell)
      (hr : k.region = (Cell.inBlock a i).region ∨ ∃ b, k.region = .block b) : ¬ changing k :=
    hn k (.inr (hr.elim (fun he => ⟨a, he⟩) id))
  induction levels generalizing l tree with
  | nil =>
    cases tree with
    | plain x => exact hl.trans hh
    | _ => exact hh.elim
  | cons level rest ih =>
    cases level with
    | dimension capacity length =>
      cases tree with
      | entries trees =>
        obtain ⟨hr, hlen, ht⟩ := hh
        refine ⟨hl.trans hr, hlen, fun i hi => ih hd hk hn (ht i hi) (h.read _ hk (hn _ (.inl rfl)))⟩
      | _ => exact hh.elim
    | pointer isConst =>
      cases tree with
      | pointee tree =>
        obtain ⟨a, ha, ht⟩ := hh
        have hka := ht.known hd
        exact ⟨a, hl.trans ha, ih (dimensionsFirst_of_pointers hd) hka (hin a 0) ht
          (h.read _ hka (hin a 0 _ (.inl rfl)))⟩
      | _ => exact hh.elim
    | arrayPointer isConst length =>
      cases tree with
      | items trees =>
        obtain ⟨a, ha, hlen, ht⟩ := hh
        refine ⟨a, hl.trans ha, hlen, fun i hi => ?_⟩
        have hka := (ht i hi).known hd
        exact ih (dimensionsFirst_of_pointers hd) hka (hin a i) (ht i hi)
          (h.read _ hka (hin a i _ (.inl rfl)))
      | _ => exact hh.elim

private theorem clear_named (hu : type.Unambiguous name) {root : String}
    (hr : root = name ∨ root.toList.contains '.') :
    (Variables.mk lengths []).Clear type.levels (.named root) := by
  have hl : lengthFieldsOf type.levels = type.lengthFields := type.filterMap_lengthField?_levels
  refine ⟨fun f _ => rfl, fun f hf => ?_, hl ▸ hu.lengths, hl ▸ hu.indices⟩
  rw [hl] at hf
  unfold Place.mentions
  split
  · exact List.not_mem_nil
  · rename_i hdot
    rcases hr with rfl | hr
    · simpa using hu.name f hf
    · exact absurd hr hdot

private theorem locate_named (m : Memory α) (root : String) :
    m.locate ⟨lengths, []⟩ (.named root) = some (.field root) := by
  simp [locate, Variables.hides]

private theorem other_ne (name : String) : "other." ++ name ≠ name := by
  intro h
  have := congrArg String.length h
  simp at this

private theorem canCopy_field (hu : type.Unambiguous name)
    (hs : m.Holds lengths type.levels (.field ("other." ++ name)) tree)
    (ht : m.HasRoom lengths type.levels (.field name)) :
    m.CanCopy name ⟨lengths, []⟩ type.levels (.named name) (.named ("other." ++ name))
      (.field name) (.field ("other." ++ name)) tree m where
  keeps := .refl m _
  clearTarget := clear_named hu (.inl rfl)
  leads := fun m' _ => locate_named m' name
  known := Cell.known_field _ _
  inside _ _ h := h
  room := ht
  clearSource := clear_named hu (.inr (by simp))
  leadsSource := fun m' _ => locate_named m' _
  knownSource := Cell.known_field _ _
  outside h := other_ne name (Region.field.inj h.1)
  holds := hs

private theorem canRelease_field (hu : type.Unambiguous name)
    (hc : m.Copied lengths type.levels (.field name) tree m') :
    m'.CanRelease ⟨lengths, []⟩ type.levels (.named name) (.field name) tree where
  clear := clear_named hu (.inl rfl)
  leads m₂ _ := locate_named m₂ name
  holds := hc.holds
  kinds := hc.kinds
  nodup := hc.owned ▸ List.nodup_range'
  apart _ _ h := nomatch h

private theorem kind?_of_size_le {m : Memory α} {a : Nat} (h : m.size ≤ a) : m.kind? a = none := by
  cases hk : m.kind? a with
  | none => rfl
  | some isArray => exact absurd (lt_size_of_kind? hk) (Nat.not_lt_of_le h)

private theorem live_copied (hc : m.Copied lengths type.levels (.field name) tree m') (a : Nat) :
    m'.Live a ↔ m.Live a ∨ a ∈ (m'.owned lengths type.levels (.field name)).map Prod.fst := by
  by_cases ha : a < m.size
  · have hn : a ∉ (m'.owned lengths type.levels (.field name)).map Prod.fst := by
      rw [hc.owned, List.mem_range'_1]
      omega
    rw [Live, hc.kind a ha, or_iff_left hn, Live]
  · have hd : ¬ m.Live a := by
      rw [Live, kind?_of_size_le (Nat.le_of_not_lt ha)]
      exact Bool.false_ne_true
    rw [or_iff_right hd]
    constructor
    · intro h
      obtain ⟨isArray, hk⟩ := Option.isSome_iff_exists.mp h
      have hlt := lt_size_of_kind? hk
      rw [hc.owned, List.mem_range'_1]
      omega
    · intro h
      obtain ⟨p, hp, rfl⟩ := List.mem_map.mp h
      rw [Live, hc.kinds p hp]
      rfl

/-- After the copy and its release the same blocks live as before. -/
private theorem live_released {after : Memory α}
    (hc : m.Copied lengths type.levels (.field name) tree m')
    (hr : m'.Released ((m'.owned lengths type.levels (.field name)).map Prod.fst) after) (a : Nat) :
    after.Live a ↔ m.Live a := by
  by_cases ha : a ∈ (m'.owned lengths type.levels (.field name)).map Prod.fst
  · have hm : m.size ≤ a := by
      rw [hc.owned, List.mem_range'_1] at ha
      exact ha.1
    rw [Live, hr.kind, if_pos ha, Live, kind?_of_size_le hm]
  · rw [Live, hr.kind, if_neg ha, ← Live, live_copied hc, or_iff_left ha]

end Memory

namespace DataType
variable {α : Type}

/-- A deep copy runs on every source of its type. It leaves everything but the target field as it
was, and the target gets the same tree in new blocks. The release of the target then runs too, gives
back each of these blocks once, and nothing else. -/
theorem deepCopy_then_release (type : DataType) (name : String) (lengths : String → Nat)
    (m : Memory α) (tree : ValueTree α) (hu : type.Unambiguous name)
    (hs : m.Holds lengths type.levels (.field ("other." ++ name)) tree)
    (ht : m.HasRoom lengths type.levels (.field name)) :
    ∃ copied after,
      Fragment.execAll ⟨lengths, []⟩ m
        (type.deepCopy (.named name) (.named ("other." ++ name))) = some copied ∧
      (∀ k : Cell, k.Known m.size → ¬ k.Within (.field name) → copied.read k = m.read k) ∧
      copied.Holds lengths type.levels (.field ("other." ++ name)) tree ∧
      copied.Holds lengths type.levels (.field name) tree ∧
      (copied.owned lengths type.levels (.field name)).map Prod.fst =
        List.range' m.size (copied.size - m.size) ∧
      (∀ a, copied.Live a ↔
        m.Live a ∨ a ∈ (copied.owned lengths type.levels (.field name)).map Prod.fst) ∧
      Fragment.execAll ⟨lengths, []⟩ copied (type.release (.named name)) = some after ∧
      (∃ order : List Nat, order.Perm (List.range' m.size (copied.size - m.size)) ∧
        after.freed = m.freed ++ order) ∧
      (∀ a, after.Live a ↔ m.Live a) ∧
      ∀ k : Cell, k.Known m.size → ¬ k.Within (.field name) → after.read k = m.read k := by
  obtain ⟨copied, hcopy, hc⟩ :=
    (Memory.canCopy_field hu hs ht).run type.dimensionsFirst_levels type.name
  obtain ⟨after, hrelease, hr⟩ := (Memory.canRelease_field hu hc).run
  obtain ⟨order, hp, hf⟩ := hr.freed
  have hsource : copied.Holds lengths type.levels (.field ("other." ++ name)) tree := by
    apply hc.toKeeps.holds type.dimensionsFirst_levels (Cell.known_field _ _) _ hs
    intro k hk hw
    rcases hk with hk | ⟨a, hk⟩
    · exact Memory.other_ne name (Region.field.inj (hk.symm.trans hw.1))
    · exact nomatch hk.symm.trans hw.1
  have hfreed : after.freed = m.freed ++ order := by rw [hf, hc.freed]
  have hafter (k : Cell) (hk : k.Known m.size) (hn : ¬ k.Within (.field name)) :
      after.read k = m.read k := by
    rw [hr.read k, hc.read k hk hn]
    intro a ha he
    rw [hc.owned, List.mem_range'_1] at ha
    have hlt := hk a he
    omega
  exact ⟨copied, after, hcopy, hc.read, hsource, hc.holds, hc.owned, Memory.live_copied hc, hrelease,
    ⟨order, hc.owned ▸ hp, hfreed⟩, Memory.live_released hc hr, hafter⟩

/-- Rows of arrays of a length of their own. -/
def grid : DataType where
  name := "int"
  pointers := [⟨false, true, "rows"⟩, ⟨false, true, "cols"⟩]

/-- An object to copy from, with two rows of one number each, and an object to copy to. -/
def gridMemory : Memory Nat where
  fields name subscripts :=
    match subscripts with
    | [] => if name = "other.cells" then some (.address 0) else some .empty
    | _ => none
  blocks := [some ⟨true, [.address 1, .address 2]⟩, some ⟨true, [.value 5]⟩, some ⟨true, [.value 6]⟩]

def gridLengths (length : String) : Nat :=
  if length = "rows" then 2 else 1

theorem deepCopy_then_release_grid :
    ∃ copied after,
      Fragment.execAll ⟨gridLengths, []⟩ gridMemory
        (grid.deepCopy (.named "cells") (.named ("other." ++ "cells"))) = some copied ∧
      Fragment.execAll ⟨gridLengths, []⟩ copied (grid.release (.named "cells")) = some after ∧
      ∀ a, after.Live a ↔ gridMemory.Live a := by
  have hu : grid.Unambiguous "cells" := ⟨by decide, by decide, by decide⟩
  have hs : gridMemory.Holds gridLengths grid.levels (.field ("other." ++ "cells"))
      (.items [.items [.plain 5], .items [.plain 6]]) := by
    refine ⟨0, rfl, rfl, fun i hi => ?_⟩
    match i with
    | 0 => exact ⟨1, rfl, rfl, fun j hj => by cases Nat.lt_one_iff.mp hj; rfl⟩
    | 1 => exact ⟨2, rfl, rfl, fun j hj => by cases Nat.lt_one_iff.mp hj; rfl⟩
  have ht : gridMemory.HasRoom gridLengths grid.levels (.field "cells") := rfl
  obtain ⟨copied, after, hcopy, -, -, -, -, -, hrelease, -, hlive, -⟩ :=
    deepCopy_then_release grid "cells" gridLengths gridMemory _ hu hs ht
  exact ⟨copied, after, hcopy, hrelease, hlive⟩

end DataType

end ClassScaffold
