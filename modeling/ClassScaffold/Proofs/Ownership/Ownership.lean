import ClassScaffold.DataType
import ClassScaffold.Proofs.Ownership.Memory

/-! What a memory holds at a cell, seen through the levels of a type: a tree of values, the blocks
that this tree owns, and on which cells both depend. -/
namespace ClassScaffold

/-- A value of some type: arrays and what pointers lead to, down to plain values. -/
inductive ValueTree (α : Type) where
  | plain (a : α)
  | entries (trees : List (ValueTree α))
  | pointee (tree : ValueTree α)
  | items (trees : List (ValueTree α))

namespace Memory
variable {α : Type}

/-- The tree that starts at a cell. Arrays have as many elements as their length field says, whatever
more there may be in memory. -/
def Holds (m : Memory α) (lengths : String → Nat) : List Level → Cell → ValueTree α → Prop
  | [], l, .plain a => m.read l = some (.value a)
  | .dimension _ length :: rest, l, .entries trees =>
    m.read l = none ∧ trees.length = lengths length ∧
      ∀ i (h : i < trees.length), m.Holds lengths rest (l.entry i) trees[i]
  | .pointer _ :: rest, l, .pointee tree =>
    ∃ a, m.read l = some (.address a) ∧ m.Holds lengths rest (.inBlock a 0) tree
  | .arrayPointer _ length :: rest, l, .items trees =>
    ∃ a, m.read l = some (.address a) ∧ trees.length = lengths length ∧
      ∀ i (h : i < trees.length), m.Holds lengths rest (.inBlock a i) trees[i]
  | _, _, _ => False

/-- Whether a cell is there to be filled, or a static array with cells for all that its loops run
through. -/
def HasRoom (m : Memory α) (lengths : String → Nat) : List Level → Cell → Prop
  | .dimension _ length :: rest, l =>
    m.read l = none ∧ ∀ i < lengths length, m.HasRoom lengths rest (l.entry i)
  | [], l | .pointer _ :: _, l | .arrayPointer _ _ :: _, l => (m.read l).isSome

/-- The addresses of the blocks that a cell owns through the levels of its type, an array before what
its elements own, and whether each is an array. -/
def owned (m : Memory α) (lengths : String → Nat) : List Level → Cell → List (Nat × Bool)
  | [], _ => []
  | .dimension _ length :: rest, l =>
    (List.range (lengths length)).flatMap fun i => m.owned lengths rest (l.entry i)
  | .pointer _ :: rest, l =>
    match m.read l with
    | some (.address a) => (a, false) :: m.owned lengths rest (.inBlock a 0)
    | _ => []
  | .arrayPointer _ length :: rest, l =>
    match m.read l with
    | some (.address a) =>
      (a, true) :: (List.range (lengths length)).flatMap fun i => m.owned lengths rest (.inBlock a i)
    | _ => []

/-- What the first elements of an array own, each at its cell. -/
def ownedItems (m : Memory α) (lengths : String → Nat) (levels : List Level) (item : Nat → Cell)
    (count : Nat) : List (Nat × Bool) :=
  (List.range count).flatMap fun i => m.owned lengths levels (item i)

section Owned
variable {m : Memory α} {lengths : String → Nat} {levels rest : List Level} {l : Cell} {a : Nat}

theorem owned_dimension (capacity : UInt32) (length : String) :
    m.owned lengths (.dimension capacity length :: rest) l =
      m.ownedItems lengths rest l.entry (lengths length) := rfl

theorem owned_pointer (isConst : Bool) (h : m.read l = some (.address a)) :
    m.owned lengths (.pointer isConst :: rest) l =
      (a, false) :: m.owned lengths rest (.inBlock a 0) := by
  simp only [owned, h]

theorem owned_arrayPointer (isConst : Bool) (length : String) (h : m.read l = some (.address a)) :
    m.owned lengths (.arrayPointer isConst length :: rest) l =
      (a, true) :: m.ownedItems lengths rest (.inBlock a) (lengths length) := by
  simp only [owned, h, ownedItems]

theorem mem_ownedItems {item : Nat → Cell} {count : Nat} {p : Nat × Bool} :
    p ∈ m.ownedItems lengths levels item count ↔
      ∃ i < count, p ∈ m.owned lengths levels (item i) := by
  simp [ownedItems]

theorem ownedItems_succ (item : Nat → Cell) (count : Nat) :
    m.ownedItems lengths levels item (count + 1) =
      m.ownedItems lengths levels item count ++ m.owned lengths levels (item count) := by
  simp [ownedItems, List.range_succ]

end Owned

/-- The cells that lie in a cell or in a block that it owns. -/
def Footprint (m : Memory α) (lengths : String → Nat) (levels : List Level) (l k : Cell) : Prop :=
  k.Within l ∨ ∃ p ∈ m.owned lengths levels l, k.region = .block p.1

namespace Footprint
variable {m : Memory α} {lengths : String → Nat} {rest : List Level} {l k : Cell} {a i : Nat}
  {isConst : Bool} {capacity : UInt32} {length : String}

theorem entry (hi : i < lengths length) (hk : m.Footprint lengths rest (l.entry i) k) :
    m.Footprint lengths (.dimension capacity length :: rest) l k := by
  rcases hk with hk | ⟨p, hp, hk⟩
  · exact .inl hk.of_entry
  · exact .inr ⟨p, mem_ownedItems.mpr ⟨i, hi, hp⟩, hk⟩

theorem pointee (ha : m.read l = some (.address a)) (hk : m.Footprint lengths rest (.inBlock a 0) k) :
    m.Footprint lengths (.pointer isConst :: rest) l k := by
  unfold Footprint
  rw [owned_pointer isConst ha]
  rcases hk with hk | ⟨p, hp, hk⟩
  · exact .inr ⟨_, List.mem_cons_self, hk.1⟩
  · exact .inr ⟨p, List.mem_cons_of_mem _ hp, hk⟩

theorem item (ha : m.read l = some (.address a)) (hi : i < lengths length)
    (hk : m.Footprint lengths rest (.inBlock a i) k) :
    m.Footprint lengths (.arrayPointer isConst length :: rest) l k := by
  unfold Footprint
  rw [owned_arrayPointer isConst length ha]
  rcases hk with hk | ⟨p, hp, hk⟩
  · exact .inr ⟨_, List.mem_cons_self, hk.1⟩
  · exact .inr ⟨p, List.mem_cons_of_mem _ (mem_ownedItems.mpr ⟨i, hi, hp⟩), hk⟩

end Footprint

section Congruence
variable {m m' : Memory α} {lengths : String → Nat}

/-- A tree and the blocks it owns depend on its footprint only. -/
theorem owned_congr (levels : List Level) {l : Cell}
    (h : ∀ k, m.Footprint lengths levels l k → m'.read k = m.read k) :
    m'.owned lengths levels l = m.owned lengths levels l := by
  induction levels generalizing l with
  | nil => rfl
  | cons level rest ih =>
    have hl := h l (Or.inl (.refl l))
    cases level with
    | dimension capacity length =>
      simp only [owned]
      apply List.flatMap_congr
      intro i hi
      apply ih
      intro k hk
      exact h k (hk.entry (List.mem_range.mp hi))
    | pointer isConst =>
      simp only [owned, hl]
      split
      · rename_i a ha
        congr 1
        apply ih
        intro k hk
        exact h k (hk.pointee ha)
      · rfl
    | arrayPointer isConst length =>
      simp only [owned, hl]
      split
      · rename_i a ha
        congr 1
        apply List.flatMap_congr
        intro i hi
        apply ih
        intro k hk
        exact h k (hk.item ha (List.mem_range.mp hi))
      · rfl

theorem Holds.congr {levels : List Level} {l : Cell} {tree : ValueTree α}
    (hc : m.Holds lengths levels l tree)
    (h : ∀ k, m.Footprint lengths levels l k → m'.read k = m.read k) :
    m'.Holds lengths levels l tree := by
  induction levels generalizing l tree with
  | nil =>
    cases tree with
    | plain a => exact (h l (Or.inl (.refl l))).trans hc
    | _ => exact hc.elim
  | cons level rest ih =>
    have hl := h l (Or.inl (.refl l))
    cases level with
    | dimension capacity length =>
      cases tree with
      | entries trees =>
        obtain ⟨hr, hn, ht⟩ := hc
        refine ⟨hl.trans hr, hn, fun i hi => ?_⟩
        exact ih (ht i hi) fun k hk => h k (hk.entry (hn ▸ hi))
      | _ => exact hc.elim
    | pointer isConst =>
      cases tree with
      | pointee tree =>
        obtain ⟨a, ha, ht⟩ := hc
        exact ⟨a, hl.trans ha, ih ht fun k hk => h k (hk.pointee ha)⟩
      | _ => exact hc.elim
    | arrayPointer isConst length =>
      cases tree with
      | items trees =>
        obtain ⟨a, ha, hn, ht⟩ := hc
        refine ⟨a, hl.trans ha, hn, fun i hi => ?_⟩
        exact ih (ht i hi) fun k hk => h k (hk.item ha (hn ▸ hi))
      | _ => exact hc.elim

theorem HasRoom.congr {levels : List Level} {l : Cell} (hr : m.HasRoom lengths levels l)
    (h : ∀ k : Cell, k.Within l → m'.read k = m.read k) : m'.HasRoom lengths levels l := by
  induction levels generalizing l with
  | nil => exact (congrArg Option.isSome (h l (.refl l))).trans hr
  | cons level rest ih =>
    cases level with
    | dimension capacity length =>
      refine ⟨(h l (.refl l)).trans hr.1, fun i hi => ih (hr.2 i hi) fun k hk => h k hk.of_entry⟩
    | pointer isConst | arrayPointer isConst length =>
      exact (congrArg Option.isSome (h l (.refl l))).trans hr

end Congruence

theorem Holds.known {m : Memory α} {lengths : String → Nat} {levels : List Level}
    {l : Cell} {tree : ValueTree α} (h : m.Holds lengths levels l tree)
    (hp : ∀ level ∈ levels, level.isPointer) : l.Known m.size := by
  cases levels with
  | nil =>
    cases tree with
    | plain a => exact known_of_read h
    | _ => exact h.elim
  | cons level rest =>
    cases level with
    | dimension capacity length => exact absurd (hp _ List.mem_cons_self) (by simp [Level.isPointer])
    | pointer isConst =>
      cases tree with
      | pointee tree => exact known_of_read h.choose_spec.1
      | _ => exact h.elim
    | arrayPointer isConst length =>
      cases tree with
      | items trees => exact known_of_read h.choose_spec.1
      | _ => exact h.elim

end Memory

end ClassScaffold
