import Mathlib.Data.List.Nodup

/-! A memory of cells: the fields of objects, and blocks that are taken and given back. -/
namespace ClassScaffold

/-- What a cell holds: nothing yet, a plain value, or the address of a block. -/
inductive Content (α : Type) where
  | empty
  | value (a : α)
  | address (block : Nat)

/-- Memory that was taken at once: one cell, or those of an array. -/
structure Block (α : Type) where
  isArray : Bool
  cells : List (Content α)

inductive Region where
  | field (name : String)
  | block (address : Nat)
  deriving DecidableEq

/-- A cell or a static array of cells, by the subscripts that lead to it inside its region. -/
structure Cell where
  region : Region
  subscripts : List Nat
  deriving DecidableEq

namespace Cell

def field (name : String) : Cell :=
  ⟨.field name, []⟩

def inBlock (address i : Nat) : Cell :=
  ⟨.block address, [i]⟩

def entry (l : Cell) (i : Nat) : Cell :=
  ⟨l.region, l.subscripts ++ [i]⟩

/-- Whether a location is another one or lies in the static array there. -/
def Within (k l : Cell) : Prop :=
  k.region = l.region ∧ l.subscripts <+: k.subscripts

/-- Whether a location lies in a field or in one of the first `size` blocks. -/
def Known (size : Nat) (l : Cell) : Prop :=
  ∀ a, l.region = .block a → a < size

theorem Within.refl (l : Cell) : l.Within l :=
  ⟨rfl, List.prefix_rfl⟩

theorem Within.of_entry {k l : Cell} {i : Nat} (h : k.Within (l.entry i)) : k.Within l :=
  ⟨h.1, (List.prefix_append _ _).trans h.2⟩

theorem not_within_entry (l : Cell) (i : Nat) : ¬ l.Within (l.entry i) := by
  intro h
  have hl := h.2.length_le
  simp only [entry, List.length_append, List.length_singleton] at hl
  omega

/-- Entries of a static array do not overlap. -/
theorem entries_apart {k l : Cell} {i j : Nat} (hij : i ≠ j) (h : k.Within (l.entry i)) :
    ¬ k.Within (l.entry j) := by
  intro hj
  have hp := List.prefix_of_prefix_length_le h.2 hj.2 (by simp [entry])
  have he := hp.eq_of_length (by simp [entry])
  simp only [entry, List.append_cancel_left_eq, List.cons.injEq, and_true] at he
  exact hij he

theorem cells_apart {k : Cell} {a i j : Nat} (hij : i ≠ j) (h : k.Within (inBlock a i)) :
    ¬ k.Within (inBlock a j) := by
  intro hj
  have hp := List.prefix_of_prefix_length_le h.2 hj.2 (by simp [inBlock])
  have he := hp.eq_of_length (by simp [inBlock])
  simp only [inBlock, List.cons.injEq, and_true] at he
  exact hij he

theorem Known.mono {n n' : Nat} {l : Cell} (h : l.Known n) (hn : n ≤ n') : l.Known n' :=
  fun a ha => Nat.lt_of_lt_of_le (h a ha) hn

theorem Known.of_within {n : Nat} {k l : Cell} (h : l.Known n) (hk : k.Within l) : k.Known n :=
  fun a ha => h a (hk.1 ▸ ha)

theorem known_field (n : Nat) (name : String) : (field name).Known n :=
  fun _ ha => nomatch ha

theorem known_inBlock {n a i : Nat} : (inBlock a i).Known n ↔ a < n :=
  ⟨fun h => h a rfl, fun h b hb => by cases hb; exact h⟩

end Cell

/-- Fields have their cells from the start, one for every way through the static arrays around them.
Blocks are listed by address, and leave a gap when they are given back. -/
structure Memory (α : Type) where
  fields : String → List Nat → Option (Content α)
  blocks : List (Option (Block α))
  freed : List Nat := []

namespace Memory
variable {α : Type}

/-- The number of blocks ever taken, which is the address of the next one. -/
def size (m : Memory α) : Nat :=
  m.blocks.length

def block? (m : Memory α) (a : Nat) : Option (Block α) :=
  m.blocks[a]?.join

/-- Whether the block at an address is an array, while it lives. -/
def kind? (m : Memory α) (a : Nat) : Option Bool :=
  (m.block? a).map (·.isArray)

def Live (m : Memory α) (a : Nat) : Prop :=
  (m.kind? a).isSome

/-- What a cell holds. There is none in a dead block, beyond the end of an array, or where a
static array lies. -/
def read (m : Memory α) (l : Cell) : Option (Content α) :=
  match l.region, l.subscripts with
  | .field name, is => m.fields name is
  | .block a, [i] => (m.block? a).bind (·.cells[i]?)
  | .block _, _ => none

def put (m : Memory α) (l : Cell) (s : Content α) : Memory α :=
  match l.region, l.subscripts with
  | .field name, is =>
    { m with fields := fun n js => if n = name ∧ js = is then some s else m.fields n js }
  | .block a, [i] =>
    { m with blocks := m.blocks.modify a (Option.map fun b => { b with cells := b.cells.set i s }) }
  | .block _, _ => m

def write (m : Memory α) (l : Cell) (s : Content α) : Option (Memory α) :=
  if (m.read l).isSome then some (m.put l s) else none

def allocate (m : Memory α) (isArray : Bool) (n : Nat) : Memory α :=
  { m with blocks := m.blocks ++ [some ⟨isArray, List.replicate n .empty⟩] }

/-- Gives a living block back, as an array where it was taken as one. -/
def free (m : Memory α) (a : Nat) (isArray : Bool) : Option (Memory α) :=
  if m.kind? a = some isArray then
    some { m with blocks := m.blocks.set a none, freed := m.freed ++ [a] }
  else none

theorem lt_size_of_kind? {m : Memory α} {a : Nat} {isArray : Bool} (h : m.kind? a = some isArray) :
    a < m.size := by
  by_contra hn
  have hb : m.blocks[a]? = none := List.getElem?_eq_none (Nat.le_of_not_lt hn)
  simp [kind?, block?, hb] at h

theorem known_of_read {m : Memory α} {l : Cell} {s : Content α} (h : m.read l = some s) :
    l.Known m.size := by
  intro a ha
  by_contra hn
  have hb : m.blocks[a]? = none := List.getElem?_eq_none (Nat.le_of_not_lt hn)
  unfold read at h
  rw [ha] at h
  split at h
  · simp_all
  · simp_all [block?]
  · cases h

@[simp] theorem size_put (m : Memory α) (l : Cell) (c : Content α) : (m.put l c).size = m.size := by
  unfold put size
  split <;> simp

@[simp] theorem freed_put (m : Memory α) (l : Cell) (c : Content α) : (m.put l c).freed = m.freed := by
  unfold put
  split <;> rfl

private theorem block?_put_block (m : Memory α) (a i b : Nat) (c : Content α) :
    (m.put (.inBlock a i) c).block? b =
      if a = b then (m.block? b).map fun block => { block with cells := block.cells.set i c }
      else m.block? b := by
  simp only [put, Cell.inBlock, block?, List.getElem?_modify]
  split <;> cases m.blocks[b]? <;> rfl

@[simp] theorem kind?_put (m : Memory α) (l : Cell) (c : Content α) (a : Nat) :
    (m.put l c).kind? a = m.kind? a := by
  match l with
  | ⟨.field _, _⟩ => rfl
  | ⟨.block b, []⟩ => rfl
  | ⟨.block b, [i]⟩ =>
    have h := block?_put_block m b i a c
    simp only [kind?]
    rw [show m.put ⟨.block b, [i]⟩ c = m.put (.inBlock b i) c from rfl, h]
    split
    · simp [Option.map_map, Function.comp_def]
    · rfl
  | ⟨.block b, _ :: _ :: _⟩ => rfl

theorem read_put_self {m : Memory α} {l : Cell} (h : (m.read l).isSome) (c : Content α) :
    (m.put l c).read l = some c := by
  match l with
  | ⟨.field _, _⟩ => simp [put, read]
  | ⟨.block a, []⟩ => cases h
  | ⟨.block a, [i]⟩ =>
    have hb := block?_put_block m a i a c
    change ((m.put (.inBlock a i) c).block? a).bind (·.cells[i]?) = _
    change ((m.block? a).bind (·.cells[i]?)).isSome at h
    cases he : m.block? a with
    | none => simp [he] at h
    | some block =>
      rw [hb, if_pos rfl, he]
      simp only [he, Option.bind_some] at h
      obtain ⟨old, ho⟩ := Option.isSome_iff_exists.mp h
      obtain ⟨hi, _⟩ := List.getElem?_eq_some_iff.mp ho
      simp [hi]
  | ⟨.block a, _ :: _ :: _⟩ => cases h

theorem read_put_of_ne {m : Memory α} {k l : Cell} (h : k ≠ l) (c : Content α) :
    (m.put l c).read k = m.read k := by
  match l with
  | ⟨.field name, is⟩ =>
    match k with
    | ⟨.field name', js⟩ =>
      have hn : ¬ (name' = name ∧ js = is) := by
        rintro ⟨rfl, rfl⟩
        exact h rfl
      simp [put, read, hn]
    | ⟨.block b, []⟩ | ⟨.block b, [j]⟩ | ⟨.block b, _ :: _ :: _⟩ => rfl
  | ⟨.block a, []⟩ | ⟨.block a, _ :: _ :: _⟩ => rfl
  | ⟨.block a, [i]⟩ =>
    match k with
    | ⟨.field _, _⟩ | ⟨.block b, []⟩ | ⟨.block b, _ :: _ :: _⟩ => rfl
    | ⟨.block b, [j]⟩ =>
      have hb := block?_put_block m a i b c
      change ((m.put (.inBlock a i) c).block? b).bind (·.cells[j]?) = (m.block? b).bind (·.cells[j]?)
      rw [hb]
      split
      · rename_i hab
        have hij : i ≠ j := by
          rintro rfl
          exact h (by rw [hab])
        cases m.block? b with
        | none => rfl
        | some block => simp [List.getElem?_set_ne hij]
      · rfl

@[simp] theorem size_allocate (m : Memory α) (isArray : Bool) (n : Nat) :
    (m.allocate isArray n).size = m.size + 1 := by
  simp [allocate, size]

private theorem block?_allocate (m : Memory α) (isArray : Bool) (n a : Nat) :
    (m.allocate isArray n).block? a =
      if a = m.size then some ⟨isArray, List.replicate n .empty⟩ else m.block? a := by
  by_cases he : a = m.size
  · subst he
    simp [allocate, block?, size]
  · rw [if_neg he]
    have hn : a - m.blocks.length ≠ 0 ∨ a < m.blocks.length := by
      unfold size at he
      omega
    rcases hn with hn | hn
    · have hl : ¬ a < m.blocks.length := by omega
      simp only [allocate, block?]
      rw [List.getElem?_append_right (by omega), List.getElem?_eq_none (l := [_]) (by simp; omega),
        List.getElem?_eq_none (by omega)]
    · simp only [allocate, block?, List.getElem?_append_left hn]

@[simp] theorem kind?_allocate (m : Memory α) (isArray : Bool) (n a : Nat) :
    (m.allocate isArray n).kind? a = if a = m.size then some isArray else m.kind? a := by
  simp only [kind?, block?_allocate]
  split <;> rfl

theorem read_allocate_of_ne {m : Memory α} {isArray : Bool} {n : Nat} {k : Cell}
    (h : k.region ≠ .block m.size) : (m.allocate isArray n).read k = m.read k := by
  match k with
  | ⟨.field _, _⟩ | ⟨.block b, []⟩ | ⟨.block b, _ :: _ :: _⟩ => rfl
  | ⟨.block b, [j]⟩ =>
    change ((m.allocate isArray n).block? b).bind _ = (m.block? b).bind _
    rw [block?_allocate, if_neg fun he => h (by rw [he])]

theorem read_allocate_new {m : Memory α} {isArray : Bool} {n i : Nat} (h : i < n) :
    (m.allocate isArray n).read (.inBlock m.size i) = some .empty := by
  change ((m.allocate isArray n).block? m.size).bind (·.cells[i]?) = _
  rw [block?_allocate, if_pos rfl]
  simp [h]

/-- A block that lives can be given back. Afterwards it is dead, and all else is as before. -/
theorem free_eq_some {m : Memory α} {a : Nat} {isArray : Bool} (h : m.kind? a = some isArray) :
    ∃ m', m.free a isArray = some m' ∧ m'.size = m.size ∧ m'.freed = m.freed ++ [a] ∧
      (∀ b, m'.kind? b = if b = a then none else m.kind? b) ∧
      ∀ k, k.region ≠ .block a → m'.read k = m.read k := by
  have hb (b : Nat) : (m.blocks.set a none)[b]?.join = if b = a then none else m.block? b := by
    rw [List.getElem?_set]
    split
    · rename_i he
      subst he
      rw [if_pos rfl]
      split <;> rfl
    · rename_i he
      rw [if_neg (Ne.symm he)]
      rfl
  refine ⟨_, if_pos h, by simp [size], rfl, fun b => ?_, fun k hk => ?_⟩
  · simp only [kind?, block?, hb]
    split <;> rfl
  · match k with
    | ⟨.field _, _⟩ | ⟨.block b, []⟩ | ⟨.block b, _ :: _ :: _⟩ => rfl
    | ⟨.block b, [j]⟩ =>
      change ((m.blocks.set a none)[b]?.join).bind _ = (m.block? b).bind _
      rw [hb, if_neg fun he => hk (by rw [he])]

/-- The memory after a new block is taken and its address is left in a cell. -/
def grow (m : Memory α) (l : Cell) (isArray : Bool) (n : Nat) : Memory α :=
  (m.allocate isArray n).put l (.address m.size)

@[simp] theorem size_grow (m : Memory α) (l : Cell) (isArray : Bool) (n : Nat) :
    (m.grow l isArray n).size = m.size + 1 := by
  simp [grow]

@[simp] theorem freed_grow (m : Memory α) (l : Cell) (isArray : Bool) (n : Nat) :
    (m.grow l isArray n).freed = m.freed := by
  simp [grow, allocate]

@[simp] theorem kind?_grow (m : Memory α) (l : Cell) (isArray : Bool) (n a : Nat) :
    (m.grow l isArray n).kind? a = if a = m.size then some isArray else m.kind? a := by
  simp [grow]

end Memory

end ClassScaffold
