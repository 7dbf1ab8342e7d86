import ClassScaffold.Ownership.Synthesis
import ClassScaffold.Proofs.Ownership.Memory

/-! What fragments do to a memory. Places are followed through the pointers in it; touching a cell
that is not there and giving back a dead block are errors. -/
namespace ClassScaffold

/-- The values of the length fields and of the index variables in scope, the innermost first. -/
structure Variables where
  lengths : String → Nat
  locals : List (String × Nat) := []

namespace Variables

def bind (v : Variables) (index : String) (i : Nat) : Variables :=
  { v with locals := (index, i) :: v.locals }

/-- The number a name stands for. An index variable hides a length field of its name. -/
def number (v : Variables) (name : String) : Nat :=
  (v.locals.lookup name).getD (v.lengths name)

/-- Whether an index variable hides a field of that name. Fields of other objects are named with a
dot and never hidden. -/
def hides (v : Variables) (name : String) : Bool :=
  !name.toList.contains '.' && (v.locals.lookup name).isSome

end Variables

namespace Memory
variable {α : Type}

/-- The cell with a subscript: inside the block whose address is there, or in the static array. -/
def element (m : Memory α) (l : Cell) (i : Nat) : Option Cell :=
  match m.read l with
  | some (.address a) => some (.inBlock a i)
  | some _ => none
  | none => some (l.entry i)

def locate (m : Memory α) (v : Variables) : Place → Option Cell
  | .named name => if v.hides name then none else some (.field name)
  | .deref p => do
    match m.read (← m.locate v p) with
    | some (.address a) => some (.inBlock a 0)
    | _ => none
  | .element p index => do m.element (← m.locate v p) (v.number index)

def fetch (m : Memory α) (v : Variables) (p : Place) : Option (Content α) := do
  match ← m.read (← m.locate v p) with
  | .empty => none
  | c => some c

def store (m : Memory α) (v : Variables) (p : Place) (c : Content α) : Option (Memory α) := do
  m.write (← m.locate v p) c

/-- Takes a block and leaves its address at a place. -/
def allocateAt (m : Memory α) (v : Variables) (p : Place) (isArray : Bool) (n : Nat) :
    Option (Memory α) :=
  (m.allocate isArray n).store v p (.address m.size)

/-- Gives back the block whose address is at a place. -/
def freeAt (m : Memory α) (v : Variables) (p : Place) (isArray : Bool) : Option (Memory α) := do
  match ← m.fetch v p with
  | .address a => m.free a isArray
  | _ => none

end Memory

namespace Fragment
variable {α : Type}

mutual

/-- Runs a fragment, unless it does what is an error. -/
def exec (v : Variables) (m : Memory α) : Fragment → Option (Memory α)
  | .assign target source => do m.store v target (← m.fetch v source)
  | .allocate pointer _ => m.allocateAt v pointer false 1
  | .allocateThenIterate pointer _ index length body => do
    let m ← m.allocateAt v pointer true (v.number length)
    (List.range (v.number length)).foldlM (fun m i => execAll (v.bind index i) m body) m
  | .iterate index length body =>
    (List.range (v.number length)).foldlM (fun m i => execAll (v.bind index i) m body) m
  | .iterateThenDelete pointer index length body => do
    let m ← (List.range (v.number length)).foldlM (fun m i => execAll (v.bind index i) m body) m
    m.freeAt v pointer true
  | .delete pointer isArray => m.freeAt v pointer isArray

def execAll (v : Variables) (m : Memory α) : List Fragment → Option (Memory α)
  | [] => some m
  | f :: rest => do execAll v (← f.exec v m) rest

end

theorem execAll_append (v : Variables) (m : Memory α) (fs gs : List Fragment) :
    execAll v m (fs ++ gs) = (execAll v m fs).bind (execAll v · gs) := by
  induction fs generalizing m with
  | nil => rfl
  | cons f rest ih =>
    cases hf : f.exec v m with
    | none => simp [execAll, hf]
    | some next => simp [execAll, hf, ih]

@[simp] theorem execAll_singleton (v : Variables) (m : Memory α) (f : Fragment) :
    execAll v m [f] = f.exec v m := by
  simp [execAll]

end Fragment

namespace Place

/-- The variables that decide where a place lies: its root, unless that belongs to another object,
and its subscripts. -/
def mentions : Place → List String
  | .named name => if name.toList.contains '.' then [] else [name]
  | .deref p => p.mentions
  | .element p index => index :: p.mentions

end Place

namespace Variables

@[simp] theorem number_bind_self (v : Variables) (index : String) (i : Nat) :
    (v.bind index i).number index = i := by
  simp [number, bind]

theorem lookup_bind_of_ne {v : Variables} {index name : String} (h : name ≠ index) (i : Nat) :
    (v.bind index i).locals.lookup name = v.locals.lookup name := by
  have hb : (name == index) = false := beq_false_of_ne h
  simp [bind, List.lookup_cons, hb]

theorem number_bind_of_ne {v : Variables} {index name : String} (h : name ≠ index) (i : Nat) :
    (v.bind index i).number name = v.number name := by
  rw [number, lookup_bind_of_ne h]
  rfl

end Variables

def lengthFieldsOf (levels : List Level) : List String :=
  levels.filterMap Level.lengthField?

/-- The index variables that loops over the levels still have to take are free: no variable in scope
or to come hides a length, another index or a variable of the place. -/
structure Variables.Clear (v : Variables) (levels : List Level) (p : Place) : Prop where
  lengths : ∀ f ∈ lengthFieldsOf levels, v.locals.lookup f = none
  place : ∀ f ∈ lengthFieldsOf levels, loopIndex f ∉ p.mentions
  apart : ∀ f ∈ lengthFieldsOf levels, ∀ g ∈ lengthFieldsOf levels, loopIndex f ≠ g
  nodup : ((lengthFieldsOf levels).map loopIndex).Nodup

namespace Variables.Clear
variable {v : Variables} {level : Level} {rest : List Level} {p : Place} {length : String}

private theorem tail (h : v.Clear (level :: rest) p) : v.Clear rest p := by
  have hs : lengthFieldsOf rest <:+ lengthFieldsOf (level :: rest) := by
    unfold lengthFieldsOf
    rw [List.filterMap_cons]
    split
    · exact List.suffix_rfl
    · exact List.suffix_cons _ _
  exact ⟨fun f hf => h.lengths f (hs.subset hf), fun f hf => h.place f (hs.subset hf),
    fun f hf g hg => h.apart f (hs.subset hf) g (hs.subset hg),
    h.nodup.sublist (hs.sublist.map _)⟩

theorem deref (h : v.Clear (level :: rest) p) : v.Clear rest (.deref p) :=
  ⟨h.tail.lengths, h.tail.place, h.tail.apart, h.tail.nodup⟩

private theorem lengthFieldsOf_cons (hl : level.lengthField? = some length) :
    lengthFieldsOf (level :: rest) = length :: lengthFieldsOf rest := by
  simp [lengthFieldsOf, hl]

theorem number (h : v.Clear (level :: rest) p) (hl : level.lengthField? = some length) :
    v.number length = v.lengths length := by
  have hn := h.lengths length (by rw [lengthFieldsOf_cons hl]; exact List.mem_cons_self)
  rw [Variables.number, hn]
  rfl

theorem index (h : v.Clear (level :: rest) p) (hl : level.lengthField? = some length) :
    loopIndex length ∉ p.mentions :=
  h.place length (by rw [lengthFieldsOf_cons hl]; exact List.mem_cons_self)

/-- One level further, inside the loop over an array. -/
theorem element (h : v.Clear (level :: rest) p) (hl : level.lengthField? = some length) (i : Nat) :
    (v.bind (loopIndex length) i).Clear rest (.element p (loopIndex length)) := by
  have ha := h.apart
  have hn := h.nodup
  rw [lengthFieldsOf_cons hl] at ha hn
  refine ⟨fun f hf => ?_, fun f hf hm => ?_, h.tail.apart, h.tail.nodup⟩
  · rw [Variables.lookup_bind_of_ne]
    · exact h.tail.lengths f hf
    · exact (ha length List.mem_cons_self f (List.mem_cons_of_mem _ hf)).symm
  · rcases List.mem_cons.mp hm with he | hm
    · exact (List.nodup_cons.mp hn).1 (he ▸ List.mem_map_of_mem hf)
    · exact h.tail.place f hf hm

end Variables.Clear

namespace Memory
variable {α : Type}

/-- A new index variable moves no place that does not mention it. -/
theorem locate_bind {m : Memory α} {v : Variables} {index : String} {p : Place}
    (h : index ∉ p.mentions) (i : Nat) : m.locate (v.bind index i) p = m.locate v p := by
  induction p with
  | named name =>
    have hh : (v.bind index i).hides name = v.hides name := by
      unfold Variables.hides
      cases hd : name.toList.contains '.' with
      | true => rfl
      | false =>
        have hn : name ≠ index := by
          rintro rfl
          rw [Place.mentions, hd] at h
          exact h List.mem_cons_self
        rw [Variables.lookup_bind_of_ne hn]
    simp only [locate, hh]
  | deref p ih =>
    simp only [locate, ih h]
  | element p j ih =>
    have hj : j ≠ index := fun he => h (he ▸ List.mem_cons_self)
    have hp : index ∉ p.mentions := fun hm => h (List.mem_cons_of_mem _ hm)
    simp only [locate, ih hp, Variables.number_bind_of_ne hj]

/-- Going through a number of turns, with what each turn keeps. -/
theorem foldlM_range_of_step {n : Nat} {m : Memory α} {turn : Memory α → Nat → Option (Memory α)}
    (inv : Nat → Memory α → Prop) (start : inv 0 m)
    (step : ∀ i m₁, i < n → inv i m₁ → ∃ m₂, turn m₁ i = some m₂ ∧ inv (i + 1) m₂) :
    ∃ m', (List.range n).foldlM turn m = some m' ∧ inv n m' := by
  induction n with
  | zero => exact ⟨m, rfl, start⟩
  | succ n ih =>
    obtain ⟨m₁, h₁, hi⟩ := ih fun i m₁ hn => step i m₁ (Nat.lt_succ_of_lt hn)
    obtain ⟨m₂, h₂, hs⟩ := step n m₁ (Nat.lt_succ_self n) hi
    refine ⟨m₂, ?_, hs⟩
    rw [List.range_succ, List.foldlM_append, h₁]
    simp [h₂]

end Memory

end ClassScaffold
