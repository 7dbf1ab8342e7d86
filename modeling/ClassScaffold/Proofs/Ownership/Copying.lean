import ClassScaffold.Proofs.Ownership.Execution
import ClassScaffold.Proofs.Ownership.Levels
import ClassScaffold.Proofs.Ownership.Ownership

/-! Running a deep copy: it fills its target with the tree of its source, in blocks of its own. -/
namespace ClassScaffold

namespace Memory
variable {α : Type}

/-- Another memory agrees with this one but for some cells, and has new blocks at most. -/
structure Keeps (m : Memory α) (changing : Cell → Prop) (m' : Memory α) : Prop where
  read : ∀ k : Cell, k.Known m.size → ¬ changing k → m'.read k = m.read k
  kind : ∀ a, a < m.size → m'.kind? a = m.kind? a
  size : m.size ≤ m'.size
  freed : m'.freed = m.freed

variable {changing changing' : Cell → Prop}

theorem Keeps.refl (m : Memory α) (changing : Cell → Prop) : m.Keeps changing m :=
  ⟨fun _ _ _ => rfl, fun _ _ => rfl, Nat.le_refl _, rfl⟩

theorem Keeps.mono {m m' : Memory α} (h : m.Keeps changing m')
    (hc : ∀ k, changing k → changing' k) : m.Keeps changing' m' :=
  ⟨fun k hk hn => h.read k hk fun hw => hn (hc k hw), h.kind, h.size, h.freed⟩

/-- What is changed later may change from the start, or lies in blocks that were not there. -/
theorem Keeps.trans {m₁ m₂ m₃ : Memory α} (h : m₁.Keeps changing m₂) (h' : m₂.Keeps changing' m₃)
    (hc : ∀ k : Cell, k.Known m₁.size → changing' k → changing k) : m₁.Keeps changing m₃ where
  read k hk hn := (h'.read k (hk.mono h.size) fun hw => hn (hc k hk hw)).trans (h.read k hk hn)
  kind a ha := (h'.kind a (Nat.lt_of_lt_of_le ha h.size)).trans (h.kind a ha)
  size := Nat.le_trans h.size h'.size
  freed := h'.freed.trans h.freed

theorem keeps_put (m : Memory α) (l : Cell) (c : Content α) :
    m.Keeps (·.Within l) (m.put l c) where
  read k _ hn := read_put_of_ne (by rintro rfl; exact hn (.refl k)) c
  kind a _ := kind?_put m l c a
  size := Nat.le_of_eq (size_put m l c).symm
  freed := freed_put m l c

theorem keeps_allocate (m : Memory α) (changing : Cell → Prop) (isArray : Bool) (n : Nat) :
    m.Keeps changing (m.allocate isArray n) where
  read k hk _ := read_allocate_of_ne fun hr => Nat.lt_irrefl _ (hk _ hr)
  kind a ha := by rw [kind?_allocate, if_neg (Nat.ne_of_lt ha)]
  size := by simp
  freed := rfl

theorem keeps_grow (m : Memory α) (l : Cell) (isArray : Bool) (n : Nat) :
    m.Keeps (·.Within l) (m.grow l isArray n) :=
  (m.keeps_allocate _ isArray n).trans (keeps_put _ l _) fun _ _ h => h

/-- A place that leads to a cell, whatever is done to the changing cells and in new blocks. -/
def Leads (m : Memory α) (v : Variables) (p : Place) (changing : Cell → Prop) (l : Cell) : Prop :=
  ∀ m', m.Keeps changing m' → m'.locate v p = some l

section Leads
variable {m m' : Memory α} {v : Variables} {p : Place} {l : Cell}

theorem Leads.store (h : m.Leads v p (·.Within l) l) (hr : (m.read l).isSome) (c : Content α) :
    m.store v p c = some (m.put l c) := by
  simp [Memory.store, h m (.refl m _), write, hr]

private theorem region_ne_new (hk : l.Known m.size) : l.region ≠ .block m.size :=
  fun he => Nat.lt_irrefl _ (hk _ he)

theorem Leads.allocateAt (h : m.Leads v p (·.Within l) l) (hr : (m.read l).isSome)
    (hk : l.Known m.size) (isArray : Bool) (n : Nat) :
    m.allocateAt v p isArray n = some (m.grow l isArray n) := by
  have hw : ((m.allocate isArray n).read l).isSome := by
    rwa [read_allocate_of_ne (region_ne_new hk)]
  simp [Memory.allocateAt, Memory.store, h _ (m.keeps_allocate _ isArray n), write, hw, grow]

theorem read_grow_self (hr : (m.read l).isSome) (hk : l.Known m.size) (isArray : Bool) (n : Nat) :
    (m.grow l isArray n).read l = some (.address m.size) := by
  rw [grow, read_put_self]
  rwa [read_allocate_of_ne (region_ne_new hk)]

theorem read_grow_new (hk : l.Known m.size) (isArray : Bool) {i n : Nat} (hi : i < n) :
    (m.grow l isArray n).read (.inBlock m.size i) = some .empty := by
  rw [grow, read_put_of_ne, read_allocate_new hi]
  rintro rfl
  exact Nat.lt_irrefl _ (hk m.size rfl)

/-- As long as only the new block changes, its address stays where it was left. -/
theorem Leads.grow (h : m.Leads v p (·.Within l) l) (hr : (m.read l).isSome) (hk : l.Known m.size)
    {isArray : Bool} {n : Nat} (hm : (m.grow l isArray n).Keeps changing m')
    (hc : ∀ k, changing k → k.region = .block m.size) :
    m'.locate v p = some l ∧ m'.read l = some (.address m.size) := by
  have hn (k : Cell) (hk : k.Known m.size) : ¬ changing k := fun h => region_ne_new hk (hc k h)
  refine ⟨h m' ((m.keeps_grow l isArray n).trans hm fun k hk hw => absurd hw (hn k hk)), ?_⟩
  rw [hm.read l (hk.mono (by simp)) (hn l hk), read_grow_self hr hk]

end Leads

/-- A copy of a tree was made into a cell: it lies in the cell and in new blocks, which are all the
blocks that were taken meanwhile. -/
structure Copied (m : Memory α) (lengths : String → Nat) (levels : List Level) (l : Cell)
    (tree : ValueTree α) (m' : Memory α) : Prop extends m.Keeps (·.Within l) m' where
  holds : m'.Holds lengths levels l tree
  owned : (m'.owned lengths levels l).map Prod.fst = List.range' m.size (m'.size - m.size)
  kinds : ∀ p ∈ m'.owned lengths levels l, m'.kind? p.1 = some p.2

/-- The same for the first `count` elements of an array, each in its cell. -/
structure CopiedItems (m : Memory α) (lengths : String → Nat) (levels : List Level)
    (item : Nat → Cell) (trees : List (ValueTree α)) (count : Nat) (m' : Memory α) : Prop
    extends m.Keeps (fun k => ∃ j < count, k.Within (item j)) m' where
  holds : ∀ j (h : j < trees.length), j < count → m'.Holds lengths levels (item j) trees[j]
  owned : (m'.ownedItems lengths levels item count).map Prod.fst =
    List.range' m.size (m'.size - m.size)
  kinds : ∀ p ∈ m'.ownedItems lengths levels item count, m'.kind? p.1 = some p.2

section Items
variable {m m₁ m₂ : Memory α} {lengths : String → Nat} {levels : List Level} {item : Nat → Cell}
  {trees : List (ValueTree α)} {i : Nat}

private theorem copiedItems_zero : m.CopiedItems lengths levels item trees 0 m where
  toKeeps := .refl m _
  holds _ _ hj := absurd hj (Nat.not_lt_zero _)
  owned := by simp [ownedItems]
  kinds _ hp := by simp [ownedItems] at hp

/-- A later element is copied elsewhere than an earlier one lies. -/
private theorem CopiedItems.footprint (h : m.CopiedItems lengths levels item trees i m₁)
    (hc : m₁.Keeps (·.Within (item i)) m₂) (hk : ∀ j ≤ i, (item j).Known m.size)
    (ha : ∀ j < i, ∀ k : Cell, k.Within (item j) → ¬ k.Within (item i)) {j : Nat} (hj : j < i)
    {k : Cell} (hf : m₁.Footprint lengths levels (item j) k) : m₂.read k = m₁.read k := by
  rcases hf with hw | ⟨p, hp, hr⟩
  · exact hc.read k (((hk j (Nat.le_of_lt hj)).of_within hw).mono h.size) (ha j hj k hw)
  · have hm : p.1 ∈ List.range' m.size (m₁.size - m.size) := by
      rw [← h.owned]
      exact List.mem_map_of_mem (mem_ownedItems.mpr ⟨j, hj, hp⟩)
    obtain ⟨hlo, hhi⟩ := List.mem_range'_1.mp hm
    refine hc.read k (fun a hka => ?_) fun hw => ?_
    · rw [hr] at hka
      cases hka
      omega
    · have := hk i (Nat.le_refl _) p.1 (hw.1 ▸ hr)
      omega

private theorem CopiedItems.succ (h : m.CopiedItems lengths levels item trees i m₁)
    (hi : i < trees.length) (hc : m₁.Copied lengths levels (item i) trees[i] m₂)
    (hk : ∀ j ≤ i, (item j).Known m.size)
    (ha : ∀ j < i, ∀ k : Cell, k.Within (item j) → ¬ k.Within (item i)) :
    m.CopiedItems lengths levels item trees (i + 1) m₂ := by
  have hfoot := fun (j : Nat) (hj : j < i) (k : Cell)
    (hf : m₁.Footprint lengths levels (item j) k) => h.footprint hc.toKeeps hk ha hj hf
  have howned : m₂.ownedItems lengths levels item i = m₁.ownedItems lengths levels item i :=
    List.flatMap_congr fun j hj => owned_congr levels (hfoot j (List.mem_range.mp hj))
  have hs₁ := h.size
  have hs₂ := hc.size
  have hkeeps : m.Keeps (fun k => ∃ j < i + 1, k.Within (item j)) m₁ :=
    h.toKeeps.mono fun k ⟨j, hj, hw⟩ => ⟨j, Nat.lt_succ_of_lt hj, hw⟩
  exact {
    toKeeps := hkeeps.trans hc.toKeeps fun k _ hw => ⟨i, Nat.lt_succ_self i, hw⟩
    holds := by
      intro j hj hlt
      rcases Nat.lt_succ_iff_lt_or_eq.mp hlt with hji | rfl
      · exact (h.holds j hj hji).congr (hfoot j hji)
      · exact hc.holds
    owned := by
      obtain ⟨d, hd⟩ : ∃ d, m₁.size = m.size + d := ⟨_, (Nat.add_sub_of_le hs₁).symm⟩
      obtain ⟨e, he⟩ : ∃ e, m₂.size = m₁.size + e := ⟨_, (Nat.add_sub_of_le hs₂).symm⟩
      rw [ownedItems_succ, List.map_append, howned, h.owned, hc.owned, he, hd,
        Nat.add_sub_cancel_left, Nat.add_sub_cancel_left, Nat.add_assoc, Nat.add_sub_cancel_left,
        List.range'_append_1]
    kinds := by
      intro p hp
      rw [ownedItems_succ, howned, List.mem_append] at hp
      rcases hp with hp | hp
      · have hlive := h.kinds p hp
        rw [hc.kind p.1 (lt_size_of_kind? hlive), hlive]
      · exact hc.kinds p hp }

private theorem copiedItems_foldlM {turn : Memory α → Nat → Option (Memory α)}
    (step : ∀ i m₁ (h : i < trees.length), m.CopiedItems lengths levels item trees i m₁ →
      ∃ m₂, turn m₁ i = some m₂ ∧ m₁.Copied lengths levels (item i) trees[i] m₂)
    (hk : ∀ j < trees.length, (item j).Known m.size)
    (ha : ∀ i j, i ≠ j → ∀ k : Cell, k.Within (item i) → ¬ k.Within (item j)) :
    ∃ m', (List.range trees.length).foldlM turn m = some m' ∧
      m.CopiedItems lengths levels item trees trees.length m' := by
  refine foldlM_range_of_step (m.CopiedItems lengths levels item trees) copiedItems_zero ?_
  intro i m₁ hi h
  obtain ⟨m₂, ht, hc⟩ := step i m₁ hi h
  exact ⟨m₂, ht, h.succ hi hc (fun j hj => hk j (by omega)) fun j hj => ha j i (by omega)⟩

end Items

/-- A copy can begin: the place `target` leads to a cell `l` with room, in the field `name` or in a
block that was taken since `m₀`. The place `source` leads to a cell that has been there since, with
the tree that is copied. -/
structure CanCopy (m₀ : Memory α) (name : String) (v : Variables) (levels : List Level)
    (target source : Place) (l ls : Cell) (tree : ValueTree α) (m : Memory α) : Prop where
  keeps : m₀.Keeps (·.Within (.field name)) m
  clearTarget : v.Clear levels target
  leads : m.Leads v target (·.Within l) l
  known : l.Known m.size
  inside : ∀ k : Cell, k.Known m₀.size → k.Within l → k.Within (.field name)
  room : m.HasRoom v.lengths levels l
  clearSource : v.Clear levels source
  leadsSource : m₀.Leads v source (·.Within (.field name)) ls
  knownSource : ls.Known m₀.size
  outside : ¬ ls.Within (.field name)
  holds : m₀.Holds v.lengths levels ls tree

private theorem hasRoom_of_pointers {m : Memory α} {lengths : String → Nat} {levels : List Level}
    {l : Cell} (hp : ∀ level ∈ levels, level.isPointer) (hr : (m.read l).isSome) :
    m.HasRoom lengths levels l := by
  cases levels with
  | nil => exact hr
  | cons level rest =>
    cases level with
    | dimension capacity length => exact absurd (hp _ List.mem_cons_self) (by simp [Level.isPointer])
    | pointer isConst | arrayPointer isConst length => exact hr

namespace CanCopy
variable {m₀ m m' : Memory α} {name : String} {v : Variables} {rest : List Level}
  {target source : Place} {l ls : Cell} {isConst : Bool} {capacity : UInt32} {length : String}
  {tree : ValueTree α} {trees : List (ValueTree α)} {a i : Nat}

/-- The source is still what it was. -/
theorem read_source {levels : List Level}
    (h : m₀.CanCopy name v levels target source l ls tree m) : m.read ls = m₀.read ls :=
  h.keeps.read ls h.knownSource h.outside

theorem assign {x : α} (h : m₀.CanCopy name v [] target source l ls (.plain x) m) :
    ∃ m', (Fragment.assign target source).exec v m = some m' ∧
      m.Copied v.lengths [] l (.plain x) m' := by
  have hx : m.read ls = some (.value x) := h.read_source.trans h.holds
  refine ⟨m.put l (.value x), ?_, keeps_put m l _, read_put_self h.room _, by simp [owned], by
    simp [owned]⟩
  simp [Fragment.exec, fetch, h.leadsSource m h.keeps, hx, h.leads.store h.room]

/-- A pointer gets a block before what it points to is copied. -/
theorem pointer (hp : ∀ level ∈ rest, level.isPointer)
    (h : m₀.CanCopy name v (.pointer isConst :: rest) target source l ls (.pointee tree) m)
    (ha : m₀.read ls = some (.address a)) (ht : m₀.Holds v.lengths rest (.inBlock a 0) tree) :
    m₀.CanCopy name v rest (.deref target) (.deref source) (.inBlock m.size 0) (.inBlock a 0) tree
      (m.grow l false 1) where
  keeps := h.keeps.trans (m.keeps_grow l false 1) h.inside
  clearTarget := h.clearTarget.deref
  leads m' hm := by
    obtain ⟨hl, hr⟩ := h.leads.grow h.room h.known hm fun k hk => hk.1
    simp [locate, hl, hr]
  known := Cell.known_inBlock.mpr (by simp)
  inside k hk hw := absurd (hk _ hw.1) (Nat.not_lt_of_le h.keeps.size)
  room := hasRoom_of_pointers hp (by rw [read_grow_new h.known false Nat.one_pos]; rfl)
  clearSource := h.clearSource.deref
  leadsSource m' hm := by
    simp [locate, h.leadsSource m' hm, hm.read ls h.knownSource h.outside, ha]
  knownSource := ht.known hp
  outside hw := nomatch hw.1
  holds := ht

/-- The next entry of a static array. -/
theorem entry (h : m₀.CanCopy name v (.dimension capacity length :: rest) target source l ls
      (.entries trees) m)
    (hi : i < trees.length) (hc : m.CopiedItems v.lengths rest l.entry trees i m') :
    m₀.CanCopy name (v.bind (loopIndex length) i) rest (.element target (loopIndex length))
      (.element source (loopIndex length)) (l.entry i) (ls.entry i) trees[i] m' := by
  obtain ⟨hs, hn, ht⟩ := h.holds
  have hkeeps : m.Keeps (·.Within l) m' :=
    hc.toKeeps.mono fun k ⟨j, _, hw⟩ => hw.of_entry
  have hread {k : Cell} (hk : k.Known m.size) (hn : ∀ j < i, ¬ k.Within (l.entry j)) :
      m'.read k = m.read k := hc.read k hk fun ⟨j, hj, hw⟩ => hn j hj hw
  have hl : m'.read l = none :=
    (hread h.known fun j _ => Cell.not_within_entry l j).trans h.room.1
  exact {
    keeps := h.keeps.trans hkeeps h.inside
    clearTarget := h.clearTarget.element rfl i
    leads := by
      intro m₂ hm
      have hm₂ := h.leads m₂ (hkeeps.trans hm fun k _ hw => hw.of_entry)
      have hr := hm.read l (h.known.mono hc.size) (Cell.not_within_entry l i)
      simp [locate, locate_bind (h.clearTarget.index rfl), hm₂, element, hr, hl]
    known := h.known.mono hc.size
    inside := fun k hk hw => h.inside k hk hw.of_entry
    room := by
      apply (h.room.2 i (hn ▸ hi)).congr
      intro k hk
      apply hread (h.known.of_within hk.of_entry)
      intro j hj hw
      exact Cell.entries_apart (Nat.ne_of_lt hj) hw hk
    clearSource := h.clearSource.element rfl i
    leadsSource := by
      intro m₂ hm
      have hr := hm.read ls h.knownSource h.outside
      simp [locate, locate_bind (h.clearSource.index rfl), h.leadsSource m₂ hm, element, hr, hs]
    knownSource := h.knownSource
    outside := fun hw => h.outside ⟨hw.1, List.nil_prefix⟩
    holds := ht i hi }

/-- The next element of an array that a pointer leads to. -/
theorem item (hp : ∀ level ∈ rest, level.isPointer)
    (h : m₀.CanCopy name v (.arrayPointer isConst length :: rest) target source l ls
      (.items trees) m)
    (ha : m₀.read ls = some (.address a)) (hi : i < trees.length)
    (ht : m₀.Holds v.lengths rest (.inBlock a i) trees[i])
    (hc : (m.grow l true trees.length).CopiedItems v.lengths rest (.inBlock m.size) trees i m') :
    m₀.CanCopy name (v.bind (loopIndex length) i) rest (.element target (loopIndex length))
      (.element source (loopIndex length)) (.inBlock m.size i) (.inBlock a i) trees[i] m' := by
  have hblock : (m.grow l true trees.length).Keeps (·.region = .block m.size) m' :=
    hc.toKeeps.mono fun k ⟨j, _, hw⟩ => hw.1
  have hkeeps : m.Keeps (·.Within l) m' := (m.keeps_grow l true trees.length).trans hblock
    fun k hk hr => absurd (hk _ hr) (Nat.lt_irrefl _)
  have hsize : m.size < m'.size := Nat.lt_of_lt_of_le (by simp) hc.size
  exact {
    keeps := h.keeps.trans hkeeps h.inside
    clearTarget := h.clearTarget.element rfl i
    leads := by
      intro m₂ hm
      have hblock₂ := hblock.trans hm fun k _ hw => hw.1
      obtain ⟨hl, hr⟩ := h.leads.grow h.room h.known hblock₂ fun k hk => hk
      simp [locate, locate_bind (h.clearTarget.index rfl), hl, element, hr]
    known := Cell.known_inBlock.mpr hsize
    inside := fun k hk hw => absurd (hk _ hw.1) (Nat.not_lt_of_le h.keeps.size)
    room := by
      apply hasRoom_of_pointers hp
      have hnew : (Cell.inBlock m.size i).Known (m.grow l true trees.length).size :=
        Cell.known_inBlock.mpr (by simp)
      rw [hc.read _ hnew, read_grow_new h.known true hi]
      · rfl
      · rintro ⟨j, hj, hw⟩
        exact Cell.cells_apart (Nat.ne_of_lt hj) hw (.refl _)
    clearSource := h.clearSource.element rfl i
    leadsSource := by
      intro m₂ hm
      have hr := (hm.read ls h.knownSource h.outside).trans ha
      simp [locate, locate_bind (h.clearSource.index rfl), h.leadsSource m₂ hm, element, hr]
    knownSource := ht.known hp
    outside := fun hw => nomatch hw.1
    holds := ht }

end CanCopy

/-- A new block is owned together with what was copied into it. -/
private theorem owned_of_grow {m m' : Memory α} {l : Cell} {isArray : Bool} {n : Nat}
    {inner : List (Nat × Bool)} (hm : (m.grow l isArray n).Keeps changing m')
    (ho : inner.map Prod.fst = List.range' (m.size + 1) (m'.size - (m.size + 1)))
    (hk : ∀ p ∈ inner, m'.kind? p.1 = some p.2) :
    ((m.size, isArray) :: inner).map Prod.fst = List.range' m.size (m'.size - m.size) ∧
      ∀ p ∈ (m.size, isArray) :: inner, m'.kind? p.1 = some p.2 := by
  have hs : m.size + 1 ≤ m'.size := by simpa using hm.size
  constructor
  · obtain ⟨d, hd⟩ : ∃ d, m'.size = m.size + 1 + d := ⟨_, (Nat.add_sub_of_le hs).symm⟩
    rw [List.map_cons, ho, hd, Nat.add_sub_cancel_left, Nat.add_assoc, Nat.add_sub_cancel_left,
      Nat.add_comm 1 d, List.range'_succ]
  · intro p hp
    rcases List.mem_cons.mp hp with rfl | hp
    · rw [hm.kind m.size (by simp)]
      simp
    · exact hk p hp

/-- A copy that can begin runs to its end and leaves the same tree in new blocks. -/
theorem CanCopy.run {m₀ m : Memory α} {name : String} {v : Variables} {levels : List Level}
    {target source : Place} {l ls : Cell} {tree : ValueTree α} (hd : DimensionsFirst levels)
    (h : m₀.CanCopy name v levels target source l ls tree m) (base : String) :
    ∃ m', Fragment.execAll v m (copySteps target source base levels) = some m' ∧
      m.Copied v.lengths levels l tree m' := by
  -- on the levels, for every memory that the copy may have made so far
  induction levels generalizing v target source l ls tree m with
  | nil =>
    cases tree with
    | plain x =>
      simp only [copySteps, Fragment.execAll_singleton]
      exact h.assign
    | _ => exact h.holds.elim
  | cons level rest ih =>
    cases level with
    | dimension capacity length =>
      cases tree with
      | entries trees =>
        have hn := h.holds.2.1
        have step (i : Nat) (m₁ : Memory α) (hi : i < trees.length)
            (hc : m.CopiedItems v.lengths rest l.entry trees i m₁) :=
          ih (v := v.bind (loopIndex length) i) hd (h.entry hi hc)
        obtain ⟨m', hm, hc⟩ := copiedItems_foldlM step (fun j _ => h.known)
          fun i j hij k => Cell.entries_apart hij
        refine ⟨m', ?_, hc.toKeeps.mono ?_, ⟨?_, hn, fun i hi => hc.holds i hi hi⟩, ?_, ?_⟩
        · simpa only [copySteps, Fragment.execAll_singleton, Fragment.exec,
            h.clearTarget.number rfl, ← hn] using hm
        · rintro k ⟨j, _, hw⟩
          exact hw.of_entry
        · rw [hc.read l h.known (by rintro ⟨j, _, hw⟩; exact Cell.not_within_entry l j hw)]
          exact h.room.1
        · rw [owned_dimension, ← hn]
          exact hc.owned
        · rw [owned_dimension, ← hn]
          exact hc.kinds
      | _ => exact h.holds.elim
    | pointer isConst =>
      cases tree with
      | pointee tree =>
        obtain ⟨a, ha, ht⟩ := h.holds
        obtain ⟨m', hm, hc⟩ := ih (dimensionsFirst_of_pointers hd) (h.pointer hd ha ht)
        obtain ⟨-, hr⟩ := h.leads.grow h.room h.known hc.toKeeps fun k hw => hw.1
        obtain ⟨ho, hk⟩ := owned_of_grow hc.toKeeps (by simpa using hc.owned) hc.kinds
        refine ⟨m', ?_, (m.keeps_grow l false 1).trans hc.toKeeps fun k hk hw => ?_,
          ⟨m.size, hr, hc.holds⟩, ?_, ?_⟩
        · simpa [copySteps, Fragment.execAll, Fragment.exec, h.leads.allocateAt h.room h.known]
        · exact absurd (hk _ hw.1) (Nat.lt_irrefl _)
        · rw [owned_pointer isConst hr]
          exact ho
        · rw [owned_pointer isConst hr]
          exact hk
      | _ => exact h.holds.elim
    | arrayPointer isConst length =>
      cases tree with
      | items trees =>
        obtain ⟨a, ha, hn, ht⟩ := h.holds
        have step (i : Nat) (m₁ : Memory α) (hi : i < trees.length)
            (hc : (m.grow l true trees.length).CopiedItems v.lengths rest (.inBlock m.size) trees i
              m₁) :=
          ih (v := v.bind (loopIndex length) i) (dimensionsFirst_of_pointers hd)
            (h.item hd ha hi (ht i hi) hc)
        obtain ⟨m', hm, hc⟩ := copiedItems_foldlM step
          (fun j _ => Cell.known_inBlock.mpr (by simp)) fun i j hij k => Cell.cells_apart hij
        obtain ⟨-, hr⟩ := h.leads.grow h.room h.known hc.toKeeps (by rintro k ⟨j, _, hw⟩; exact hw.1)
        obtain ⟨ho, hk⟩ := owned_of_grow hc.toKeeps (by simpa using hc.owned) hc.kinds
        refine ⟨m', ?_, (m.keeps_grow l true trees.length).trans hc.toKeeps fun k hk hw => ?_,
          ⟨m.size, hr, hn, fun i hi => hc.holds i hi hi⟩, ?_, ?_⟩
        · simpa [copySteps, Fragment.exec, h.clearTarget.number rfl, ← hn,
            h.leads.allocateAt h.room h.known] using hm
        · obtain ⟨j, _, hw⟩ := hw
          exact absurd (hk _ hw.1) (Nat.lt_irrefl _)
        · rw [owned_arrayPointer isConst length hr, ← hn]
          exact ho
        · rw [owned_arrayPointer isConst length hr, ← hn]
          exact hk
      | _ => exact h.holds.elim

end Memory

end ClassScaffold
