import ClassScaffold.Proofs.Ownership.Execution
import ClassScaffold.Proofs.Ownership.Levels
import ClassScaffold.Proofs.Ownership.Ownership

/-! Running a release: it gives back what a cell owns, block by block, and touches nothing else. -/
namespace ClassScaffold

namespace Memory
variable {α : Type}

/-- The blocks at some addresses were given back, each once, and all else is as before. -/
structure Released (m : Memory α) (addresses : List Nat) (m' : Memory α) : Prop where
  read : ∀ k : Cell, (∀ a ∈ addresses, k.region ≠ .block a) → m'.read k = m.read k
  kind : ∀ a, m'.kind? a = if a ∈ addresses then none else m.kind? a
  size : m'.size = m.size
  freed : ∃ order, order.Perm addresses ∧ m'.freed = m.freed ++ order

namespace Released
variable {m m₁ m₂ : Memory α} {as bs : List Nat} {a : Nat} {isArray : Bool}

theorem refl (m : Memory α) : m.Released [] m :=
  ⟨fun _ _ => rfl, fun _ => by simp, rfl, [], .nil, by simp⟩

theorem trans (h : m.Released as m₁) (h' : m₁.Released bs m₂) : m.Released (as ++ bs) m₂ := by
  obtain ⟨order, hp, hf⟩ := h.freed
  obtain ⟨order', hp', hf'⟩ := h'.freed
  refine ⟨fun k hk => ?_, fun a => ?_, h'.size.trans h.size, order ++ order', hp.append hp', ?_⟩
  · rw [h'.read k fun a ha => hk a (List.mem_append_right _ ha),
      h.read k fun a ha => hk a (List.mem_append_left _ ha)]
  · rw [h'.kind, h.kind]
    by_cases ha : a ∈ as <;> by_cases hb : a ∈ bs <;> simp [ha, hb]
  · rw [hf', hf, List.append_assoc]

theorem perm (h : m.Released as m₁) (hp : as.Perm bs) : m.Released bs m₁ := by
  obtain ⟨order, ho, hf⟩ := h.freed
  refine ⟨fun k hk => h.read k fun a ha => hk a (hp.mem_iff.mp ha), fun a => ?_, h.size, order,
    ho.trans hp, hf⟩
  rw [h.kind]
  simp only [hp.mem_iff]

theorem of_free (h : m.kind? a = some isArray) :
    ∃ m', m.free a isArray = some m' ∧ m.Released [a] m' := by
  obtain ⟨m', hm, hs, hf, hk, hr⟩ := free_eq_some h
  refine ⟨m', hm, fun k hne => hr k (hne a List.mem_cons_self), fun b => ?_, hs, [a], .refl _, hf⟩
  rw [hk]
  simp

end Released

/-- What a release needs: the place leads to the cell whatever happens in the blocks that the cell
owns, and these are distinct, alive, and elsewhere than the cell. -/
structure CanRelease (m : Memory α) (v : Variables) (levels : List Level) (target : Place)
    (l : Cell) (tree : ValueTree α) : Prop where
  clear : v.Clear levels target
  leads : ∀ m' : Memory α,
    (∀ k : Cell, (∀ p ∈ m.owned v.lengths levels l, k.region ≠ .block p.1) →
      m'.read k = m.read k) → m'.locate v target = some l
  holds : m.Holds v.lengths levels l tree
  kinds : ∀ p ∈ m.owned v.lengths levels l, m.kind? p.1 = some p.2
  nodup : ((m.owned v.lengths levels l).map Prod.fst).Nodup
  apart : ∀ p ∈ m.owned v.lengths levels l, l.region ≠ .block p.1

/-- The same for an array whose elements are released in turn. -/
structure CanReleaseItems (m : Memory α) (v : Variables) (levels : List Level) (target : Place)
    (length : String) (item : Nat → Cell) (trees : List (ValueTree α)) : Prop where
  clear : ∀ i, (v.bind (loopIndex length) i).Clear levels (.element target (loopIndex length))
  leads : ∀ m' : Memory α,
    (∀ k : Cell, (∀ p ∈ m.ownedItems v.lengths levels item trees.length, k.region ≠ .block p.1) →
      m'.read k = m.read k) →
    ∀ i, m'.locate (v.bind (loopIndex length) i) (.element target (loopIndex length)) =
      some (item i)
  holds : ∀ i (h : i < trees.length), m.Holds v.lengths levels (item i) trees[i]
  kinds : ∀ p ∈ m.ownedItems v.lengths levels item trees.length, m.kind? p.1 = some p.2
  nodup : ((m.ownedItems v.lengths levels item trees.length).map Prod.fst).Nodup
  apart : ∀ p ∈ m.ownedItems v.lengths levels item trees.length, ∀ i,
    (item i).region ≠ .block p.1

namespace CanReleaseItems
variable {m m₁ : Memory α} {v : Variables} {levels : List Level} {target : Place} {length : String}
  {item : Nat → Cell} {trees : List (ValueTree α)} {i j : Nat}

private theorem disjoint (h : m.CanReleaseItems v levels target length item trees)
    (hi : i < trees.length) (hj : j < i) {p q : Nat × Bool}
    (hp : p ∈ m.owned v.lengths levels (item i)) (hq : q ∈ m.owned v.lengths levels (item j)) :
    p.1 ≠ q.1 := by
  intro he
  have hn := h.nodup
  rw [ownedItems, List.map_flatMap, List.nodup_flatMap] at hn
  have hd := List.pairwise_iff_getElem.mp hn.2 j i (by simp; omega) (by simpa using hi) hj
  simp only [List.getElem_range, Function.onFun] at hd
  exact hd (List.mem_map_of_mem hq) (he ▸ List.mem_map_of_mem hp)

/-- After the elements before it were released, an element is as it was. -/
private theorem read_item (h : m.CanReleaseItems v levels target length item trees)
    (hi : i < trees.length)
    (hr : m.Released ((m.ownedItems v.lengths levels item i).map Prod.fst) m₁) {k : Cell}
    (hk : m.Footprint v.lengths levels (item i) k) : m₁.read k = m.read k := by
  refine hr.read k fun b hb => ?_
  obtain ⟨q, hq, rfl⟩ := List.mem_map.mp hb
  obtain ⟨j, hj, hq⟩ := mem_ownedItems.mp hq
  rcases hk with hw | ⟨p, hp, hk⟩
  · rw [hw.1]
    exact h.apart q (mem_ownedItems.mpr ⟨j, Nat.lt_trans hj hi, hq⟩) i
  · rw [hk]
    exact fun he => h.disjoint hi hj hp hq (Region.block.inj he)

private theorem next (h : m.CanReleaseItems v levels target length item trees)
    (hi : i < trees.length)
    (hr : m.Released ((m.ownedItems v.lengths levels item i).map Prod.fst) m₁) :
    m₁.CanRelease (v.bind (loopIndex length) i) levels (.element target (loopIndex length)) (item i)
      trees[i] := by
  have ho : m₁.owned v.lengths levels (item i) = m.owned v.lengths levels (item i) :=
    owned_congr levels fun k hk => h.read_item hi hr hk
  have hmem {p : Nat × Bool} (hp : p ∈ m₁.owned v.lengths levels (item i)) :
      p ∈ m.ownedItems v.lengths levels item trees.length :=
    mem_ownedItems.mpr ⟨i, hi, ho ▸ hp⟩
  exact {
    clear := h.clear i
    leads := by
      intro m' hm
      refine h.leads m' (fun k hk => ?_) i
      rw [hm k fun p hp => hk p (hmem hp), hr.read k]
      intro b hb
      obtain ⟨q, hq, rfl⟩ := List.mem_map.mp hb
      obtain ⟨j, hj, hq⟩ := mem_ownedItems.mp hq
      exact hk q (mem_ownedItems.mpr ⟨j, Nat.lt_trans hj hi, hq⟩)
    holds := (h.holds i hi).congr fun k hk => h.read_item hi hr hk
    kinds := by
      intro p hp
      rw [hr.kind, if_neg, h.kinds p (hmem hp)]
      intro hb
      obtain ⟨q, hq, he⟩ := List.mem_map.mp hb
      obtain ⟨j, hj, hq⟩ := mem_ownedItems.mp hq
      exact h.disjoint hi hj (ho ▸ hp) hq he.symm
    nodup := by
      have hn := h.nodup
      rw [ownedItems, List.map_flatMap, List.nodup_flatMap] at hn
      exact ho ▸ hn.1 i (List.mem_range.mpr hi)
    apart := fun p hp => h.apart p (hmem hp) i }

/-- Releasing the elements in turn releases what they own together. -/
theorem run (h : m.CanReleaseItems v levels target length item trees)
    {turn : Memory α → Nat → Option (Memory α)}
    (step : ∀ i m₁ (hi : i < trees.length), m₁.CanRelease (v.bind (loopIndex length) i) levels
        (.element target (loopIndex length)) (item i) trees[i] →
      ∃ m₂, turn m₁ i = some m₂ ∧
        m₁.Released ((m₁.owned v.lengths levels (item i)).map Prod.fst) m₂) :
    ∃ m', (List.range trees.length).foldlM turn m = some m' ∧
      m.Released ((m.ownedItems v.lengths levels item trees.length).map Prod.fst) m' := by
  refine foldlM_range_of_step
    (fun i m₁ => m.Released ((m.ownedItems v.lengths levels item i).map Prod.fst) m₁)
    (.refl m) fun i m₁ hi hr => ?_
  obtain ⟨m₂, ht, hm⟩ := step i m₁ hi (h.next hi hr)
  refine ⟨m₂, ht, ?_⟩
  rw [owned_congr levels fun k hk => h.read_item hi hr hk] at hm
  rw [ownedItems_succ, List.map_append]
  exact hr.trans hm

end CanReleaseItems

namespace CanRelease
variable {m m₁ : Memory α} {v : Variables} {rest : List Level} {target : Place} {l : Cell}
  {isConst isArray : Bool} {capacity : UInt32} {length : String} {tree : ValueTree α}
  {trees : List (ValueTree α)} {a : Nat}

theorem pointee (h : m.CanRelease v (.pointer isConst :: rest) target l (.pointee tree))
    (ha : m.read l = some (.address a)) (ht : m.Holds v.lengths rest (.inBlock a 0) tree) :
    m.CanRelease v rest (.deref target) (.inBlock a 0) tree := by
  obtain ⟨hclear, hleads, -, hkinds, hnodup, hapart⟩ := h
  rw [owned_pointer isConst ha] at hleads hkinds hnodup hapart
  rw [List.map_cons, List.nodup_cons] at hnodup
  have ha' (p : Nat × Bool) (hp : p ∈ m.owned v.lengths rest (.inBlock a 0)) : a ≠ p.1 :=
    fun he => hnodup.1 (List.mem_map.mpr ⟨p, hp, he.symm⟩)
  exact {
    clear := hclear.deref
    leads := by
      intro m' hm
      have hr : m'.read l = some (.address a) :=
        (hm l fun p hp => hapart p (List.mem_cons_of_mem _ hp)).trans ha
      have hl := hleads m' fun k hk => hm k fun p hp => hk p (List.mem_cons_of_mem _ hp)
      simp [locate, hl, hr]
    holds := ht
    kinds := fun p hp => hkinds p (List.mem_cons_of_mem _ hp)
    nodup := hnodup.2
    apart := fun p hp he => ha' p hp (Region.block.inj he) }

theorem items (h : m.CanRelease v (.arrayPointer isConst length :: rest) target l (.items trees))
    (ha : m.read l = some (.address a)) (hn : trees.length = v.lengths length)
    (ht : ∀ i (h : i < trees.length), m.Holds v.lengths rest (.inBlock a i) trees[i]) :
    m.CanReleaseItems v rest target length (.inBlock a) trees := by
  obtain ⟨hclear, hleads, -, hkinds, hnodup, hapart⟩ := h
  rw [owned_arrayPointer isConst length ha, ← hn] at hleads hkinds hnodup hapart
  rw [List.map_cons, List.nodup_cons] at hnodup
  exact {
    clear := hclear.element rfl
    leads := by
      intro m' hm i
      have hr : m'.read l = some (.address a) :=
        (hm l fun p hp => hapart p (List.mem_cons_of_mem _ hp)).trans ha
      have hl := hleads m' fun k hk => hm k fun p hp => hk p (List.mem_cons_of_mem _ hp)
      simp [locate, locate_bind (hclear.index rfl), hl, element, hr]
    holds := ht
    kinds := fun p hp => hkinds p (List.mem_cons_of_mem _ hp)
    nodup := hnodup.2
    apart := fun p hp i he =>
      hnodup.1 (List.mem_map.mpr ⟨p, hp, (Region.block.inj he).symm⟩) }

theorem entries (h : m.CanRelease v (.dimension capacity length :: rest) target l (.entries trees)) :
    m.CanReleaseItems v rest target length l.entry trees := by
  obtain ⟨hclear, hleads, ⟨hl, hn, ht⟩, hkinds, hnodup, hapart⟩ := h
  rw [owned_dimension, ← hn] at hleads hkinds hnodup hapart
  exact {
    clear := hclear.element rfl
    leads := by
      intro m' hm i
      have hr : m'.read l = none := (hm l hapart).trans hl
      simp [locate, locate_bind (hclear.index rfl), hleads m' hm, element, hr]
    holds := ht
    kinds := hkinds
    nodup := hnodup
    apart := fun p hp _ => hapart p hp }

/-- Once what lies inside a block was released, the block itself can be. -/
theorem freeAt {levels : List Level} {inner : List (Nat × Bool)}
    (h : m.CanRelease v levels target l tree)
    (ho : m.owned v.lengths levels l = (a, isArray) :: inner)
    (ha : m.read l = some (.address a)) (hr : m.Released (inner.map Prod.fst) m₁) :
    ∃ m₂, m₁.freeAt v target isArray = some m₂ ∧
      m.Released ((m.owned v.lengths levels l).map Prod.fst) m₂ := by
  have hkinds := h.kinds (a, isArray) (by simp [ho])
  have hnodup := h.nodup
  rw [ho, List.map_cons, List.nodup_cons] at hnodup
  have hread (k : Cell) (hk : ∀ p ∈ m.owned v.lengths levels l, k.region ≠ .block p.1) :
      m₁.read k = m.read k := by
    refine hr.read k fun b hb => ?_
    obtain ⟨q, hq, rfl⟩ := List.mem_map.mp hb
    exact hk q (ho ▸ List.mem_cons_of_mem _ hq)
  have hk₁ : m₁.kind? a = some isArray := by
    rw [hr.kind, if_neg hnodup.1, hkinds]
  obtain ⟨m₂, hm, hr₂⟩ := Released.of_free hk₁
  refine ⟨m₂, ?_, ?_⟩
  · simp [Memory.freeAt, fetch, h.leads m₁ hread, hread l h.apart, ha, hm]
  · rw [ho, List.map_cons]
    exact (hr.trans hr₂).perm List.perm_append_comm

end CanRelease

private theorem foldlM_execAll_nil (v : Variables) (m : Memory α) (index : String) (is : List Nat) :
    is.foldlM (fun m i => Fragment.execAll (v.bind index i) m []) m = some m := by
  induction is with
  | nil => rfl
  | cons i is ih => exact ih

/-- A release loops over all elements, or leaves the loop out where it would do nothing. -/
private theorem execAll_release_dimension (v : Variables) (m : Memory α) (target : Place)
    (capacity : UInt32) (length : String) (rest : List Level) :
    Fragment.execAll v m (releaseSteps target (.dimension capacity length :: rest)) =
      (List.range (v.number length)).foldlM (fun m i => Fragment.execAll
        (v.bind (loopIndex length) i) m
        (releaseSteps (.element target (loopIndex length)) rest)) m := by
  simp only [releaseSteps]
  split
  · rename_i he
    rw [he, foldlM_execAll_nil]
    rfl
  · simp only [Fragment.execAll_singleton, Fragment.exec]

private theorem execAll_release_arrayPointer (v : Variables) (m : Memory α) (target : Place)
    (isConst : Bool) (length : String) (rest : List Level) :
    Fragment.execAll v m (releaseSteps target (.arrayPointer isConst length :: rest)) =
      ((List.range (v.number length)).foldlM (fun m i => Fragment.execAll
        (v.bind (loopIndex length) i) m
        (releaseSteps (.element target (loopIndex length)) rest)) m).bind
        (·.freeAt v target true) := by
  cases rest with
  | nil =>
    simp only [releaseSteps, foldlM_execAll_nil, Fragment.execAll_singleton]
    rfl
  | cons level rest =>
    simp only [releaseSteps, Fragment.execAll_singleton, Fragment.exec]
    rfl

/-- A release that can run gives back exactly what its cell owns. -/
theorem CanRelease.run {m : Memory α} {v : Variables} {levels : List Level} {target : Place}
    {l : Cell} {tree : ValueTree α} (h : m.CanRelease v levels target l tree) :
    ∃ m', Fragment.execAll v m (releaseSteps target levels) = some m' ∧
      m.Released ((m.owned v.lengths levels l).map Prod.fst) m' := by
  induction levels generalizing m v target l tree with
  | nil => exact ⟨m, rfl, .refl m⟩
  | cons level rest ih =>
    cases level with
    | dimension capacity length =>
      cases tree with
      | entries trees =>
        have hn := h.holds.2.1
        obtain ⟨m', hm, hr⟩ := h.entries.run fun i m₁ _ hc => ih (v := v.bind _ i) hc
        refine ⟨m', ?_, ?_⟩
        · rw [execAll_release_dimension, h.clear.number rfl, ← hn]
          exact hm
        · rw [owned_dimension, ← hn]
          exact hr
      | _ => exact h.holds.elim
    | pointer isConst =>
      cases tree with
      | pointee tree =>
        obtain ⟨a, ha, ht⟩ := h.holds
        obtain ⟨m₁, hm, hr⟩ := ih (h.pointee ha ht)
        obtain ⟨m', hf, hr'⟩ := h.freeAt (owned_pointer isConst ha) ha hr
        refine ⟨m', ?_, hr'⟩
        simp [releaseSteps, Fragment.execAll_append, hm, Fragment.exec, hf]
      | _ => exact h.holds.elim
    | arrayPointer isConst length =>
      cases tree with
      | items trees =>
        obtain ⟨a, ha, hn, ht⟩ := h.holds
        obtain ⟨m₁, hm, hr⟩ := (h.items ha hn ht).run fun i m₁ _ hc => ih (v := v.bind _ i) hc
        obtain ⟨m', hf, hr'⟩ := h.freeAt (owned_arrayPointer isConst length ha) ha (hn ▸ hr)
        refine ⟨m', ?_, hr'⟩
        rw [execAll_release_arrayPointer, h.clear.number rfl, ← hn, hm]
        exact hf
      | _ => exact h.holds.elim

end Memory

end ClassScaffold
