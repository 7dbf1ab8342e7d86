import ClassScaffold.Proofs.Skeleton.Shape
import ClassScaffold.Skeleton.Rendering

/-! Checking templates against the shapes of what they read. A part that passes the check reads only
what is there, in its conditions too, and has a text. -/
namespace ClassScaffold.Skeleton

/-- Which calls are known to be answered, given the shapes of the arguments. -/
abbrev Signature := (space part : String) → List (String × Shape) → Bool

/-- The shapes of what names mean inside a part. -/
structure ScopeShape where
  turns : List (String × Shape)
  arguments : List (String × Shape)
  attributes : Shape

/-- What a loop body may ask about its turn. -/
def turnSteps : List String := ["index", "index0", "first", "last"]

/-- The shape of a path, by the innermost meaning of its root. -/
def ScopeShape.find? (σ : ScopeShape) (root : String) (steps : List String) : Option Shape :=
  if root = loopName then
    match σ.turns, steps with
    | _ :: _, [step] => if step ∈ turnSteps then some .plain else none
    | _, _ => none
  else
    match (σ.turns.lookup root).or (σ.arguments.lookup root) with
    | some shape => shape.descend steps
    | none => if root = attributesName then σ.attributes.descend steps else none

/-- Whether these arguments of a join are all right: no separator, or a text. -/
def joins : List (String × Expr) → Bool
  | [] | [(_, .text _)] => true
  | _ => false

namespace Expr

mutual

/-- The shape of an expression in which everything that is looked up is there. -/
def shape? (known : Signature) (σ : ScopeShape) : Expr → Option Shape
  | .path root steps => σ.find? root steps
  | .text _ | .int _ | .bool _ => some .plain
  | .call space part arguments => do
    if known space part (← shapes? known σ arguments) then some .plain else none
  | .function => none
  | .filtered e filter arguments =>
    match shape? known σ e with
    | some (.list _) => if filter = "join" ∧ joins arguments then some .plain else none
    | _ => none
  | .negation e => (shape? known σ e).map fun _ => .plain
  | .both a b | .either a b => do
    let _ ← shape? known σ a
    let _ ← shape? known σ b
    return .plain

def shapes? (known : Signature) (σ : ScopeShape) :
    List (String × Expr) → Option (List (String × Shape))
  | [] => some []
  | (name, e) :: rest => do
    let shape ← shape? known σ e
    let shapes ← shapes? known σ rest
    return (name, shape) :: shapes

end

end Expr

mutual

/-- Whether a piece reads only what is there, whatever its conditions come to. -/
def Piece.readable (known : Signature) (σ : ScopeShape) : Piece → Bool
  | .text _ => true
  | .print e => (e.shape? known σ).isSome
  | .branch condition yes no =>
    (condition.shape? known σ).isSome && readables known σ yes && readables known σ no
  | .loop name values body =>
    match values.shape? known σ with
    | some (.list item) =>
      values.looksUp && readables known { σ with turns := (name, item) :: σ.turns } body
    | _ => false

def readables (known : Signature) (σ : ScopeShape) : List Piece → Bool
  | [] => true
  | piece :: rest => piece.readable known σ && readables known σ rest

end

/-- Whether a part reads only what is there, in calls of at most that depth. -/
def readablePart (s : Skeleton) (attributes : Shape) : Nat → String → List (String × Shape) → Bool
  | 0, _, _ => false
  | depth + 1, name, shapes =>
    match s.part? name with
    | none => false
    | some part =>
      match part.parameters.mapM fun p => (shapes.lookup p).map (p, ·) with
      | none => false
      | some arguments =>
        readables
          (fun space name shapes => space == ownSpace && s.readablePart attributes depth name shapes)
          ⟨[], arguments, attributes⟩ part.body

def ArgumentsFit (shapes : List (String × Shape)) (arguments : String → Option Json) : Prop :=
  ∀ name shape, shapes.lookup name = some shape → ∃ v, arguments name = some v ∧ shape.Fits v

/-- Whether all calls that are known to be answered are. -/
def Signature.Sound (known : Signature) (answer : Answer) : Prop :=
  ∀ space part shapes arguments, known space part shapes → ArgumentsFit shapes arguments →
    (answer space part arguments).isSome

/-- Whether names mean values of the shapes that they should have. -/
structure ScopeShape.Fits (σ : ScopeShape) (scope : Scope) : Prop where
  turns : List.Forall₂ (fun shape turn => shape.1 = turn.name ∧ shape.2.Fits turn.item)
    σ.turns scope.turns
  arguments : List.Forall₂ (fun shape argument => shape.1 = argument.1 ∧ shape.2.Fits argument.2)
    σ.arguments scope.arguments
  attributes : σ.attributes.Fits scope.attributes

section Scope
variable {σ : ScopeShape} {scope : Scope} {root : String} {steps : List String}
  {shapes : List (String × Shape)} {shape inner : Shape}

private theorem state?_isSome (t : Turn) {step : String} (h : step ∈ turnSteps) :
    (t.state? step).isSome := by
  simp only [turnSteps, List.mem_cons, List.not_mem_nil, or_false] at h
  rcases h with rfl | rfl | rfl | rfl <;> simp [Turn.state?]

private theorem find?_of_ne_loop (t : Turn) (hl : root ≠ loopName) :
    t.find? root steps = if root = t.name then t.item.descend steps else none := by
  simp [Turn.find?, hl]

private theorem findSome?_of_lookup {turns : List Turn} (hl : root ≠ loopName)
    (h : List.Forall₂ (fun shape turn => shape.1 = turn.name ∧ shape.2.Fits turn.item) shapes turns)
    (hs : shapes.lookup root = some shape) (hd : shape.descend steps = some inner) :
    ∃ v, turns.findSome? (·.find? root steps) = some v ∧ inner.Fits v := by
  induction h with
  | nil => cases hs
  | @cons first turn _ _ hf _ ih =>
    obtain ⟨hname, hfits⟩ := hf
    by_cases hr : root = first.1
    · rw [List.lookup_cons, beq_iff_eq.mpr hr] at hs
      cases hs
      obtain ⟨v, hv, hi⟩ := hfits.descend hd
      have ht : turn.find? root steps = some v := by
        rw [find?_of_ne_loop turn hl, if_pos (hr.trans hname), hv]
      exact ⟨v, by rw [List.findSome?_cons, ht], hi⟩
    · have hb : (root == first.1) = false := beq_false_of_ne hr
      rw [List.lookup_cons, hb] at hs
      obtain ⟨v, hv, hi⟩ := ih hs
      have hn : turn.find? root steps = none := by
        rw [find?_of_ne_loop turn hl, ← hname, if_neg hr]
      exact ⟨v, by rw [List.findSome?_cons, hn]; exact hv, hi⟩

private theorem findSome?_of_lookup_none {turns : List Turn} (hl : root ≠ loopName)
    (h : List.Forall₂ (fun shape turn => shape.1 = turn.name ∧ shape.2.Fits turn.item) shapes turns)
    (hs : shapes.lookup root = none) : turns.findSome? (·.find? root steps) = none := by
  induction h with
  | nil => rfl
  | @cons first turn _ _ hf _ ih =>
    by_cases hr : root = first.1
    · rw [List.lookup_cons, beq_iff_eq.mpr hr] at hs
      cases hs
    · have hb : (root == first.1) = false := beq_false_of_ne hr
      rw [List.lookup_cons, hb] at hs
      have hn : turn.find? root steps = none := by
        rw [find?_of_ne_loop turn hl, ← hf.1, if_neg hr]
      rw [List.findSome?_cons, hn]
      exact ih hs

private theorem lookup_arguments (root : String) {arguments : List (String × Json)}
    (h : List.Forall₂ (fun shape argument => shape.1 = argument.1 ∧ shape.2.Fits argument.2)
      shapes arguments) :
    (∀ shape, shapes.lookup root = some shape →
      ∃ v, arguments.lookup root = some v ∧ shape.Fits v) ∧
    (shapes.lookup root = none → arguments.lookup root = none) := by
  induction h with
  | nil => simp
  | @cons first argument _ _ hf _ ih =>
    rw [List.lookup_cons, List.lookup_cons, ← hf.1]
    by_cases hr : root = first.1
    · rw [beq_iff_eq.mpr hr]
      refine ⟨fun shape hs => ?_, fun hs => ?_⟩
      · cases hs
        exact ⟨_, rfl, hf.2⟩
      · cases hs
    · have hb : (root == first.1) = false := beq_false_of_ne hr
      rw [hb]
      exact ih

/-- What has a shape is found, and has that shape. -/
theorem ScopeShape.Fits.find? (h : σ.Fits scope) (hf : σ.find? root steps = some shape) :
    ∃ v, scope.find? root steps = some v ∧ shape.Fits v := by
  unfold ScopeShape.find? at hf
  split at hf
  · rename_i hr
    subst hr
    split at hf
    · rename_i first rest step hturns
      split at hf
      · rename_i hstep
        cases hf
        have ht := h.turns
        rw [hturns] at ht
        obtain ⟨turn, others, -, -, hts⟩ := List.forall₂_cons_left_iff.mp ht
        obtain ⟨v, hv⟩ := Option.isSome_iff_exists.mp (state?_isSome turn hstep)
        have hfind : turn.find? loopName [step] = some v := by simp [Turn.find?, hv]
        exact ⟨v, by simp [Scope.find?, hts, hfind], Shape.fits_plain v⟩
      · cases hf
    · cases hf
  · rename_i hl
    obtain ⟨hsome, hnone⟩ := lookup_arguments root h.arguments
    cases hturn : σ.turns.lookup root with
    | some found =>
      simp only [hturn, Option.some_or] at hf
      obtain ⟨v, hv, hi⟩ := findSome?_of_lookup hl h.turns hturn hf
      exact ⟨v, by simp [Scope.find?, hv], hi⟩
    | none =>
      have hno : scope.turns.findSome? (·.find? root steps) = none :=
        findSome?_of_lookup_none hl h.turns hturn
      simp only [hturn, Option.none_or] at hf
      cases harg : σ.arguments.lookup root with
      | some found =>
        simp only [harg] at hf
        obtain ⟨w, hw, hfw⟩ := hsome found harg
        obtain ⟨v, hv, hi⟩ := hfw.descend hf
        exact ⟨v, by simp [Scope.find?, hno, hw, hv], hi⟩
      | none =>
        simp only [harg] at hf
        split at hf
        · rename_i ha
          obtain ⟨v, hv, hi⟩ := h.attributes.descend hf
          exact ⟨v, by rw [Scope.find?, hno, hnone harg, if_pos ha, hv]; rfl, hi⟩
        · cases hf

end Scope

section Soundness
variable {known : Signature} {answer : Answer} {σ : ScopeShape} {scope : Scope}

private theorem denied_isSome {e : Expr} {value : Option Json} (h : value.isSome) :
    (e.denied scope value).isSome := by
  have hm : (value.map fun v => Json.bool (!v.isTruthy)).isSome := by rwa [Option.isSome_map]
  unfold Expr.denied
  split
  · split
    · rfl
    · rfl
    · exact hm
  · exact hm

private theorem filter?_join (answer : Answer) (scope : Scope) (items : List Json)
    {arguments : List (String × Expr)} (h : joins arguments) :
    ∃ text, (do filter? "join" (.list items) (← Expr.evalAll answer scope arguments)) =
      some (.text text) := by
  match arguments with
  | [] => exact ⟨_, rfl⟩
  | [(name, .text separator)] =>
    simp only [Expr.evalAll, Expr.eval, filter?, joined]
    by_cases hn : "sep" = name <;> simp [hn, List.lookup_cons, beq_false_of_ne]

mutual

/-- An expression that has a shape has a value of that shape, and says whether it holds. -/
theorem Expr.eval_of_shape? (hk : known.Sound answer) (hσ : σ.Fits scope) :
    ∀ (e : Expr) {shape : Shape}, e.shape? known σ = some shape →
      (∃ v, e.eval answer scope = some v ∧ shape.Fits v) ∧ (e.holds answer scope).isSome
  | .path root steps, shape, h => ⟨hσ.find? h, rfl⟩
  | .text s, shape, h => by
    cases h
    exact ⟨⟨_, rfl, trivial⟩, rfl⟩
  | .int n, shape, h => by
    cases h
    exact ⟨⟨_, rfl, trivial⟩, rfl⟩
  | .bool b, shape, h => by
    cases h
    exact ⟨⟨_, rfl, trivial⟩, rfl⟩
  | .call space part arguments, shape, h => by
    simp only [Expr.shape?, Option.bind_eq_bind, Option.bind_eq_some_iff] at h
    obtain ⟨shapes, hs, h⟩ := h
    split at h
    · rename_i hknown
      cases h
      have hfit := Expr.evalNamed_of_shapes? hk hσ arguments hs
      obtain ⟨text, ht⟩ := Option.isSome_iff_exists.mp (hk space part shapes _ hknown hfit)
      exact ⟨⟨.text text, by simp [Expr.eval, ht], trivial⟩, by simp [Expr.holds, ht]⟩
    · cases h
  | .function, shape, h => by cases h
  | .filtered e filter arguments, shape, h => by
    simp only [Expr.shape?] at h
    split at h
    · rename_i item he
      split at h
      · rename_i hf
        obtain ⟨rfl, hj⟩ := hf
        cases h
        obtain ⟨⟨v, hv, items, rfl, -⟩, hholds⟩ := Expr.eval_of_shape? hk hσ e he
        obtain ⟨text, ht⟩ := filter?_join answer scope items hj
        refine ⟨⟨.text text, ?_, trivial⟩, ?_⟩
        · simpa [Expr.eval, hv] using ht
        · unfold Expr.holds
          split
          · rfl
          · exact hholds
      · cases h
    · cases h
  | .negation e, shape, h => by
    simp only [Expr.shape?, Option.map_eq_some_iff] at h
    obtain ⟨inner, he, rfl⟩ := h
    obtain ⟨⟨v, hv, -⟩, hholds⟩ := Expr.eval_of_shape? hk hσ e he
    have hd : (e.denied scope (some v)).isSome := denied_isSome rfl
    obtain ⟨w, hw⟩ := Option.isSome_iff_exists.mp hd
    refine ⟨⟨w, by rw [Expr.eval, hv, hw], trivial⟩, ?_⟩
    unfold Expr.holds
    split
    · rfl
    · rwa [Option.isSome_map]
  | .both a b, shape, h => by
    simp only [Expr.shape?, Option.bind_eq_bind, Option.bind_eq_some_iff] at h
    obtain ⟨first, ha, second, hb, h⟩ := h
    cases h
    obtain ⟨x, hx⟩ := Option.isSome_iff_exists.mp (Expr.eval_of_shape? hk hσ a ha).2
    obtain ⟨y, hy⟩ := Option.isSome_iff_exists.mp (Expr.eval_of_shape? hk hσ b hb).2
    cases x <;> exact ⟨⟨_, by simp [Expr.eval, hx, hy]; rfl, trivial⟩, by simp [Expr.holds, hx, hy]⟩
  | .either a b, shape, h => by
    simp only [Expr.shape?, Option.bind_eq_bind, Option.bind_eq_some_iff] at h
    obtain ⟨first, ha, second, hb, h⟩ := h
    cases h
    obtain ⟨x, hx⟩ := Option.isSome_iff_exists.mp (Expr.eval_of_shape? hk hσ a ha).2
    obtain ⟨y, hy⟩ := Option.isSome_iff_exists.mp (Expr.eval_of_shape? hk hσ b hb).2
    cases x <;> exact ⟨⟨_, by simp [Expr.eval, hx, hy]; rfl, trivial⟩, by simp [Expr.holds, hx, hy]⟩

theorem Expr.evalNamed_of_shapes? (hk : known.Sound answer) (hσ : σ.Fits scope) :
    ∀ (arguments : List (String × Expr)) {shapes : List (String × Shape)},
      Expr.shapes? known σ arguments = some shapes →
      ArgumentsFit shapes (Expr.evalNamed answer scope arguments)
  | [], shapes, h => by
    cases h
    exact fun _ _ hl => nomatch hl
  | (name, e) :: rest, shapes, h => by
    simp only [Expr.shapes?, Option.bind_eq_bind, Option.bind_eq_some_iff] at h
    obtain ⟨first, hfirst, others, hothers, h⟩ := h
    cases h
    intro wanted shape hl
    have he := (Expr.eval_of_shape? hk hσ e hfirst).1
    have hr := Expr.evalNamed_of_shapes? hk hσ rest hothers
    by_cases hn : wanted = name
    · subst hn
      rw [List.lookup_cons_self] at hl
      cases hl
      simpa [Expr.evalNamed] using he
    · have hb : (wanted == name) = false := beq_false_of_ne hn
      rw [List.lookup_cons, hb] at hl
      simpa [Expr.evalNamed, Ne.symm hn] using hr wanted shape hl

end

theorem ScopeShape.Fits.turn (hσ : σ.Fits scope) {shape : Shape} {t : Turn}
    (h : shape.Fits t.item) :
    ScopeShape.Fits { σ with turns := (t.name, shape) :: σ.turns }
      { scope with turns := t :: scope.turns } :=
  ⟨.cons ⟨rfl, h⟩ hσ.turns, hσ.arguments, hσ.attributes⟩

private theorem mapM_isSome {α β : Type} {f : α → Option β} {items : List α}
    (h : ∀ item ∈ items, (f item).isSome) : (items.mapM f).isSome := by
  induction items with
  | nil => rfl
  | cons item rest ih =>
    obtain ⟨b, hb⟩ := Option.isSome_iff_exists.mp (h item List.mem_cons_self)
    obtain ⟨bs, hbs⟩ := Option.isSome_iff_exists.mp (ih fun i hi => h i (List.mem_cons_of_mem _ hi))
    simp [List.mapM_cons, hb, hbs]

mutual

theorem renderPiece_of_readable (hk : known.Sound answer) :
    ∀ (piece : Piece) {σ : ScopeShape} {scope : Scope}, σ.Fits scope → piece.readable known σ →
      (renderPiece answer scope piece).isSome
  | .text s, _, _, _, _ => rfl
  | .print e, σ, scope, hσ, h => by
    obtain ⟨shape, hs⟩ := Option.isSome_iff_exists.mp h
    obtain ⟨⟨v, hv, -⟩, -⟩ := Expr.eval_of_shape? hk hσ e hs
    simp [renderPiece, hv]
  | .branch condition yes no, σ, scope, hσ, h => by
    simp only [Piece.readable, Bool.and_eq_true] at h
    obtain ⟨⟨hc, hyes⟩, hno⟩ := h
    obtain ⟨shape, hs⟩ := Option.isSome_iff_exists.mp hc
    obtain ⟨b, hb⟩ := Option.isSome_iff_exists.mp (Expr.eval_of_shape? hk hσ condition hs).2
    have hy := renderPieces_of_readables hk yes hσ hyes
    have hn := renderPieces_of_readables hk no hσ hno
    cases b <;> simpa [renderPiece, hb]
  | .loop name values body, σ, scope, hσ, h => by
    simp only [Piece.readable] at h
    split at h
    · rename_i item hs
      rw [Bool.and_eq_true] at h
      obtain ⟨hlooks, hbody⟩ := h
      obtain ⟨⟨v, hv, items, rfl, hfit⟩, -⟩ := Expr.eval_of_shape? hk hσ values hs
      have hturns : (items.zipIdx.mapM fun (item, i) => renderPieces answer
          { scope with turns := ⟨name, item, i, items.length⟩ :: scope.turns } body).isSome := by
        refine mapM_isSome fun (value, i) hm => renderPieces_of_readables hk body
          (hσ.turn (t := ⟨name, value, i, items.length⟩) (hfit value ?_)) hbody
        exact List.fst_mem_of_mem_zipIdx hm
      simp only [renderPiece, hlooks, if_true, hv, Option.bind_some, itemsOf?, Option.isSome_map]
      exact hturns
    · cases h

theorem renderPieces_of_readables (hk : known.Sound answer) :
    ∀ (pieces : List Piece) {σ : ScopeShape} {scope : Scope}, σ.Fits scope →
      readables known σ pieces → (renderPieces answer scope pieces).isSome
  | [], _, _, _, _ => rfl
  | piece :: rest, σ, scope, hσ, h => by
    rw [readables, Bool.and_eq_true] at h
    obtain ⟨first, hf⟩ := Option.isSome_iff_exists.mp (renderPiece_of_readable hk piece hσ h.1)
    obtain ⟨others, ho⟩ := Option.isSome_iff_exists.mp (renderPieces_of_readables hk rest hσ h.2)
    simp [renderPieces, hf, ho]

end

private theorem bindParameters_of_shapes {shapes bound : List (String × Shape)}
    {arguments : String → Option Json} (ha : ArgumentsFit shapes arguments)
    {parameters : List String}
    (h : parameters.mapM (fun p => (shapes.lookup p).map (p, ·)) = some bound) :
    ∃ values, bindParameters arguments parameters = some values ∧
      List.Forall₂ (fun shape argument => shape.1 = argument.1 ∧ shape.2.Fits argument.2)
        bound values := by
  induction parameters generalizing bound with
  | nil =>
    cases h
    exact ⟨[], rfl, .nil⟩
  | cons p rest ih =>
    rw [List.mapM_cons, Option.bind_eq_bind, Option.bind_eq_some_iff] at h
    obtain ⟨first, hfirst, h⟩ := h
    simp only [Option.bind_eq_bind, Option.bind_eq_some_iff] at h
    obtain ⟨others, hothers, h⟩ := h
    cases h
    obtain ⟨shape, hs, rfl⟩ := Option.map_eq_some_iff.mp hfirst
    obtain ⟨v, hv, hf⟩ := ha p shape hs
    obtain ⟨values, hvalues, hr⟩ := ih hothers
    unfold bindParameters at hvalues
    exact ⟨(p, v) :: values, by simp [bindParameters, List.mapM_cons, hv, hvalues],
      .cons ⟨rfl, hf⟩ hr⟩

/-- A readable part has a text, wherever calls may go as deep as the check did. -/
theorem renderPart_of_readablePart (s : Skeleton) {attributes : Shape} {value : Json}
    (hv : attributes.Fits value) {checked depth : Nat} (hd : checked ≤ depth) {name : String}
    {shapes : List (String × Shape)} {arguments : String → Option Json}
    (h : s.readablePart attributes checked name shapes) (ha : ArgumentsFit shapes arguments) :
    (s.renderPart value depth name arguments).isSome := by
  induction checked generalizing depth name shapes arguments with
  | zero => cases h
  | succ checked ih =>
    obtain ⟨depth, rfl⟩ : ∃ n, depth = n + 1 := ⟨depth - 1, by omega⟩
    simp only [readablePart] at h
    split at h
    · cases h
    · rename_i part hpart
      split at h
      · cases h
      · rename_i bound hbound
        obtain ⟨values, hvalues, hf⟩ := bindParameters_of_shapes ha hbound
        simp only [renderPart, hpart, hvalues, Option.bind_eq_bind, Option.bind_some]
        refine renderPieces_of_readables (fun space inner shapes' arguments' hk ha' => ?_) _
          ⟨.nil, hf, hv⟩ h
        rw [Bool.and_eq_true, beq_iff_eq] at hk
        rw [if_pos hk.1]
        exact ih (by omega) hk.2 ha'

end Soundness

end ClassScaffold.Skeleton
