import ClassScaffold.Proofs.Skeleton.Bundled
import ClassScaffold.Proofs.Text.Lines

/-! The text of templates, piece by piece: what a piece prints is told by what its expressions lead
to, and what a part prints by the pieces of its body. -/
namespace ClassScaffold

namespace Skeleton

section Pieces
variable {answer : Answer} {scope : Scope}

theorem renderPieces_eq {pieces : List Piece} {texts : List String}
    (h : List.Forall₂ (fun piece text => renderPiece answer scope piece = some text) pieces texts) :
    renderPieces answer scope pieces = some (String.join texts) := by
  induction h with
  | nil => rfl
  | cons hp _ ih => simp only [renderPieces, hp, ih, String.join_cons]; rfl

/-- Pieces print a text that their own ones are put together to. -/
theorem renderPieces_join {pieces : List Piece} (texts : List String) {text : String}
    (h : List.Forall₂ (fun piece text => renderPiece answer scope piece = some text) pieces texts)
    (ht : (String.join texts).toList = text.toList) :
    renderPieces answer scope pieces = some text := by
  rw [renderPieces_eq h, String.toList_inj.mp ht]

theorem renderPieces_append {pieces others : List Piece} {first second : String}
    (hp : renderPieces answer scope pieces = some first)
    (ho : renderPieces answer scope others = some second) :
    renderPieces answer scope (pieces ++ others) = some (first ++ second) := by
  induction pieces generalizing first with
  | nil =>
    cases hp
    rw [List.nil_append, ho, String.empty_append]
  | cons piece rest ih =>
    rw [renderPieces, Option.bind_eq_bind, Option.bind_eq_some_iff] at hp
    obtain ⟨text, htext, hp⟩ := hp
    obtain ⟨others, hothers, hp⟩ := Option.bind_eq_some_iff.mp hp
    cases hp
    rw [List.cons_append, renderPieces, htext, ih hothers, String.append_assoc]
    rfl

theorem renderPiece_branch {condition : Expr} {yes no : List Piece} {first second : String}
    (holds : Bool) (hc : condition.holds answer scope = some holds)
    (hy : renderPieces answer scope yes = some first)
    (hn : renderPieces answer scope no = some second) :
    renderPiece answer scope (.branch condition yes no) = some (if holds then first else second) := by
  simp only [renderPiece, hc, Option.bind_eq_bind, Option.bind_some]
  cases holds with
  | false => exact hn
  | true => exact hy

/-- Pieces under a condition print nothing where it does not hold. -/
theorem renderPiece_given {condition : Expr} {pieces : List Piece} {text : String} (holds : Bool)
    (hc : condition.holds answer scope = some holds)
    (hp : renderPieces answer scope pieces = some text) :
    renderPiece answer scope (given condition pieces) = some (if holds then text else "") :=
  renderPiece_branch holds hc hp rfl

/-- The scope inside of one turn of a loop. -/
def Scope.inTurn (scope : Scope) (name : String) (item : Json) (index count : Nat) : Scope :=
  { scope with turns := ⟨name, item, index, count⟩ :: scope.turns }

section Loop
variable {α : Type} {items : List α} {encode : α → Json} {name root : String} {steps : List String}
  {body : List Piece}

theorem holds_list (hv : scope.find? root steps = some (.list (items.map encode))) :
    (Expr.path root steps).holds answer scope = some !items.isEmpty := by
  rw [Expr.holds, hv, Option.any_some, Json.isTruthy, List.isEmpty_map]

/-- A loop prints what its body does in every turn. -/
theorem renderPiece_turns {text : α → Nat → String}
    (hv : scope.find? root steps = some (.list (items.map encode)))
    (hb : ∀ item ∈ items, ∀ i,
      renderPieces answer (scope.inTurn name (encode item) i items.length) body =
        some (text item i)) :
    renderPiece answer scope (.loop name (.path root steps) body) =
      some (String.join (items.zipIdx.map fun item => text item.1 item.2)) := by
  have hturns : (items.map encode).zipIdx.mapM (fun (item, i) =>
      renderPieces answer (scope.inTurn name item i (items.map encode).length) body) =
        some (items.zipIdx.map fun item => text item.1 item.2) := by
    refine mapM_eq_some_of_forall₂ ?_
    rw [List.length_map, List.zipIdx_map, List.forall₂_map_left_iff, List.forall₂_map_right_iff]
    exact List.forall₂_same.mpr fun item hi => hb item.1 (List.fst_mem_of_mem_zipIdx hi) item.2
  simp only [renderPiece, Expr.looksUp, Expr.unfiltered, Expr.isPath, if_true, Expr.eval, hv,
    Option.bind_some, itemsOf?]
  exact congrArg (Option.map String.join) hturns

/-- Where a body does not ask for its turn, the items tell the whole text. -/
theorem renderPiece_loop {text : α → String}
    (hv : scope.find? root steps = some (.list (items.map encode)))
    (hb : ∀ item ∈ items, ∀ i n,
      renderPieces answer (scope.inTurn name (encode item) i n) body = some (text item)) :
    renderPiece answer scope (.loop name (.path root steps) body) =
      some (String.join (items.map text)) := by
  rw [renderPiece_turns hv fun item hi i => hb item hi i _]
  have hitems : items.zipIdx.map (text ∘ Prod.fst) = items.map text := by
    rw [← List.map_map, List.zipIdx_map_fst]
  exact congrArg (some ∘ String.join) hitems

/-- Every turn but the last one ends in a comma. -/
private theorem join_commas {text : α → String} (items : List α) (start : Nat) :
    String.join ((items.zipIdx start).map fun item =>
      text item.1 ++ if item.2 + 1 == start + items.length then "" else ", ") =
        ", ".intercalate (items.map text) := by
  induction items generalizing start with
  | nil => rfl
  | cons item rest ih =>
    have hrest := ih (start + 1)
    rw [List.length_cons, List.zipIdx_cons, List.map_cons, String.join_cons, ← Nat.add_assoc,
      Nat.add_right_comm, hrest]
    cases rest with
    | nil => simp
    | cons next rest =>
      have hcomma : (start + 1 == start + 1 + (next :: rest).length) = false := by simp
      simp only [hcomma, List.map_cons, String.intercalate_cons_cons]
      rfl

theorem renderPiece_commaSeparated {text : α → String}
    (hv : scope.find? root steps = some (.list (items.map encode)))
    (hb : ∀ item ∈ items, ∀ i n,
      renderPieces answer (scope.inTurn name (encode item) i n) body = some (text item)) :
    renderPiece answer scope (commaSeparated name (.path root steps) body) =
      some (", ".intercalate (items.map text)) := by
  have hturn : ∀ item ∈ items, ∀ i,
      renderPieces answer (scope.inTurn name (encode item) i items.length)
        (body ++ [given (.negation (.path "loop" ["last"])) [.text ", "]]) =
          some (text item ++ if i + 1 == items.length then "" else ", ") := by
    intro item hi i
    refine renderPieces_append (hb item hi i _) ?_
    have hcomma : renderPiece answer (scope.inTurn name (encode item) i items.length)
        (given (.negation (.path "loop" ["last"])) [.text ", "]) =
          some (if !(i + 1 == items.length) then ", " else "") :=
      renderPiece_given _ rfl rfl
    rw [renderPieces_eq (.cons hcomma .nil)]
    cases i + 1 == items.length <;> rfl
  rw [commaSeparated, renderPiece_turns hv hturn]
  simpa using congrArg some (join_commas items 0)

end Loop

theorem renderPiece_bodyLines {root : String} {steps lines : List String}
    (hv : scope.find? root steps = some (.texts lines)) :
    renderPiece answer scope (bodyLines (.path root steps)) =
      some (Text.below (lines.map ("        " ++ ·))) := by
  rw [Text.below, List.map_map]
  refine renderPiece_loop hv fun line _ i n => ?_
  have hline : "\n" ++ ("        " ++ line) = "\n        " ++ (line ++ "") := by
    rw [String.append_empty, ← String.append_assoc]
    rfl
  exact congrArg some hline.symm

private theorem joined_commas (values : List String) :
    joined (.texts values) [("sep", .text ", ")] = some (.text (", ".intercalate values)) := by
  have hseparator : String.ofList (separatorChars ", ".toList) = ", " := by decide
  have hdisplay : (values.map Json.text).map Json.display = values :=
    List.map_map.trans (List.map_id' values)
  have hjoined : joined (.list (values.map .text)) [("sep", .text ", ")] =
      some (.text ((String.ofList (separatorChars ", ".toList)).intercalate
        ((values.map Json.text).map Json.display))) := rfl
  rw [hseparator, hdisplay] at hjoined
  exact hjoined

theorem renderPiece_commaJoined {key : String} {values : List String}
    (hv : scope.find? attributesName [key] = some (.texts values)) :
    renderPiece answer scope (commaJoined key) = some (", ".intercalate values) := by
  have heval : Expr.eval answer scope (.path attributesName [key]) = some (.texts values) := hv
  have hfiltered : Expr.eval answer scope
      (.filtered (.path attributesName [key]) "join" [("sep", .text ", ")]) =
        joined (.texts values) [("sep", .text ", ")] := by
    rw [Expr.eval, heval]
    rfl
  have hprint : renderPiece answer scope (commaJoined key) = (Expr.eval answer scope
      (.filtered (.path attributesName [key]) "join" [("sep", .text ", ")])).map Json.display := by
    rw [commaJoined, renderPiece]
    rfl
  rw [hprint, hfiltered, joined_commas]
  rfl

end Pieces

section Parts
variable {s : Skeleton} {attributes : Json} {depth : Nat}

/-- How the parts of a skeleton call each other, at most that deep. -/
def calls (s : Skeleton) (attributes : Json) (depth : Nat) : Answer :=
  fun space name arguments =>
    if space = ownSpace then s.renderPart attributes depth name arguments else none

theorem renderPiece_called {scope : Scope} {name text : String} {arguments : List (String × Expr)}
    (h : s.renderPart attributes depth name
      (Expr.evalNamed (s.calls attributes depth) scope arguments) = some text) :
    renderPiece (s.calls attributes depth) scope (called name arguments) = some text := by
  have hanswer : s.calls attributes depth ownSpace name
      (Expr.evalNamed (s.calls attributes depth) scope arguments) = some text :=
    (if_pos rfl).trans h
  have hcall : Expr.eval (s.calls attributes depth) scope (.call ownSpace name arguments) =
      some (.text text) := by
    rw [Expr.eval, hanswer]
    rfl
  exact congrArg (Option.map Json.display) hcall

theorem renderPart_eq (part : Part) {name text : String} {arguments : String → Option Json}
    {values : List (String × Json)} (hp : s.part? name = some part)
    (hv : bindParameters arguments part.parameters = some values)
    (hb : renderPieces (s.calls attributes depth) ⟨[], values, attributes⟩ part.body = some text) :
    s.renderPart attributes (depth + 1) name arguments = some text := by
  rw [renderPart, hp, Option.bind_eq_bind, Option.bind_some, hv]
  exact hb

/-- The scope of a part that is called with all attributes. -/
def Scope.ofAttributes (attributes : List (String × Json)) : Scope :=
  ⟨[], [(attributesName, .record attributes)], .record attributes⟩

/-- An instance has the text that its part has, if that part does not call deeper than two parts. -/
theorem Instance.render_eq {group : Group engine} (part : Part) {bindings : List (String × Json)}
    {text : String} (he : group.templates.entries.lookup (Group.entryName group.name part.name) =
      some (Group.entry part.name))
    (hp : group.templates.skeleton.part? part.name = some part)
    (ha : part.parameters = [attributesName])
    (hb : ∀ depth, renderPieces (group.templates.skeleton.calls (.record bindings) (depth + 2))
      (.ofAttributes bindings) part.body = some text) :
    (Instance.bindAll ⟨group, part.name, []⟩ bindings).render = .ok text := by
  have hvalues : bindParameters (entryArguments bindings) part.parameters =
      some [(attributesName, .record bindings)] := by
    rw [ha, bindParameters, List.mapM_cons, entryArguments, if_pos rfl]
    rfl
  exact (Instance.render_iff_renderPart he).mpr (renderPart_eq part hp hvalues (hb 1997))

end Parts

end Skeleton

end ClassScaffold
