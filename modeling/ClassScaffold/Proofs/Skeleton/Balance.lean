import ClassScaffold.Proofs.Skeleton.Bundled
import ClassScaffold.Proofs.Text.Balance

/-! Checking that templates write balanced text. Names tell how values are used, and a part that passes
the check closes every bracket that it opens, whatever its conditions come to. -/
namespace ClassScaffold.Skeleton

/-- What a name means: a value to be printed, a list of values, or lines of code, which are balanced
only together. -/
inductive Use where
  | value
  | list
  | lines
  deriving DecidableEq

def listNames : List String :=
  ["list", "Properties", "PublicProperties", "ProtectedProperties", "PrivateProperties",
    "PublicMethods", "ProtectedMethods", "PrivateMethods", "OverriddenMethods", "FriendClasses",
    "TemplateTypesData", "InheritedClasses", "BaseClasses", "Interfaces", "Constructors",
    "Parameters", "Initializers", "SetterParameters"]

def linesNames : List String :=
  ["Body", "DestructorContents", "ReleaseBodyCode", "DynamicAllocationBodyCode"]

namespace Use

def ofName (name : String) : Use :=
  if name ∈ listNames then .list else if name ∈ linesNames then .lines else .value

/-- The use of what steps lead to, which go through records only. -/
def descend : Use → List String → Option Use
  | use, [] => some use
  | .value, step :: steps => (ofName step).descend steps
  | _, _ :: _ => none

end Use

/-- Values that bring balanced text wherever they are used as their names tell. -/
inductive Tame : Use → Json → Prop where
  | null : Tame .value .null
  | bool (b : Bool) : Tame .value (.bool b)
  | text {s : String} (h : Text.Balanced s) : Tame .value (.text s)
  | record {members : List (String × Json)}
      (h : ∀ member ∈ members, Tame (.ofName member.1) member.2) : Tame .value (.record members)
  | list {items : List Json} (h : ∀ item ∈ items, Tame .value item) : Tame .list (.list items)
  | lines {texts : List String} (h : Text.Balanced (String.join texts)) : Tame .lines (.texts texts)

/-- Members that can be bound under their names. -/
def TameMember (member : String × Json) : Prop :=
  Tame (.ofName member.1) member.2

namespace TameMember
variable {key : String}

private theorem of_use {use : Use} {value : Json} (hu : Use.ofName key = use) (h : Tame use value) :
    TameMember (key, value) := by
  rw [TameMember, hu]
  exact h

theorem text {s : String} (h : Text.Balanced s) (hu : Use.ofName key = .value := by decide) :
    TameMember (key, .text s) :=
  of_use hu (.text h)

theorem bool {b : Bool} (hu : Use.ofName key = .value := by decide) : TameMember (key, .bool b) :=
  of_use hu (.bool b)

theorem optional {s : Option String} (h : ∀ t ∈ s, Text.Balanced t)
    (hu : Use.ofName key = .value := by decide) : TameMember (key, .optional .text s) := by
  cases s with
  | none => exact of_use hu .null
  | some t => exact text (h t rfl) hu

theorem list {α : Type} {encode : α → Json} {values : List α}
    (h : ∀ a ∈ values, Tame .value (encode a)) (hu : Use.ofName key = .list := by decide) :
    TameMember (key, .list (values.map encode)) :=
  of_use hu (.list (List.forall_mem_map.mpr h))

theorem texts {values : List String} (h : ∀ s ∈ values, Text.Balanced s)
    (hu : Use.ofName key = .list := by decide) : TameMember (key, .texts values) :=
  list (fun s hs => .text (h s hs)) hu

theorem lines {values : List String} (h : Text.Balanced (String.join values))
    (hu : Use.ofName key = .lines := by decide) : TameMember (key, .texts values) :=
  of_use hu (.lines h)

end TameMember

theorem forall_tameMember {members : List (String × Json)} (h : members.Forall TameMember) :
    ∀ member ∈ members, TameMember member :=
  List.forall_iff_forall_mem.mp h

def TameArguments (arguments : String → Option Json) : Prop :=
  ∀ name v, arguments name = some v → TameMember (name, v)

/-- Whatever is called with tame arguments answers with balanced text. -/
def Answer.Tame (answer : Answer) : Prop :=
  ∀ space part arguments text, TameArguments arguments → answer space part arguments = some text →
    Text.Balanced text

structure Scope.Tame (scope : Scope) : Prop where
  turns : ∀ turn ∈ scope.turns, TameMember (turn.name, turn.item)
  arguments : ∀ argument ∈ scope.arguments, TameMember argument
  attributes : TameMember (attributesName, scope.attributes)

namespace Expr

/-- The use of a path outside of what loops tell about their turns. -/
def pathUse? (root : String) (steps : List String) : Option Use :=
  if root = loopName then none else (Use.ofName root).descend steps

/-- Whether these arguments of a join leave balanced text balanced. -/
def joinsTame : List (String × Expr) → Bool
  | [] => true
  | [(_, .text s)] => decide (Text.Nested (separatorChars s.toList))
  | _ => false

mutual

/-- Whether an expression has no value but one that is tame for this use. -/
def isTame (use : Use) : Expr → Bool
  | .path root steps => pathUse? root steps = some use
  | .text s => use = .value && decide (Text.Balanced s)
  | .call _ _ arguments => use = .value && areTame arguments
  | .filtered e filter arguments =>
    use = .value && filter = "join" && isTame .list e && joinsTame arguments
  | _ => false

def areTame : List (String × Expr) → Bool
  | [] => true
  | (name, e) :: rest => isTame (.ofName name) e && areTame rest

end

end Expr

/-- Whether a body writes the item of its loop behind a text without brackets. -/
def writesLine (item : String) : List Piece → Bool
  | [.text s, .print (.path root [])] =>
    root = item && item ≠ loopName && (Text.brackets s.toList).isEmpty
  | _ => false

mutual

/-- The brackets that are due after a piece, if its text does not matter for them. -/
def Piece.due? (due : List Char) : Piece → Option (List Char)
  | .text s => Text.due? due s.toList
  | .print e => if e.isTame .value then some due else none
  | .branch _ yes no => do
    let after ← dueAfter? due yes
    if dueAfter? due no = some after then some after else none
  | .loop item values body =>
    if values.isTame .list && Use.ofName item = .value && dueAfter? due body = some due then
      some due
    else if values.isTame .lines && writesLine item body then some due
    else none

def dueAfter? (due : List Char) : List Piece → Option (List Char)
  | [] => some due
  | piece :: rest => do dueAfter? (← piece.due? due) rest

end

def isTame (s : Skeleton) : Bool :=
  s.parts.all fun part => dueAfter? [] part.body = some []

section Values
variable {use inner : Use} {value v : Json} {root : String} {steps : List String} {scope : Scope}

theorem Tame.balanced_display (h : Tame .value value) : Text.Balanced value.display := by
  cases h with
  | null => decide
  | bool b => cases b <;> decide
  | text h => exact h
  | record _ =>
    rw [Json.display]
    decide

theorem Tame.descend (h : Tame use value) (hu : use.descend steps = some inner)
    (hd : value.descend steps = some v) : Tame inner v := by
  induction steps generalizing use value with
  | nil =>
    cases hu
    rw [Json.descend] at hd
    cases hd
    exact h
  | cons step steps ih =>
    cases h with
    | null | bool | text => cases hd
    | list | lines => cases hu
    | record h =>
      rw [Json.descend, Option.bind_eq_some_iff] at hd
      obtain ⟨next, hl, hd⟩ := hd
      exact ih (h _ (List.mem_reverse.mp (mem_of_lookup hl))) hu hd

/-- What a path finds has the use that its names tell. -/
theorem Scope.Tame.find? (h : scope.Tame) (hu : Expr.pathUse? root steps = some use)
    (hf : scope.find? root steps = some v) : Skeleton.Tame use v := by
  unfold Expr.pathUse? at hu
  split at hu
  · cases hu
  · rename_i hl
    unfold Scope.find? at hf
    simp only [Option.orElse_eq_orElse, Option.orElse_eq_or, Option.or_eq_some_iff] at hf
    rcases hf with hf | ⟨-, hf | ⟨-, hf⟩⟩
    · obtain ⟨turn, ht, hitem⟩ := List.exists_of_findSome?_eq_some hf
      simp only [Turn.find?, hl, if_false] at hitem
      split at hitem
      · rename_i hr
        subst hr
        exact (h.turns turn ht).descend hu hitem
      · cases hitem
    · obtain ⟨value, hv, hf⟩ := Option.bind_eq_some_iff.mp hf
      exact (h.arguments _ (mem_of_lookup hv)).descend hu hf
    · split at hf
      · rename_i hr
        subst hr
        exact h.attributes.descend hu hf
      · cases hf

theorem Scope.Tame.turn (h : scope.Tame) {t : Turn} (ht : TameMember (t.name, t.item)) :
    Scope.Tame { scope with turns := t :: scope.turns } :=
  ⟨List.forall_mem_cons.mpr ⟨ht, h.turns⟩, h.arguments, h.attributes⟩

end Values

section Soundness
variable {answer : Answer} {scope : Scope}

private theorem nested_separator {arguments : List (String × Expr)}
    {values : List (String × Json)} {key s : String} (hj : Expr.joinsTame arguments = true)
    (hv : Expr.evalAll answer scope arguments = some values)
    (hl : values.lookup key = some (.text s)) : Text.Nested (separatorChars s.toList) := by
  match arguments with
  | [] =>
    cases hv
    cases hl
  | [(name, .text separator)] =>
    cases hv
    have hm := mem_of_lookup hl
    cases List.mem_singleton.mp hm
    exact of_decide_eq_true hj

private theorem tame_joined {items : List Json} {arguments : List (String × Expr)}
    {values : List (String × Json)} {value : Json} (hi : ∀ item ∈ items, Tame .value item)
    (hj : Expr.joinsTame arguments = true) (hv : Expr.evalAll answer scope arguments = some values)
    (h : joined (.list items) values = some value) : Tame .value value := by
  have htexts : ∀ s ∈ items.map Json.display, Text.Balanced s := by
    intro s hs
    obtain ⟨item, hm, rfl⟩ := List.mem_map.mp hs
    exact (hi item hm).balanced_display
  unfold joined at h
  split at h
  · rename_i listed _ separator hlist hsep
    cases hlist
    cases h
    refine .text (.intercalate ?_ htexts)
    rw [Text.Balanced, String.toList_ofList]
    exact nested_separator hj hv hsep
  · rename_i hlist _
    cases hlist
    cases h
    exact .text (.join htexts)
  · cases h

mutual

/-- Tame expressions have tame values, where they have any. -/
theorem Expr.eval_of_isTame (ha : answer.Tame) (hs : scope.Tame) :
    ∀ (e : Expr) {use : Use} {v : Json}, e.isTame use = true → e.eval answer scope = some v →
      Tame use v
  | .path root steps, use, v, h, hv => hs.find? (of_decide_eq_true h) hv
  | .text s, use, v, h, hv => by
    rw [Expr.isTame, Bool.and_eq_true, decide_eq_true_eq, decide_eq_true_eq] at h
    cases hv
    exact h.1 ▸ .text h.2
  | .call space part arguments, use, v, h, hv => by
    rw [Expr.isTame, Bool.and_eq_true, decide_eq_true_eq] at h
    rw [Expr.eval, Option.map_eq_some_iff] at hv
    obtain ⟨text, ht, rfl⟩ := hv
    have harguments := Expr.evalNamed_of_areTame ha hs arguments h.2
    exact h.1 ▸ .text (ha space part _ text harguments ht)
  | .filtered e filter arguments, use, v, h, hv => by
    simp only [Expr.isTame, Bool.and_eq_true, decide_eq_true_eq] at h
    obtain ⟨⟨⟨rfl, rfl⟩, he⟩, hj⟩ := h
    simp only [Expr.eval, Option.bind_eq_bind, Option.bind_eq_some_iff] at hv
    obtain ⟨value, hvalue, values, hvalues, hv⟩ := hv
    cases Expr.eval_of_isTame ha hs e he hvalue with
    | list hi => exact tame_joined hi hj hvalues hv

theorem Expr.evalNamed_of_areTame (ha : answer.Tame) (hs : scope.Tame) :
    ∀ (arguments : List (String × Expr)), Expr.areTame arguments = true →
      TameArguments (Expr.evalNamed answer scope arguments)
  | [], _, _, _, hv => nomatch hv
  | (name, e) :: rest, h, wanted, v, hv => by
    rw [Expr.areTame, Bool.and_eq_true] at h
    rw [Expr.evalNamed] at hv
    split at hv
    · rename_i hn
      subst hn
      exact Expr.eval_of_isTame ha hs e h.1 hv
    · exact Expr.evalNamed_of_areTame ha hs rest h.2 wanted v hv

end

private theorem due?_of_balanced {s : String} (h : Text.Balanced s) (due : List Char) :
    Text.due? due s.toList = some due :=
  Text.Nested.due? h due

/-- Texts that leave open what was open do so one after the other. -/
private theorem due?_join {α : Type} {write : α → Option String} {items : List α}
    {texts : List String} {due : List Char} (h : items.mapM write = some texts)
    (hw : ∀ item ∈ items, ∀ s, write item = some s → Text.due? due s.toList = some due) :
    Text.due? due (String.join texts).toList = some due := by
  induction items generalizing texts with
  | nil =>
    cases h
    rfl
  | cons item rest ih =>
    obtain ⟨hitem, hrest⟩ := List.forall_mem_cons.mp hw
    rw [List.mapM_cons, Option.bind_eq_bind, Option.bind_eq_some_iff] at h
    obtain ⟨first, hf, h⟩ := h
    rw [Option.bind_eq_bind, Option.bind_eq_some_iff] at h
    obtain ⟨others, ho, h⟩ := h
    cases h
    rw [String.join_cons, String.toList_append, Text.due?_append, hitem first hf, Option.bind_some]
    exact ih ho hrest

private theorem writesLine_cases {item : String} {body : List Piece}
    (h : writesLine item body = true) :
    ∃ s, body = [.text s, .print (.path item [])] ∧ item ≠ loopName ∧
      Text.brackets s.toList = [] := by
  unfold writesLine at h
  split at h
  · simp only [Bool.and_eq_true, decide_eq_true_eq, List.isEmpty_iff] at h
    obtain ⟨⟨rfl, hloop⟩, hplain⟩ := h
    exact ⟨_, rfl, hloop, hplain⟩
  · cases h

/-- A body that writes its item writes, line by line, what is balanced as a whole. -/
private theorem due?_lines {item : String} {body : List Piece} {lines texts : List String}
    {count : Nat} {due : List Char} (hb : writesLine item body = true)
    (hl : Text.Balanced (String.join lines))
    (h : ((lines.map Json.text).zipIdx.mapM fun turn => renderPieces answer
      { scope with turns := ⟨item, turn.1, turn.2, count⟩ :: scope.turns } body) = some texts) :
    Text.due? due (String.join texts).toList = some due := by
  obtain ⟨s, rfl, hloop, hplain⟩ := writesLine_cases hb
  have hwrite (turn : Json × Nat) : renderPieces answer
      { scope with turns := ⟨item, turn.1, turn.2, count⟩ :: scope.turns }
      [.text s, .print (.path item [])] = pure (s ++ turn.1.display) := by
    simp [renderPieces, renderPiece, Expr.eval, Scope.find?, Turn.find?, hloop, Json.descend]
  have htexts : texts = lines.map (s ++ ·) := by
    rw [funext hwrite, List.mapM_pure] at h
    have hitems := congrArg (List.map fun item => s ++ item.display)
      (List.zipIdx_map_fst 0 (lines.map Json.text))
    rw [List.map_map, List.map_map] at hitems
    exact (Option.some.inj h).symm.trans hitems
  refine due?_of_balanced (hl.of_brackets_eq ?_) due
  rw [Text.brackets] at hplain
  simp only [htexts, String.toList_join, Text.brackets, List.filter_flatMap, List.flatMap_map,
    String.toList_append, List.filter_append, hplain, List.nil_append]

mutual

/-- After the text of a piece those brackets are due that the check tells. -/
theorem due?_renderPiece (ha : answer.Tame) :
    ∀ (piece : Piece) {scope : Scope} {text : String} {due after : List Char}, scope.Tame →
      renderPiece answer scope piece = some text → piece.due? due = some after →
        Text.due? due text.toList = some after
  | .text s, _, _, _, _, _, ht, hd => by
    cases ht
    exact hd
  | .print e, scope, text, due, after, hs, ht, hd => by
    obtain ⟨v, hv, rfl⟩ := Option.map_eq_some_iff.mp ht
    rw [Piece.due?] at hd
    split at hd
    · rename_i he
      cases hd
      exact due?_of_balanced (Expr.eval_of_isTame ha hs e he hv).balanced_display due
    · cases hd
  | .branch condition yes no, scope, text, due, after, hs, ht, hd => by
    simp only [renderPiece, Option.bind_eq_bind, Option.bind_eq_some_iff] at ht
    obtain ⟨b, _, ht⟩ := ht
    simp only [Piece.due?, Option.bind_eq_bind, Option.bind_eq_some_iff] at hd
    obtain ⟨_, hyes, hd⟩ := hd
    split at hd
    · rename_i hno
      cases hd
      -- both branches leave the same brackets open, so it does not matter which one is written
      cases b with
      | true => exact due?_renderPieces ha yes hs ht hyes
      | false => exact due?_renderPieces ha no hs ht hno
    · cases hd
  | .loop name values body, scope, text, due, after, hs, ht, hd => by
    rw [renderPiece] at ht
    split at ht
    · split at ht
      · rename_i items hitems
        obtain ⟨texts, hturns, rfl⟩ := Option.map_eq_some_iff.mp ht
        obtain ⟨value, hvalue, hitems⟩ := Option.bind_eq_some_iff.mp hitems
        rw [Piece.due?] at hd
        split at hd
        · rename_i hlist
          cases hd
          simp only [Bool.and_eq_true, decide_eq_true_eq] at hlist
          obtain ⟨⟨hvalues, hname⟩, hbody⟩ := hlist
          cases Expr.eval_of_isTame ha hs values hvalues hvalue with
          | list htame =>
            cases hitems
            -- every turn is a scope of its own that is tame again
            refine due?_join hturns fun (item, i) hm s hr => ?_
            have hitem : TameMember (name, item) := by
              rw [TameMember, hname]
              exact htame item (List.fst_mem_of_mem_zipIdx hm)
            have hturn := hs.turn (t := ⟨name, item, i, items.length⟩) hitem
            exact due?_renderPieces ha body hturn hr hbody
        · split at hd
          · rename_i hlines
            cases hd
            rw [Bool.and_eq_true] at hlines
            cases Expr.eval_of_isTame ha hs values hlines.1 hvalue with
            | lines hl =>
              cases hitems
              -- no scope with a line in it is tame, so the turns are taken together
              exact due?_lines hlines.2 hl hturns
          · cases hd
      · cases ht
    · cases ht

theorem due?_renderPieces (ha : answer.Tame) :
    ∀ (pieces : List Piece) {scope : Scope} {text : String} {due after : List Char}, scope.Tame →
      renderPieces answer scope pieces = some text → dueAfter? due pieces = some after →
        Text.due? due text.toList = some after
  | [], _, _, _, _, _, ht, hd => by
    cases ht
    cases hd
    rfl
  | piece :: rest, scope, text, due, after, hs, ht, hd => by
    simp only [renderPieces, Option.bind_eq_bind, Option.bind_eq_some_iff] at ht
    obtain ⟨first, hf, others, ho, ht⟩ := ht
    cases ht
    rw [dueAfter?, Option.bind_eq_bind, Option.bind_eq_some_iff] at hd
    obtain ⟨between, hfirst, hrest⟩ := hd
    rw [String.toList_append, Text.due?_append, due?_renderPiece ha piece hs hf hfirst,
      Option.bind_some]
    exact due?_renderPieces ha rest hs ho hrest

end

private theorem tame_bindParameters {arguments : String → Option Json} {parameters : List String}
    {values : List (String × Json)}
    (ha : TameArguments arguments)
    (h : bindParameters arguments parameters = some values) :
    ∀ argument ∈ values, TameMember argument := by
  unfold bindParameters at h
  induction parameters generalizing values with
  | nil =>
    cases h
    exact List.forall_mem_nil _
  | cons name rest ih =>
    rw [List.mapM_cons, Option.bind_eq_bind, Option.bind_eq_some_iff] at h
    obtain ⟨first, hfirst, h⟩ := h
    rw [Option.bind_eq_bind, Option.bind_eq_some_iff] at h
    obtain ⟨others, hothers, h⟩ := h
    cases h
    obtain ⟨v, hv, rfl⟩ := Option.map_eq_some_iff.mp hfirst
    exact List.forall_mem_cons.mpr ⟨ha name v hv, ih hothers⟩

private theorem tame_answer {space : String}
    {write : String → (String → Option Json) → Option String}
    (h : ∀ part arguments text, TameArguments arguments → write part arguments = some text →
      Text.Balanced text) :
    Answer.Tame fun other part arguments =>
      if other = space then write part arguments else none := by
  intro other part arguments text ha ht
  simp only at ht
  split at ht
  · exact h part arguments text ha ht
  · cases ht

/-- Parts of a tame skeleton write balanced text, however deep calls may go. -/
theorem balanced_renderPart {s : Skeleton} (hs : s.isTame = true) {attributes : Json}
    (hattributes : TameMember (attributesName, attributes)) {depth : Nat} {name text : String}
    {arguments : String → Option Json} (ha : TameArguments arguments)
    (h : s.renderPart attributes depth name arguments = some text) : Text.Balanced text := by
  induction depth generalizing name arguments text with
  | zero => cases h
  | succ depth ih =>
    simp only [renderPart, Option.bind_eq_bind, Option.bind_eq_some_iff] at h
    obtain ⟨part, hpart, values, hvalues, h⟩ := h
    have hcheck := List.all_eq_true.mp hs part (List.mem_of_find?_eq_some hpart)
    have hscope : Scope.Tame ⟨[], values, attributes⟩ :=
      ⟨List.forall_mem_nil _, tame_bindParameters ha hvalues, hattributes⟩
    exact Text.nested_iff.mpr (due?_renderPieces (tame_answer fun _ _ _ => ih) part.body hscope h
      (of_decide_eq_true hcheck))

end Soundness

namespace Group

/-- A tame skeleton whose entries call its parts. -/
structure Tame (group : Group engine) : Prop where
  skeleton : group.templates.skeleton.isTame = true
  entries : ∀ e ∈ group.templates.entries, dueAfter? [] e.2.pieces = some []

theorem tame_ofSkeleton {s : Skeleton} (hs : s.isTame = true) (name : String)
    (instances : List String) : (ofSkeleton name instances s).Tame := by
  refine ⟨hs, fun e he => ?_⟩
  obtain ⟨part, _, rfl⟩ := List.mem_map.mp he
  rfl

/-- What is started in a tame group is balanced with tame attributes. -/
theorem Tame.balanced_render {group : Group engine} (hg : group.Tame) {name text : String}
    {part : Instance engine} {attributes : List (String × Json)} (hs : group.start name = .ok part)
    (h : (part.bindAll attributes).render = .ok text)
    (ha : ∀ member ∈ attributes, TameMember member) : Text.Balanced text := by
  unfold start at hs
  split at hs
  · cases hs
    rw [bindAll_eq, List.nil_append, Instance.render_eq_ok_iff] at h
    obtain ⟨entry, hp, ht⟩ := Option.bind_eq_some_iff.mp h
    have hrecord : TameMember (attributesName, .record attributes) := .record ha
    have hscope : Scope.Tame ⟨[], [], .record attributes⟩ :=
      ⟨List.forall_mem_nil _, List.forall_mem_nil _, hrecord⟩
    exact Text.nested_iff.mpr (due?_renderPieces
      (tame_answer fun _ _ _ => balanced_renderPart hg.skeleton hrecord) entry.pieces hscope ht
      (hg.entries _ (mem_of_lookup hp)))
  · cases hs

end Group

theorem isTame_bundled (target : Target) : target.bundledSkeleton.isTame = true := by
  cases target <;> decide +kernel

theorem isTame_memory : Memory.skeleton.isTame = true := by
  decide +kernel

end ClassScaffold.Skeleton
