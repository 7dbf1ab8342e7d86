import ClassScaffold.Skeleton.Basic

namespace ClassScaffold.Skeleton

mutual

def Expr.same : Expr → Expr → Bool
  | .path root steps, .path root' steps' => root == root' && steps == steps'
  | .text s, .text s' => s == s'
  | .int n, .int n' => n == n'
  | .bool b, .bool b' => b == b'
  | .call space part arguments, .call space' part' arguments' =>
    space == space' && part == part' && sameArguments arguments arguments'
  | .function, .function => true
  | .filtered e filter arguments, .filtered e' filter' arguments' =>
    e.same e' && filter == filter' && sameArguments arguments arguments'
  | .negation e, .negation e' => e.same e'
  | .both a b, .both a' b' => a.same a' && b.same b'
  | .either a b, .either a' b' => a.same a' && b.same b'
  | _, _ => false

def sameArguments : List (String × Expr) → List (String × Expr) → Bool
  | [], [] => true
  | (name, e) :: rest, (name', e') :: rest' =>
    name == name' && e.same e' && sameArguments rest rest'
  | _, _ => false

end

mutual

theorem Expr.eq_of_same : ∀ {e e' : Expr}, e.same e' = true → e = e'
  | .path _ _, e', h | .text _, e', h | .int _, e', h | .bool _, e', h | .function, e', h => by
    cases e' <;> simp_all [Expr.same]
  | .call _ _ arguments, e', h => by
    cases e' <;> simp only [Expr.same, Bool.and_eq_true, beq_iff_eq, Bool.false_eq_true] at h
    obtain ⟨⟨rfl, rfl⟩, h⟩ := h
    rw [eq_of_sameArguments h]
  | .filtered e _ arguments, e', h => by
    cases e' <;> simp only [Expr.same, Bool.and_eq_true, beq_iff_eq, Bool.false_eq_true] at h
    obtain ⟨⟨he, rfl⟩, h⟩ := h
    rw [Expr.eq_of_same he, eq_of_sameArguments h]
  | .negation e, e', h => by
    cases e' <;> simp only [Expr.same, Bool.false_eq_true] at h
    rw [Expr.eq_of_same h]
  | .both a b, e', h | .either a b, e', h => by
    cases e' <;> simp only [Expr.same, Bool.and_eq_true, Bool.false_eq_true] at h
    rw [Expr.eq_of_same h.1, Expr.eq_of_same h.2]

theorem eq_of_sameArguments : ∀ {arguments arguments' : List (String × Expr)},
    sameArguments arguments arguments' = true → arguments = arguments'
  | [], arguments', h => by
    cases arguments' <;> simp_all [sameArguments]
  | (name, e) :: rest, arguments', h => by
    rcases arguments' with _ | ⟨⟨name', e'⟩, rest'⟩ <;>
      simp only [sameArguments, Bool.and_eq_true, beq_iff_eq, Bool.false_eq_true] at h
    obtain ⟨⟨rfl, he⟩, h⟩ := h
    rw [Expr.eq_of_same he, eq_of_sameArguments h]

end

mutual

theorem Expr.same_self : ∀ e : Expr, e.same e = true
  | .path .. | .text _ | .int _ | .bool _ | .function => by simp [Expr.same]
  | .call _ _ arguments => by simp [Expr.same, sameArguments_self arguments]
  | .filtered e _ arguments => by simp [Expr.same, e.same_self, sameArguments_self arguments]
  | .negation e => by simp [Expr.same, e.same_self]
  | .both a b | .either a b => by simp [Expr.same, a.same_self, b.same_self]

theorem sameArguments_self : ∀ arguments, sameArguments arguments arguments = true
  | [] => rfl
  | (_, e) :: rest => by simp [sameArguments, e.same_self, sameArguments_self rest]

end

instance : DecidableEq Expr := fun e e' =>
  decidable_of_iff (e.same e' = true) ⟨Expr.eq_of_same, fun h => h ▸ e.same_self⟩

mutual

def Piece.same : Piece → Piece → Bool
  | .text s, .text s' => s == s'
  | .print e, .print e' => e == e'
  | .branch condition yes no, .branch condition' yes' no' =>
    condition == condition' && samePieces yes yes' && samePieces no no'
  | .loop item values body, .loop item' values' body' =>
    item == item' && values == values' && samePieces body body'
  | _, _ => false

def samePieces : List Piece → List Piece → Bool
  | [], [] => true
  | piece :: rest, piece' :: rest' => piece.same piece' && samePieces rest rest'
  | _, _ => false

end

mutual

theorem Piece.eq_of_same : ∀ {piece piece' : Piece}, piece.same piece' = true → piece = piece'
  | .text _, piece', h | .print _, piece', h => by
    cases piece' <;> simp_all [Piece.same]
  | .branch condition yes no, piece', h => by
    cases piece' <;> simp only [Piece.same, Bool.and_eq_true, beq_iff_eq, Bool.false_eq_true] at h
    obtain ⟨⟨rfl, hy⟩, hn⟩ := h
    rw [eq_of_samePieces hy, eq_of_samePieces hn]
  | .loop item values body, piece', h => by
    cases piece' <;> simp only [Piece.same, Bool.and_eq_true, beq_iff_eq, Bool.false_eq_true] at h
    obtain ⟨⟨rfl, rfl⟩, hb⟩ := h
    rw [eq_of_samePieces hb]

theorem eq_of_samePieces : ∀ {pieces pieces' : List Piece},
    samePieces pieces pieces' = true → pieces = pieces'
  | [], pieces', h => by
    cases pieces' <;> simp_all [samePieces]
  | piece :: rest, pieces', h => by
    cases pieces' <;> simp only [samePieces, Bool.and_eq_true, Bool.false_eq_true] at h
    rw [Piece.eq_of_same h.1, eq_of_samePieces h.2]

end

mutual

theorem Piece.same_self : ∀ piece : Piece, piece.same piece = true
  | .text _ | .print _ => by simp [Piece.same]
  | .branch _ yes no => by simp [Piece.same, samePieces_self yes, samePieces_self no]
  | .loop _ _ body => by simp [Piece.same, samePieces_self body]

theorem samePieces_self : ∀ pieces, samePieces pieces pieces = true
  | [] => rfl
  | piece :: rest => by simp [samePieces, piece.same_self, samePieces_self rest]

end

instance : DecidableEq Piece := fun piece piece' =>
  decidable_of_iff (piece.same piece' = true) ⟨Piece.eq_of_same, fun h => h ▸ piece.same_self⟩

deriving instance DecidableEq for Part

end ClassScaffold.Skeleton

deriving instance DecidableEq for ClassScaffold.Skeleton
