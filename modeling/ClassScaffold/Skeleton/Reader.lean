import ClassScaffold.Skeleton.Tag

namespace ClassScaffold.Skeleton

mutual

/-- Pieces up to the tag that does not start one, which is left in the rest. -/
def readPieces : Nat → List Item → Option (List Piece × List Item)
  | 0, _ => none
  | _ + 1, [] => some ([], [])
  | fuel + 1, .text s :: rest => do
    let (pieces, rest) ← readPieces fuel rest
    return (.text s :: pieces, rest)
  | fuel + 1, .tag .comment _ _ :: rest => readPieces fuel rest
  | fuel + 1, .tag (.output e) _ _ :: rest => do
    let (pieces, rest) ← readPieces fuel rest
    return (.print e :: pieces, rest)
  | fuel + 1, .tag (.branch condition) _ _ :: rest => do
    let (piece, rest) ← readBranch fuel condition rest
    let (pieces, rest) ← readPieces fuel rest
    return (piece :: pieces, rest)
  | fuel + 1, .tag (.loop item values) _ _ :: rest => do
    match ← readPieces fuel rest with
    | (body, .tag .loopEnd _ _ :: rest) =>
      let (pieces, rest) ← readPieces fuel rest
      return (.loop item values body :: pieces, rest)
    | _ => none
  | _ + 1, items => some ([], items)

/-- A branch after its condition, with everything up to its end. -/
def readBranch : Nat → Expr → List Item → Option (Piece × List Item)
  | 0, _, _ => none
  | fuel + 1, condition, items => do
    match ← readPieces fuel items with
    | (yes, .tag .branchEnd _ _ :: rest) => return (.branch condition yes [], rest)
    | (yes, .tag .otherwise _ _ :: rest) =>
      match ← readPieces fuel rest with
      | (no, .tag .branchEnd _ _ :: rest) => return (.branch condition yes no, rest)
      | _ => none
    | (yes, .tag (.otherBranch other) _ _ :: rest) =>
      let (no, rest) ← readBranch fuel other rest
      return (.branch condition yes [no], rest)
    | _ => none

end

/-- Enough steps to read pieces from so many items. -/
def pieceSteps (items : List Item) : Nat :=
  2 * items.length + 4

/-- The pieces that the text spells, unless it is malformed or holds parts. -/
def pieces? (cs : List Char) : Option (List Piece) := do
  let items ← scan cs
  match ← readPieces (pieceSteps items) items with
  | (pieces, []) => some pieces
  | _ => none

/-- The parts of a skeleton. What stands between them has to be readable and is not part of any. -/
def readParts : Nat → List Item → Option (List Part)
  | 0, _ => none
  | _ + 1, [] => some []
  | fuel + 1, .tag (.part name parameters) _ _ :: rest => do
    match ← readPieces fuel rest with
    | (body, .tag .partEnd _ _ :: rest) =>
      let parts ← readParts fuel rest
      guard (parts.all fun p => p.name != name)
      return ⟨name, parameters, body⟩ :: parts
    | _ => none
  | fuel + 1, items => do
    match ← readPieces fuel items with
    | (_, .tag (.part name parameters) before after :: rest) =>
      readParts fuel (.tag (.part name parameters) before after :: rest)
    | (_, []) => some []
    | _ => none

/-- The skeleton that the characters spell, unless it is malformed or names two parts alike. -/
def ofChars? (cs : List Char) : Option Skeleton := do
  let items ← scan cs
  return ⟨← readParts (pieceSteps items) items⟩

def parse? (s : String) : Option Skeleton :=
  ofChars? s.toList

end ClassScaffold.Skeleton
