import ClassScaffold.Resolution.LengthFields
import ClassScaffold.Validation

/-! Constructors and destructors: ids of properties become positions of fields, and no two
constructors of a class may look the same. -/
namespace ClassScaffold

def fieldPosition? (fields : List Field) (id : String) : Option Nat :=
  fields.findIdx? (fun f => f.id == id)

def lengthPositions (fields : List Field) (owner : String) : List Nat :=
  fields.zipIdx.filterMap fun (f, i) => if f.isLengthOf owner then some i else none

/-- The chosen positions, then those of the given ones that are new. -/
def addPositions (chosen : List Nat) : List Nat → List Nat
  | [] => chosen
  | i :: rest =>
    addPositions (if chosen.contains i then chosen else chosen ++ [i]) rest

/-- The listed positions, then for each of them the lengths that it owns, each once. -/
def withLengthPositions (fields : List Field) (listed : List Nat) : List Nat :=
  (listed.filterMap (fields[·]?)).foldl
    (fun chosen f => addPositions chosen (lengthPositions fields f.id)) listed

def copySignature (className : String) : String :=
  "const " ++ className ++ "&"

namespace Constructor

/-- The positions of what a constructor initializes, in parameter order. -/
def positions (fields : List Field) (c : Constructor) : List Nat :=
  withLengthPositions fields (c.fields.filterMap (fieldPosition? fields))

/-- The spellings of the parameter types, by which constructors are told apart. -/
def signature (className : String) (fields : List Field) (c : Constructor) : String :=
  if c.isCopy then copySignature className
  else ", ".intercalate (((c.positions fields).filterMap (fields[·]?)).map (·.type.signature))

def toModel (className : String) (fields : List Field) (c : Constructor) : ModelConstructor where
  name := c.name
  fields := c.positions fields
  body := c.body
  isCopy := c.isCopy
  signature := c.signature className fields

def unknownFields (className : String) (fields : List Field) (c : Constructor) : List Rejection :=
  c.fields.flatMap fun id =>
    require (fieldPosition? fields id).isSome
      (.reference (.unknownInitializedField className c.name id))

end Constructor

namespace Destructor

def toModel (fields : List Field) (d : Destructor) : ModelDestructor where
  fields := d.fields.filterMap (fieldPosition? fields)

def unknownFields (className : String) (fields : List Field) (d : Destructor) : List Rejection :=
  d.fields.flatMap fun id =>
    require (fieldPosition? fields id).isSome
      (.reference (.unknownReleasedField className id))

end Destructor

/-- Violations of constructors in order, where `seen` holds the signatures that are taken. -/
def constructorViolations (className : String) (fields : List Field) (seen : List String) :
    List Constructor → List Rejection
  | [] => []
  | c :: rest =>
    let signature := c.signature className fields
    c.unknownFields className fields ++
      require (!seen.contains signature)
        (.structural (.duplicateConstructor className signature)) ++
      constructorViolations className fields (signature :: seen) rest

namespace ClassNode

/-- Whether a copy constructor is written that no constructor of the class declares. -/
def hasImplicitCopy (target : Target) (node : ClassNode) : Bool :=
  target.managesMemory && !node.isInterface && node.body.copyConstructor

def takenSignatures (target : Target) (node : ClassNode) : List String :=
  if node.hasImplicitCopy target then [copySignature node.name] else []

def lifecycleViolations (d : Diagram) (node : ClassNode) : List Rejection :=
  let fields := d.fields node
  constructorViolations node.name fields (node.takenSignatures d.target) node.body.constructors ++
    node.body.destructor.toList.flatMap (Destructor.unknownFields node.name fields)

end ClassNode

end ClassScaffold
