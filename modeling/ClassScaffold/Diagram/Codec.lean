import ClassScaffold.Diagram
import ClassScaffold.Json.Decoding

/-! The JSON form of diagrams. Writing gives every field; reading takes the fields that have a
default as optional. -/
namespace ClassScaffold

open Json (slots required orElse nullable listOf choice uint32?)

namespace Target

def toJson (t : Target) : Json :=
  .text t.name

def ofJson? : Json → Option Target :=
  choice ofName?

end Target

namespace Access

def toJson (a : Access) : Json :=
  .text a.name

def ofJson? : Json → Option Access :=
  choice ofName?

end Access

namespace Pointer

def toJson (p : Pointer) : Json :=
  .record [("isConst", .bool p.isConst), ("isArray", .bool p.isArray),
    ("arrayLengthFieldName", .text p.lengthField)]

def ofJson? (j : Json) : Option Pointer := do
  let [isConst, isArray, lengthField] ← slots ["isConst", "isArray", "arrayLengthFieldName"] j
    | none
  return {
    isConst := ← orElse false Json.bool? isConst
    isArray := ← orElse false Json.bool? isArray
    lengthField := ← orElse "" Json.text? lengthField }

end Pointer

namespace Dimension

def toJson (d : Dimension) : Json :=
  .record [("maxLength", .nat d.maxLength.toNat), ("arrayLengthFieldName", .text d.lengthField)]

def ofJson? (j : Json) : Option Dimension := do
  let [maxLength, lengthField] ← slots ["maxLength", "arrayLengthFieldName"] j | none
  return {
    maxLength := ← required uint32? maxLength
    lengthField := ← required Json.text? lengthField }

end Dimension

namespace DataType

def toJson (t : DataType) : Json :=
  .record [("name", .text t.name), ("isConst", .bool t.isConst),
    ("pointerList", .list (t.pointers.map Pointer.toJson)),
    ("arrayDimensions", .list (t.dimensions.map Dimension.toJson))]

def ofJson? (j : Json) : Option DataType := do
  let [name, isConst, pointers, dimensions] ←
    slots ["name", "isConst", "pointerList", "arrayDimensions"] j | none
  return {
    name := ← required Json.text? name
    isConst := ← orElse false Json.bool? isConst
    pointers := ← orElse [] (listOf Pointer.ofJson?) pointers
    dimensions := ← orElse [] (listOf Dimension.ofJson?) dimensions }

end DataType

namespace Parameter

def toJson (p : Parameter) : Json :=
  .record [("id", .text p.id), ("name", .text p.name), ("type", p.type.toJson),
    ("isRef", .bool p.isRef), ("isConst", .bool p.isConst)]

def ofJson? (j : Json) : Option Parameter := do
  let [id, name, type, isRef, isConst] ← slots ["id", "name", "type", "isRef", "isConst"] j | none
  return {
    id := ← orElse "" Json.text? id
    name := ← required Json.text? name
    type := ← required DataType.ofJson? type
    isRef := ← orElse false Json.bool? isRef
    isConst := ← orElse false Json.bool? isConst }

end Parameter

namespace Property

def toJson (p : Property) : Json :=
  .record [("id", .text p.id), ("name", .text p.name), ("type", p.type.toJson),
    ("accessModifier", p.access.toJson), ("isStatic", .bool p.isStatic),
    ("generateGetter", .bool p.hasGetter), ("generateSetter", .bool p.hasSetter)]

def ofJson? (j : Json) : Option Property := do
  let [id, name, type, access, isStatic, hasGetter, hasSetter] ←
    slots ["id", "name", "type", "accessModifier", "isStatic", "generateGetter",
      "generateSetter"] j | none
  return {
    id := ← required Json.text? id
    name := ← required Json.text? name
    type := ← required DataType.ofJson? type
    access := ← orElse .pub Access.ofJson? access
    isStatic := ← orElse false Json.bool? isStatic
    hasGetter := ← orElse false Json.bool? hasGetter
    hasSetter := ← orElse false Json.bool? hasSetter }

end Property

namespace Method

def toJson (m : Method) : Json :=
  .record [("name", .text m.name), ("accessModifier", m.access.toJson),
    ("returnType", m.returnType.toJson), ("parameters", .list (m.parameters.map Parameter.toJson)),
    ("isVirtual", .bool m.isVirtual), ("isStatic", .bool m.isStatic)]

def ofJson? (j : Json) : Option Method := do
  let [name, access, returnType, parameters, isVirtual, isStatic] ←
    slots ["name", "accessModifier", "returnType", "parameters", "isVirtual", "isStatic"] j | none
  return {
    name := ← required Json.text? name
    access := ← orElse .pub Access.ofJson? access
    returnType := ← required DataType.ofJson? returnType
    parameters := ← orElse [] (listOf Parameter.ofJson?) parameters
    isVirtual := ← orElse false Json.bool? isVirtual
    isStatic := ← orElse false Json.bool? isStatic }

end Method

namespace Constructor

def toJson (c : Constructor) : Json :=
  .record [("name", .text c.name), ("initializedFieldsIds", .texts c.fields),
    ("bodyCode", .optional .text c.body), ("isCopyConstructor", .bool c.isCopy)]

def ofJson? (j : Json) : Option Constructor := do
  let [name, fields, body, isCopy] ←
    slots ["name", "initializedFieldsIds", "bodyCode", "isCopyConstructor"] j | none
  return {
    name := ← orElse "" Json.text? name
    fields := ← orElse [] (listOf Json.text?) fields
    body := ← orElse none (nullable Json.text?) body
    isCopy := ← orElse false Json.bool? isCopy }

end Constructor

namespace Destructor

def toJson (d : Destructor) : Json :=
  .record [("deletedFieldsIds", .texts d.fields)]

def ofJson? (j : Json) : Option Destructor := do
  let [fields] ← slots ["deletedFieldsIds"] j | none
  return { fields := ← orElse [] (listOf Json.text?) fields }

end Destructor

namespace ClassBody

def toJson (c : ClassBody) : Json :=
  .record [("name", .text c.name), ("properties", .list (c.properties.map Property.toJson)),
    ("methods", .list (c.methods.map Method.toJson)),
    ("constructors", .list (c.constructors.map Constructor.toJson)),
    ("destructor", .optional Destructor.toJson c.destructor),
    ("friendClassIds", .texts c.friends), ("templateParameters", .texts c.templateParameters),
    ("generateCopyConstructor", .bool c.copyConstructor),
    ("generateCopyAssignOperator", .bool c.copyAssignment)]

def ofJson? (j : Json) : Option ClassBody := do
  let [name, properties, methods, constructors, destructor, friends, templateParameters,
      copyConstructor, copyAssignment] ←
    slots ["name", "properties", "methods", "constructors", "destructor", "friendClassIds",
      "templateParameters", "generateCopyConstructor", "generateCopyAssignOperator"] j | none
  return {
    name := ← required Json.text? name
    properties := ← orElse [] (listOf Property.ofJson?) properties
    methods := ← orElse [] (listOf Method.ofJson?) methods
    constructors := ← orElse [] (listOf Constructor.ofJson?) constructors
    destructor := ← orElse none (nullable Destructor.ofJson?) destructor
    friends := ← orElse [] (listOf Json.text?) friends
    templateParameters := ← orElse [] (listOf Json.text?) templateParameters
    copyConstructor := ← orElse false Json.bool? copyConstructor
    copyAssignment := ← orElse false Json.bool? copyAssignment }

end ClassBody

namespace ParentEdge

def toJson (p : ParentEdge) : Json :=
  .record [("id", .text p.id), ("access", p.access.toJson)]

def ofJson? (j : Json) : Option ParentEdge := do
  let [id, access] ← slots ["id", "access"] j | none
  return {
    id := ← required Json.text? id
    access := ← orElse .pub Access.ofJson? access }

end ParentEdge

namespace ClassNode

def toJson (n : ClassNode) : Json :=
  .record [("id", .text n.id), ("packageId", .optional .text n.packageId),
    ("parents", .list (n.parents.map ParentEdge.toJson)), ("isInterface", .bool n.isInterface),
    ("classData", n.body.toJson)]

def ofJson? (j : Json) : Option ClassNode := do
  let [id, packageId, parents, isInterface, body] ←
    slots ["id", "packageId", "parents", "isInterface", "classData"] j | none
  return {
    id := ← required Json.text? id
    packageId := ← orElse none (nullable Json.text?) packageId
    parents := ← orElse [] (listOf ParentEdge.ofJson?) parents
    isInterface := ← orElse false Json.bool? isInterface
    body := ← required ClassBody.ofJson? body }

end ClassNode

namespace PackageBody

def toJson (p : PackageBody) : Json :=
  .record [("name", .text p.name), ("childrenIds", .texts p.children)]

def ofJson? (j : Json) : Option PackageBody := do
  let [name, children] ← slots ["name", "childrenIds"] j | none
  return {
    name := ← required Json.text? name
    children := ← orElse [] (listOf Json.text?) children }

end PackageBody

namespace PackageNode

def toJson (n : PackageNode) : Json :=
  .record [("id", .text n.id), ("parentPackageId", .text n.parentId),
    ("packageData", n.body.toJson)]

def ofJson? (j : Json) : Option PackageNode := do
  let [id, parentId, body] ← slots ["id", "parentPackageId", "packageData"] j | none
  return {
    id := ← required Json.text? id
    parentId := ← orElse "" Json.text? parentId
    body := ← required PackageBody.ofJson? body }

end PackageNode

namespace Diagram

def toJson (d : Diagram) : Json :=
  .record [("classNodes", .list (d.classes.map ClassNode.toJson)),
    ("packageNodes", .list (d.packages.map PackageNode.toJson)), ("language", d.target.toJson)]

def ofJson? (j : Json) : Option Diagram := do
  let [classes, packages, target] ← slots ["classNodes", "packageNodes", "language"] j | none
  return {
    classes := ← orElse [] (listOf ClassNode.ofJson?) classes
    packages := ← orElse [] (listOf PackageNode.ofJson?) packages
    target := ← required Target.ofJson? target }

end Diagram

end ClassScaffold
