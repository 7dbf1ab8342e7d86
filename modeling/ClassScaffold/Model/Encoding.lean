import ClassScaffold.Diagram.Codec
import ClassScaffold.Model

namespace ClassScaffold

def Origin.toJson : Origin → Json
  | .declared => .text "Declared"
  | .flattened => .text "Flattened"
  | .lengthOf owner => .record [("Synthetic", .record [("owner", .text owner)])]

def Field.toJson (f : Field) : Json :=
  .record [("id", .text f.id), ("name", .text f.name), ("ty", f.type.toJson),
    ("access", f.access.toJson), ("is_static", .bool f.isStatic),
    ("generate_getter", .bool f.hasGetter), ("generate_setter", .bool f.hasSetter),
    ("setter_parameters", .list (f.setterParameters.map Parameter.toJson)),
    ("origin", f.origin.toJson)]

def ModelParent.toJson (p : ModelParent) : Json :=
  .record [("name", .text p.name), ("access", p.access.toJson),
    ("is_interface", .bool p.isInterface)]

def ModelConstructor.toJson (c : ModelConstructor) : Json :=
  .record [("name", .text c.name), ("fields", .list (c.fields.map Json.nat)),
    ("body_code", .optional .text c.body), ("is_copy_constructor", .bool c.isCopy),
    ("signature", .text c.signature)]

def ModelDestructor.toJson (d : ModelDestructor) : Json :=
  .record [("fields", .list (d.fields.map Json.nat))]

def ModelClass.toJson (c : ModelClass) : Json :=
  .record [("id", .text c.id), ("name", .text c.name), ("is_interface", .bool c.isInterface),
    ("properties", .list (c.fields.map Field.toJson)),
    ("methods", .list (c.methods.map Method.toJson)),
    ("overridden_methods", .list (c.overriddenMethods.map Method.toJson)),
    ("constructors", .list (c.constructors.map ModelConstructor.toJson)),
    ("destructor", .optional ModelDestructor.toJson c.destructor),
    ("parents", .list (c.parents.map ModelParent.toJson)), ("friend_classes", .texts c.friends),
    ("template_parameters", .texts c.templateParameters),
    ("package_path", .optional .text c.packagePath),
    ("generate_copy_constructor", .bool c.copyConstructor),
    ("generate_copy_assign_operator", .bool c.copyAssignment)]

def ModelPackage.toJson (p : ModelPackage) : Json :=
  .record [("id", .text p.id), ("name", .text p.name), ("path", .optional .text p.path)]

def Model.toJson (m : Model) : Json :=
  .record [("target", m.target.toJson), ("classes", .list (m.classes.map ModelClass.toJson)),
    ("packages", .list (m.packages.map ModelPackage.toJson))]

end ClassScaffold
