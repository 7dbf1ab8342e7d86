import ClassScaffold.Diagram.Codec
import ClassScaffold.Proofs.Json.Schema
import ClassScaffold.Proofs.Json.Spelling

/-! Diagrams come back from their JSON form, also when its structures are written in another way. -/
namespace ClassScaffold

open Schema

theorem Target.decodes : Decodes .plain Target.toJson Target.ofJson? :=
  .plain ofName?_name

theorem Access.decodes : Decodes .plain Access.toJson Access.ofJson? :=
  .plain ofName?_name

namespace Pointer

def schema : Schema :=
  .structure [("isConst", some (.bool false), .plain), ("isArray", some (.bool false), .plain),
    ("arrayLengthFieldName", some (.text ""), .plain)]

theorem decodes : Decodes schema toJson ofJson? where
  same p :=
    .whole <| .cons (.given .plain) <| .cons (.given .plain) <| .cons (.given .plain) .nil
  reads h := by
    obtain ⟨slots, hslots, h⟩ := h.slots_eq (by decide)
    simp only [altersFields_cons_iff, altersFields_nil_iff, true_and, List.map_cons,
      List.map_nil] at h hslots
    obtain ⟨isConst, _, rfl, hconst, isArray, _, rfl, harray, lengthField, _, rfl, hlength,
      rfl⟩ := h
    simp [ofJson?, hslots, Decodes.bool.orElse false hconst, Decodes.bool.orElse false harray,
      Decodes.text.orElse "" hlength]

end Pointer

namespace Dimension

def schema : Schema :=
  .structure [("maxLength", none, .plain), ("arrayLengthFieldName", none, .plain)]

theorem decodes : Decodes schema toJson ofJson? where
  same d :=
    .whole <| .cons (.given .plain) <| .cons (.given .plain) .nil
  reads h := by
    obtain ⟨slots, hslots, h⟩ := h.slots_eq (by decide)
    simp only [altersFields_cons_iff, altersFields_nil_iff, true_and, List.map_cons,
      List.map_nil] at h hslots
    obtain ⟨maxLength, _, rfl, hmaxlength, lengthField, _, rfl, hlength, rfl⟩ := h
    simp [ofJson?, hslots, Decodes.uint32.required hmaxlength, Decodes.text.required hlength]

end Dimension

namespace DataType

def schema : Schema :=
  .structure [("name", none, .plain), ("isConst", some (.bool false), .plain),
    ("pointerList", some (.list []), .list Pointer.schema),
    ("arrayDimensions", some (.list []), .list Dimension.schema)]

theorem decodes : Decodes schema toJson ofJson? where
  same t :=
    .whole <| .cons (.given .plain) <| .cons (.given .plain) <|
      .cons (.given (Pointer.decodes.list.same _)) <|
      .cons (.given (Dimension.decodes.list.same _)) .nil
  reads h := by
    obtain ⟨slots, hslots, h⟩ := h.slots_eq (by decide)
    simp only [altersFields_cons_iff, altersFields_nil_iff, true_and, List.map_cons,
      List.map_nil] at h hslots
    obtain ⟨name, _, rfl, hname, isConst, _, rfl, hconst, pointers, _, rfl, hpointers, dimensions,
      _, rfl, hdimensions, rfl⟩ := h
    simp [ofJson?, hslots, Decodes.text.required hname, Decodes.bool.orElse false hconst,
      Pointer.decodes.list.orElse [] hpointers, Dimension.decodes.list.orElse [] hdimensions]

end DataType

namespace Parameter

def schema : Schema :=
  .structure [("id", some (.text ""), .plain), ("name", none, .plain),
    ("type", none, DataType.schema), ("isRef", some (.bool false), .plain),
    ("isConst", some (.bool false), .plain)]

theorem decodes : Decodes schema toJson ofJson? where
  same p :=
    .whole <| .cons (.given .plain) <| .cons (.given .plain) <|
      .cons (.given (DataType.decodes.same _)) <| .cons (.given .plain) <|
      .cons (.given .plain) .nil
  reads h := by
    obtain ⟨slots, hslots, h⟩ := h.slots_eq (by decide)
    simp only [altersFields_cons_iff, altersFields_nil_iff, true_and, List.map_cons,
      List.map_nil] at h hslots
    obtain ⟨id, _, rfl, hid, name, _, rfl, hname, type, _, rfl, htype, isRef, _, rfl, href,
      isConst, _, rfl, hconst, rfl⟩ := h
    simp [ofJson?, hslots, Decodes.text.orElse "" hid, Decodes.text.required hname,
      DataType.decodes.required htype, Decodes.bool.orElse false href,
      Decodes.bool.orElse false hconst]

end Parameter

namespace Property

def schema : Schema :=
  .structure [("id", none, .plain), ("name", none, .plain), ("type", none, DataType.schema),
    ("accessModifier", some (.text "public"), .plain), ("isStatic", some (.bool false), .plain),
    ("generateGetter", some (.bool false), .plain),
    ("generateSetter", some (.bool false), .plain)]

theorem decodes : Decodes schema toJson ofJson? where
  same p :=
    .whole <| .cons (.given .plain) <| .cons (.given .plain) <|
      .cons (.given (DataType.decodes.same _)) <| .cons (.given .plain) <|
      .cons (.given .plain) <| .cons (.given .plain) <| .cons (.given .plain) .nil
  reads h := by
    obtain ⟨slots, hslots, h⟩ := h.slots_eq (by decide)
    simp only [altersFields_cons_iff, altersFields_nil_iff, true_and, List.map_cons,
      List.map_nil] at h hslots
    obtain ⟨id, _, rfl, hid, name, _, rfl, hname, type, _, rfl, htype, access, _, rfl, haccess,
      isStatic, _, rfl, hstatic, hasGetter, _, rfl, hgetter, hasSetter, _, rfl, hsetter, rfl⟩ := h
    simp [ofJson?, hslots, Decodes.text.required hid, Decodes.text.required hname,
      DataType.decodes.required htype, Access.decodes.orElse .pub haccess,
      Decodes.bool.orElse false hstatic, Decodes.bool.orElse false hgetter,
      Decodes.bool.orElse false hsetter]

end Property

namespace Method

def schema : Schema :=
  .structure [("name", none, .plain), ("accessModifier", some (.text "public"), .plain),
    ("returnType", none, DataType.schema),
    ("parameters", some (.list []), .list Parameter.schema),
    ("isVirtual", some (.bool false), .plain), ("isStatic", some (.bool false), .plain)]

theorem decodes : Decodes schema toJson ofJson? where
  same m :=
    .whole <| .cons (.given .plain) <| .cons (.given .plain) <|
      .cons (.given (DataType.decodes.same _)) <|
      .cons (.given (Parameter.decodes.list.same _)) <| .cons (.given .plain) <|
      .cons (.given .plain) .nil
  reads h := by
    obtain ⟨slots, hslots, h⟩ := h.slots_eq (by decide)
    simp only [altersFields_cons_iff, altersFields_nil_iff, true_and, List.map_cons,
      List.map_nil] at h hslots
    obtain ⟨name, _, rfl, hname, access, _, rfl, haccess, returnType, _, rfl, hreturntype,
      parameters, _, rfl, hparameters, isVirtual, _, rfl, hvirtual, isStatic, _, rfl, hstatic,
      rfl⟩ := h
    simp [ofJson?, hslots, Decodes.text.required hname, Access.decodes.orElse .pub haccess,
      DataType.decodes.required hreturntype, Parameter.decodes.list.orElse [] hparameters,
      Decodes.bool.orElse false hvirtual, Decodes.bool.orElse false hstatic]

end Method

namespace Constructor

def schema : Schema :=
  .structure [("name", some (.text ""), .plain),
    ("initializedFieldsIds", some (.list []), .list .plain),
    ("bodyCode", some .null, .nullable .plain), ("isCopyConstructor", some (.bool false), .plain)]

theorem decodes : Decodes schema toJson ofJson? where
  same c :=
    .whole <| .cons (.given .plain) <| .cons (.given (Decodes.texts.same _)) <|
      .cons (.given ((Decodes.text.nullable nofun).same _)) <| .cons (.given .plain) .nil
  reads h := by
    obtain ⟨slots, hslots, h⟩ := h.slots_eq (by decide)
    simp only [altersFields_cons_iff, altersFields_nil_iff, true_and, List.map_cons,
      List.map_nil] at h hslots
    obtain ⟨name, _, rfl, hname, fields, _, rfl, hfields, body, _, rfl, hbody, isCopy, _, rfl,
      hcopy, rfl⟩ := h
    simp [ofJson?, hslots, Decodes.text.orElse "" hname, Decodes.texts.orElse [] hfields,
      (Decodes.text.nullable nofun).orElse none hbody, Decodes.bool.orElse false hcopy]

end Constructor

namespace Destructor

def schema : Schema :=
  .structure [("deletedFieldsIds", some (.list []), .list .plain)]

theorem decodes : Decodes schema toJson ofJson? where
  same d :=
    .whole <| .cons (.given (Decodes.texts.same _)) .nil
  reads h := by
    obtain ⟨slots, hslots, h⟩ := h.slots_eq (by decide)
    simp only [altersFields_cons_iff, altersFields_nil_iff, true_and, List.map_cons,
      List.map_nil] at h hslots
    obtain ⟨fields, _, rfl, hfields, rfl⟩ := h
    simp [ofJson?, hslots, Decodes.texts.orElse [] hfields]

end Destructor

namespace ClassBody

def schema : Schema :=
  .structure [("name", none, .plain), ("properties", some (.list []), .list Property.schema),
    ("methods", some (.list []), .list Method.schema),
    ("constructors", some (.list []), .list Constructor.schema),
    ("destructor", some .null, .nullable Destructor.schema),
    ("friendClassIds", some (.list []), .list .plain),
    ("templateParameters", some (.list []), .list .plain),
    ("generateCopyConstructor", some (.bool false), .plain),
    ("generateCopyAssignOperator", some (.bool false), .plain)]

theorem decodes : Decodes schema toJson ofJson? where
  same c :=
    .whole <| .cons (.given .plain) <| .cons (.given (Property.decodes.list.same _)) <|
      .cons (.given (Method.decodes.list.same _)) <|
      .cons (.given (Constructor.decodes.list.same _)) <|
      .cons (.given ((Destructor.decodes.nullable nofun).same _)) <|
      .cons (.given (Decodes.texts.same _)) <| .cons (.given (Decodes.texts.same _)) <|
      .cons (.given .plain) <| .cons (.given .plain) .nil
  reads h := by
    obtain ⟨slots, hslots, h⟩ := h.slots_eq (by decide)
    simp only [altersFields_cons_iff, altersFields_nil_iff, true_and, List.map_cons,
      List.map_nil] at h hslots
    obtain ⟨name, _, rfl, hname, properties, _, rfl, hproperties, methods, _, rfl, hmethods,
      constructors, _, rfl, hconstructors, destructor, _, rfl, hdestructor, friends, _, rfl,
      hfriends, templateParameters, _, rfl, htemplate, copyConstructor, _, rfl, hcopy,
      copyAssignment, _, rfl, hassign, rfl⟩ := h
    simp [ofJson?, hslots, Decodes.text.required hname,
      Property.decodes.list.orElse [] hproperties, Method.decodes.list.orElse [] hmethods,
      Constructor.decodes.list.orElse [] hconstructors,
      (Destructor.decodes.nullable nofun).orElse none hdestructor,
      Decodes.texts.orElse [] hfriends, Decodes.texts.orElse [] htemplate,
      Decodes.bool.orElse false hcopy, Decodes.bool.orElse false hassign]

end ClassBody

namespace ParentEdge

def schema : Schema :=
  .structure [("id", none, .plain), ("access", some (.text "public"), .plain)]

theorem decodes : Decodes schema toJson ofJson? where
  same p :=
    .whole <| .cons (.given .plain) <| .cons (.given .plain) .nil
  reads h := by
    obtain ⟨slots, hslots, h⟩ := h.slots_eq (by decide)
    simp only [altersFields_cons_iff, altersFields_nil_iff, true_and, List.map_cons,
      List.map_nil] at h hslots
    obtain ⟨id, _, rfl, hid, access, _, rfl, haccess, rfl⟩ := h
    simp [ofJson?, hslots, Decodes.text.required hid, Access.decodes.orElse .pub haccess]

end ParentEdge

namespace ClassNode

def schema : Schema :=
  .structure [("id", none, .plain), ("packageId", some .null, .nullable .plain),
    ("parents", some (.list []), .list ParentEdge.schema),
    ("isInterface", some (.bool false), .plain), ("classData", none, ClassBody.schema)]

theorem decodes : Decodes schema toJson ofJson? where
  same n :=
    .whole <| .cons (.given .plain) <| .cons (.given ((Decodes.text.nullable nofun).same _)) <|
      .cons (.given (ParentEdge.decodes.list.same _)) <| .cons (.given .plain) <|
      .cons (.given (ClassBody.decodes.same _)) .nil
  reads h := by
    obtain ⟨slots, hslots, h⟩ := h.slots_eq (by decide)
    simp only [altersFields_cons_iff, altersFields_nil_iff, true_and, List.map_cons,
      List.map_nil] at h hslots
    obtain ⟨id, _, rfl, hid, packageId, _, rfl, hpackageid, parents, _, rfl, hparents,
      isInterface, _, rfl, hinterface, body, _, rfl, hbody, rfl⟩ := h
    simp [ofJson?, hslots, Decodes.text.required hid,
      (Decodes.text.nullable nofun).orElse none hpackageid,
      ParentEdge.decodes.list.orElse [] hparents, Decodes.bool.orElse false hinterface,
      ClassBody.decodes.required hbody]

end ClassNode

namespace PackageBody

def schema : Schema :=
  .structure [("name", none, .plain), ("childrenIds", some (.list []), .list .plain)]

theorem decodes : Decodes schema toJson ofJson? where
  same p :=
    .whole <| .cons (.given .plain) <| .cons (.given (Decodes.texts.same _)) .nil
  reads h := by
    obtain ⟨slots, hslots, h⟩ := h.slots_eq (by decide)
    simp only [altersFields_cons_iff, altersFields_nil_iff, true_and, List.map_cons,
      List.map_nil] at h hslots
    obtain ⟨name, _, rfl, hname, children, _, rfl, hchildren, rfl⟩ := h
    simp [ofJson?, hslots, Decodes.text.required hname, Decodes.texts.orElse [] hchildren]

end PackageBody

namespace PackageNode

def schema : Schema :=
  .structure [("id", none, .plain), ("parentPackageId", some (.text ""), .plain),
    ("packageData", none, PackageBody.schema)]

theorem decodes : Decodes schema toJson ofJson? where
  same n :=
    .whole <| .cons (.given .plain) <| .cons (.given .plain) <|
      .cons (.given (PackageBody.decodes.same _)) .nil
  reads h := by
    obtain ⟨slots, hslots, h⟩ := h.slots_eq (by decide)
    simp only [altersFields_cons_iff, altersFields_nil_iff, true_and, List.map_cons,
      List.map_nil] at h hslots
    obtain ⟨id, _, rfl, hid, parentId, _, rfl, hparentid, body, _, rfl, hbody, rfl⟩ := h
    simp [ofJson?, hslots, Decodes.text.required hid, Decodes.text.orElse "" hparentid,
      PackageBody.decodes.required hbody]

end PackageNode

namespace Diagram

def schema : Schema :=
  .structure [("classNodes", some (.list []), .list ClassNode.schema),
    ("packageNodes", some (.list []), .list PackageNode.schema), ("language", none, .plain)]

theorem decodes : Decodes schema toJson ofJson? where
  same d :=
    .whole <| .cons (.given (ClassNode.decodes.list.same _)) <|
      .cons (.given (PackageNode.decodes.list.same _)) <| .cons (.given .plain) .nil
  reads h := by
    obtain ⟨slots, hslots, h⟩ := h.slots_eq (by decide)
    simp only [altersFields_cons_iff, altersFields_nil_iff, true_and, List.map_cons,
      List.map_nil] at h hslots
    obtain ⟨classes, _, rfl, hclasses, packages, _, rfl, hpackages, target, _, rfl, htarget,
      rfl⟩ := h
    simp [ofJson?, hslots, ClassNode.decodes.list.orElse [] hclasses,
      PackageNode.decodes.list.orElse [] hpackages, Target.decodes.required htarget]

/-- A diagram is read from its JSON form, from everything that may stand for this form, and from every
text that spells one of them. -/
theorem reads_altered (d : Diagram) :
    ofJson? d.toJson = some d ∧ ∀ j, schema.Alters d.toJson j → ofJson? j = some d ∧
      ∀ s : String, Json.SpellsPadded j s.toList → (Json.parse? s).bind ofJson? = some d := by
  refine ⟨decodes.reads (decodes.same d), fun j h => ⟨decodes.reads h, fun s hs => ?_⟩⟩
  rw [Json.parse?_of_spellsPadded hs]
  exact decodes.reads h

def gauge : Diagram where
  target := .java
  classes := [
    { id := "c", body :=
      { name := "Gauge", properties := [
          { id := "p", name := "marks", access := .priv,
            type := { name := "int", dimensions := [⟨4294967295, "used"⟩] } }] } }]

/-- The type of the array with its members turned around and its dimension as a list. -/
def gaugeType : Json :=
  .record [("arrayDimensions", .list [.list [.int 4294967295, .text "used"]]), ("name", .text "int")]

/-- The class as a list with lists inside, which end where the rest is left out. -/
def gaugeNode : Json :=
  .list [.text "c", .null, .list [], .bool false, .list [.text "Gauge", .list [
    .list [.text "p", .text "marks", gaugeType, .text "private"]]]]

/-- The diagram with its members turned around and one more in front. -/
def gaugeJson : Json :=
  .record [("note", .null), ("language", .text "Java"), ("classNodes", .list [gaugeNode])]

private theorem alters_gaugeType :
    DataType.schema.Alters
      (DataType.toJson { name := "int", dimensions := [⟨4294967295, "used"⟩] }) gaugeType := by
  have hdimension : Dimension.schema.Alters (Dimension.toJson ⟨4294967295, "used"⟩)
      (.list [.int 4294967295, .text "used"]) :=
    .array 0 (.cons (.given .plain) (.cons (.given .plain) .nil))
  exact .record []
    (.cons (.given .plain) <| .cons .omitted <| .cons .omitted <|
      .cons (.given (.list (.cons hdimension .nil))) .nil)
    (List.reverse_perm [("name", Json.text "int"), _]) (by simp)

private theorem alters_gaugeNode :
    ClassNode.schema.Alters (ClassNode.toJson gauge.classes[0]) gaugeNode := by
  have hproperty : Property.schema.Alters (Property.toJson gauge.classes[0].body.properties[0])
      (.list [.text "p", .text "marks", gaugeType, .text "private"]) :=
    .array 3 (.cons (.given .plain) <| .cons (.given .plain) <|
      .cons (.given alters_gaugeType) <| .cons (.given .plain) <| .cons .omitted <|
      .cons .omitted <| .cons .omitted .nil)
  have hbody : ClassBody.schema.Alters (ClassBody.toJson gauge.classes[0].body) (.list [
      .text "Gauge", .list [.list [.text "p", .text "marks", gaugeType, .text "private"]]]) :=
    .array 7 (.cons (.given .plain) <| .cons (.given (.list (.cons hproperty .nil))) <|
      .cons .omitted <| .cons .omitted <| .cons .omitted <| .cons .omitted <| .cons .omitted <|
      .cons .omitted <| .cons .omitted .nil)
  exact .array 0 (.cons (.given .plain) <| .cons (.given .null) <|
    .cons (.given (.list .nil)) <| .cons (.given .plain) <| .cons (.given hbody) .nil)

private theorem alters_gaugeJson : schema.Alters gauge.toJson gaugeJson :=
  .record [("note", .null)]
    (.cons (.given (.list (.cons alters_gaugeNode .nil))) <| .cons .omitted <|
      .cons (.given .plain) .nil)
    (List.reverse_perm [("classNodes", _), ("language", Json.text "Java"), ("note", Json.null)])
    (by simp)

theorem reads_altered_gauge :
    schema.Alters gauge.toJson gaugeJson ∧ ofJson? gaugeJson = some gauge ∧
      (Json.parse? gaugeJson.pretty).bind ofJson? = some gauge := by
  obtain ⟨hread, htext⟩ := (reads_altered gauge).2 gaugeJson alters_gaugeJson
  exact ⟨alters_gaugeJson, hread, htext _ gaugeJson.spellsPadded_pretty⟩

end Diagram

end ClassScaffold
