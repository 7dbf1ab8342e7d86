import ClassScaffold.Skeleton.Bundled.Pieces

namespace ClassScaffold.Skeleton.Cpp

def parameters : Part where
  name := "parameters"
  parameters := ["list"]
  body := [commaSeparated "p" (.path "list" [])
    [out "p" ["Type"], .text " ", out "p" ["Name"], out "p" ["ArraySuffix"]]]

def static (root : String) : Piece :=
  given (.path root ["IsStatic"]) [.text "static "]

def method : Part where
  name := "method"
  parameters := ["m"]
  body := [
    .branch (.path "m" ["IsStatic"]) [.text "static "]
      [given (.path "m" ["IsVirtual"]) [.text "virtual "]],
    out "m" ["ReturnType"], .text " ", out "m" ["Name"], .text "(",
    called "parameters" [("list", .path "m" ["Parameters"])], .text ");"]

def field : Part where
  name := "field"
  parameters := ["p"]
  body := [static "p", out "p" ["Type"], .text " ", out "p" ["Name"], out "p" ["ArraySuffix"],
    .text ";"]

def heading : Part where
  name := "heading"
  parameters := ["a"]
  body := [
    given (.path "a" ["TemplateTypesData"]) [
      .text "template <",
      commaSeparated "t" (.path "a" ["TemplateTypesData"]) [.text "typename ", out "t" []],
      .text ">\n"],
    .text "class ", bound "ClassName",
    given (.path "a" ["InheritedClasses"]) [.text " : ", commaJoined "InheritedClasses"]]

def methodLines (methods : String) : Piece :=
  each "m" methods [.text "\n    ", called "method" [("m", .path "m" [])]]

def fieldLines (fields : String) : Piece :=
  each "p" fields [.text "\n    ", called "field" [("p", .path "p" [])]]

/-- The members of one access, under its label, unless there are none. -/
def accessSection (label methods fields : String) : Piece :=
  given (.either (.path "a" [methods]) (.path "a" [fields]))
    [.text ("\n" ++ label ++ ":"), methodLines methods, fieldLines fields]

def constructorLines : Piece :=
  each "c" "Constructors" [
    .text "\n    ",
    .branch (.path "c" ["IsCopy"])
      [bound "ClassName", .text "(const ", bound "ClassName", .text "& other)"]
      [bound "ClassName", .text "(",
        called "parameters" [("list", .path "c" ["Parameters"])], .text ")"],
    given (.path "c" ["Initializers"]) [
      .text "\n        : ",
      commaSeparated "i" (.path "c" ["Initializers"])
        [out "i" ["Name"], .text "(", out "i" ["Source"], .text ")"]],
    .text "\n    \x7b", bodyLines (.path "c" ["Body"]), .text "\n    \x7d"]

def destructorLines : Piece :=
  given (.path "a" ["HasDestructor"]) [
    .text "\n    ~", bound "ClassName", .text "()\n    \x7b",
    bodyLines (.path "a" ["DestructorContents"]), .text "\n    \x7d"]

def accessorLines : Piece :=
  each "p" "Properties" [
    given (.path "p" ["Getter"]) [
      .text "\n    ", static "p", out "p" ["GetterType"], .text " ", out "p" ["Getter"],
      .text "()", given (.negation (.path "p" ["IsStatic"])) [.text " const"],
      .text " \x7b return ", out "p" ["Name"], .text "; \x7d"],
    given (.path "p" ["Setter"]) [
      .text "\n    ", static "p", .text "void ", out "p" ["Setter"], .text "(",
      called "parameters" [("list", .path "p" ["SetterParameters"])], .text ") \x7b ",
      .loop "s" (.path "p" ["SetterParameters"]) [
        .branch (.path "p" ["IsStatic"]) [bound "ClassName", .text "::"] [.text "this->"],
        out "s" ["Name"], .text " = ", out "s" ["Name"], .text "; "],
      .text "\x7d"]]

def cls : Part where
  name := "class"
  parameters := ["a"]
  body := [
    called "heading" [("a", .path "a" [])], .text "\n\x7b",
    each "f" "FriendClasses" [.text "\n    friend class ", out "f" [], .text ";"],
    .text "\npublic:", constructorLines, destructorLines,
    given (.path "a" ["CopyAssignOperator"]) [.text "\n    ", bound "CopyAssignOperator"],
    methodLines "PublicMethods",
    each "m" "OverriddenMethods" [
      .text "\n    ", out "m" ["ReturnType"], .text " ", out "m" ["Name"], .text "(",
      called "parameters" [("list", .path "m" ["Parameters"])], .text ") override;"],
    accessorLines, fieldLines "PublicProperties",
    accessSection "protected" "ProtectedMethods" "ProtectedProperties",
    accessSection "private" "PrivateMethods" "PrivateProperties",
    .text "\n\x7d;"]

def interface : Part where
  name := "interface"
  parameters := ["a"]
  body := [
    called "heading" [("a", .path "a" [])], .text "\n\x7b\npublic:",
    each "m" "PublicMethods" [
      .text "\n    virtual ", out "m" ["ReturnType"], .text " ", out "m" ["Name"], .text "(",
      called "parameters" [("list", .path "m" ["Parameters"])], .text ") = 0;"],
    fieldLines "PublicProperties",
    accessSection "protected" "ProtectedMethods" "ProtectedProperties",
    .text "\n\x7d;"]

def copyAssignOperator : Part where
  name := "copyAssignOperator"
  parameters := ["a"]
  body := [
    bound "ClassName", .text "& operator=(const ", bound "ClassName",
    .text ("& other)\n    \x7b\n        if (this == &other)\n        \x7b\n" ++
      "            return *this;\n        \x7d"),
    bodyLines (.path "a" ["ReleaseBodyCode"]),
    each "p" "Properties"
      [.text "\n        ", out "p" [], .text " = other.", out "p" [], .text ";"],
    bodyLines (.path "a" ["DynamicAllocationBodyCode"]),
    .text "\n        return *this;\n    \x7d"]

def namespacePart : Part where
  name := "namespace"
  parameters := ["a"]
  body := [.text "namespace ", bound "FullPackagePath", .text "\n\x7b\n",
    bound "ClassCode", .text "\n\x7d"]

def skeleton : Skeleton where
  parts := [parameters, method, field, heading, cls, interface, copyAssignOperator, namespacePart]

/-- The text that the skeleton is read from. -/
def text : String :=
  "\x7b# Class skeleton for the native target. #\x7d

\x7b%- macro parameters(list) -%\x7d
\x7b% for p in list %\x7d\x7b\x7b p.Type \x7d\x7d \x7b\x7b p.Name \x7d\x7d\x7b\x7b p.ArraySuffix \x7d\x7d\x7b% if not loop.last %\x7d, \x7b% endif %\x7d\x7b% endfor %\x7d
\x7b%- endmacro parameters -%\x7d

\x7b%- macro method(m) -%\x7d
\x7b% if m.IsStatic %\x7dstatic \x7b% elif m.IsVirtual %\x7dvirtual \x7b% endif %\x7d\x7b\x7b m.ReturnType \x7d\x7d \x7b\x7b m.Name \x7d\x7d(\x7b\x7b self::parameters(list=m.Parameters) \x7d\x7d);
\x7b%- endmacro method -%\x7d

\x7b%- macro field(p) -%\x7d
\x7b% if p.IsStatic %\x7dstatic \x7b% endif %\x7d\x7b\x7b p.Type \x7d\x7d \x7b\x7b p.Name \x7d\x7d\x7b\x7b p.ArraySuffix \x7d\x7d;
\x7b%- endmacro field -%\x7d

\x7b%- macro heading(a) -%\x7d
\x7b% if a.TemplateTypesData %\x7dtemplate <\x7b% for t in a.TemplateTypesData %\x7dtypename \x7b\x7b t \x7d\x7d\x7b% if not loop.last %\x7d, \x7b% endif %\x7d\x7b% endfor %\x7d>
\x7b% endif %\x7dclass \x7b\x7b a.ClassName \x7d\x7d\x7b% if a.InheritedClasses %\x7d : \x7b\x7b a.InheritedClasses | join(sep=\", \") \x7d\x7d\x7b% endif %\x7d
\x7b%- endmacro heading -%\x7d

\x7b%- macro class(a) -%\x7d
\x7b\x7b self::heading(a=a) \x7d\x7d
\x7b
\x7b%- for f in a.FriendClasses %\x7d
    friend class \x7b\x7b f \x7d\x7d;
\x7b%- endfor %\x7d
public:
\x7b%- for c in a.Constructors %\x7d
    \x7b% if c.IsCopy %\x7d\x7b\x7b a.ClassName \x7d\x7d(const \x7b\x7b a.ClassName \x7d\x7d& other)\x7b% else %\x7d\x7b\x7b a.ClassName \x7d\x7d(\x7b\x7b self::parameters(list=c.Parameters) \x7d\x7d)\x7b% endif %\x7d
\x7b%- if c.Initializers %\x7d
        : \x7b% for i in c.Initializers %\x7d\x7b\x7b i.Name \x7d\x7d(\x7b\x7b i.Source \x7d\x7d)\x7b% if not loop.last %\x7d, \x7b% endif %\x7d\x7b% endfor %\x7d
\x7b%- endif %\x7d
    \x7b
\x7b%- for line in c.Body %\x7d
        \x7b\x7b line \x7d\x7d
\x7b%- endfor %\x7d
    \x7d
\x7b%- endfor %\x7d
\x7b%- if a.HasDestructor %\x7d
    ~\x7b\x7b a.ClassName \x7d\x7d()
    \x7b
\x7b%- for line in a.DestructorContents %\x7d
        \x7b\x7b line \x7d\x7d
\x7b%- endfor %\x7d
    \x7d
\x7b%- endif %\x7d
\x7b%- if a.CopyAssignOperator %\x7d
    \x7b\x7b a.CopyAssignOperator \x7d\x7d
\x7b%- endif %\x7d
\x7b%- for m in a.PublicMethods %\x7d
    \x7b\x7b self::method(m=m) \x7d\x7d
\x7b%- endfor %\x7d
\x7b%- for m in a.OverriddenMethods %\x7d
    \x7b\x7b m.ReturnType \x7d\x7d \x7b\x7b m.Name \x7d\x7d(\x7b\x7b self::parameters(list=m.Parameters) \x7d\x7d) override;
\x7b%- endfor %\x7d
\x7b%- for p in a.Properties %\x7d
\x7b%- if p.Getter %\x7d
    \x7b% if p.IsStatic %\x7dstatic \x7b% endif %\x7d\x7b\x7b p.GetterType \x7d\x7d \x7b\x7b p.Getter \x7d\x7d()\x7b% if not p.IsStatic %\x7d const\x7b% endif %\x7d \x7b return \x7b\x7b p.Name \x7d\x7d; \x7d
\x7b%- endif %\x7d
\x7b%- if p.Setter %\x7d
    \x7b% if p.IsStatic %\x7dstatic \x7b% endif %\x7dvoid \x7b\x7b p.Setter \x7d\x7d(\x7b\x7b self::parameters(list=p.SetterParameters) \x7d\x7d) \x7b \x7b% for s in p.SetterParameters %\x7d\x7b% if p.IsStatic %\x7d\x7b\x7b a.ClassName \x7d\x7d::\x7b% else %\x7dthis->\x7b% endif %\x7d\x7b\x7b s.Name \x7d\x7d = \x7b\x7b s.Name \x7d\x7d; \x7b% endfor %\x7d\x7d
\x7b%- endif %\x7d
\x7b%- endfor %\x7d
\x7b%- for p in a.PublicProperties %\x7d
    \x7b\x7b self::field(p=p) \x7d\x7d
\x7b%- endfor %\x7d
\x7b%- if a.ProtectedMethods or a.ProtectedProperties %\x7d
protected:
\x7b%- for m in a.ProtectedMethods %\x7d
    \x7b\x7b self::method(m=m) \x7d\x7d
\x7b%- endfor %\x7d
\x7b%- for p in a.ProtectedProperties %\x7d
    \x7b\x7b self::field(p=p) \x7d\x7d
\x7b%- endfor %\x7d
\x7b%- endif %\x7d
\x7b%- if a.PrivateMethods or a.PrivateProperties %\x7d
private:
\x7b%- for m in a.PrivateMethods %\x7d
    \x7b\x7b self::method(m=m) \x7d\x7d
\x7b%- endfor %\x7d
\x7b%- for p in a.PrivateProperties %\x7d
    \x7b\x7b self::field(p=p) \x7d\x7d
\x7b%- endfor %\x7d
\x7b%- endif %\x7d
\x7d;
\x7b%- endmacro class -%\x7d

\x7b%- macro interface(a) -%\x7d
\x7b\x7b self::heading(a=a) \x7d\x7d
\x7b
public:
\x7b%- for m in a.PublicMethods %\x7d
    virtual \x7b\x7b m.ReturnType \x7d\x7d \x7b\x7b m.Name \x7d\x7d(\x7b\x7b self::parameters(list=m.Parameters) \x7d\x7d) = 0;
\x7b%- endfor %\x7d
\x7b%- for p in a.PublicProperties %\x7d
    \x7b\x7b self::field(p=p) \x7d\x7d
\x7b%- endfor %\x7d
\x7b%- if a.ProtectedMethods or a.ProtectedProperties %\x7d
protected:
\x7b%- for m in a.ProtectedMethods %\x7d
    \x7b\x7b self::method(m=m) \x7d\x7d
\x7b%- endfor %\x7d
\x7b%- for p in a.ProtectedProperties %\x7d
    \x7b\x7b self::field(p=p) \x7d\x7d
\x7b%- endfor %\x7d
\x7b%- endif %\x7d
\x7d;
\x7b%- endmacro interface -%\x7d

\x7b%- macro copyAssignOperator(a) -%\x7d
\x7b\x7b a.ClassName \x7d\x7d& operator=(const \x7b\x7b a.ClassName \x7d\x7d& other)
    \x7b
        if (this == &other)
        \x7b
            return *this;
        \x7d
\x7b%- for line in a.ReleaseBodyCode %\x7d
        \x7b\x7b line \x7d\x7d
\x7b%- endfor %\x7d
\x7b%- for p in a.Properties %\x7d
        \x7b\x7b p \x7d\x7d = other.\x7b\x7b p \x7d\x7d;
\x7b%- endfor %\x7d
\x7b%- for line in a.DynamicAllocationBodyCode %\x7d
        \x7b\x7b line \x7d\x7d
\x7b%- endfor %\x7d
        return *this;
    \x7d
\x7b%- endmacro copyAssignOperator -%\x7d

\x7b%- macro namespace(a) -%\x7d
namespace \x7b\x7b a.FullPackagePath \x7d\x7d
\x7b
\x7b\x7b a.ClassCode \x7d\x7d
\x7d
\x7b%- endmacro namespace -%\x7d
"

end ClassScaffold.Skeleton.Cpp
