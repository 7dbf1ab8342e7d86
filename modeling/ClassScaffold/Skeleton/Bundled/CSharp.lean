import ClassScaffold.Skeleton.Bundled.Pieces

namespace ClassScaffold.Skeleton.CSharp

def parameters : Part where
  name := "parameters"
  parameters := ["list"]
  body := [commaSeparated "p" (.path "list" []) [out "p" ["Type"], .text " ", out "p" ["Name"]]]

def generics : Piece :=
  given (.path "a" ["TemplateTypesData"]) [.text "<", commaJoined "TemplateTypesData", .text ">"]

def heading : Part where
  name := "heading"
  parameters := ["a", "kind"]
  body := [
    .text "public ", out "kind" [], .text " ", bound "ClassName", generics,
    given (.path "a" ["InheritedClasses"]) [.text " : ", commaJoined "InheritedClasses"]]

def static (root : String) : Piece :=
  given (.path root ["IsStatic"]) [.text "static "]

def method : Part where
  name := "method"
  parameters := ["m", "access"]
  body := [
    out "access" [], .text " ",
    .branch (.path "m" ["IsStatic"]) [.text "static "]
      [given (.path "m" ["IsVirtual"]) [.text "virtual "]],
    out "m" ["ReturnType"], .text " ", out "m" ["Name"], .text "(",
    called "parameters" [("list", .path "m" ["Parameters"])],
    .text ")\n    \x7b\n        throw new System.NotImplementedException();\n    \x7d"]

def fieldStart : List Piece :=
  [out "p" ["Access"], .text " ", static "p", out "p" ["Type"], .text " ", out "p" ["Name"]]

def field : Part where
  name := "field"
  parameters := ["p"]
  body := [
    .branch (.path "p" ["IsAutoProperty"])
      (fieldStart ++ [.text " \x7b get; set; \x7d"])
      (fieldStart ++ [.text ";"])]

def fieldLines (fields : String) : Piece :=
  each "p" fields [.text "\n    ", called "field" [("p", .path "p" [])]]

def methodLines (methods access : String) : Piece :=
  each "m" methods
    [.text "\n\n    ", called "method" [("m", .path "m" []), ("access", .text access)]]

def constructorLines : Piece :=
  each "c" "Constructors" [
    .text "\n\n    public ", bound "ClassName", .text "(",
    .branch (.path "c" ["IsCopy"])
      [bound "ClassName", generics, .text " other"]
      [called "parameters" [("list", .path "c" ["Parameters"])]],
    .text ")\n    \x7b",
    .loop "i" (.path "c" ["Initializers"])
      [.text "\n        this.", out "i" ["Name"], .text " = ", out "i" ["Source"], .text ";"],
    bodyLines (.path "c" ["Body"]), .text "\n    \x7d"]

def accessorLines : Piece :=
  each "p" "Properties" [
    given (.path "p" ["Getter"]) [
      .text "\n\n    public ", static "p", out "p" ["Type"], .text " ", out "p" ["Getter"],
      .text "()\n    \x7b\n        return ", out "p" ["Name"], .text ";\n    \x7d"],
    given (.path "p" ["Setter"]) [
      .text "\n\n    public ", static "p", .text "void ", out "p" ["Setter"], .text "(",
      called "parameters" [("list", .path "p" ["SetterParameters"])], .text ")\n    \x7b",
      .loop "s" (.path "p" ["SetterParameters"]) [
        .text "\n        ",
        .branch (.path "p" ["IsStatic"]) [bound "ClassName"] [.text "this"],
        .text ".", out "s" ["Name"], .text " = ", out "s" ["Name"], .text ";"],
      .text "\n    \x7d"]]

def cls : Part where
  name := "class"
  parameters := ["a"]
  body := [
    called "heading" [("a", .path "a" []), ("kind", .text "class")], .text "\n\x7b",
    fieldLines "PublicProperties", fieldLines "ProtectedProperties",
    fieldLines "PrivateProperties", constructorLines, accessorLines,
    methodLines "PublicMethods" "public", methodLines "OverriddenMethods" "public",
    methodLines "ProtectedMethods" "protected", methodLines "PrivateMethods" "private",
    .text "\n\x7d"]

def interface : Part where
  name := "interface"
  parameters := ["a"]
  body := [
    called "heading" [("a", .path "a" []), ("kind", .text "interface")], .text "\n\x7b",
    each "p" "PublicProperties"
      [.text "\n    ", out "p" ["Type"], .text " ", out "p" ["Name"], .text " \x7b get; set; \x7d"],
    each "m" "PublicMethods" [
      .text "\n    ", out "m" ["ReturnType"], .text " ", out "m" ["Name"], .text "(",
      called "parameters" [("list", .path "m" ["Parameters"])], .text ");"],
    .text "\n\x7d"]

def namespacePart : Part where
  name := "namespace"
  parameters := ["a"]
  body := [.text "namespace ", bound "FullPackagePath", .text "\n\x7b\n",
    bound "ClassCode", .text "\n\x7d"]

def skeleton : Skeleton where
  parts := [parameters, heading, method, field, cls, interface, namespacePart]

/-- The text that the skeleton is read from. -/
def text : String :=
  "\x7b# Class skeleton for the C# target. #\x7d

\x7b%- macro parameters(list) -%\x7d
\x7b% for p in list %\x7d\x7b\x7b p.Type \x7d\x7d \x7b\x7b p.Name \x7d\x7d\x7b% if not loop.last %\x7d, \x7b% endif %\x7d\x7b% endfor %\x7d
\x7b%- endmacro parameters -%\x7d

\x7b%- macro heading(a, kind) -%\x7d
public \x7b\x7b kind \x7d\x7d \x7b\x7b a.ClassName \x7d\x7d\x7b% if a.TemplateTypesData %\x7d<\x7b\x7b a.TemplateTypesData | join(sep=\", \") \x7d\x7d>\x7b% endif %\x7d\x7b% if a.InheritedClasses %\x7d : \x7b\x7b a.InheritedClasses | join(sep=\", \") \x7d\x7d\x7b% endif %\x7d
\x7b%- endmacro heading -%\x7d

\x7b%- macro method(m, access) -%\x7d
\x7b\x7b access \x7d\x7d \x7b% if m.IsStatic %\x7dstatic \x7b% elif m.IsVirtual %\x7dvirtual \x7b% endif %\x7d\x7b\x7b m.ReturnType \x7d\x7d \x7b\x7b m.Name \x7d\x7d(\x7b\x7b self::parameters(list=m.Parameters) \x7d\x7d)
    \x7b
        throw new System.NotImplementedException();
    \x7d
\x7b%- endmacro method -%\x7d

\x7b%- macro field(p) -%\x7d
\x7b% if p.IsAutoProperty %\x7d\x7b\x7b p.Access \x7d\x7d \x7b% if p.IsStatic %\x7dstatic \x7b% endif %\x7d\x7b\x7b p.Type \x7d\x7d \x7b\x7b p.Name \x7d\x7d \x7b get; set; \x7d\x7b% else %\x7d\x7b\x7b p.Access \x7d\x7d \x7b% if p.IsStatic %\x7dstatic \x7b% endif %\x7d\x7b\x7b p.Type \x7d\x7d \x7b\x7b p.Name \x7d\x7d;\x7b% endif %\x7d
\x7b%- endmacro field -%\x7d

\x7b%- macro class(a) -%\x7d
\x7b\x7b self::heading(a=a, kind=\"class\") \x7d\x7d
\x7b
\x7b%- for p in a.PublicProperties %\x7d
    \x7b\x7b self::field(p=p) \x7d\x7d
\x7b%- endfor %\x7d
\x7b%- for p in a.ProtectedProperties %\x7d
    \x7b\x7b self::field(p=p) \x7d\x7d
\x7b%- endfor %\x7d
\x7b%- for p in a.PrivateProperties %\x7d
    \x7b\x7b self::field(p=p) \x7d\x7d
\x7b%- endfor %\x7d
\x7b%- for c in a.Constructors %\x7d

    public \x7b\x7b a.ClassName \x7d\x7d(\x7b% if c.IsCopy %\x7d\x7b\x7b a.ClassName \x7d\x7d\x7b% if a.TemplateTypesData %\x7d<\x7b\x7b a.TemplateTypesData | join(sep=\", \") \x7d\x7d>\x7b% endif %\x7d other\x7b% else %\x7d\x7b\x7b self::parameters(list=c.Parameters) \x7d\x7d\x7b% endif %\x7d)
    \x7b
\x7b%- for i in c.Initializers %\x7d
        this.\x7b\x7b i.Name \x7d\x7d = \x7b\x7b i.Source \x7d\x7d;
\x7b%- endfor %\x7d
\x7b%- for line in c.Body %\x7d
        \x7b\x7b line \x7d\x7d
\x7b%- endfor %\x7d
    \x7d
\x7b%- endfor %\x7d
\x7b%- for p in a.Properties %\x7d
\x7b%- if p.Getter %\x7d

    public \x7b% if p.IsStatic %\x7dstatic \x7b% endif %\x7d\x7b\x7b p.Type \x7d\x7d \x7b\x7b p.Getter \x7d\x7d()
    \x7b
        return \x7b\x7b p.Name \x7d\x7d;
    \x7d
\x7b%- endif %\x7d
\x7b%- if p.Setter %\x7d

    public \x7b% if p.IsStatic %\x7dstatic \x7b% endif %\x7dvoid \x7b\x7b p.Setter \x7d\x7d(\x7b\x7b self::parameters(list=p.SetterParameters) \x7d\x7d)
    \x7b
\x7b%- for s in p.SetterParameters %\x7d
        \x7b% if p.IsStatic %\x7d\x7b\x7b a.ClassName \x7d\x7d\x7b% else %\x7dthis\x7b% endif %\x7d.\x7b\x7b s.Name \x7d\x7d = \x7b\x7b s.Name \x7d\x7d;
\x7b%- endfor %\x7d
    \x7d
\x7b%- endif %\x7d
\x7b%- endfor %\x7d
\x7b%- for m in a.PublicMethods %\x7d

    \x7b\x7b self::method(m=m, access=\"public\") \x7d\x7d
\x7b%- endfor %\x7d
\x7b%- for m in a.OverriddenMethods %\x7d

    \x7b\x7b self::method(m=m, access=\"public\") \x7d\x7d
\x7b%- endfor %\x7d
\x7b%- for m in a.ProtectedMethods %\x7d

    \x7b\x7b self::method(m=m, access=\"protected\") \x7d\x7d
\x7b%- endfor %\x7d
\x7b%- for m in a.PrivateMethods %\x7d

    \x7b\x7b self::method(m=m, access=\"private\") \x7d\x7d
\x7b%- endfor %\x7d
\x7d
\x7b%- endmacro class -%\x7d

\x7b%- macro interface(a) -%\x7d
\x7b\x7b self::heading(a=a, kind=\"interface\") \x7d\x7d
\x7b
\x7b%- for p in a.PublicProperties %\x7d
    \x7b\x7b p.Type \x7d\x7d \x7b\x7b p.Name \x7d\x7d \x7b get; set; \x7d
\x7b%- endfor %\x7d
\x7b%- for m in a.PublicMethods %\x7d
    \x7b\x7b m.ReturnType \x7d\x7d \x7b\x7b m.Name \x7d\x7d(\x7b\x7b self::parameters(list=m.Parameters) \x7d\x7d);
\x7b%- endfor %\x7d
\x7d
\x7b%- endmacro interface -%\x7d

\x7b%- macro namespace(a) -%\x7d
namespace \x7b\x7b a.FullPackagePath \x7d\x7d
\x7b
\x7b\x7b a.ClassCode \x7d\x7d
\x7d
\x7b%- endmacro namespace -%\x7d
"

end ClassScaffold.Skeleton.CSharp
