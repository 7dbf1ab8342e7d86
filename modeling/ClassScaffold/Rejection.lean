namespace ClassScaffold

/-- A name that is not legal where it stands. -/
inductive NamingFault where
  | className (className : String)
  | templateParameter (className parameter : String)
  | property (className property : String)
  | propertyType (className property type : String)
  | lengthField (className property field : String)
  | method (className method : String)
  | returnType (className method type : String)
  | parameter (className method parameter : String)
  | parameterType (className method parameter type : String)
  | package (package : String)
  deriving DecidableEq

/-- A shape of the diagram that the target language does not allow. -/
inductive StructuralFault where
  | tooManyBaseClasses (className : String) (limit : Nat)
  | interfaceExtendsClass (interface parent : String)
  | selfInheritance (className : String)
  | privateInterfaceProperty (interface property : String)
  | duplicateConstructor (className signature : String)
  | packageRevisited (package : String)
  | classInSeveralPackages (className : String)
  deriving DecidableEq

/-- An id that names nothing of the right kind, or more than one thing. -/
inductive ReferenceFault where
  | duplicateId (id : String)
  | unknownParent (className id : String)
  | unknownFriend (className id : String)
  | unknownInitializedField (className constructor id : String)
  | unknownReleasedField (className id : String)
  | unknownChild (package id : String)
  | unknownParentPackage (package id : String)
  | unknownOwningPackage (className id : String)
  deriving DecidableEq

inductive Rejection where
  | naming (fault : NamingFault)
  | structural (fault : StructuralFault)
  | reference (fault : ReferenceFault)
  deriving DecidableEq

def NamingFault.message : NamingFault → String
  | .className c => s!"the name of the class '{c}' is not valid"
  | .templateParameter c p =>
    s!"the template parameter '{p}', from the class '{c}', is not valid"
  | .property c p => s!"the name of the property '{p}', from the class '{c}', is not valid"
  | .propertyType c p t =>
    s!"the type name '{t}' of the property '{p}', from the class '{c}', is not valid"
  | .lengthField c p f =>
    s!"the array length field '{f}' of the property '{p}', from the class '{c}', is not valid"
  | .method c m => s!"the name of the method '{m}', from the class '{c}', is not valid"
  | .returnType c m t =>
    s!"the return type name '{t}' of the method '{m}', from the class '{c}', is not valid"
  | .parameter c m p =>
    s!"the name of the parameter '{p}', from the class '{c}', method '{m}', is not valid"
  | .parameterType c m p t =>
    s!"the type name '{t}' of the parameter '{p}', from the class '{c}', method '{m}', is not valid"
  | .package p => s!"the name of the package '{p}' is not valid"

def notAllowed : String :=
  "; the chosen language does not allow this type of inheritance"

def StructuralFault.message : StructuralFault → String
  | .tooManyBaseClasses c n =>
    s!"class '{c}' inherits more than {n} regular class(es)" ++ notAllowed
  | .interfaceExtendsClass i p =>
    s!"interface '{i}' inherits the regular class '{p}'" ++ notAllowed
  | .selfInheritance c => s!"class '{c}' lists itself as a parent"
  | .privateInterfaceProperty i p =>
    s!"private property '{p}' found in the interface '{i}'" ++
      "; interfaces may not declare private properties"
  | .duplicateConstructor c s =>
    s!"class '{c}' declares two constructors with the signature ({s})"
  | .packageRevisited p => s!"package '{p}' is reachable through more than one parent"
  | .classInSeveralPackages c => s!"class '{c}' is contained in more than one package"

def ReferenceFault.message : ReferenceFault → String
  | .duplicateId i => s!"node id '{i}' is used by more than one node"
  | .unknownParent c i => s!"class '{c}' references unknown parent id '{i}'"
  | .unknownFriend c i => s!"class '{c}' references unknown friend class id '{i}'"
  | .unknownInitializedField c k i =>
    s!"constructor '{k}' of class '{c}' initializes unknown property id '{i}'"
  | .unknownReleasedField c i => s!"destructor of class '{c}' releases unknown property id '{i}'"
  | .unknownChild p i => s!"package '{p}' lists unknown child id '{i}'"
  | .unknownParentPackage p i => s!"package '{p}' references unknown parent package id '{i}'"
  | .unknownOwningPackage c i => s!"class '{c}' references unknown package id '{i}'"

def Rejection.message : Rejection → String
  | .naming fault => fault.message
  | .structural fault => fault.message
  | .reference fault => fault.message

end ClassScaffold
