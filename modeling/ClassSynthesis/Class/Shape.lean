import ClassSynthesis.Value

/-!
# Shapes

The shape of a class is what can be told of it in texts alone: names of types and members, and
written-out attributes. Classes of one shape may still be different types.
-/

namespace ClassSynthesis

/-- An attribute in texts. -/
structure AttributeShape where
  /-- The name of its class. -/
  kind : String
  /-- Its arguments, written out. -/
  arguments : List String
  /-- Its overrides, values written out. -/
  overrides : List (String × String)
  deriving DecidableEq, Repr

/-- A property in texts. -/
structure PropertyShape where
  /-- The name of the property. -/
  name : String
  /-- The name of its type. -/
  ty : String
  /-- Whether it has a getter. -/
  readable : Bool
  /-- Whether it has a setter. -/
  writable : Bool
  /-- Its attributes. -/
  attributes : List AttributeShape
  deriving DecidableEq, Repr

/-- A constructor parameter in texts. -/
structure ParameterShape where
  /-- The name of the parameter. -/
  name : String
  /-- The name of its type. -/
  ty : String
  /-- Its attributes. -/
  attributes : List AttributeShape
  deriving DecidableEq, Repr

/-- A class in texts. -/
structure Shape where
  /-- The name of the class. -/
  name : String
  /-- The name of its parent. -/
  base : Option String
  /-- The properties that it declares. -/
  properties : List PropertyShape
  /-- The parameter lists of its constructors. -/
  constructors : List (List ParameterShape)
  /-- Its attributes. -/
  attributes : List AttributeShape
  deriving DecidableEq, Repr

/-- The shape of an attribute. -/
def Attribute.shape (a : Attribute) : AttributeShape :=
  { kind := a.kind.name
    arguments := a.arguments.map (·.text)
    overrides := a.overrides.map fun (name, value) => (name, value.text) }

/-- The shape of a property. -/
def Property.shape (p : Property) : PropertyShape :=
  { name := p.name
    ty := p.ty.name
    readable := p.getter.isSome
    writable := p.setter.isSome
    attributes := p.attributes.map (·.shape) }

/-- The shape of a parameter. -/
def Parameter.shape (p : Parameter) : ParameterShape :=
  { name := p.name, ty := p.ty.name, attributes := p.attributes.map (·.shape) }

/-- The shape of a class. -/
def Class.shape (c : Class) : Shape :=
  { name := c.name
    base := c.parent.map (·.name)
    properties := c.own.properties.map (·.shape)
    constructors := c.constructors.map fun k => k.parameters.map (·.shape)
    attributes := c.own.attributes.map (·.shape) }

end ClassSynthesis
