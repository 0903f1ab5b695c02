/-!
# Errors

Everything that can go wrong when classes are declared, synthesized or used. An error ends only the
operation that raised it. Names of classes, members and types stand in an error as text, as they
were when it arose.
-/

namespace ClassSynthesis

/-- Why an operation failed. -/
inductive Error where
  /-- The class of an attribute is not visible outside its container. -/
  | hiddenAttribute (kind parameter : String)
  /-- No constructor takes arguments of these types. -/
  | noConstructor (kind : String) (arguments : List String) (parameter : String)
  /-- Overrides of an attribute name members that it lacks or that cannot be written. -/
  | unknownOverrides (kind : String) (members : List String) (parameter : String)
  /-- A value does not fit the type of the member that was to hold it. -/
  | typeMismatch (member expected actual : String)
  /-- A property was selected that the source class lacks. -/
  | unknownSelection (source property parameter : String)
  /-- A class was applied as an attribute without being one. -/
  | notAttribute (kind : String)
  /-- The name of a type or property is no identifier. -/
  | invalidIdentifier (name : String)
  /-- The type under construction has a property of this name. -/
  | duplicateProperty (owner property : String)
  /-- The type was to be changed after it had been built. -/
  | frozen (owner : String)
  /-- The type was to be built a second time. -/
  | alreadyBuilt (owner : String)
  /-- The member does not exist or lacks the accessor that was asked for. -/
  | unknownMember (owner member : String)
  /-- No class is registered under the name. -/
  | unknownClass (name : String)
  /-- The code of an accessor or constructor cannot be carried on. -/
  | invalidCode (context reason : String)
  deriving DecidableEq, Repr

namespace Error

/-- Names in a list, separated by commas. -/
def listed (names : List String) : String := ", ".intercalate names

/-- The text of an error. -/
def message : Error → String
  | hiddenAttribute kind parameter =>
    s!"Attribute of type {kind} is not public. Cannot use it to extend type property. " ++
      s!"(Parameter '{parameter}')"
  | noConstructor kind arguments parameter =>
    if arguments.isEmpty then
      s!"Attribute of type: {kind} has no constructor without parameters. " ++
        s!"(Parameter '{parameter}')"
    else
      s!"Attribute of type: {kind} has no constructor with parameters of types: " ++
        s!"{listed arguments}. (Parameter '{parameter}')"
  | unknownOverrides kind members parameter =>
    s!"Attribute of type: {kind} has no properties with names: {listed members}. " ++
      s!"(Parameter '{parameter}')"
  | typeMismatch member expected actual =>
    s!"Type mismatch for '{member}': expected {expected}, got {actual}"
  | unknownSelection source property parameter =>
    s!"Type {source} has no property with name: {property}. (Parameter '{parameter}')"
  | notAttribute kind => s!"Type {kind} is not an attribute type"
  | invalidIdentifier name => s!"Invalid identifier: '{name}'"
  | duplicateProperty owner property =>
    s!"Property '{property}' is already defined on type {owner}"
  | frozen owner => s!"Cannot modify type {owner}: it has already been built"
  | alreadyBuilt owner => s!"Type {owner} has already been built"
  | unknownMember owner member => s!"Type {owner} has no accessible member '{member}'"
  | unknownClass name => s!"Unknown class: {name}"
  | invalidCode context reason => s!"Invalid bytecode in {context}: {reason}"

end Error

end ClassSynthesis
