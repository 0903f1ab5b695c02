/-!
# Declared types

Slots, members and parameters have declared types. A class type is nominal: it names one class by
its identity, so that two classes with equal names, containers and members are different types.
-/

namespace ClassSynthesis

/-- The identity of a class: the registry that it was made for and its number there. -/
structure ClassKey where
  /-- The registry, as numbered by the workspace that holds it. -/
  registry : Nat
  /-- The number of the class in that registry. -/
  id : Nat
  deriving DecidableEq, Repr

/-- The number of a class, written out. -/
def ClassKey.text (key : ClassKey) : String := s!"ClassId({key.id})"

/-- A class as types refer to it. -/
structure ClassRef where
  /-- Which class. -/
  key : ClassKey
  /-- The name under which it appears in texts. -/
  name : String
  deriving DecidableEq, Repr

/-- A declared type. -/
inductive Ty where
  /-- The type of every value. -/
  | any
  /-- Booleans. -/
  | bool
  /-- Signed integers of 64 bits. -/
  | int
  /-- Floating-point numbers of 64 bits. -/
  | float
  /-- Texts. -/
  | str
  /-- Objects of a class or of one that derives from it. -/
  | object (of : ClassRef)
  deriving DecidableEq, Repr

namespace Ty

/-- The name of a type in texts. -/
def name : Ty → String
  | any => "Object"
  | bool => "Boolean"
  | int => "Int64"
  | float => "Double"
  | str => "String"
  | object cls => cls.name

/-- References may be absent; numbers and booleans may not. -/
def isReference : Ty → Bool
  | any | str | object _ => true
  | bool | int | float => false

/-- Two types are the same if they are the same simple type or refer to the same class. -/
def same : Ty → Ty → Bool
  | any, any | bool, bool | int, int | float, float | str, str => true
  | object a, object b => a.key == b.key
  | _, _ => false

end Ty

end ClassSynthesis
