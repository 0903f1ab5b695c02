import ClassSynthesis.Class
import ClassSynthesis.Error
import ClassSynthesis.Text.Qualified
import Std.Data.TreeMap

/-!
# Registries

A registry numbers classes and keeps all of them. It groups them into containers. A name may be
used any number of times in one container: the name then stands for the class registered last under
it, and the earlier ones can still be found by number.
-/

namespace ClassSynthesis

/-- What is chosen when a registry is created. -/
structure Options where
  /-- The container of types for which none is given. -/
  defaultContainer : String := "DynamicAssembly"
  /-- What the slot names of synthesized properties begin with. -/
  slotPrefix : String := "_"
  deriving DecidableEq, Repr

/-- The classes registered under one container name. -/
structure Container where
  /-- The class that each name stands for. -/
  latest : Std.TreeMap String Class := ∅
  /-- All classes, in the order of registration. -/
  classes : Array Class := #[]

/-- Put a class into a container. -/
def Container.add (box : Container) (c : Class) : Container :=
  { latest := box.latest.insert c.name c, classes := box.classes.push c }

/-- A registry. -/
structure Registry where
  /-- The number of the registry in its workspace. -/
  key : Nat
  /-- What was chosen at its creation. -/
  options : Options
  /-- The number of the next class. -/
  nextId : Nat := 0
  /-- All classes, in the order of registration. -/
  classes : Array Class := #[]
  /-- The containers that hold classes. -/
  containers : Std.TreeMap String Container := ∅

namespace Registry

/-- A registry without classes. -/
def empty (key : Nat) (options : Options) : Registry := { key, options }

/-- The container that is meant, the default one if none is named. -/
def containerName (r : Registry) (container : Option String) : String :=
  container.getD r.options.defaultContainer

/-- Take the next number, which no other class of the registry will get. -/
def allocate (r : Registry) : ClassKey × Registry :=
  (⟨r.key, r.nextId⟩, { r with nextId := r.nextId + 1 })

/-- Register a class, as the latest one of its name in its container. -/
def register (r : Registry) (c : Class) : Registry :=
  { r with
    classes := r.classes.push c
    containers :=
      r.containers.insert c.own.container ((r.containers.getD c.own.container {}).add c) }

/-- The class of this number. -/
def get? (r : Registry) (id : Nat) : Option Class := r.classes.find? (·.key.id == id)

/-- The latest class of this name in a container. -/
def getByName? (r : Registry) (container : Option String) (name : String) : Option Class := do
  (← r.containers[r.containerName container]?).latest[name]?

/-- The class of a qualified name, or of a bare name in the default container. -/
def resolve (r : Registry) (text : String) : Except Error Class :=
  let found := match Text.splitQualified? text with
    | some (container, name) => r.getByName? (some container) name
    | none => r.getByName? none text
  match found with
  | some c => .ok c
  | none => .error (.unknownClass text)

/-- The classes of a container, in the order of registration. -/
def containerTypes (r : Registry) (container : String) : List Class :=
  match r.containers[container]? with
  | some box => box.classes.toList
  | none => []

/-- The names of all containers, sorted. -/
def containerNames (r : Registry) : List String := r.containers.keys

/-- How many classes are registered. -/
def size (r : Registry) : Nat := r.classes.size

/-- No class is registered. -/
def isEmpty (r : Registry) : Bool := r.classes.isEmpty

@[simp] theorem containerName_some (r : Registry) (container : String) :
    r.containerName (some container) = container := rfl

@[simp] theorem containerName_none (r : Registry) :
    r.containerName none = r.options.defaultContainer := rfl

@[simp] theorem classes_register (r : Registry) (c : Class) :
    (r.register c).classes = r.classes.push c := rfl

/-- A registered class is the last one of its container. -/
theorem containerTypes_register (r : Registry) (c : Class) (container : String) :
    (r.register c).containerTypes container =
      r.containerTypes container ++ if c.own.container = container then [c] else [] := by
  by_cases h : c.own.container = container
  · subst h
    cases hbox : r.containers[c.own.container]? <;>
      simp [containerTypes, register, hbox, Std.TreeMap.getD_eq_getD_getElem?, Container.add]
  · simp [containerTypes, register, Std.TreeMap.getElem?_insert, h]

/-- After a registration the name of the class stands for it, in its container. -/
theorem getByName?_register_self (r : Registry) (c : Class) :
    (r.register c).getByName? (some c.own.container) c.name = some c := by
  simp [getByName?, containerName, register, Container.add]

end Registry

/-- The name of a class with its container. -/
def Class.qualifiedName (c : Class) : String := Text.qualified c.own.container c.name

end ClassSynthesis
