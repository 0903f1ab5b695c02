import ClassSynthesis.Code.Execution

/-!
# Making instances

A class makes instances through the first of its constructors that accepts the arguments. A class
without constructors makes them without arguments, by way of the nearest ancestor that has
constructors: its first one without parameters runs on the new instance.
-/

namespace ClassSynthesis

/-- What an effect ends with, whatever it left behind. -/
def Effect.outcome {α : Type} (effect : Effect α) (i : Instance) : Except Error α :=
  match effect i with
  | .ok result _ => .ok result
  | .error e _ => .error e

/-- The instance that an effect leaves behind, unless it fails. -/
def Effect.after {α : Type} (effect : Effect α) (i : Instance) : Except Error Instance :=
  match effect i with
  | .ok _ left => .ok left
  | .error e _ => .error e

/-- An effect whose result is of no interest. -/
def Effect.ignored {α : Type} (effect : Effect α) : Effect Unit := fun i =>
  match effect i with
  | .ok _ left => .ok () left
  | .error e left => .error e left

/-- The error of a class or layer that has no constructor for the arguments. -/
def noConstructor (className : String) (arguments : List Value) : Error :=
  .noConstructor className (arguments.map (·.typeName)) "args"

/-- Run code of a constructor with exclusive access. -/
def runConstructor (owner : Layer) (ancestors : List Layer) (k : Constructor)
    (arguments : List Value) : Effect (Option Value) :=
  execute ancestors ⟨constructorContext owner.name, .exclusive, arguments⟩ k.code

/-- Run the first parameterless constructor of the nearest class that has constructors. -/
def runImplicit : List Layer → Effect Unit
  | [] => fun i => .ok () i
  | layer :: ancestors =>
    if layer.constructors.isEmpty then runImplicit ancestors
    else
      match layer.constructors.find? (·.parameters.isEmpty) with
      | none => fun i => .error (noConstructor layer.name []) i
      | some k => (runConstructor layer ancestors k []).ignored

namespace Instance

/-- Make an instance with the constructor of this number. -/
def construct (c : Class) (target : Nat) (arguments : List Value) : Except Error Instance :=
  match c.constructors[target]? with
  | none => .error (noConstructor c.name arguments)
  | some k =>
    if k.accepts arguments then
      (runConstructor c.own c.ancestors k arguments).after (blank c)
    else .error (noConstructor c.name arguments)

/-- Make an instance with the first constructor that accepts the arguments. -/
def create (c : Class) (arguments : List Value) : Except Error Instance :=
  if c.constructors.isEmpty then
    if arguments.isEmpty then Effect.after (runImplicit c.ancestors) (blank c)
    else .error (noConstructor c.name arguments)
  else
    match c.constructors.findIdx? (·.accepts arguments) with
    | none => .error (noConstructor c.name arguments)
    | some target => construct c target arguments

end Instance

end ClassSynthesis
