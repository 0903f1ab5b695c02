import ClassSynthesis.Instance

/-!
# Running code

A body runs on an instance, its receiver, with arguments and a stack of its own. A getter may only
read its receiver; setters and constructors may also write it. A call of a parent constructor runs
that constructor's body on the same receiver, as code of the parent. Code is declared on a class
but runs on instances of any class that derives from it, so stores are checked against the class of
the receiver.
-/

namespace ClassSynthesis

/-- What a body may do to its receiver. -/
inductive Access where
  /-- Read it. -/
  | shared
  /-- Read and write it. -/
  | exclusive
  deriving DecidableEq, Repr

/-- What stays the same while a body runs. -/
structure Frame where
  /-- The body, as errors name it. -/
  context : String
  /-- What the body may do to its receiver. -/
  access : Access
  /-- The arguments of the call. -/
  arguments : List Value

/-- How errors name the constructors of a class. -/
def constructorContext (className : String) : String := s!"{className}::.ctor"

/-- How errors name a method of a class. -/
def methodContext (className methodName : String) : String := s!"{className}::{methodName}"

namespace Frame

/-- The error of code that cannot be carried on. -/
def invalid (frame : Frame) (reason : String) : Error := .invalidCode frame.context reason

/-- The class above the one that a body belongs to, with a way to run code as code of it. -/
structure Parent where
  /-- What the class above declares. -/
  layer : Layer
  /-- Runs code in a frame, as code of the class above. -/
  run : Frame → Code → Effect (Option Value)

/--
Run the constructor of the parent with this number. The stack, top first, begins with `count`
arguments, which were pushed in order; what is left of it is returned.
-/
def callBase (frame : Frame) (parent : Option Parent) (target count : Nat) (stack : List Value) :
    Effect (List Value) := fun i =>
  match parent with
  | none => .error (frame.invalid "base call on a class without parent") i
  | some parent =>
    match parent.layer.constructors[target]? with
    | none => .error (frame.invalid s!"parent constructor {target} does not exist") i
    | some k =>
      if stack.length < count then .error (frame.invalid "stack underflow") i
      else
        match frame.access with
        | .shared => .error (frame.invalid "base call through a read-only receiver") i
        | .exclusive =>
          let arguments := (stack.take count).reverse
          let called : Frame := ⟨constructorContext parent.layer.name, .exclusive, arguments⟩
          match parent.run called k.code i with
          | .ok _ left => .ok (stack.drop count) left
          | .error e left => .error e left

/-- Pop a value into a slot; what is left of the stack is returned. -/
def storeTop (frame : Frame) (index : Nat) (stack : List Value) : Effect (List Value) := fun i =>
  match stack with
  | [] => .error (frame.invalid "stack underflow") i
  | value :: rest =>
    match frame.access with
    | .shared => .error (frame.invalid "store through a read-only receiver") i
    | .exclusive =>
      match Instance.store index value i with
      | .ok () left => .ok rest left
      | .error e left => .error e left

/-- Carry out an instruction that is no return; the stack after it is returned, top first. -/
def step (frame : Frame) (parent : Option Parent) (instr : Instr) (stack : List Value) :
    Effect (List Value) := fun i =>
  match instr with
  | .loadArg index =>
    match frame.arguments[index]? with
    | some value => .ok (value :: stack) i
    | none => .error (frame.invalid s!"argument {index} out of range") i
  | .loadSlot index =>
    match i.slot? index with
    | some value => .ok (value :: stack) i
    | none => .error (frame.invalid s!"slot {index} out of range") i
  | .storeSlot index => frame.storeTop index stack i
  | .callBase target count => frame.callBase parent target count stack i
  | .ret => .ok stack i

/-- Run a body from a stack, top first, up to its end or its first return. -/
def run (frame : Frame) (parent : Option Parent) : Code → List Value → Effect (Option Value)
  | [], stack => fun i => .ok stack.head? i
  | .ret :: _, stack => fun i => .ok stack.head? i
  | instr :: code, stack => fun i =>
    match frame.step parent instr stack i with
    | .ok rest left => frame.run parent code rest left
    | .error e left => .error e left

@[simp] theorem run_nil (frame : Frame) (parent : Option Parent) (stack : List Value)
    (i : Instance) : frame.run parent [] stack i = .ok stack.head? i := rfl

/-- Nothing after a return is carried out. -/
@[simp] theorem run_ret (frame : Frame) (parent : Option Parent) (code : Code)
    (stack : List Value) (i : Instance) :
    frame.run parent (.ret :: code) stack i = .ok stack.head? i := rfl

/-- An instruction other than a return is carried out before the rest of the body. -/
theorem run_cons {instr : Instr} (h : instr ≠ .ret) (frame : Frame) (parent : Option Parent)
    (code : Code) (stack : List Value) (i : Instance) :
    frame.run parent (instr :: code) stack i =
      match frame.step parent instr stack i with
      | .ok rest left => frame.run parent code rest left
      | .error e left => .error e left := by
  cases instr with
  | ret => exact absurd rfl h
  | _ => rfl

end Frame

/-- Run code of a class with these ancestors, parent first. -/
def execute : List Layer → Frame → Code → Effect (Option Value)
  | [], frame, code => frame.run none code []
  | parent :: ancestors, frame, code => frame.run (some ⟨parent, execute ancestors⟩) code []

/-- The body of a getter returns what its slot holds and leaves the receiver as it is. -/
theorem execute_getter {ancestors : List Layer} {frame : Frame} {slot : Nat} {i : Instance}
    {value : Value} (h : i.slot? slot = some value) :
    execute ancestors frame (Code.getter slot) i = .ok (some value) i := by
  cases ancestors <;> simp [execute, Code.getter, Frame.run_cons, Frame.step, h]

/-- The body of a setter stores its argument, if the type of the slot accepts it. -/
theorem execute_setter {ancestors : List Layer} {context : String} {slot : Nat} {i : Instance}
    {value : Value} (h : i.checkStore slot value = .ok ()) :
    execute ancestors ⟨context, .exclusive, [value]⟩ (Code.setter slot) i =
      .ok none { i with slots := i.slots.set slot value } := by
  cases ancestors <;>
    simp [execute, Code.setter, Frame.run_cons, Frame.step, Frame.storeTop, Instance.store, h]

end ClassSynthesis
