/-!
# Code of accessors and constructors

Accessors and constructors carry short lists of instructions for a stack machine. The generators
here write the only bodies that declared and synthesized classes get: reading or overwriting one
slot, storing arguments into slots, and passing all arguments on to a constructor of the parent.
-/

namespace ClassSynthesis

/-- One instruction. -/
inductive Instr where
  /-- Push an argument. -/
  | loadArg (index : Nat)
  /-- Push a slot of the receiver. -/
  | loadSlot (index : Nat)
  /-- Pop a value into a slot of the receiver. -/
  | storeSlot (index : Nat)
  /-- Pop arguments and run a constructor of the parent with them. -/
  | callBase (target count : Nat)
  /-- End with the top of the stack, if there is one. -/
  | ret
  deriving DecidableEq, Repr

/-- A body. -/
abbrev Code := List Instr

namespace Code

/-- Read a slot. -/
def getter (slot : Nat) : Code := [.loadSlot slot, .ret]

/-- Overwrite a slot with the only argument. -/
def setter (slot : Nat) : Code := [.loadArg 0, .storeSlot slot, .ret]

/-- Pass the first `count` arguments, in order, to a constructor of the parent. -/
def forwarding (target count : Nat) : Code :=
  (List.range count).map .loadArg ++ [.callBase target count, .ret]

/-- Store an argument into a slot. -/
def assignment (argument slot : Nat) : Code := [.loadArg argument, .storeSlot slot]

/-- Run a constructor of the parent without arguments. -/
def chaining : Option Nat → Code
  | none => []
  | some target => [.callBase target 0]

/-- Perhaps run a constructor of the parent, then store arguments into slots, one by one. -/
def storing (base : Option Nat) (assignments : List (Nat × Nat)) : Code :=
  chaining base ++ assignments.flatMap (fun (argument, slot) => assignment argument slot) ++ [.ret]

end Code

end ClassSynthesis
