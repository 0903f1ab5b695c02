import ClassSynthesis.Proofs.Code.Bodies
import ClassSynthesis.Proofs.Instance.Records

/-!
# Assignments

A storing body, apart from the constructor of the parent that it runs first, stores arguments into
slots. What comes of this has a closed form: if every argument fits its slot the values of the
slots are overwritten, in order, and otherwise the first argument that does not fit is the error.
-/

namespace ClassSynthesis

/-- The error for a value that a slot of the class does not accept. -/
def Class.mismatch? (c : Class) (slot : Nat) (value : Value) : Option Error :=
  match c.slots[slot]? with
  | some place =>
    if place.ty.accepts value then none
    else some (.typeMismatch place.name place.ty.name value.typeName)
  | none => none

/-- The error for the first of the assignments, each an argument and the slot that it goes to, whose
argument the slot does not accept. -/
def Class.misfit? (c : Class) (arguments : List Value) (assignments : List (Nat × Nat)) :
    Option Error :=
  assignments.findSome? fun (argument, slot) => c.mismatch? slot (arguments.getD argument .null)

/-- The values of the slots, overwritten by the assignments in order. -/
def overwritten (arguments : List Value) (assignments : List (Nat × Nat)) (values : List Value) :
    List Value :=
  assignments.foldl (fun values (argument, slot) =>
    values.set slot (arguments.getD argument .null)) values

/-- There are as many values as before. -/
@[simp] theorem length_overwritten (arguments : List Value) (assignments : List (Nat × Nat))
    (values : List Value) : (overwritten arguments assignments values).length = values.length := by
  unfold overwritten
  induction assignments generalizing values with
  | nil => rfl
  | cons first rest ih => rw [List.foldl_cons, ih, List.length_set]

/-- A slot that no assignment is for keeps its value. -/
theorem getElem?_overwritten_of_ne {arguments : List Value} {assignments : List (Nat × Nat)}
    {index : Nat} (h : ∀ argument slot, (argument, slot) ∈ assignments → slot ≠ index)
    (values : List Value) :
    (overwritten arguments assignments values)[index]? = values[index]? := by
  unfold overwritten
  induction assignments generalizing values with
  | nil => rfl
  | cons first rest ih =>
    obtain ⟨argument, slot⟩ := first
    have hne := h argument slot List.mem_cons_self
    rw [List.foldl_cons, ih fun a s hmem => h a s (List.mem_cons_of_mem _ hmem),
      List.getElem?_set_ne hne]

/-- The last assignment to a slot decides its value. -/
theorem getElem?_overwritten_last {arguments : List Value} {argument slot : Nat}
    (first : List (Nat × Nat)) {rest : List (Nat × Nat)}
    (hlast : ∀ argument' slot', (argument', slot') ∈ rest → slot' ≠ slot) {values : List Value}
    (hlt : slot < values.length) :
    (overwritten arguments (first ++ (argument, slot) :: rest) values)[slot]? =
      some (arguments.getD argument .null) := by
  have hsplit : overwritten arguments (first ++ (argument, slot) :: rest) values =
      overwritten arguments rest
        ((overwritten arguments first values).set slot (arguments.getD argument .null)) := by
    rw [overwritten, List.foldl_append]
    rfl
  rw [hsplit, getElem?_overwritten_of_ne hlast, List.getElem?_set_self]
  rwa [length_overwritten]

namespace Instance

/-- Store arguments into slots, one by one, up to the first that does not fit. -/
def assign (arguments : List Value) : List (Nat × Nat) → Effect Unit
  | [] => fun i => .ok () i
  | (argument, slot) :: rest => fun i =>
    match store slot (arguments.getD argument .null) i with
    | .ok () left => assign arguments rest left
    | .error e left => .error e left

/-- A store into a slot of the layout succeeds if there is no mismatch. -/
theorem store_eq {c : Class} {i : Instance} (hi : i.IsOf c) {slot : Nat}
    (hslot : slot < c.slots.length) (value : Value) :
    store slot value i = match c.mismatch? slot value with
      | none => .ok () { i with slots := i.slots.set slot value }
      | some e => .error e i := by
  have hplace : c.slots[slot]? = some c.slots[slot] := List.getElem?_eq_getElem hslot
  rw [store_of_slot hi hplace, Class.mismatch?, hplace]
  by_cases haccepts : c.slots[slot].ty.accepts value
  · simp only [haccepts, ite_true]
  · simp only [haccepts, Bool.false_eq_true, ite_false]

/-- What assignments to slots of the layout come to. -/
theorem after_assign {c : Class} {i : Instance} (hi : i.IsOf c) {assignments : List (Nat × Nat)}
    (hslots : ∀ argument slot, (argument, slot) ∈ assignments → slot < c.slots.length)
    (arguments : List Value) :
    Effect.after (assign arguments assignments) i =
      match c.misfit? arguments assignments with
      | none => .ok { i with slots := overwritten arguments assignments i.slots }
      | some e => .error e := by
  induction assignments generalizing i with
  | nil =>
    cases i
    simp [Effect.after, assign, Class.misfit?, overwritten]
  | cons first rest ih =>
    obtain ⟨argument, slot⟩ := first
    have hslot := hslots argument slot List.mem_cons_self
    have hrest := fun a s hmem => hslots a s (List.mem_cons_of_mem (argument, slot) hmem)
    unfold Effect.after assign
    rw [store_eq hi hslot]
    cases hmismatch : c.mismatch? slot (arguments.getD argument .null) with
    | some e => simp only [Class.misfit?, List.findSome?_cons, hmismatch]
    | none =>
      have hset : IsOf c { i with slots := i.slots.set slot (arguments.getD argument .null) } :=
        ⟨hi.1, by simpa using hi.2⟩
      have hafter := ih hset hrest
      simp only [Class.misfit?, List.findSome?_cons, hmismatch]
      exact hafter

end Instance

/-- The assignments of a storing body, with any code behind them. -/
theorem Frame.run_assignments {frame : Frame} (haccess : frame.access = .exclusive)
    {assignments : List (Nat × Nat)}
    (harguments : ∀ argument slot, (argument, slot) ∈ assignments →
      argument < frame.arguments.length)
    (parent : Option Frame.Parent) (code : Code) (i : Instance) :
    frame.run parent
        (assignments.flatMap (fun (argument, slot) => Code.assignment argument slot) ++ code) [] i =
      match Instance.assign frame.arguments assignments i with
      | .ok () left => frame.run parent code [] left
      | .error e left => .error e left := by
  induction assignments generalizing i with
  | nil => rfl
  | cons first rest ih =>
    obtain ⟨argument, slot⟩ := first
    have hlt := harguments argument slot List.mem_cons_self
    have hrest := fun a s hmem => harguments a s (List.mem_cons_of_mem (argument, slot) hmem)
    have hvalue : frame.arguments[argument]? = some frame.arguments[argument] :=
      List.getElem?_eq_getElem hlt
    have hgetD : frame.arguments.getD argument .null = frame.arguments[argument] := by
      rw [List.getD_eq_getElem?_getD, hvalue, Option.getD_some]
    rw [List.flatMap_cons, List.append_assoc]
    simp only [Code.assignment, List.cons_append, List.nil_append]
    rw [run_cons (by simp)]
    simp only [step, hvalue]
    rw [run_cons (by simp)]
    simp only [step, storeTop, haccess, Instance.assign, hgetD]
    cases Instance.store slot frame.arguments[argument] i with
    | ok stored left => exact ih hrest left
    | error e left => rfl

/-- What a body of the class does to the receiver when it runs the constructor of the parent with
this number, or none, without arguments. -/
def Class.chained (c : Class) (context : String) : Option Nat → Effect Unit
  | none => fun i => .ok () i
  | some target => fun i =>
    match c.parent with
    | none => .error (.invalidCode context "base call on a class without parent") i
    | some parent =>
      match parent.constructors[target]? with
      | none => .error (.invalidCode context s!"parent constructor {target} does not exist") i
      | some k => (runConstructor parent.own parent.ancestors k []).ignored i

/-- The base call of a storing body, with any code behind it. -/
theorem Frame.run_chaining {frame : Frame} (haccess : frame.access = .exclusive) (c : Class)
    (base : Option Nat) (code : Code) (i : Instance) :
    frame.run c.above (Code.chaining base ++ code) [] i =
      match c.chained frame.context base i with
      | .ok () left => frame.run c.above code [] left
      | .error e left => .error e left := by
  cases base with
  | none => rfl
  | some target =>
    rw [Code.chaining, List.cons_append, List.nil_append, run_cons (by simp)]
    simp only [step, callBase, Class.chained, Class.above]
    cases hparent : c.parent with
    | none => rfl
    | some parent =>
      simp only [Option.map_some]
      cases hk : parent.constructors[target]? with
      | none => rfl
      | some k =>
        simp only [List.length_nil, Nat.lt_irrefl, ite_false, haccess, List.take_nil,
          List.reverse_nil, List.drop_nil, runConstructor, Effect.ignored]
        cases execute parent.ancestors ⟨constructorContext parent.own.name, .exclusive, []⟩
          k.code i <;> rfl

/-- A storing body makes its assignments, if the constructor of the parent that it runs first leaves
every instance as it is. -/
theorem ignored_execute_storing {c : Class} {base : Option Nat} {assignments : List (Nat × Nat)}
    {context : String} {arguments : List Value}
    (hbase : ∀ target, base = some target → ∃ parent k, c.parent = some parent ∧
      parent.constructors[target]? = some k ∧
      (runConstructor parent.own parent.ancestors k []).ignored = fun i => .ok () i)
    (harguments : ∀ argument slot, (argument, slot) ∈ assignments →
      argument < arguments.length) :
    (execute c.ancestors ⟨context, .exclusive, arguments⟩
        (Code.storing base assignments)).ignored =
      Instance.assign arguments assignments := by
  funext i
  have hchained : c.chained context base i = .ok () i := by
    cases base with
    | none => rfl
    | some target =>
      obtain ⟨parent, k, hparent, hk, hidle⟩ := hbase target rfl
      simp only [Class.chained, hparent, hk, hidle]
  unfold Effect.ignored
  rw [Class.execute_eq, Code.storing, List.append_assoc, Frame.run_chaining rfl, hchained]
  simp only
  rw [Frame.run_assignments rfl harguments]
  cases Instance.assign arguments assignments i <;> rfl

end ClassSynthesis
