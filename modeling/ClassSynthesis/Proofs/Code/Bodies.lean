import ClassSynthesis.Proofs.Code.Soundness

/-!
# Generated bodies

The generators write sound code, if what they are given is there. A forwarding body does what the
constructor of the parent does with the same arguments, and returns nothing.
-/

namespace ClassSynthesis

namespace Code

/-- Loads of arguments push one value each. -/
theorem neverShort_loads (count height : Nat) (code : Code) :
    neverShort ((List.range count).map .loadArg ++ code) height =
      neverShort code (height + count) := by
  induction count generalizing code with
  | zero => rfl
  | succ count ih =>
    have hload : Instr.loadArg count ≠ .ret := by simp
    rw [List.range_succ, List.map_append, List.append_assoc, ih]
    simp only [List.map_cons, List.map_nil, List.cons_append, List.nil_append,
      neverShort_cons hload, Instr.pops, Instr.pushes]
    simp [Nat.add_assoc]

/-- An assignment pushes a value and pops it again. -/
theorem neverShort_assignments (assignments : List (Nat × Nat)) (height : Nat) (code : Code) :
    neverShort (assignments.flatMap (fun (argument, slot) => assignment argument slot) ++ code)
      height = neverShort code height := by
  induction assignments with
  | nil => rfl
  | cons first rest ih =>
    obtain ⟨argument, slot⟩ := first
    rw [List.flatMap_cons, List.append_assoc]
    change neverShort (.loadArg argument :: .storeSlot slot :: (rest.flatMap _ ++ code)) height = _
    rw [neverShort_cons (by simp), neverShort_cons (by simp)]
    simpa [Instr.pops, Instr.pushes] using ih

/-- The body of a forwarding constructor is sound if the constructor of the parent is there and has
the number of parameters that is passed on. -/
theorem soundIn_forwarding {c parent : Class} (hparent : c.parent = some parent) {target : Nat}
    {k : Constructor} (hk : parent.constructors[target]? = some k) :
    (forwarding target k.parameters.length).SoundIn c k.parameters.length where
  refers := by
    intro instr hinstr
    simp only [forwarding, List.mem_append, List.mem_map, List.mem_range, List.mem_cons,
      List.not_mem_nil, or_false] at hinstr
    rcases hinstr with ⟨index, hindex, rfl⟩ | rfl | rfl
    · exact hindex
    · exact ⟨parent, k, hparent, hk, rfl⟩
    · exact True.intro
  neverShort := by
    rw [forwarding, neverShort_loads]
    simp [neverShort, Instr.pops]

/-- The body of a storing constructor is sound if the constructor of the parent takes no arguments
and the assignments stay within the arguments and the slots. -/
theorem soundIn_storing {c : Class} {base : Option Nat} {assignments : List (Nat × Nat)}
    {arguments : Nat}
    (hbase : ∀ target, base = some target → ∃ parent k, c.parent = some parent ∧
      parent.constructors[target]? = some k ∧ k.parameters = [])
    (hassigned : ∀ argument slot, (argument, slot) ∈ assignments →
      argument < arguments ∧ slot < c.slots.length) :
    (storing base assignments).SoundIn c arguments where
  refers := by
    intro instr hinstr
    rw [storing, List.mem_append, List.mem_append] at hinstr
    rcases hinstr with (hchain | hassign) | hret
    · cases base with
      | none => simp [chaining] at hchain
      | some target =>
        obtain rfl : instr = .callBase target 0 := by simpa [chaining] using hchain
        obtain ⟨parent, k, hparent, hk, hnone⟩ := hbase target rfl
        exact ⟨parent, k, hparent, hk, by simp [hnone]⟩
    · obtain ⟨⟨argument, slot⟩, hmem, hinstr⟩ := List.mem_flatMap.mp hassign
      obtain ⟨hargument, hslot⟩ := hassigned argument slot hmem
      simp only [assignment, List.mem_cons, List.not_mem_nil, or_false] at hinstr
      rcases hinstr with rfl | rfl
      · exact hargument
      · exact hslot
    · obtain rfl : instr = .ret := by simpa using hret
      exact True.intro
  neverShort := by
    rw [storing, List.append_assoc]
    cases base with
    | none =>
      rw [chaining, List.nil_append, neverShort_assignments]
      rfl
    | some target =>
      rw [chaining, List.cons_append, List.nil_append, neverShort_cons (by simp)]
      simp only [Instr.pops, Instr.pushes, Nat.zero_sub, Nat.zero_add, neverShort_assignments]
      rfl

end Code

/-- Loads of the first arguments put them onto the stack, the last one on top. -/
theorem Frame.run_loads {frame : Frame} {count : Nat} (h : count ≤ frame.arguments.length)
    (parent : Option Frame.Parent) (code : Code) (stack : List Value) (i : Instance) :
    frame.run parent ((List.range count).map .loadArg ++ code) stack i =
      frame.run parent code ((frame.arguments.take count).reverse ++ stack) i := by
  induction count generalizing code with
  | zero => rfl
  | succ count ih =>
    have hvalue : frame.arguments[count]? = some frame.arguments[count] :=
      List.getElem?_eq_getElem h
    rw [List.range_succ, List.map_append, List.append_assoc, ih (Nat.le_of_succ_le h)]
    simp only [List.map_cons, List.map_nil, List.cons_append, List.nil_append]
    rw [run_cons (by simp)]
    simp only [step, hvalue]
    rw [List.take_add_one, hvalue, Option.toList_some, List.reverse_append]
    rfl

/-- A forwarding body does to the receiver what the constructor of the parent does with the same
arguments. If that one fails it fails in the same way, and otherwise it returns nothing. -/
theorem execute_forwarding {c parent : Class} (hparent : c.parent = some parent) {target : Nat}
    {k : Constructor} (hk : parent.constructors[target]? = some k) (context : String)
    (arguments : List Value) (i : Instance) :
    execute c.ancestors ⟨context, .exclusive, arguments⟩
        (Code.forwarding target arguments.length) i =
      match runConstructor parent.own parent.ancestors k arguments i with
      | .ok _ left => .ok none left
      | .error e left => .error e left := by
  rw [Class.execute_eq, Code.forwarding, Frame.run_loads (Nat.le_refl _), List.append_nil,
    List.take_length, Frame.run_cons (by simp)]
  simp only [Frame.step, Frame.callBase, Class.above, hparent, Option.map_some, hk,
    List.length_reverse, Nat.lt_irrefl, ite_false]
  rw [List.take_of_length_le (by simp), List.drop_of_length_le (by simp), List.reverse_reverse,
    runConstructor]
  cases execute parent.ancestors ⟨constructorContext parent.name, .exclusive, arguments⟩ k.code i
    with
  | ok result left => rfl
  | error e left => rfl

end ClassSynthesis
