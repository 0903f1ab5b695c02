import ClassSynthesis.Proofs.Class.Lineage
import ClassSynthesis.Proofs.Instance.Typing

/-!
# Sound code

A body is sound in a class if all that it refers to is there, arguments, slots and constructors of
the parent, and if it never pops from an empty stack. Sound code cannot be stopped by its own
instructions: if the constructors above it are sound too, it fails only where a value does not fit
the type of a slot, at whatever depth of base calls.
-/

namespace ClassSynthesis

/-- The error says that a value does not fit the type of the member that was to hold it. -/
def Error.IsMismatch (e : Error) : Prop :=
  ∃ member expected actual, e = .typeMismatch member expected actual

/-- On the receivers in question the effect fails only where a value does not fit. -/
def Effect.Sound {α : Type} (P : Instance → Prop) (effect : Effect α) : Prop :=
  ∀ i e left, P i → effect i = .error e left → e.IsMismatch

namespace Instr

/-- How many values an instruction pops. -/
def pops : Instr → Nat
  | loadArg _ | loadSlot _ | ret => 0
  | storeSlot _ => 1
  | callBase _ count => count

/-- How many values an instruction pushes. -/
def pushes : Instr → Nat
  | loadArg _ | loadSlot _ => 1
  | storeSlot _ | callBase _ _ | ret => 0

/-- What an instruction refers to is there: the argument, the slot, or a constructor of the parent
that has as many parameters as arguments are passed to it. -/
def SoundIn (c : Class) (arguments : Nat) : Instr → Prop
  | loadArg index => index < arguments
  | loadSlot index | storeSlot index => index < c.slots.length
  | callBase target count =>
    ∃ parent k, c.parent = some parent ∧ parent.constructors[target]? = some k ∧
      k.parameters.length = count
  | ret => True

end Instr

namespace Code

/-- From a stack of this height on, the values that are popped are there. -/
def neverShort : Code → Nat → Bool
  | [], _ => true
  | .ret :: _, _ => true
  | instr :: code, height =>
    instr.pops ≤ height && neverShort code (height - instr.pops + instr.pushes)

/-- The code is sound in a class when it runs with so many arguments. -/
structure SoundIn (code : Code) (c : Class) (arguments : Nat) : Prop where
  /-- What its instructions refer to is there. -/
  refers : ∀ instr ∈ code, instr.SoundIn c arguments
  /-- The values that it pops are there. -/
  neverShort : code.neverShort 0

theorem neverShort_cons {instr : Instr} (h : instr ≠ .ret) (code : Code) (height : Nat) :
    neverShort (instr :: code) height =
      (decide (instr.pops ≤ height) &&
        neverShort code (height - instr.pops + instr.pushes)) := by
  cases instr with
  | ret => exact absurd rfl h
  | _ => rfl

/-- Only slots and parent of a class count for the soundness of code. -/
theorem SoundIn.congr {code : Code} {c d : Class} {arguments : Nat}
    (h : code.SoundIn c arguments) (hslots : d.slots = c.slots) (hparent : d.parent = c.parent) :
    code.SoundIn d arguments where
  refers := by
    intro instr hinstr
    have hsound := h.refers instr hinstr
    cases instr with
    | loadArg index => exact hsound
    | loadSlot index | storeSlot index =>
      rw [Instr.SoundIn, hslots]
      exact hsound
    | callBase target count =>
      rw [Instr.SoundIn, hparent]
      exact hsound
    | ret => exact hsound
  neverShort := h.neverShort

end Code

/-- The bodies of the constructors are sound. -/
def Class.ConstructorsSound (c : Class) : Prop :=
  ∀ k ∈ c.constructors, k.code.SoundIn c k.parameters.length

/-- An instance of exactly this class, with as many values as the class has slots. -/
def Instance.IsOf (c : Class) (i : Instance) : Prop :=
  i.cls = c ∧ i.slots.length = c.slots.length

/-- A store changes neither the class nor the number of values. -/
theorem Instance.storeKeeps_isOf (c : Class) : StoreKeeps (Instance.IsOf c) := by
  rintro index value i ⟨hcls, hlength⟩
  unfold Effect.left store
  cases i.checkStore index value with
  | ok passed => exact ⟨hcls, by simpa using hlength⟩
  | error e => exact ⟨hcls, hlength⟩

theorem Instance.isOf_blank (c : Class) : (blank c).IsOf c := ⟨rfl, length_slots_blank c⟩

/-- A checked store into a slot of the layout fails only where the value does not fit. -/
theorem Instance.store_sound {c : Class} {index : Nat} (hindex : index < c.slots.length)
    (value : Value) : Effect.Sound (IsOf c) (store index value) := by
  rintro i e left ⟨hcls, -⟩ hrun
  have hslot : i.cls.slots[index]? = some c.slots[index] := by
    rw [hcls]
    exact List.getElem?_eq_getElem hindex
  unfold store checkStore at hrun
  rw [hslot] at hrun
  by_cases haccepts : c.slots[index].ty.accepts value
  · simp [haccepts] at hrun
  · simp only [haccepts, Bool.false_eq_true, ite_false, EStateM.Result.error.injEq] at hrun
    exact ⟨_, _, _, hrun.1.symm⟩

/-- Forgetting the result of an effect does not change how it fails. -/
theorem Effect.Sound.ignored {α : Type} {P : Instance → Prop} {effect : Effect α}
    (h : effect.Sound P) : effect.ignored.Sound P := by
  intro i e left hi hrun
  unfold Effect.ignored at hrun
  cases hstep : effect i with
  | ok a after => simp [hstep] at hrun
  | error e' after =>
    rw [hstep] at hrun
    obtain ⟨rfl, rfl⟩ := EStateM.Result.error.inj hrun
    exact h i e' after hi hstep

namespace Frame

/-- A store pops one value. -/
theorem length_of_storeTop {frame : Frame} {index : Nat} {stack rest : List Value}
    {i left : Instance} (h : frame.storeTop index stack i = .ok rest left) :
    rest.length = stack.length - 1 := by
  unfold storeTop at h
  cases stack with
  | nil => simp at h
  | cons value below =>
    cases haccess : frame.access with
    | shared => simp [haccess] at h
    | exclusive =>
      cases hstore : Instance.store index value i with
      | error e after => simp [haccess, hstore] at h
      | ok stored after =>
        simp only [haccess, hstore, EStateM.Result.ok.injEq] at h
        simp [← h.1]

/-- A base call pops its arguments. -/
theorem length_of_callBase {frame : Frame} {parent : Option Parent} {target count : Nat}
    {stack rest : List Value} {i left : Instance}
    (h : frame.callBase parent target count stack i = .ok rest left) :
    rest.length = stack.length - count := by
  unfold callBase at h
  cases parent with
  | none => simp at h
  | some p =>
    cases hk : p.layer.constructors[target]? with
    | none => simp [hk] at h
    | some k =>
      by_cases hshort : stack.length < count
      · simp [hk, hshort] at h
      · cases haccess : frame.access with
        | shared => simp [hk, hshort, haccess] at h
        | exclusive =>
          simp only [hk, hshort, haccess, ite_false] at h
          split at h
          · obtain ⟨rfl, rfl⟩ := EStateM.Result.ok.inj h
            exact List.length_drop
          · cases h

/-- The height of the stack after an instruction that succeeds. -/
theorem length_of_step {frame : Frame} {parent : Option Parent} {instr : Instr}
    {stack rest : List Value} {i left : Instance}
    (h : frame.step parent instr stack i = .ok rest left) :
    rest.length = stack.length - instr.pops + instr.pushes := by
  cases instr with
  | loadArg index =>
    unfold step at h
    cases hv : frame.arguments[index]? with
    | none => simp [hv] at h
    | some value =>
      simp only [hv, EStateM.Result.ok.injEq] at h
      simp [← h.1, Instr.pops, Instr.pushes]
  | loadSlot index =>
    unfold step at h
    cases hv : i.slot? index with
    | none => simp [hv] at h
    | some value =>
      simp only [hv, EStateM.Result.ok.injEq] at h
      simp [← h.1, Instr.pops, Instr.pushes]
  | storeSlot index => exact length_of_storeTop h
  | callBase target count => exact length_of_callBase h
  | ret =>
    obtain ⟨rfl, rfl⟩ := EStateM.Result.ok.inj h
    rfl

variable {c receiver : Class} {frame : Frame}

/-- A store of a value on the stack into a slot of the receiver fails only where the value does not
fit. -/
theorem storeTop_sound (haccess : frame.access = .exclusive) {index : Nat}
    (hindex : index < receiver.slots.length) {stack : List Value} (hstack : 1 ≤ stack.length) :
    (frame.storeTop index stack).Sound (·.IsOf receiver) := by
  intro i e left hi hrun
  cases stack with
  | nil => cases hstack
  | cons value rest =>
    simp only [storeTop, haccess] at hrun
    cases hstore : Instance.store index value i with
    | ok stored after => simp [hstore] at hrun
    | error e' after =>
      simp only [hstore, EStateM.Result.error.injEq] at hrun
      exact hrun.1 ▸ Instance.store_sound hindex value i e' after hi hstore

/-- A base call with enough arguments on the stack fails only as the constructor of the parent
does. -/
theorem callBase_sound (haccess : frame.access = .exclusive) {parent : Parent} {k : Constructor}
    {target count : Nat} (hk : parent.layer.constructors[target]? = some k)
    {stack : List Value} (hstack : count ≤ stack.length)
    (hbody : ∀ arguments, arguments.length = count →
      (parent.run ⟨constructorContext parent.layer.name, .exclusive, arguments⟩ k.code).Sound
        (·.IsOf receiver)) :
    (frame.callBase (some parent) target count stack).Sound (·.IsOf receiver) := by
  intro i e left hi hrun
  have hshort : ¬ stack.length < count := Nat.not_lt.mpr hstack
  have hlength : (stack.take count).reverse.length = count := by
    rw [List.length_reverse, List.length_take]
    exact Nat.min_eq_left hstack
  simp only [callBase, hk, hshort, ite_false, haccess] at hrun
  split at hrun
  · cases hrun
  · next e' after hfail =>
    obtain ⟨rfl, rfl⟩ := EStateM.Result.error.inj hrun
    exact hbody _ hlength i e' after hi hfail

/-- An instruction that is sound fails only where a value does not fit. -/
theorem step_sound {instr : Instr} (hinstr : instr.SoundIn c frame.arguments.length)
    {stack : List Value} (hpops : instr.pops ≤ stack.length)
    (haccess : frame.access = .exclusive) (hroom : c.slots.length ≤ receiver.slots.length)
    (habove : ∀ parent, c.parent = some parent → ∀ k ∈ parent.constructors, ∀ arguments,
      arguments.length = k.parameters.length →
        (runConstructor parent.own parent.ancestors k arguments).Sound (·.IsOf receiver)) :
    (frame.step c.above instr stack).Sound (·.IsOf receiver) := by
  cases instr with
  | loadArg index =>
    intro i e left hi hrun
    have hvalue : frame.arguments[index]? = some frame.arguments[index] :=
      List.getElem?_eq_getElem hinstr
    simp [step, hvalue] at hrun
  | loadSlot index =>
    intro i e left hi hrun
    have hindex : index < i.slots.length := by
      rw [hi.2]
      exact Nat.lt_of_lt_of_le hinstr hroom
    have hvalue : i.slot? index = some i.slots[index] := List.getElem?_eq_getElem hindex
    simp [step, hvalue] at hrun
  | storeSlot index => exact storeTop_sound haccess (Nat.lt_of_lt_of_le hinstr hroom) hpops
  | callBase target count =>
    obtain ⟨parent, k, hparent, hk, hcount⟩ := hinstr
    rw [Class.above, hparent]
    refine callBase_sound haccess hk hpops ?_
    intro arguments hlength
    exact habove parent hparent k (List.mem_of_getElem? hk) arguments (hlength.trans hcount.symm)
  | ret =>
    intro i e left hi hrun
    cases hrun

/-- A body whose instructions are sound and whose stack never runs short fails only where a value
does not fit. -/
theorem run_sound {code : Code} (hcode : ∀ instr ∈ code, instr.SoundIn c frame.arguments.length)
    {stack : List Value} (hstack : code.neverShort stack.length)
    (haccess : frame.access = .exclusive) (hroom : c.slots.length ≤ receiver.slots.length)
    (habove : ∀ parent, c.parent = some parent → ∀ k ∈ parent.constructors, ∀ arguments,
      arguments.length = k.parameters.length →
        (runConstructor parent.own parent.ancestors k arguments).Sound (·.IsOf receiver)) :
    (frame.run c.above code stack).Sound (·.IsOf receiver) := by
  induction code generalizing stack with
  | nil =>
    intro i e left hi hrun
    simp at hrun
  | cons instr code ih =>
    intro i e left hi hrun
    by_cases hret : instr = .ret
    · subst hret
      simp at hrun
    · rw [Code.neverShort_cons hret, Bool.and_eq_true, decide_eq_true_eq] at hstack
      obtain ⟨hpops, hrest⟩ := hstack
      have hinstr := hcode instr List.mem_cons_self
      rw [run_cons hret] at hrun
      cases hstep : frame.step c.above instr stack i with
      | error e' after =>
        simp only [hstep, EStateM.Result.error.injEq] at hrun
        exact hrun.1 ▸ step_sound hinstr hpops haccess hroom habove i e' after hi hstep
      | ok rest after =>
        simp only [hstep] at hrun
        have hkept : (frame.step c.above instr stack).Keeps (·.IsOf receiver) := by
          refine keeps_step (Instance.storeKeeps_isOf receiver) frame ?_ instr stack
          intro p hp called body
          unfold Class.above at hp
          obtain ⟨parent, -, rfl⟩ := Option.map_eq_some_iff.mp hp
          exact keeps_execute (Instance.storeKeeps_isOf receiver) parent.ancestors called body
        -- The height is exact, so what was checked of the rest holds for the stack that is left.
        rw [← length_of_step hstep] at hrest
        exact ih (fun other hother => hcode other (List.mem_cons_of_mem instr hother)) hrest
          after e left (hkept.of_ok hstep hi) hrun

end Frame

/-- Sound code of a class, all of whose ancestors have sound constructors, fails only where a value
does not fit, on every receiver that has all slots of the lineage. -/
theorem execute_sound {c receiver : Class}
    (hlineage : ∀ d ∈ c.lineage,
      d.slots.length ≤ receiver.slots.length ∧ d.ConstructorsSound)
    {frame : Frame} {code : Code} (hcode : code.SoundIn c frame.arguments.length)
    (haccess : frame.access = .exclusive) :
    (execute c.ancestors frame code).Sound (·.IsOf receiver) := by
  have hroom := fun d hd => (hlineage d hd).1
  induction c using Class.parentInduction generalizing frame code with
  | root c h =>
    rw [Class.execute_eq]
    refine Frame.run_sound hcode.refers hcode.neverShort haccess (hroom c (by simp)) ?_
    intro parent hparent
    rw [h] at hparent
    cases hparent
  | derived c parent h ih =>
    rw [Class.execute_eq]
    refine Frame.run_sound hcode.refers hcode.neverShort haccess (hroom c (by simp)) ?_
    intro other hother k hk arguments hlength
    obtain rfl : parent = other := Option.some.inj (h.symm.trans hother)
    have habove : ∀ d ∈ parent.lineage, d ∈ c.lineage := fun d => Class.mem_lineage_of_parent h
    have hbody : k.code.SoundIn parent arguments.length :=
      hlength ▸ (hlineage parent (habove parent (by simp))).2 k hk
    exact ih (fun d hd => hlineage d (habove d hd)) hbody rfl (fun d hd => hroom d (habove d hd))

end ClassSynthesis
