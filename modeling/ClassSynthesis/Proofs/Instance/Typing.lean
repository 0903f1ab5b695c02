import ClassSynthesis.Proofs.Instance.Session

/-!
# Slots keep to their types

Whatever code the constructors and accessors of a class carry, slots change through
`Instance.store` alone. A property of instances that every store keeps is therefore kept by every
run of code, up to the place where it fails, and by every session. Being a well-typed instance of
a given class is such a property, and a blank instance has it.
-/

namespace ClassSynthesis

/-- An effect keeps a property of its receiver, whether it succeeds or fails. -/
def Effect.Keeps {α : Type} (P : Instance → Prop) (effect : Effect α) : Prop :=
  ∀ i, P i → P (effect.left i)

/-- A property of instances that no single store can break. -/
def StoreKeeps (P : Instance → Prop) : Prop :=
  ∀ index value, (Instance.store index value).Keeps P

section Keeps

variable {P : Instance → Prop}

/-- What a kept effect leaves behind when it succeeds. -/
theorem Effect.Keeps.of_ok {α : Type} {effect : Effect α} (h : effect.Keeps P) {i left : Instance}
    {a : α} (hrun : effect i = .ok a left) (hi : P i) : P left := by
  have hleft := h i hi
  rwa [Effect.left, hrun] at hleft

/-- What a kept effect leaves behind when it fails. -/
theorem Effect.Keeps.of_error {α : Type} {effect : Effect α} (h : effect.Keeps P)
    {i left : Instance} {e : Error} (hrun : effect i = .error e left) (hi : P i) : P left := by
  have hleft := h i hi
  rwa [Effect.left, hrun] at hleft

/-- Forgetting the result of an effect does not change what it leaves behind. -/
theorem Effect.Keeps.ignored {α : Type} {effect : Effect α} (h : effect.Keeps P) :
    effect.ignored.Keeps P := by
  intro i hi
  unfold Effect.left Effect.ignored
  cases hrun : effect i with
  | ok a left => exact h.of_ok hrun hi
  | error e left => exact h.of_error hrun hi

/-- An effect that succeeds leaves behind what it keeps. -/
theorem Effect.Keeps.of_after {α : Type} {effect : Effect α} (h : effect.Keeps P)
    {i j : Instance} (hi : P i) (hrun : effect.after i = .ok j) : P j := by
  unfold Effect.after at hrun
  cases hstep : effect i with
  | ok a left =>
    simp only [hstep, Except.ok.injEq] at hrun
    exact hrun ▸ h.of_ok hstep hi
  | error e left => simp [hstep] at hrun

namespace Frame

/-- The only change that an instruction may make to a slot is a checked store. -/
theorem keeps_storeTop (hstore : StoreKeeps P) (frame : Frame) (index : Nat)
    (stack : List Value) : (frame.storeTop index stack).Keeps P := by
  intro i hi
  unfold Effect.left storeTop
  cases stack with
  | nil => exact hi
  | cons value rest =>
    cases frame.access with
    | shared => exact hi
    | exclusive =>
      cases hrun : Instance.store index value i with
      | ok a left => simpa only [hrun] using (hstore index value).of_ok hrun hi
      | error e left => simpa only [hrun] using (hstore index value).of_error hrun hi

/-- A base call keeps what the code of the parent keeps. -/
theorem keeps_callBase (frame : Frame) {parent : Option Parent}
    (hparent : ∀ p ∈ parent, ∀ called code, (p.run called code).Keeps P) (target count : Nat)
    (stack : List Value) : (frame.callBase parent target count stack).Keeps P := by
  intro i hi
  unfold Effect.left callBase
  cases parent with
  | none => exact hi
  | some p =>
    cases hk : p.layer.constructors[target]? with
    | none => simpa only [hk] using hi
    | some k =>
      simp only [hk]
      by_cases hshort : stack.length < count
      · simpa only [hshort, ite_true] using hi
      · simp only [hshort, ite_false]
        cases frame.access with
        | shared => exact hi
        | exclusive =>
          have hcode := hparent p rfl
            ⟨constructorContext p.layer.name, .exclusive, (stack.take count).reverse⟩ k.code
          cases hrun : p.run ⟨constructorContext p.layer.name, .exclusive,
              (stack.take count).reverse⟩ k.code i with
          | ok a left => simpa only [hrun] using hcode.of_ok hrun hi
          | error e left => simpa only [hrun] using hcode.of_error hrun hi

/-- One instruction keeps what stores and the code of the parent keep. -/
theorem keeps_step (hstore : StoreKeeps P) (frame : Frame) {parent : Option Parent}
    (hparent : ∀ p ∈ parent, ∀ called code, (p.run called code).Keeps P) (instr : Instr)
    (stack : List Value) : (frame.step parent instr stack).Keeps P := by
  cases instr with
  | loadArg index =>
    intro i hi
    unfold Effect.left step
    cases hv : frame.arguments[index]? <;> simpa only [hv] using hi
  | loadSlot index =>
    intro i hi
    unfold Effect.left step
    cases hv : i.slot? index <;> simpa only [hv] using hi
  | storeSlot index => exact keeps_storeTop hstore frame index stack
  | callBase target count => exact keeps_callBase frame hparent target count stack
  | ret => exact fun i hi => hi

/-- A body keeps what each of its instructions keeps, however far it gets. -/
theorem keeps_run (hstore : StoreKeeps P) (frame : Frame) {parent : Option Parent}
    (hparent : ∀ p ∈ parent, ∀ called code, (p.run called code).Keeps P) (code : Code)
    (stack : List Value) : (frame.run parent code stack).Keeps P := by
  induction code generalizing stack with
  | nil => exact fun i hi => hi
  | cons instr code ih =>
    by_cases hret : instr = .ret
    · subst hret
      exact fun i hi => hi
    · intro i hi
      have hstep := keeps_step hstore frame hparent instr stack
      rw [Effect.left, run_cons hret]
      cases hrun : frame.step parent instr stack i with
      | ok rest left => exact ih rest left (hstep.of_ok hrun hi)
      | error e left => exact hstep.of_error hrun hi

end Frame

/-- Code of any class, at any depth of base calls, keeps what every store keeps. -/
theorem keeps_execute (hstore : StoreKeeps P) (ancestors : List Layer) (frame : Frame)
    (code : Code) : (execute ancestors frame code).Keeps P := by
  induction ancestors generalizing frame code with
  | nil => exact Frame.keeps_run hstore frame (by simp) code []
  | cons parent ancestors ih =>
    refine Frame.keeps_run hstore frame ?_ code []
    intro p hp called body
    obtain rfl := Option.some.inj hp
    exact ih called body

/-- The implicit constructor of a class without constructors keeps what every store keeps. -/
theorem keeps_runImplicit (hstore : StoreKeeps P) (layers : List Layer) :
    (runImplicit layers).Keeps P := by
  induction layers with
  | nil => exact fun i hi => hi
  | cons layer ancestors ih =>
    unfold runImplicit
    by_cases hnone : layer.constructors.isEmpty
    · simpa only [hnone, ite_true] using ih
    · simp only [hnone]
      cases layer.constructors.find? (·.parameters.isEmpty) with
      | none => exact fun i hi => hi
      | some k => exact (keeps_execute hstore ancestors _ k.code).ignored

namespace Instance

/-- Writing a property keeps what every store keeps, whatever its setter does. -/
theorem keeps_set (hstore : StoreKeeps P) (name : String) (value : Value) :
    Effect.Keeps P (set name value) := by
  intro i hi
  unfold Effect.left set
  cases hs : i.setter? name with
  | none => simpa only [hs] using hi
  | some found =>
    obtain ⟨owner, p, setter⟩ := found
    simp only
    by_cases haccepts : p.ty.accepts value
    · simp only [haccepts, ite_true]
      exact (keeps_execute hstore owner.ancestors _ setter.code).ignored i hi
    · simpa only [haccepts, Bool.false_eq_true, ite_false] using hi

/-- Writing a member keeps what every store keeps. -/
theorem keeps_setMember (hstore : StoreKeeps P) (name : String) (value : Value) :
    Effect.Keeps P (setMember name value) := by
  intro i hi
  unfold Effect.left setMember
  cases hw : i.cls.writable? name with
  | none => simpa only [hw] using hi
  | some found =>
    cases found with
    | property p => exact keeps_set hstore name value i hi
    | field f => exact hstore f.slot value i hi

/-- Overrides keep what every store keeps. -/
theorem keeps_setMembers (hstore : StoreKeeps P) (overrides : List (String × Value)) :
    Effect.Keeps P (setMembers overrides) := by
  induction overrides with
  | nil => exact fun i hi => hi
  | cons first rest ih =>
    intro i hi
    have hfirst := keeps_setMember hstore first.1 first.2
    unfold Effect.left setMembers
    cases hrun : setMember first.1 first.2 i with
    | ok a left => exact ih left (hfirst.of_ok hrun hi)
    | error e left => exact hfirst.of_error hrun hi

/-- A call keeps what every store keeps. -/
theorem keeps_next (hstore : StoreKeeps P) {i : Instance} (hi : P i) (call : Call) :
    P (i.next call) := by
  cases call with
  | get name => exact hi
  | field name => exact hi
  | set name value => exact keeps_set hstore name value i hi
  | setMember name value => exact keeps_setMember hstore name value i hi

/-- A session keeps what every store keeps. -/
theorem keeps_after (hstore : StoreKeeps P) {i : Instance} (hi : P i) (calls : List Call) :
    P (i.after calls) := by
  induction calls generalizing i with
  | nil => exact hi
  | cons call rest ih => exact ih (keeps_next hstore hi call)

/-- A constructor called by its number gives an instance with what a blank one has. -/
theorem keeps_construct (hstore : StoreKeeps P) {c : Class} (hblank : P (blank c))
    {target : Nat} {arguments : List Value} {i : Instance}
    (h : construct c target arguments = .ok i) : P i := by
  unfold construct at h
  cases hk : c.constructors[target]? with
  | none => simp [hk] at h
  | some k =>
    simp only [hk] at h
    by_cases haccepts : k.accepts arguments
    · simp only [haccepts, ite_true] at h
      exact (keeps_execute hstore c.ancestors _ k.code).of_after hblank h
    · simp [haccepts] at h

/-- A new instance has what a blank one has. -/
theorem keeps_create (hstore : StoreKeeps P) {c : Class} (hblank : P (blank c))
    {arguments : List Value} {i : Instance} (h : create c arguments = .ok i) : P i := by
  unfold create at h
  by_cases hnone : c.constructors.isEmpty
  · simp only [hnone, ite_true] at h
    by_cases hempty : arguments.isEmpty
    · simp only [hempty, ite_true] at h
      exact (keeps_runImplicit hstore c.ancestors).of_after hblank h
    · simp [hempty] at h
  · simp only [hnone] at h
    cases ht : c.constructors.findIdx? (·.accepts arguments) with
    | none => simp [ht] at h
    | some target =>
      simp only [ht] at h
      exact keeps_construct hstore hblank h

/-- However an instance comes about, it has what a blank one has. -/
theorem Created.keeps (hstore : StoreKeeps P) {c : Class} (hblank : P (blank c)) {i : Instance}
    (h : Created c i) : P i := by
  cases h with
  | constructed arguments h => exact keeps_create hstore hblank h
  | instantiated target arguments overrides h =>
    unfold Attribute.instantiate at h
    cases hmade : construct c target arguments with
    | error e => simp [hmade] at h
    | ok made =>
      simp only [hmade] at h
      exact (keeps_setMembers hstore overrides).of_after
        (keeps_construct hstore hblank hmade) h

end Instance

end Keeps

namespace Instance

/-- There is one value for each slot of the class, and the type of the slot accepts it. -/
structure WellTyped (i : Instance) : Prop where
  /-- As many values as slots. -/
  length : i.slots.length = i.cls.slots.length
  /-- Each value is one that its slot accepts. -/
  accepts : ∀ (index : Nat) (slot : Slot) (value : Value), i.cls.slots[index]? = some slot →
    i.slots[index]? = some value → slot.ty.accepts value

/-- A blank instance holds initial values, which their slots accept. -/
theorem wellTyped_blank (c : Class) : (blank c).WellTyped where
  length := length_slots_blank c
  accepts := by
    intro index slot value hslot hvalue
    change c.slots[index]? = some slot at hslot
    rw [blank, List.getElem?_map, hslot, Option.map_some, Option.some.injEq] at hvalue
    exact hvalue ▸ Ty.accepts_initial slot.ty

/-- A store checks its value, so it keeps an instance well typed, and it never touches the class. -/
theorem storeKeeps_wellTyped (c : Class) : StoreKeeps fun i => i.cls = c ∧ i.WellTyped := by
  rintro index value i ⟨hcls, htyped⟩
  unfold Effect.left store
  cases hcheck : i.checkStore index value with
  | error e => exact ⟨hcls, htyped⟩
  | ok passed =>
    obtain ⟨slot, hslot, haccepts⟩ := checkStore_eq_ok_iff.mp hcheck
    refine ⟨hcls, ?_, ?_⟩
    · simpa using htyped.length
    · intro other otherSlot otherValue hother hvalue
      simp only [List.getElem?_set] at hvalue
      by_cases heq : index = other
      · subst heq
        have hsame : otherSlot = slot := by simpa [hslot] using hother.symm
        by_cases hlt : index < i.slots.length
        · simp only [ite_true, hlt, Option.some.injEq] at hvalue
          rwa [hsame, ← hvalue]
        · simp [hlt] at hvalue
      · simp only [heq, ite_false] at hvalue
        exact htyped.accepts other otherSlot otherValue hother hvalue

/-- A session with an instance of any class, whatever the code of the class and of its ancestors,
never changes the class and leaves every slot with a value of its type, also where calls fail
after a part of their code has run. -/
theorem wellTyped_after {c : Class} {i : Instance} (h : Created c i) (calls : List Call) :
    (i.after calls).cls = c ∧ (i.after calls).WellTyped := by
  have hstore := storeKeeps_wellTyped c
  exact keeps_after hstore (h.keeps hstore ⟨rfl, wellTyped_blank c⟩) calls

/-- A layer whose constructor stores a number where it belongs and then where a text belongs. -/
def unrulyBase : Layer where
  key := ⟨0, 0⟩
  name := "Base"
  container := ""
  visibility := .external
  kind := .plain
  slots := [⟨"count", .int⟩, ⟨"label", .str⟩]
  fields := []
  properties := []
  methods := []
  constructors :=
    [⟨[⟨"count", .int, 0, []⟩],
      [.loadArg 0, .storeSlot 0, .loadSlot 0, .storeSlot 1, .loadArg 9]⟩]
  attributes := []

/-- A class whose setter runs that constructor on the instance that is written. -/
def unruly : Class where
  own :=
    { unrulyBase with
      key := ⟨0, 1⟩
      name := "Derived"
      properties := [⟨"Count", .int, none, some 0, none, []⟩]
      methods := [⟨"set_Count", [], none, [.loadArg 0, .callBase 0 1]⟩]
      constructors := [⟨[], [.ret, .storeSlot 5]⟩] }
  ancestors := [unrulyBase]

/-- The setter fails inside the base call, after the number has been stored. -/
theorem wellTyped_after_unruly :
    Created unruly (blank unruly) ∧
      (blank unruly).answer (.set "Count" (.int 7)) =
        .error (.typeMismatch "label" "String" "Int64") ∧
      ((blank unruly).after [.set "Count" (.int 7)]).slots = [.int 7, .null] ∧
      ((blank unruly).after [.set "Count" (.int 7)]).cls = unruly ∧
      ((blank unruly).after [.set "Count" (.int 7)]).WellTyped :=
  ⟨.constructed [] rfl, rfl, rfl, wellTyped_after (.constructed [] rfl) _⟩

end Instance

end ClassSynthesis
