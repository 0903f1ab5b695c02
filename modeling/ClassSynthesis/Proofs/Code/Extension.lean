import ClassSynthesis.Proofs.Code.Soundness

/-!
# Code on longer layouts

Code of a class also runs on instances of the classes that derive from it, which have more slots. As
long as code finds the slots that it refers to, it does the same on a longer instance as on a short
one, gives the same result or the same error, and leaves the further slots alone.
-/

namespace ClassSynthesis

/-- The error says that there is no slot of some number. -/
def Error.IsSlotRange (e : Error) : Prop :=
  ∃ (context : String) (index : Nat), e = .invalidCode context s!"slot {index} out of range"

theorem Error.IsMismatch.not_isSlotRange {e : Error} (h : e.IsMismatch) : ¬ e.IsSlotRange := by
  obtain ⟨member, expected, actual, rfl⟩ := h
  rintro ⟨context, index, h⟩
  cases h

/-- An instance with further values, as one of another class. -/
def Instance.extend (i : Instance) (d : Class) (rest : List Value) : Instance :=
  ⟨d, i.slots ++ rest⟩

namespace Effect

variable {α : Type}

/-- A result whose instance is given further values. -/
def extendResult (d : Class) (rest : List Value) :
    EStateM.Result Error Instance α → EStateM.Result Error Instance α
  | .ok a left => .ok a (left.extend d rest)
  | .error e left => .error e (left.extend d rest)

/-- On an instance of the class `b` the effect fails for want of a slot, or it does the same as on
an instance of the class `d` that has further values. -/
def Extends (b d : Class) (rest : List Value) (effect : Effect α) : Prop :=
  ∀ i, i.IsOf b → effect (i.extend d rest) = extendResult d rest (effect i) ∨
    ∃ e left, effect i = .error e left ∧ e.IsSlotRange

variable {b d : Class} {rest : List Value} {effect : Effect α}

/-- Forgetting the result of an effect does not change what it does on longer instances. -/
theorem Extends.ignored (h : effect.Extends b d rest) : effect.ignored.Extends b d rest := by
  intro i hi
  unfold Effect.ignored
  rcases h i hi with heq | ⟨e, left, hrun, hrange⟩
  · left
    rw [heq]
    cases effect i <;> rfl
  · right
    exact ⟨e, left, by rw [hrun], hrange⟩

/-- An effect that cannot fail for want of a slot does the same on a longer instance. -/
theorem Extends.after_eq (h : effect.Extends b d rest) {P : Instance → Prop}
    (hsound : effect.Sound P) {i : Instance} (hi : i.IsOf b) (hP : P i) :
    effect.after (i.extend d rest) = (effect.after i).map (·.extend d rest) := by
  unfold Effect.after
  rcases h i hi with heq | ⟨e, left, hrun, hrange⟩
  · rw [heq]
    cases effect i <;> rfl
  · exact absurd hrange (hsound i e left hP hrun).not_isSlotRange

end Effect

section Extends

variable {b d : Class} {rest : List Value}

/-- A slot that a short instance has is the same on a longer one. -/
theorem Instance.slot?_extend {i : Instance} {index : Nat} {value : Value}
    (h : i.slot? index = some value) : (i.extend d rest).slot? index = some value := by
  have hlt := (List.getElem?_eq_some_iff.mp h).1
  rw [slot?, extend, List.getElem?_append_left hlt]
  exact h

/-- A store into a slot of the short layout does the same on a longer instance. -/
theorem Instance.extends_store (hslots : b.slots <+: d.slots) (index : Nat) (value : Value) :
    Effect.Extends b d rest (store index value) := by
  rintro i ⟨hcls, hlength⟩
  cases hslot : b.slots[index]? with
  | none =>
    right
    refine ⟨.invalidCode i.cls.name s!"slot {index} out of range", i, ?_, ⟨_, index, rfl⟩⟩
    rw [store, checkStore, hcls, hslot]
  | some slot =>
    have hlt := (List.getElem?_eq_some_iff.mp hslot).1
    have hlonger := getElem?_longer hslots hslot
    have hset : (i.slots ++ rest).set index value = i.slots.set index value ++ rest :=
      List.set_append_left index value (hlength ▸ hlt)
    left
    unfold store checkStore
    rw [hcls, hslot]
    simp only [extend, hlonger, hset]
    by_cases haccepts : slot.ty.accepts value
    · simp only [haccepts, ite_true]
      rfl
    · simp only [haccepts, Bool.false_eq_true, ite_false]
      rfl

namespace Frame

/-- A store of the top of the stack does the same on a longer instance. -/
theorem extends_storeTop (hslots : b.slots <+: d.slots) (frame : Frame) (index : Nat)
    (stack : List Value) : (frame.storeTop index stack).Extends b d rest := by
  intro i hi
  unfold storeTop
  cases stack with
  | nil => exact .inl rfl
  | cons value below =>
    cases frame.access with
    | shared => exact .inl rfl
    | exclusive =>
      have hstore : Effect.Extends b d rest (Instance.store index value) :=
        Instance.extends_store hslots index value
      rcases hstore i hi with heq | ⟨e, left, hrun, hrange⟩
      · left
        simp only [heq]
        cases Instance.store index value i <;> rfl
      · right
        exact ⟨e, left, by simp only [hrun], hrange⟩

/-- A base call does the same on a longer instance, if the code of the parent does. -/
theorem extends_callBase (frame : Frame) {parent : Option Parent}
    (hparent : ∀ p ∈ parent, ∀ called code, (p.run called code).Extends b d rest)
    (target count : Nat) (stack : List Value) :
    (frame.callBase parent target count stack).Extends b d rest := by
  intro i hi
  unfold callBase
  cases parent with
  | none => exact .inl rfl
  | some p =>
    cases hk : p.layer.constructors[target]? with
    | none =>
      left
      simp only [hk]
      rfl
    | some k =>
      simp only [hk]
      by_cases hshort : stack.length < count
      · left
        simp only [hshort, ite_true]
        rfl
      · simp only [hshort, ite_false]
        cases frame.access with
        | shared => exact .inl rfl
        | exclusive =>
          rcases hparent p rfl ⟨constructorContext p.layer.name, .exclusive,
              (stack.take count).reverse⟩ k.code i hi with heq | ⟨e, left, hrun, hrange⟩
          · left
            simp only [heq]
            cases p.run ⟨constructorContext p.layer.name, .exclusive,
              (stack.take count).reverse⟩ k.code i <;> rfl
          · right
            exact ⟨e, left, by simp only [hrun], hrange⟩

/-- An instruction does the same on a longer instance. -/
theorem extends_step (hslots : b.slots <+: d.slots) (frame : Frame) {parent : Option Parent}
    (hparent : ∀ p ∈ parent, ∀ called code, (p.run called code).Extends b d rest)
    (instr : Instr) (stack : List Value) :
    (frame.step parent instr stack).Extends b d rest := by
  cases instr with
  | loadArg index =>
    intro i hi
    left
    unfold step
    cases hvalue : frame.arguments[index]? with
    | none =>
      simp only [hvalue]
      rfl
    | some value =>
      simp only [hvalue]
      rfl
  | loadSlot index =>
    intro i hi
    unfold step
    cases hvalue : i.slot? index with
    | none =>
      right
      refine ⟨frame.invalid s!"slot {index} out of range", i, ?_, ⟨frame.context, index, rfl⟩⟩
      simp only [hvalue]
    | some value =>
      left
      simp only [hvalue, Instance.slot?_extend hvalue]
      rfl
  | storeSlot index => exact extends_storeTop hslots frame index stack
  | callBase target count => exact extends_callBase frame hparent target count stack
  | ret => exact fun i hi => .inl rfl

/-- A body does the same on a longer instance. -/
theorem extends_run (hslots : b.slots <+: d.slots) (frame : Frame) {parent : Option Parent}
    (hkept : ∀ p ∈ parent, ∀ called code, (p.run called code).Keeps (Instance.IsOf b))
    (hparent : ∀ p ∈ parent, ∀ called code, (p.run called code).Extends b d rest) (code : Code)
    (stack : List Value) : (frame.run parent code stack).Extends b d rest := by
  induction code generalizing stack with
  | nil => exact fun i hi => .inl rfl
  | cons instr code ih =>
    by_cases hret : instr = .ret
    · subst hret
      exact fun i hi => .inl rfl
    · intro i hi
      simp only [run_cons hret]
      have hstep := keeps_step (Instance.storeKeeps_isOf b) frame hkept instr stack
      rcases extends_step hslots frame hparent instr stack i hi with
        heq | ⟨e, left, hrun, hrange⟩
      · rw [heq]
        cases hrun : frame.step parent instr stack i with
        | ok next left => exact ih next left (hstep.of_ok hrun hi)
        | error e left => exact .inl rfl
      · right
        exact ⟨e, left, by rw [hrun], hrange⟩

end Frame

/-- Code of any class, at any depth of base calls, does the same on a longer instance, unless it
refers to a slot that the short one lacks. -/
theorem extends_execute (hslots : b.slots <+: d.slots) (ancestors : List Layer) (frame : Frame)
    (code : Code) : (execute ancestors frame code).Extends b d rest := by
  induction ancestors generalizing frame code with
  | nil => exact Frame.extends_run hslots frame (by simp) (by simp) code []
  | cons parent ancestors ih =>
    refine Frame.extends_run hslots frame ?_ ?_ code []
    · intro p hp called body
      obtain rfl := Option.some.inj hp
      exact keeps_execute (Instance.storeKeeps_isOf b) ancestors called body
    · intro p hp called body
      obtain rfl := Option.some.inj hp
      exact ih called body

/-- The search for an implicit constructor ends in the same way on a longer instance. -/
theorem extends_runImplicit (hslots : b.slots <+: d.slots) (layers : List Layer) :
    (runImplicit layers).Extends b d rest := by
  induction layers with
  | nil => exact fun i hi => .inl rfl
  | cons layer ancestors ih =>
    unfold runImplicit
    by_cases hnone : layer.constructors.isEmpty
    · simpa only [hnone, ite_true] using ih
    · simp only [hnone]
      cases layer.constructors.find? (·.parameters.isEmpty) with
      | none => exact fun i hi => .inl rfl
      | some k => exact (extends_execute hslots ancestors _ k.code).ignored

end Extends

/-- What code does to an instance does not depend on slots that follow those of the instance. On an
instance of a longer layout with the same values in front, code of any class gives the same result
or the same error, at whatever depth of base calls it arises; it leaves in front what it leaves of
the shorter instance, and the further values as they were. Only code that fails for want of a slot
of the shorter instance is left out. -/
theorem execute_longer {b d : Class} (hslots : b.slots <+: d.slots) {i j : Instance}
    (hi : i.IsOf b) (hj : j.IsOf d) {rest : List Value} (hvalues : j.slots = i.slots ++ rest)
    (owner : Class) (frame : Frame) (code : Code)
    (hrange : ∀ e left, execute owner.ancestors frame code i = .error e left →
      ¬ e.IsSlotRange) :
    match execute owner.ancestors frame code i with
    | .ok result left => left.IsOf b ∧
      execute owner.ancestors frame code j = .ok result ⟨d, left.slots ++ rest⟩
    | .error e left => left.IsOf b ∧
      execute owner.ancestors frame code j = .error e ⟨d, left.slots ++ rest⟩ := by
  obtain rfl : j = i.extend d rest := by
    obtain ⟨cls, values⟩ := j
    obtain rfl : cls = d := hj.1
    exact congrArg (Instance.mk cls) hvalues
  have hkept := keeps_execute (Instance.storeKeeps_isOf b) owner.ancestors frame code
  rcases extends_execute hslots owner.ancestors frame code i hi with heq | ⟨e, left, hrun, he⟩
  · rw [heq]
    cases hrun : execute owner.ancestors frame code i with
    | ok result left => exact ⟨hkept.of_ok hrun hi, rfl⟩
    | error e left => exact ⟨hkept.of_error hrun hi, rfl⟩
  · exact absurd he (hrange e left hrun)

/-- A class with the slots of the unruly one and another one behind them. -/
def longUnruly : Class where
  own := { Instance.unruly.own with
    key := ⟨0, 2⟩, name := "Further", slots := Instance.unruly.slots ++ [⟨"ready", .bool⟩] }
  ancestors := Instance.unruly.layers

/-- The body of the unruly setter stops inside its base call on both layouts, after the number has
been stored. -/
theorem execute_longer_unruly :
    (Instance.blank Instance.unruly).IsOf Instance.unruly ∧
      Instance.IsOf longUnruly ⟨longUnruly, [.int 0, .null, .bool true]⟩ ∧
      execute Instance.unruly.ancestors ⟨"Derived::set_Count", .exclusive, [.int 7]⟩
          [.loadArg 0, .callBase 0 1] ⟨longUnruly, [.int 0, .null, .bool true]⟩ =
        .error (.typeMismatch "label" "String" "Int64")
          ⟨longUnruly, [.int 7, .null, .bool true]⟩ := by
  have hslots : Instance.unruly.slots <+: longUnruly.slots := List.prefix_append _ _
  have hshort := Instance.isOf_blank Instance.unruly
  have hlong : Instance.IsOf longUnruly ⟨longUnruly, [.int 0, .null, .bool true]⟩ := ⟨rfl, rfl⟩
  have hrun : execute Instance.unruly.ancestors ⟨"Derived::set_Count", .exclusive, [.int 7]⟩
      [.loadArg 0, .callBase 0 1] (.blank Instance.unruly) =
        .error (.typeMismatch "label" "String" "Int64") ⟨Instance.unruly, [.int 7, .null]⟩ := rfl
  have hlonger := execute_longer hslots hshort hlong rfl Instance.unruly
    ⟨"Derived::set_Count", .exclusive, [.int 7]⟩ [.loadArg 0, .callBase 0 1] (by
      rintro e left he ⟨context, index, rfl⟩
      rw [hrun] at he
      cases he)
  rw [hrun] at hlonger
  exact ⟨hshort, hlong, hlonger.2⟩

end ClassSynthesis
