import ClassSynthesis.Proofs.Class.Made
import ClassSynthesis.Proofs.Instance.Records

/-!
# Code of made classes is never malformed

On a class that is sound together with all its ancestors, no operation can run into malformed code.
To make an instance fails for want of a constructor or of a fitting value, a call on an instance
fails for want of the member or of a fitting value, and an attribute fails for one of these reasons.
-/

namespace ClassSynthesis

/-- The error says that code cannot be carried on. -/
def Error.IsInvalidCode (e : Error) : Prop := ∃ context reason, e = .invalidCode context reason

theorem Error.IsMismatch.not_isInvalidCode {e : Error} (h : e.IsMismatch) : ¬ e.IsInvalidCode := by
  obtain ⟨member, expected, actual, rfl⟩ := h
  rintro ⟨context, reason, h⟩
  cases h

/-- A constructor gets as many arguments as it has parameters. -/
theorem Constructor.length_of_accepts {k : Constructor} {arguments : List Value}
    (h : k.accepts arguments) : arguments.length = k.parameters.length := by
  rw [accepts, Bool.and_eq_true, beq_iff_eq] at h
  exact h.1.symm

namespace Class.Sound

variable {c receiver : Class}

/-- A constructor of a sound class, with as many arguments as parameters, fails only where a value
does not fit. -/
theorem runConstructor_sound (h : c.Sound) (hroom : c.slots.length ≤ receiver.slots.length)
    {k : Constructor} (hk : k ∈ c.constructors) {arguments : List Value}
    (hlength : arguments.length = k.parameters.length) :
    (runConstructor c.own c.ancestors k arguments).Sound (·.IsOf receiver) := by
  have hcode : k.code.SoundIn c arguments.length := hlength ▸ h.own.constructors k hk
  refine execute_sound ?_ hcode rfl
  intro d hd
  exact ⟨Nat.le_trans (h.formed.slots_of_mem hd).length_le hroom, (h d hd).constructors⟩

/-- The implicit constructor of a sound class fails only where a value does not fit: the nearest
ancestor with constructors has one without parameters. -/
theorem runImplicit_sound (h : c.Sound) (hroom : c.slots.length ≤ receiver.slots.length)
    (hnone : c.constructors = []) : (runImplicit c.ancestors).Sound (·.IsOf receiver) := by
  induction c using parentInduction with
  | root c hroot =>
    intro i e left hi hrun
    rw [runImplicit_of_root hroot] at hrun
    cases hrun
  | derived c parent hparent ih =>
    have hsound := h.parent hparent
    have hmem := mem_lineage_of_parent hparent (mem_lineage_self parent)
    have hroom' := Nat.le_trans (h.formed.slots_of_mem hmem).length_le hroom
    rw [runImplicit_of_parent hparent]
    by_cases hempty : parent.constructors = []
    · rw [runImplicit_layers_of_isEmpty (List.isEmpty_iff.mpr hempty)]
      exact ih hsound hroom' hempty
    · -- The class was declared, since a built one has as many constructors as its base.
      have hchained := (h.own.implicit hnone parent hparent).resolve_left hempty
      obtain ⟨k, hk, hparameters⟩ := hchained
      rw [layers, runImplicit, if_neg (by simpa using hempty)]
      cases hfound : parent.constructors.find? (·.parameters.isEmpty) with
      | none =>
        have hnot := List.find?_eq_none.mp hfound k hk
        simp [hparameters] at hnot
      | some found =>
        have hparameters := List.find?_some hfound
        rw [List.isEmpty_iff] at hparameters
        have hmem := List.mem_of_find?_eq_some hfound
        exact (hsound.runConstructor_sound hroom' hmem (by simp [hparameters])).ignored

end Class.Sound

/-- An effect that fails only where a value does not fit leaves behind an instance or such an
error. -/
theorem Effect.Sound.after_eq_error {α : Type} {P : Instance → Prop} {effect : Effect α}
    (h : effect.Sound P) {i : Instance} (hi : P i) {e : Error} (he : effect.after i = .error e) :
    e.IsMismatch := by
  unfold Effect.after at he
  cases hrun : effect i with
  | ok a left => simp [hrun] at he
  | error e' left =>
    rw [hrun] at he
    exact Except.error.inj he ▸ h i e' left hi hrun

namespace Instance

variable {c : Class}

/-- A constructor called by its number fails for want of a constructor that takes the arguments or
of a fitting value. -/
theorem construct_eq_error (hc : c.Sound) {target : Nat} {arguments : List Value} {e : Error}
    (h : construct c target arguments = .error e) :
    e = noConstructor c.name arguments ∨ e.IsMismatch := by
  unfold construct at h
  cases hk : c.constructors[target]? with
  | none =>
    simp only [hk] at h
    exact .inl (Except.error.inj h).symm
  | some k =>
    by_cases haccepts : k.accepts arguments
    · simp only [hk, haccepts, ite_true] at h
      have hsound := hc.runConstructor_sound (Nat.le_refl _) (List.mem_of_getElem? hk)
        (Constructor.length_of_accepts haccepts)
      exact .inr (hsound.after_eq_error (isOf_blank c) h)
    · simp only [hk, haccepts, Bool.false_eq_true, ite_false] at h
      exact .inl (Except.error.inj h).symm

/-- To make an instance fails for want of a constructor that takes the arguments or of a fitting
value. -/
theorem create_eq_error (hc : c.Sound) {arguments : List Value} {e : Error}
    (h : create c arguments = .error e) : e = noConstructor c.name arguments ∨ e.IsMismatch := by
  unfold create at h
  by_cases hnone : c.constructors = []
  · by_cases hempty : arguments.isEmpty
    · simp only [hnone, hempty, List.isEmpty_nil, ite_true] at h
      exact .inr ((hc.runImplicit_sound (Nat.le_refl _) hnone).after_eq_error (isOf_blank c) h)
    · simp only [hnone, hempty, List.isEmpty_nil, Bool.false_eq_true, ite_true, ite_false] at h
      exact .inl (Except.error.inj h).symm
  · rw [if_neg (by simpa using hnone)] at h
    cases hfound : c.constructors.findIdx? (·.accepts arguments) with
    | none =>
      rw [hfound] at h
      exact .inl (Except.error.inj h).symm
    | some target =>
      rw [hfound] at h
      exact construct_eq_error hc h

/-- However an instance comes about, it has the class and as many values as the class has slots. -/
theorem Created.isOf {i : Instance} (h : Created c i) : i.IsOf c :=
  h.keeps (storeKeeps_isOf c) (isOf_blank c)

/-- A session keeps the class and the number of values. -/
theorem isOf_after {i : Instance} (hi : i.IsOf c) (calls : List Call) : (i.after calls).IsOf c :=
  keeps_after (storeKeeps_isOf c) hi calls

/-- Members are written one after the other until one is not there or a value does not fit. -/
theorem setMembers_eq_error (hc : c.Formed) {overrides : List (String × Value)} {i : Instance}
    (hi : i.IsOf c) {e : Error} (h : Effect.after (setMembers overrides) i = .error e) :
    (∃ member, e = .unknownMember c.name member) ∨ e.IsMismatch := by
  induction overrides generalizing i with
  | nil => cases h
  | cons first rest ih =>
    obtain ⟨name, value⟩ := first
    have hwrote : Wrote c i name (setMember name value i) := wrote_setMember hc hi value
    have hkept := keeps_setMember (storeKeeps_isOf c) name value
    unfold Effect.after setMembers at h
    cases hrun : setMember name value i with
    | ok written left =>
      simp only [hrun] at h
      exact ih (hkept.of_ok hrun hi) h
    | error e' left =>
      have houtcome : Effect.outcome (setMember name value) i = .error e' := by
        rw [Effect.outcome, hrun]
      simp only [hrun] at h
      obtain rfl := Except.error.inj h
      exact (hwrote.outcome_eq_error houtcome).imp_left fun hunknown => ⟨name, hunknown⟩

/-- An attribute, whether it was resolved or not, fails for want of a constructor that takes its
arguments, of a member to override, or of a fitting value. -/
theorem instantiate_eq_error {a : Attribute} (hc : a.kind.Sound) {e : Error}
    (h : a.instantiate = .error e) :
    e = noConstructor a.kind.name a.arguments ∨
      (∃ member, e = .unknownMember a.kind.name member) ∨ e.IsMismatch := by
  unfold Attribute.instantiate at h
  cases hmade : construct a.kind a.target a.arguments with
  | error e' =>
    simp only [hmade] at h
    obtain rfl := Except.error.inj h
    exact (construct_eq_error hc hmade).imp_right .inr
  | ok made =>
    simp only [hmade] at h
    have hof := keeps_construct (storeKeeps_isOf a.kind) (isOf_blank a.kind) hmade
    exact .inr (setMembers_eq_error hc.formed hof h)

end Instance

theorem noConstructor_not_isInvalidCode (className : String) (arguments : List Value) :
    ¬ (noConstructor className arguments).IsInvalidCode := by
  rintro ⟨context, reason, h⟩
  cases h

theorem Error.unknownMember_not_isInvalidCode (owner member : String) :
    ¬ (unknownMember owner member).IsInvalidCode := by
  rintro ⟨context, reason, h⟩
  cases h

namespace Class

/-- A class that can come about is well formed with all its ancestors. So nobody who makes an
instance of it, resolves an attribute of it or uses an instance in a session ever meets malformed
code, and all its fields are read from slots that are there. -/
theorem Made.never_malformed {c : Class} (h : c.Made) :
    (∀ d ∈ c.lineage, d.WellFormed) ∧
      (∀ arguments e, Instance.create c arguments = .error e → ¬ e.IsInvalidCode) ∧
      (∀ (a : Attribute) (e : Error), a.kind = c → a.instantiate = .error e →
        ¬ e.IsInvalidCode) ∧
      ∀ i, Instance.Created c i → ∀ calls : List Instance.Call,
        (∀ call e, (i.after calls).answer call = .error e → ¬ e.IsInvalidCode) ∧
          (i.after calls).slots.length = c.slotCount ∧
          ∀ name f, c.field? name = some f →
            ∃ value, (i.after calls).slot? f.slot = some value := by
  have hsound := h.sound
  refine ⟨hsound, ?_, ?_, ?_⟩
  · intro arguments e he
    rcases Instance.create_eq_error hsound he with rfl | hmismatch
    · exact noConstructor_not_isInvalidCode c.name arguments
    · exact hmismatch.not_isInvalidCode
  · rintro a e rfl he
    rcases Instance.instantiate_eq_error hsound he with rfl | ⟨member, rfl⟩ | hmismatch
    · exact noConstructor_not_isInvalidCode a.kind.name a.arguments
    · exact Error.unknownMember_not_isInvalidCode a.kind.name member
    · exact hmismatch.not_isInvalidCode
  · intro i hi calls
    have hof := Instance.isOf_after hi.isOf calls
    refine ⟨?_, hof.2, ?_⟩
    · intro call e he
      rcases Instance.answer_eq_error hsound.formed hof he with rfl | hmismatch
      · exact Error.unknownMember_not_isInvalidCode c.name call.member
      · exact hmismatch.not_isInvalidCode
    · intro name f hf
      exact hof.exists_value (lt_length_of_typed (hsound.formed.field_slot hf).1)

/-- A class with a field, a property and a constructor that stores into both. -/
def vehicleDeclaration : Declaration where
  name := "Vehicle"
  fields := [{ name := "wheels", ty := .int }]
  properties := [{ name := "Label", ty := .str }]
  constructors :=
    [{ parameters := [("wheels", .int), ("label", .str)]
       assignments := [("wheels", "wheels"), ("label", "Label")] }]

/-- The class of this declaration. -/
def vehicle : Class :=
  (vehicleDeclaration.members ⟨0, 0⟩ "DynamicAssembly").mapOwn fun layer =>
    { layer with
      constructors :=
        [⟨[⟨"wheels", .int, 0, []⟩, ⟨"label", .str, 1, []⟩],
          Code.storing none [(0, 0), (1, 1)]⟩] }

/-- A builder with one property, opened with that class as its base. -/
def carBuilder : Builder where
  draft :=
    { registry := 0
      slotPrefix := "_"
      name := "Car"
      container := "DynamicAssembly"
      base := some (.ofClass vehicle)
      constructors := (Base.ofClass vehicle).forwardings
      properties := [⟨"Seats", .int, "_seats", []⟩]
      attributes := []
      isFrozen := false }
  built := none

/-- The class that this builder builds. -/
def car : Class := carBuilder.draft.compile ⟨0, 0⟩

theorem made_vehicle : vehicle.Made := by
  have hdeclared : Registry.declare vehicleDeclaration (.empty 0 {}) =
      .ok vehicle ((Registry.empty 0 {}).allocate.2.register vehicle) := rfl
  exact .declared (by rintro parent ⟨⟩) hdeclared

theorem reachable_carBuilder : Builder.Reachable (some vehicle) carBuilder := by
  have hstart : Builder.start (.empty 0 {}) "Car" none (some vehicle) =
      .ok ⟨{ carBuilder.draft with properties := [] }, none⟩ := rfl
  exact (Builder.Reachable.start hstart).call (.empty 0 {})
    (.define "Seats" .int : BuilderCall Ty Unit)

theorem builtOn_car : car.BuiltOn (some vehicle) :=
  .builder reachable_carBuilder (.empty 0 {}) rfl

theorem made_car : car.Made :=
  .built (by rintro b ⟨⟩; exact made_vehicle) builtOn_car

/-- The car is made through the constructor of the vehicle. Its setter refuses a text and stores a
number, which its getter reads back; whatever is called next, no code is malformed. -/
theorem never_malformed_car :
    let made : Instance := ⟨car, [.int 4, .str "Beetle", .int 0]⟩
    car.Made ∧
      car.own.methods.map (·.code) =
        [[.loadSlot 2, .ret], [.loadArg 0, .storeSlot 2, .ret]] ∧
      Instance.create car [.int 4, .str "Beetle"] = .ok made ∧
      made.answer (.set "Seats" (.str "five")) =
        .error (.typeMismatch "Seats" "Int64" "String") ∧
      made.answer (.set "Seats" (.int 5)) = .ok none ∧
      (made.after [.set "Seats" (.int 5)]).answer (.get "Seats") = .ok (some (.int 5)) ∧
      ∀ call e, (made.after [.set "Seats" (.int 5)]).answer call = .error e →
        ¬ e.IsInvalidCode := by
  intro made
  have hcreate : Instance.create car [.int 4, .str "Beetle"] = .ok made := rfl
  obtain ⟨-, -, -, hsessions⟩ := made_car.never_malformed
  obtain ⟨hanswers, -⟩ := hsessions made (.constructed _ hcreate) [.set "Seats" (.int 5)]
  exact ⟨made_car, rfl, hcreate, rfl, rfl, rfl, hanswers⟩

end Class

end ClassSynthesis
