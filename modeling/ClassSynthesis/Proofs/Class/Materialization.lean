import ClassSynthesis.Proofs.Class.Construction
import ClassSynthesis.Proofs.Class.Resolution

/-!
# Making instances of attributes

An attribute that was resolved is valid for good: classes never change, so the constructor and the
members that the check has found are those that are found when an instance is made. Making it can
fail only where the constructor stores an argument into a slot that does not accept it; the
overrides never fail.
-/

namespace ClassSynthesis

namespace Attribute

/-- Some application was resolved to the attribute. -/
def Resolved (a : Attribute) : Prop := ∃ application : Application, application.resolve = .ok a

/-- The attribute passes every check. -/
structure Valid (a : Attribute) : Prop where
  /-- Its class is an attribute class. -/
  isAttribute : a.kind.isAttribute = true
  /-- Everyone may refer to its class. -/
  isExternal : a.kind.isExternal = true
  /-- The constructor is there and matches the arguments exactly. -/
  target : ∃ k, a.kind.constructors[a.target]? = some k ∧ k.matchesExactly a.arguments = true
  /-- Each override is for a member that may be written and that may hold the value. -/
  overrides : ∀ name value, (name, value) ∈ a.overrides → a.kind.Takes name value

/-- What was resolved is valid. -/
theorem Resolved.valid {a : Attribute} (h : a.Resolved) : a.Valid := by
  obtain ⟨application, h⟩ := h
  have hresolves := application.resolves_resolve
  rw [h] at hresolves
  cases hresolves with
  | resolved hopen hmatch hgiven htakes =>
    exact ⟨hopen.isAttribute, hopen.isExternal, hmatch.found,
      fun name value hmem => htakes (name, value) hmem⟩

/-- What its overrides make of an instance that its constructor made. -/
structure Overrides (a : Attribute) (made left : Instance) : Prop where
  /-- The instance is of the class of the attribute. -/
  cls : left.cls = a.kind
  /-- Each overridden member reads as the last value that is given for it. -/
  last : ∀ before name value after, a.overrides = before ++ (name, value) :: after →
    name ∉ after.map (·.1) → left.getMember name = .ok value
  /-- All slots but those of overridden members are as they were. -/
  rest : ∀ index : Nat, (∀ entry ∈ a.overrides, a.kind.writableSlot? entry.1 ≠ some index) →
    left.slot? index = made.slot? index

/-- An instance can be made of the attribute, unless its constructor stores an argument into a slot
that does not accept it. -/
structure Materializes (a : Attribute) : Prop where
  /-- A failure is that of the constructor, at the first assignment that does not fit. -/
  failure : ∀ e, a.instantiate = .error e →
    Instance.construct a.kind a.target a.arguments = .error e ∧ e.IsMismatch ∧
      ∃ assignments, a.kind.Assigns a.target assignments ∧
        a.kind.misfit? a.arguments assignments = some e
  /-- What the constructor makes is overridden. -/
  success : ∀ made, Instance.construct a.kind a.target a.arguments = .ok made →
    ∃ left, a.instantiate = .ok left ∧ a.Overrides made left

/-- The error for an assignment that does not fit is a mismatch. -/
theorem isMismatch_of_misfit? {c : Class} {arguments : List Value} {assignments : List (Nat × Nat)}
    {e : Error} (h : c.misfit? arguments assignments = some e) : e.IsMismatch := by
  obtain ⟨⟨argument, slot⟩, -, hmismatch⟩ := List.exists_of_findSome?_eq_some h
  simp only [Class.mismatch?] at hmismatch
  cases hplace : c.slots[slot]? with
  | none => simp [hplace] at hmismatch
  | some place =>
    simp only [hplace] at hmismatch
    split at hmismatch
    · cases hmismatch
    · exact ⟨_, _, _, (Option.some.inj hmismatch).symm⟩

/-- What the constructor of an attribute makes is an instance of the class of the attribute. -/
theorem isOf_of_construct {a : Attribute} {made : Instance}
    (h : Instance.construct a.kind a.target a.arguments = .ok made) : made.IsOf a.kind :=
  Instance.keeps_construct (Instance.storeKeeps_isOf a.kind) (Instance.isOf_blank a.kind) h

/-- The overrides of a valid attribute never fail. -/
theorem Valid.instantiate_eq {a : Attribute} (h : a.Valid) (hkind : a.kind.Made) :
    a.instantiate = (Instance.construct a.kind a.target a.arguments).map fun made =>
      { made with slots := a.kind.overridden a.overrides made.slots } := by
  unfold Attribute.instantiate
  cases hmade : Instance.construct a.kind a.target a.arguments with
  | error e => rfl
  | ok made =>
    have hwritten := Instance.setMembers_of_takes hkind.sound.formed h.overrides
      (isOf_of_construct hmade)
    simp only [Effect.after, hwritten]
    rfl

/-- What is made of a valid attribute is an instance of its class. -/
theorem Valid.isOf_of_instantiate {a : Attribute} (h : a.Valid)
    (hkind : a.kind.Made) {left : Instance} (hleft : a.instantiate = .ok left) :
    left.IsOf a.kind := by
  rw [h.instantiate_eq hkind] at hleft
  cases hmade : Instance.construct a.kind a.target a.arguments with
  | error e =>
    rw [hmade] at hleft
    cases hleft
  | ok made =>
    rw [hmade] at hleft
    obtain ⟨hcls, hlength⟩ := isOf_of_construct hmade
    obtain rfl := Except.ok.inj hleft
    exact ⟨hcls, by simpa using hlength⟩

/-- The constructor of a valid attribute makes the assignments that are behind it. -/
theorem Valid.construct_eq {a : Attribute} (h : a.Valid) (hkind : a.kind.Made) :
    ∃ assignments, a.kind.Assigns a.target assignments ∧
      Instance.construct a.kind a.target a.arguments =
        match a.kind.misfit? a.arguments assignments with
        | none => .ok ⟨a.kind,
            overwritten a.arguments assignments (a.kind.slots.map (·.ty.initial))⟩
        | some e => .error e := by
  obtain ⟨k, hk, hmatches⟩ := h.target
  obtain ⟨assignments, hassigns, -⟩ := hkind.exists_runs hk
  exact ⟨assignments, hassigns,
    hkind.construct_eq hassigns hk (Constructor.accepts_of_matchesExactly hmatches)⟩

/-- They do what overrides should do. -/
theorem Valid.overrides_overridden {a : Attribute} (h : a.Valid) (hkind : a.kind.Made)
    {made : Instance} (hmade : made.IsOf a.kind) :
    a.Overrides made { made with slots := a.kind.overridden a.overrides made.slots } where
  cls := hmade.1
  last := by
    intro before name value after hsplit hlast
    have hformed := hkind.sound.formed
    have hleft : Instance.IsOf a.kind
        { made with slots := a.kind.overridden a.overrides made.slots } :=
      ⟨hmade.1, by simpa using hmade.2⟩
    obtain ⟨member, hmember, -⟩ := h.overrides name value (by simp [hsplit])
    obtain ⟨slot, hslot, hty, -⟩ := hformed.slot_of_writable? hmember
    have hlt : slot < made.slots.length := hmade.2 ▸ lt_length_of_typed hty
    refine Instance.getMember_of_slot hformed hleft hslot ?_
    rw [Instance.slot?, hsplit]
    exact Class.getElem?_overridden_last hformed hslot hlt value before hlast
  rest := by
    intro index hother
    exact Class.getElem?_overridden_of_ne hother made.slots

/-- A valid attribute of a class that can come about can be made into an instance. -/
theorem Valid.materializes {a : Attribute} (h : a.Valid) (hkind : a.kind.Made) :
    a.Materializes := by
  have hinstantiate := h.instantiate_eq hkind
  constructor
  · intro e he
    obtain ⟨assignments, hassigns, hconstruct⟩ := h.construct_eq hkind
    cases hmisfit : a.kind.misfit? a.arguments assignments with
    | none =>
      rw [hinstantiate, hconstruct, hmisfit] at he
      cases he
    | some e' =>
      rw [hmisfit] at hconstruct
      rw [hinstantiate, hconstruct] at he
      obtain rfl : e' = e := Except.error.inj he
      exact ⟨hconstruct, isMismatch_of_misfit? hmisfit, assignments, hassigns, hmisfit⟩
  · intro made hmade
    refine ⟨_, ?_, h.overrides_overridden hkind (isOf_of_construct hmade)⟩
    rw [hinstantiate, hmade]
    rfl

end Attribute

end ClassSynthesis
