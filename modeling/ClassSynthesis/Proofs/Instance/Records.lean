import ClassSynthesis.Proofs.Class.Formation
import ClassSynthesis.Proofs.Code.Soundness

/-!
# Instances as records

On a class whose layouts are in order, accessors run code that reads or writes one slot, so a call
does to an instance what it would do to a record: it reads or writes the one slot that belongs to
the member it names, or fails since there is no such member or the value does not fit.
-/

namespace ClassSynthesis

namespace Instance

variable {c : Class} {i : Instance} {name : String}

/-- A slot of the layout holds a value. -/
theorem IsOf.exists_value (hi : i.IsOf c) {slot : Nat} (hslot : slot < c.slots.length) :
    ∃ value, i.slot? slot = some value := by
  have hlt : slot < i.slots.length := hi.2 ▸ hslot
  exact ⟨i.slots[slot], List.getElem?_eq_getElem hlt⟩

/-- A store into a slot of the layout checks the value against the type of the slot. -/
theorem store_of_slot (hi : i.IsOf c) {slot : Slot} {index : Nat}
    (hslot : c.slots[index]? = some slot) (value : Value) :
    store index value i =
      if slot.ty.accepts value then .ok () { i with slots := i.slots.set index value }
      else .error (.typeMismatch slot.name slot.ty.name value.typeName) i := by
  unfold store checkStore
  rw [hi.1, hslot]
  by_cases haccepts : slot.ty.accepts value
  · simp [haccepts]
  · simp [haccepts]

/-- What an instance says of a member that is not there names its class. -/
theorem IsOf.unknownMember_eq (hi : i.IsOf c) (name : String) :
    i.unknownMember name = .unknownMember c.name name := by
  rw [unknownMember, hi.1]

/-- To read a property that is not there is an error. -/
theorem get_of_none (hi : i.IsOf c) (hp : c.property? name = none) :
    i.get name = .error (.unknownMember c.name name) := by
  simp [get, getter?, hi.unknownMember_eq, hi.1, hp]

/-- To write a property that is not there is an error. -/
theorem set_of_none (hi : i.IsOf c) (hp : c.property? name = none) (value : Value) :
    set name value i = .error (.unknownMember c.name name) i := by
  simp [set, setter?, hi.unknownMember_eq, hi.1, hp]

/-- A property reads as what its slot holds. -/
theorem get_of_property (hc : c.Formed) (hi : i.IsOf c) {owner : Class} {p : Property}
    (hp : c.property? name = some (owner, p)) {slot : Nat} (hslot : p.slot = some slot) :
    ∃ value, i.slot? slot = some value ∧ i.get name = .ok value := by
  obtain ⟨place, hstored, hty, -⟩ := hc.storedAt hp
  obtain rfl : place = slot := Option.some.inj (hstored.place.symm.trans hslot)
  obtain ⟨index, getter, hindex, hgetter, hcode⟩ := hstored.getter
  obtain ⟨value, hvalue⟩ := hi.exists_value (lt_length_of_typed hty)
  refine ⟨value, hvalue, ?_⟩
  have hbody : getter.code = Code.getter place := hcode
  have hfound : i.getter? name = some (owner, getter) := by
    simp [getter?, hi.1, hp, hindex, Class.method?, hgetter]
  rw [get, hfound]
  simp only [Effect.outcome, runAccessor, hbody, execute_getter hvalue]
  rfl

/-- A property is written if it has a setter and its type accepts the value. -/
theorem set_of_property (hc : c.Formed) (hi : i.IsOf c) {owner : Class} {p : Property}
    (hp : c.property? name = some (owner, p)) {slot : Nat} (hslot : p.slot = some slot)
    (value : Value) :
    set name value i =
      if p.setter.isNone then .error (.unknownMember c.name name) i
      else if p.ty.accepts value then .ok () { i with slots := i.slots.set slot value }
      else .error (.typeMismatch name p.ty.name value.typeName) i := by
  obtain ⟨place, hstored, hty, -⟩ := hc.storedAt hp
  obtain rfl : place = slot := Option.some.inj (hstored.place.symm.trans hslot)
  cases hsetter : p.setter with
  | none => simp [set, setter?, hi.unknownMember_eq, hi.1, hp, hsetter]
  | some index =>
    obtain ⟨setter, hmethod, hcode⟩ := hstored.setter index hsetter
    have hbody : setter.code = Code.setter place := hcode
    have hfound : i.setter? name = some (owner, p, setter) := by
      simp [setter?, hi.1, hp, hsetter, Class.method?, hmethod]
    rw [set, hfound]
    by_cases haccepts : p.ty.accepts value
    · obtain ⟨s, hs, hsty⟩ := Option.map_eq_some_iff.mp hty
      have hcheck : i.checkStore place value = .ok () := by
        refine checkStore_eq_ok_iff.mpr ⟨s, by rw [hi.1]; exact hs, ?_⟩
        rw [hsty]
        exact haccepts
      simp [haccepts, Effect.ignored, runAccessor, hbody, execute_setter hcheck]
    · simp [haccepts]

/-- A property that may be written as a member is written as a property. -/
theorem setMember_of_property (hi : i.IsOf c) {owner : Class} {p : Property}
    (hp : c.property? name = some (owner, p)) (value : Value) :
    setMember name value i =
      if p.setter.isNone then .error (.unknownMember c.name name) i else set name value i := by
  cases hsetter : p.setter with
  | none => simp [setMember, Class.writable?, hi.unknownMember_eq, hi.1, hp, hsetter]
  | some index => simp [setMember, Class.writable?, hi.1, hp, hsetter]

/-- Where no property hides it, a field is written if it is public and not read-only. -/
theorem setMember_of_field (hi : i.IsOf c) (hp : c.property? name = none) {f : Field}
    (hf : c.field? name = some f) (value : Value) :
    setMember name value i =
      if f.isPublic && !f.isReadonly then store f.slot value i
      else .error (.unknownMember c.name name) i := by
  rw [← hi.unknownMember_eq]
  cases hopen : f.isPublic && !f.isReadonly with
  | false =>
    simp only [setMember, Class.writable?, hi.1, hp, hf, Option.filter, hopen]
    rfl
  | true =>
    simp only [setMember, Class.writable?, hi.1, hp, hf, Option.filter, hopen]
    rfl

/-- To write a member that is not there is an error. -/
theorem setMember_of_none (hi : i.IsOf c) (hp : c.property? name = none)
    (hf : c.field? name = none) (value : Value) :
    setMember name value i = .error (.unknownMember c.name name) i := by
  simp [setMember, Class.writable?, hi.unknownMember_eq, hi.1, hp, hf]

/-- An effect on a record writes one slot that has the given label, or fails without a trace, for
want of the member or of a fitting value. -/
inductive Wrote (c : Class) (i : Instance) (name : String) :
    EStateM.Result Error Instance Unit → Prop
  /-- The slot has been written. -/
  | stored {slot : Nat} {value : Value} (hlabel : c.memberNames[slot]? = some name) :
    Wrote c i name (.ok () { i with slots := i.slots.set slot value })
  /-- There is no such member to be written. -/
  | unknown : Wrote c i name (.error (.unknownMember c.name name) i)
  /-- The value does not fit. -/
  | mismatch (member expected actual : String) :
    Wrote c i name (.error (.typeMismatch member expected actual) i)

/-- It fails for want of the member or of a fitting value. -/
theorem Wrote.outcome_eq_error {effect : Effect Unit} (h : Wrote c i name (effect i)) {e : Error}
    (he : effect.outcome i = .error e) : e = .unknownMember c.name name ∨ e.IsMismatch := by
  unfold Effect.outcome at he
  generalize effect i = result at h he
  cases h with
  | stored hlabel => cases he
  | unknown => exact .inl (Except.error.inj he).symm
  | mismatch member expected actual => exact .inr ⟨_, _, _, (Except.error.inj he).symm⟩

/-- It leaves the slots with other labels alone. -/
theorem Wrote.slot?_left {effect : Effect Unit} (h : Wrote c i name (effect i)) {index : Nat}
    (hother : c.memberNames[index]? ≠ some name) :
    (effect.left i).slot? index = i.slot? index := by
  unfold Effect.left
  generalize effect i = result at h
  cases h with
  | stored hlabel =>
    refine List.getElem?_set_ne ?_
    rintro rfl
    exact hother hlabel
  | unknown => rfl
  | mismatch member expected actual => rfl

/-- What the writing of a property comes to. -/
theorem wrote_set (hc : c.Formed) (hi : i.IsOf c) (value : Value) :
    Wrote c i name (set name value i) := by
  cases hp : c.property? name with
  | none =>
    rw [set_of_none hi hp]
    exact .unknown
  | some found =>
    obtain ⟨owner, p⟩ := found
    obtain ⟨slot, hstored, -, hlabel⟩ := hc.storedAt hp
    rw [set_of_property hc hi hp hstored.place]
    split
    · exact .unknown
    · split
      · exact .stored hlabel
      · exact .mismatch _ _ _

/-- What the writing of a member comes to. -/
theorem wrote_setMember (hc : c.Formed) (hi : i.IsOf c) (value : Value) :
    Wrote c i name (setMember name value i) := by
  cases hp : c.property? name with
  | some found =>
    obtain ⟨owner, p⟩ := found
    rw [setMember_of_property hi hp]
    split
    · exact .unknown
    · exact wrote_set hc hi value
  | none =>
    cases hf : c.field? name with
    | none =>
      rw [setMember_of_none hi hp hf]
      exact .unknown
    | some f =>
      obtain ⟨hty, hlabel⟩ := hc.field_slot hf
      obtain ⟨slot, hslot, -⟩ := Option.map_eq_some_iff.mp hty
      rw [setMember_of_field hi hp hf]
      split
      · rw [store_of_slot hi hslot]
        split
        · exact .stored hlabel
        · exact .mismatch _ _ _
      · exact .unknown

/-- The answer to a call that writes is an error if the writing fails. -/
private theorem answer_set {outcome : Except Error Unit} {e : Error}
    (h : (outcome.map fun _ => (none : Option Value)) = .error e) : outcome = .error e := by
  cases outcome with
  | ok written => cases h
  | error e' => rw [Except.error.inj h]

/-- A call fails only for want of the member or of a fitting value. -/
theorem answer_eq_error (hc : c.Formed) (hi : i.IsOf c) {call : Call} {e : Error}
    (h : i.answer call = .error e) : e = .unknownMember c.name call.member ∨ e.IsMismatch := by
  cases call with
  | get name =>
    cases hp : c.property? name with
    | none =>
      rw [answer, get_of_none hi hp] at h
      exact .inl (Except.error.inj h).symm
    | some found =>
      obtain ⟨owner, p⟩ := found
      obtain ⟨slot, hstored, -⟩ := hc.storedAt hp
      obtain ⟨value, -, hget⟩ := get_of_property hc hi hp hstored.place
      rw [answer, hget] at h
      cases h
  | field name =>
    cases hf : c.field? name with
    | none =>
      rw [answer, field, hi.unknownMember_eq, hi.1, hf] at h
      exact .inl (Except.error.inj h).symm
    | some f =>
      rw [answer, field, hi.1, hf] at h
      cases h
  | set name value => exact (wrote_set hc hi value).outcome_eq_error (answer_set h)
  | setMember name value => exact (wrote_setMember hc hi value).outcome_eq_error (answer_set h)

/-- A call leaves alone every slot that does not belong to the member it names. -/
theorem slot?_next (hc : c.Formed) (hi : i.IsOf c) (call : Call) {index : Nat}
    (hother : c.memberNames[index]? ≠ some call.member) :
    (i.next call).slot? index = i.slot? index := by
  cases call with
  | get name => rfl
  | field name => rfl
  | set name value => exact (wrote_set hc hi value).slot?_left hother
  | setMember name value => exact (wrote_setMember hc hi value).slot?_left hother

end Instance

end ClassSynthesis
