import ClassSynthesis.Application
import ClassSynthesis.Proofs.Class.Members
import ClassSynthesis.Proofs.Instance.Records

/-!
# Overrides

On a class whose layouts are in order each writable member has a slot of its own. So to override
members with values that fit is to overwrite slots: this never fails, the last value for a member
is the one that is read back, and all other slots stay as they are.
-/

namespace ClassSynthesis

/-- The slot of a writable member. -/
def WritableMember.slot? : WritableMember → Option Nat
  | property p => p.slot
  | field f => some f.slot

namespace Class

/-- The slot of the member of this name, if it may be written after construction. -/
def writableSlot? (c : Class) (name : String) : Option Nat := (c.writable? name).bind (·.slot?)

/-- The member of this name may be written after construction, and may hold the value. -/
def Takes (c : Class) (name : String) (value : Value) : Prop :=
  ∃ member, c.writable? name = some member ∧ member.ty.accepts value = true

/-- The values of the slots after members have been overridden, one after the other. -/
def overridden (c : Class) (overrides : List (String × Value)) (values : List Value) :
    List Value :=
  overrides.foldl (fun values (name, value) =>
    match c.writableSlot? name with
    | some slot => values.set slot value
    | none => values) values

variable {c : Class} {name : String} {member : WritableMember}

/-- A writable member is a property that has a setter, or else a field that no property hides and
that is public and not read-only. -/
theorem writable?_eq_some (h : c.writable? name = some member) :
    (∃ owner p, c.property? name = some (owner, p) ∧ p.setter.isSome = true ∧
      member = .property p) ∨
    (c.property? name = none ∧ ∃ f, c.field? name = some f ∧
      (f.isPublic && !f.isReadonly) = true ∧ member = .field f) := by
  unfold writable? at h
  cases hp : c.property? name with
  | some found =>
    obtain ⟨owner, p⟩ := found
    rw [hp] at h
    by_cases hsetter : p.setter.isSome
    · simp only [hsetter, ite_true, Option.some.injEq] at h
      exact .inl ⟨owner, p, rfl, hsetter, h.symm⟩
    · simp [hsetter] at h
  | none =>
    rw [hp] at h
    obtain ⟨f, hfiltered, hmember⟩ := Option.map_eq_some_iff.mp h
    obtain ⟨hf, hopen⟩ := Option.filter_eq_some_iff.mp hfiltered
    exact .inr ⟨rfl, f, hf, hopen, hmember.symm⟩

/-- A writable member has a slot of the layout, one with its type and its name. -/
theorem Formed.slot_of_writable? (hc : c.Formed) (h : c.writable? name = some member) :
    ∃ slot, c.writableSlot? name = some slot ∧ (c.slots[slot]?).map (·.ty) = some member.ty ∧
      c.memberNames[slot]? = some name := by
  rw [writableSlot?, h, Option.bind_some]
  rcases writable?_eq_some h with ⟨owner, p, hp, -, rfl⟩ | ⟨-, f, hf, -, rfl⟩
  · obtain ⟨slot, hstored, hty, hlabel⟩ := hc.storedAt hp
    exact ⟨slot, hstored.place, hty, hlabel⟩
  · obtain ⟨hty, hlabel⟩ := hc.field_slot hf
    exact ⟨f.slot, rfl, hty, hlabel⟩

/-- Who writes to the slot of a writable member writes to the slot that its name stands for. -/
theorem slotOf?_of_writableSlot? {slot : Nat} (h : c.writableSlot? name = some slot) :
    c.slotOf? name = some slot := by
  obtain ⟨member, hmember, hplace⟩ := Option.bind_eq_some_iff.mp h
  rcases writable?_eq_some hmember with ⟨owner, p, hp, -, rfl⟩ | ⟨hp, f, hf, -, rfl⟩
  · rw [slotOf?, hp]
    exact hplace
  · rw [slotOf?, hp, hf]
    exact hplace

/-- No two members share a slot. -/
theorem Formed.writableSlot?_inj (hc : c.Formed) {other : String} {slot : Nat}
    (h : c.writableSlot? name = some slot) (hother : c.writableSlot? other = some slot) :
    name = other :=
  hc.slotOf?_inj (slotOf?_of_writableSlot? h) (slotOf?_of_writableSlot? hother)

/-- The first override comes before the others. -/
theorem overridden_cons (c : Class) (name : String) (value : Value)
    (rest : List (String × Value)) (values : List Value) :
    c.overridden ((name, value) :: rest) values =
      c.overridden rest (c.overridden [(name, value)] values) := rfl

theorem overridden_append (c : Class) (first rest : List (String × Value)) (values : List Value) :
    c.overridden (first ++ rest) values = c.overridden rest (c.overridden first values) := by
  rw [overridden, List.foldl_append]
  rfl

/-- Overriding one member is overwriting its slot. -/
theorem overridden_singleton {slot : Nat} (h : c.writableSlot? name = some slot) (value : Value)
    (values : List Value) : c.overridden [(name, value)] values = values.set slot value := by
  rw [overridden, List.foldl_cons, List.foldl_nil]
  simp only [h]

/-- There are as many values as before. -/
@[simp] theorem length_overridden (c : Class) (overrides : List (String × Value))
    (values : List Value) : (c.overridden overrides values).length = values.length := by
  induction overrides generalizing values with
  | nil => rfl
  | cons first rest ih =>
    obtain ⟨name, value⟩ := first
    rw [overridden_cons, ih]
    cases hslot : c.writableSlot? name with
    | some slot => rw [overridden_singleton hslot, List.length_set]
    | none => simp [overridden, hslot]

/-- A slot that belongs to no overridden member keeps its value. -/
theorem getElem?_overridden_of_ne {overrides : List (String × Value)} {index : Nat}
    (h : ∀ entry ∈ overrides, c.writableSlot? entry.1 ≠ some index) (values : List Value) :
    (c.overridden overrides values)[index]? = values[index]? := by
  induction overrides generalizing values with
  | nil => rfl
  | cons first rest ih =>
    obtain ⟨name, value⟩ := first
    have hne := h (name, value) List.mem_cons_self
    rw [overridden_cons, ih fun entry hmem => h entry (List.mem_cons_of_mem _ hmem)]
    cases hslot : c.writableSlot? name with
    | some slot =>
      rw [overridden_singleton hslot, List.getElem?_set_ne]
      rintro rfl
      exact hne hslot
    | none => simp [overridden, hslot]

/-- The slot of an overridden member has the last value for that member. -/
theorem getElem?_overridden_last (hc : c.Formed) {slot : Nat}
    (hslot : c.writableSlot? name = some slot) {values : List Value} (hlt : slot < values.length)
    (value : Value) (before : List (String × Value)) {after : List (String × Value)}
    (hlast : name ∉ after.map (·.1)) :
    (c.overridden (before ++ (name, value) :: after) values)[slot]? = some value := by
  have hkept : ∀ entry ∈ after, c.writableSlot? entry.1 ≠ some slot := by
    intro entry hmem hsame
    refine hlast (List.mem_map.mpr ⟨entry, hmem, ?_⟩)
    exact hc.writableSlot?_inj hsame hslot
  rw [overridden_append, overridden_cons, getElem?_overridden_of_ne hkept,
    overridden_singleton hslot]
  simp [hlt]

end Class

namespace Instance

variable {c : Class} {i : Instance} {name : String} {value : Value}

/-- Read a property, or else a field. -/
def getMember (i : Instance) (name : String) : Except Error Value :=
  if (i.cls.property? name).isSome then i.get name else i.field name

/-- A member reads as what the slot holds that its name stands for. -/
theorem getMember_of_slotOf? (hc : c.Formed) (hi : i.IsOf c) {slot : Nat}
    (hslot : c.slotOf? name = some slot) (hvalue : i.slot? slot = some value) :
    i.getMember name = .ok value := by
  rw [getMember, hi.1]
  unfold Class.slotOf? at hslot
  cases hp : c.property? name with
  | some found =>
    obtain ⟨owner, p⟩ := found
    rw [hp] at hslot
    obtain ⟨held, hheld, hget⟩ := get_of_property hc hi hp hslot
    obtain rfl : held = value := Option.some.inj (hheld.symm.trans hvalue)
    rw [Option.isSome_some, if_pos rfl, hget]
  | none =>
    rw [hp] at hslot
    obtain ⟨f, hf, rfl⟩ := Option.map_eq_some_iff.mp hslot
    simp [field, hi.1, hf, hvalue]

/-- A writable member reads as what its slot holds. -/
theorem getMember_of_slot (hc : c.Formed) (hi : i.IsOf c) {slot : Nat}
    (hslot : c.writableSlot? name = some slot) (hvalue : i.slot? slot = some value) :
    i.getMember name = .ok value :=
  getMember_of_slotOf? hc hi (Class.slotOf?_of_writableSlot? hslot) hvalue

/-- A member that takes a value is written without an error, to its slot. -/
theorem setMember_of_takes (hc : c.Formed) (hi : i.IsOf c) (h : c.Takes name value) :
    setMember name value i =
      .ok () { i with slots := c.overridden [(name, value)] i.slots } := by
  obtain ⟨member, hmember, haccepts⟩ := h
  obtain ⟨slot, hslot, hty, -⟩ := hc.slot_of_writable? hmember
  rw [Class.overridden_singleton hslot]
  rcases Class.writable?_eq_some hmember with ⟨owner, p, hp, hsetter, rfl⟩ | ⟨hp, f, hf, hopen, rfl⟩
  · have hplace : p.slot = some slot := by
      rwa [Class.writableSlot?, hmember] at hslot
    have hnone : p.setter.isNone = false := by simpa using hsetter
    rw [setMember_of_property hi hp, hnone, set_of_property hc hi hp hplace, hnone]
    exact if_pos haccepts
  · obtain rfl : f.slot = slot := by
      rw [Class.writableSlot?, hmember] at hslot
      exact Option.some.inj hslot
    obtain ⟨place, hplace, hsame⟩ := Option.map_eq_some_iff.mp hty
    rw [setMember_of_field hi hp hf, if_pos hopen, store_of_slot hi hplace, hsame]
    exact if_pos haccepts

/-- Members that take their values are overridden without an error. -/
theorem setMembers_of_takes (hc : c.Formed) {overrides : List (String × Value)}
    (h : ∀ name value, (name, value) ∈ overrides → c.Takes name value) (hi : i.IsOf c) :
    setMembers overrides i = .ok () { i with slots := c.overridden overrides i.slots } := by
  induction overrides generalizing i with
  | nil =>
    cases i
    rfl
  | cons first rest ih =>
    obtain ⟨name, value⟩ := first
    have hfirst := setMember_of_takes hc hi (h name value List.mem_cons_self)
    have hleft : IsOf c { i with slots := c.overridden [(name, value)] i.slots } :=
      ⟨hi.1, by simpa using hi.2⟩
    simp only [setMembers, hfirst]
    exact ih (fun n v hmem => h n v (List.mem_cons_of_mem _ hmem)) hleft

end Instance

end ClassSynthesis
