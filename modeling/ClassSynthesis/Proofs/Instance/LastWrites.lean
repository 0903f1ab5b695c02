import ClassSynthesis.Proofs.Class.Realized
import ClassSynthesis.Proofs.Class.Safety

/-!
# The last write decides

To write a member is to overwrite the slot that its name stands for, or to fail without a trace. No
two names stand for one slot. So a member reads as the value that was last written to it with
success, or as what it was before if there was no such write, and slots that no name stands for keep
what a constructor has put there.
-/

namespace ClassSynthesis

namespace Instance

/-- The member that a call is to write, with the value for it. -/
def Call.write? : Call → Option (String × Value)
  | get _ | field _ => none
  | set name value | setMember name value => some (name, value)

/-- The value that an answered call has written to the member of this name, if it has: the call was
to write that member, and it succeeded. -/
def written? (name : String) : Call × Answer → Option Value
  | (call, .ok _) =>
    call.write?.bind fun (member, value) => if member = name then some value else none
  | (_, .error _) => none

/-- The value that was written last to the member of this name, if any was. -/
def lastWritten? (name : String) (entries : List (Call × Answer)) : Option Value :=
  entries.reverse.findSome? (written? name)

/-- Later writes count before the first one. -/
theorem lastWritten?_cons (name : String) (entry : Call × Answer) (rest : List (Call × Answer)) :
    lastWritten? name (entry :: rest) = (lastWritten? name rest).or (written? name entry) := by
  rw [lastWritten?, List.reverse_cons, List.findSome?_append, List.findSome?_singleton]
  rfl

variable {c : Class} {i : Instance} {name : String} {slot : Nat}

/-- What comes of writing a value to the member of this name: the slot that the name stands for is
overwritten, or the writing fails and nothing has changed. -/
inductive Overwrites (c : Class) (i : Instance) (name : String) (value : Value) :
    EStateM.Result Error Instance Unit → Prop
  /-- The slot has been overwritten. -/
  | stored {slot : Nat} (hslot : c.slotOf? name = some slot) :
    Overwrites c i name value (.ok () { i with slots := i.slots.set slot value })
  /-- Nothing has changed. -/
  | failed (e : Error) : Overwrites c i name value (.error e i)

theorem overwrites_set (hc : c.Formed) (hi : i.IsOf c) (name : String) (value : Value) :
    Overwrites c i name value (set name value i) := by
  cases hp : c.property? name with
  | none =>
    rw [set_of_none hi hp]
    exact .failed _
  | some found =>
    obtain ⟨owner, p⟩ := found
    obtain ⟨place, hstored, -⟩ := hc.storedAt hp
    have hplace : c.slotOf? name = some place := by
      rw [Class.slotOf?, hp]
      exact hstored.place
    rw [set_of_property hc hi hp hstored.place]
    split
    · exact .failed _
    · split
      · exact .stored hplace
      · exact .failed _

/-- A field that no property hides is written if it is public, not read-only, and accepts the
value. -/
theorem setMember_of_open_field (hc : c.Formed) (hi : i.IsOf c) (hp : c.property? name = none)
    {f : Field} (hf : c.field? name = some f) {place : Slot}
    (hplace : c.slots[f.slot]? = some place) (value : Value) :
    setMember name value i =
      if f.isPublic && !f.isReadonly then
        if f.ty.accepts value then .ok () { i with slots := i.slots.set f.slot value }
        else .error (.typeMismatch place.name f.ty.name value.typeName) i
      else .error (.unknownMember c.name name) i := by
  have hty := (hc.field_slot hf).1
  rw [hplace, Option.map_some, Option.some.injEq] at hty
  rw [setMember_of_field hi hp hf, store_of_slot hi hplace, hty]

/-- A property is written as a member in the same way as it is written as a property. -/
theorem setMember_eq_set (hc : c.Formed) (hi : i.IsOf c) {owner : Class} {p : Property}
    (hp : c.property? name = some (owner, p)) (value : Value) :
    setMember name value i = set name value i := by
  obtain ⟨place, hstored, -⟩ := hc.storedAt hp
  rw [setMember_of_property hi hp, set_of_property hc hi hp hstored.place]
  split <;> rfl

theorem overwrites_setMember (hc : c.Formed) (hi : i.IsOf c) (name : String) (value : Value) :
    Overwrites c i name value (setMember name value i) := by
  cases hp : c.property? name with
  | some found =>
    rw [setMember_eq_set hc hi hp]
    exact overwrites_set hc hi name value
  | none =>
    cases hf : c.field? name with
    | none =>
      rw [setMember_of_none hi hp hf]
      exact .failed _
    | some f =>
      obtain ⟨place, hplace, -⟩ := Option.map_eq_some_iff.mp (hc.field_slot hf).1
      have hslot : c.slotOf? name = some f.slot := by
        rw [Class.slotOf?, hp, hf]
        rfl
      rw [setMember_of_open_field hc hi hp hf hplace]
      split
      · split
        · exact .stored hslot
        · exact .failed _
      · exact .failed _

/-- The slot that a name stands for holds what a call has written to the member of that name, if the
writing succeeded, and else what it held before. -/
theorem Overwrites.slot?_left (hc : c.Formed) (hi : i.IsOf c) {call : Call} {member : String}
    {value : Value} (hcall : call.write? = some (member, value)) {effect : Effect Unit}
    (h : Overwrites c i member value (effect i)) (hslot : c.slotOf? name = some slot) :
    (effect.left i).slot? slot =
      (written? name (call, (effect.outcome i).map fun _ => none)).or (i.slot? slot) := by
  unfold Effect.left Effect.outcome
  generalize effect i = result at h
  cases h with
  | failed e => rfl
  | @stored place hplace =>
    by_cases hname : member = name
    · subst hname
      obtain rfl : place = slot := Option.some.inj (hplace.symm.trans hslot)
      obtain ⟨m, hm, -, hmslot⟩ := Class.exists_member_of_slotOf? hslot
      have hlt : place < i.slots.length := hi.2 ▸ hc.lt_of_slot? hm hmslot
      simp [slot?, written?, hcall, Except.map, hlt]
    · have hne : place ≠ slot := by
        rintro rfl
        exact hname (hc.slotOf?_inj hplace hslot)
      simp [slot?, written?, hcall, Except.map, hname, hne]

/-- A slot that no name stands for is left alone. -/
theorem Overwrites.slot?_left_of_unnamed {effect : Effect Unit} {member : String} {value : Value}
    (h : Overwrites c i member value (effect i)) {index : Nat}
    (hunnamed : ∀ name, c.slotOf? name ≠ some index) :
    (effect.left i).slot? index = i.slot? index := by
  unfold Effect.left
  generalize effect i = result at h
  cases h with
  | failed e => rfl
  | @stored place hplace =>
    apply List.getElem?_set_ne
    rintro rfl
    exact hunnamed member hplace

/-- One call: the slot that a name stands for holds what the call has written to it, or what it held
before. -/
theorem slot?_next_of_slotOf? (hc : c.Formed) (hi : i.IsOf c) (call : Call)
    (hslot : c.slotOf? name = some slot) :
    (i.next call).slot? slot = (written? name (call, i.answer call)).or (i.slot? slot) := by
  cases call with
  | get member => cases hanswer : i.answer (.get member) <;> rfl
  | field member => cases hanswer : i.answer (.field member) <;> rfl
  | set member value => exact (overwrites_set hc hi member value).slot?_left hc hi rfl hslot
  | setMember member value =>
    exact (overwrites_setMember hc hi member value).slot?_left hc hi rfl hslot

/-- A session: the slot that a name stands for holds what was written to it last. -/
theorem slot?_after_of_slotOf? (hc : c.Formed) (hi : i.IsOf c) (calls : List Call)
    (hslot : c.slotOf? name = some slot) :
    (i.after calls).slot? slot =
      (lastWritten? name (i.transcript calls)).or (i.slot? slot) := by
  induction calls generalizing i with
  | nil => rfl
  | cons call rest ih =>
    have hnext := keeps_next (storeKeeps_isOf c) hi call
    have hrest := ih hnext
    rw [slot?_next_of_slotOf? hc hi call hslot, ← Option.or_assoc] at hrest
    rw [transcript, lastWritten?_cons]
    exact hrest

/-- Slots that no name stands for keep what they hold. -/
theorem slot?_after_of_unnamed (hc : c.Formed) (hi : i.IsOf c) (calls : List Call) {index : Nat}
    (hunnamed : ∀ name, c.slotOf? name ≠ some index) :
    (i.after calls).slot? index = i.slot? index := by
  induction calls generalizing i with
  | nil => rfl
  | cons call rest ih =>
    have hnext := keeps_next (storeKeeps_isOf c) hi call
    have hcall : (i.next call).slot? index = i.slot? index := by
      cases call with
      | get member => rfl
      | field member => rfl
      | set member value =>
        exact (overwrites_set hc hi member value).slot?_left_of_unnamed hunnamed
      | setMember member value =>
        exact (overwrites_setMember hc hi member value).slot?_left_of_unnamed hunnamed
    exact (ih hnext).trans hcall

/-- An instance does on each call what a record with the members of the class would do. -/
structure ActsAsRecord (i : Instance) (c : Class) : Prop where
  /-- A property reads as what its slot holds. It is written, as a property or as a member, if it
  has a setter and accepts the value; whatever else there is under its name does not matter. -/
  property : ∀ name owner p, c.property? name = some (owner, p) → ∃ slot value,
    p.slot = some slot ∧ i.slot? slot = some value ∧ i.get name = .ok value ∧
    ∀ v, set name v i =
        (if p.setter.isNone then .error (.unknownMember c.name name) i
        else if p.ty.accepts v then .ok () { i with slots := i.slots.set slot v }
        else .error (.typeMismatch name p.ty.name v.typeName) i) ∧
      setMember name v i = set name v i
  /-- Under other names no property is read or written. -/
  noProperty : ∀ name, c.property? name = none →
    i.get name = .error (.unknownMember c.name name) ∧
    ∀ v, set name v i = .error (.unknownMember c.name name) i
  /-- A field reads as what its slot holds. Unless a property hides it, it is written as a member if
  it is public, not read-only, and accepts the value. -/
  field : ∀ name f, c.field? name = some f → ∃ place value,
    c.slots[f.slot]? = some place ∧ i.slot? f.slot = some value ∧ i.field name = .ok value ∧
    (c.property? name = none → ∀ v, setMember name v i =
      if f.isPublic && !f.isReadonly then
        if f.ty.accepts v then .ok () { i with slots := i.slots.set f.slot v }
        else .error (.typeMismatch place.name f.ty.name v.typeName) i
      else .error (.unknownMember c.name name) i)
  /-- Under other names no field is read or written. -/
  noField : ∀ name, c.field? name = none →
    i.field name = .error (.unknownMember c.name name) ∧
    (c.property? name = none → ∀ v,
      setMember name v i = .error (.unknownMember c.name name) i)
  /-- A call that fails leaves the instance as it is. -/
  failure : ∀ call e, i.answer call = .error e → i.next call = i

/-- A writing that fails leaves the instance as it is. -/
theorem Overwrites.left_of_error {effect : Effect Unit} {member : String} {value : Value}
    (h : Overwrites c i member value (effect i)) {e : Error}
    (he : ((effect.outcome i).map fun _ => (none : Option Value)) = .error e) :
    effect.left i = i := by
  unfold Effect.outcome at he
  unfold Effect.left
  generalize effect i = result at h he
  cases h with
  | stored hslot => cases he
  | failed e' => rfl

/-- Where layouts are in order, instances act as records. -/
theorem actsAsRecord (hc : c.Formed) (hi : i.IsOf c) : i.ActsAsRecord c where
  property := by
    intro name owner p hp
    obtain ⟨place, hstored, -⟩ := hc.storedAt hp
    obtain ⟨value, hvalue, hget⟩ := get_of_property hc hi hp hstored.place
    exact ⟨place, value, hstored.place, hvalue, hget, fun v =>
      ⟨set_of_property hc hi hp hstored.place v, setMember_eq_set hc hi hp v⟩⟩
  noProperty := fun name hp => ⟨get_of_none hi hp, set_of_none hi hp⟩
  field := by
    intro name f hf
    obtain ⟨place, hplace, -⟩ := Option.map_eq_some_iff.mp (hc.field_slot hf).1
    obtain ⟨value, hvalue⟩ := hi.exists_value (List.getElem?_eq_some_iff.mp hplace).1
    refine ⟨place, value, hplace, hvalue, ?_, fun hp => setMember_of_open_field hc hi hp hf hplace⟩
    rw [Instance.field, hi.1, hf]
    simp only [hvalue, Option.getD_some]
  noField := by
    intro name hf
    refine ⟨?_, fun hp => setMember_of_none hi hp hf⟩
    rw [Instance.field, hi.unknownMember_eq, hi.1, hf]
  failure := by
    intro call e he
    cases call with
    | get name => rfl
    | field name => rfl
    | set name value => exact (overwrites_set hc hi name value).left_of_error he
    | setMember name value => exact (overwrites_setMember hc hi name value).left_of_error he

/-- After a session every member reads as what was last written to it with success. -/
structure KeepsLastWrites (i : Instance) (c : Class) (calls : List Call) : Prop where
  /-- A property, or as what it was before. -/
  property : ∀ name owner p, c.property? name = some (owner, p) → ∃ before,
    i.get name = .ok before ∧
      (i.after calls).get name = .ok ((lastWritten? name (i.transcript calls)).getD before)
  /-- A field that no property hides, or as what it was before. -/
  field : ∀ name f, c.property? name = none → c.field? name = some f → ∃ before,
    i.field name = .ok before ∧
      (i.after calls).field name = .ok ((lastWritten? name (i.transcript calls)).getD before)
  /-- A field that a property hides is never written. -/
  hidden : ∀ name, (c.property? name).isSome → (i.after calls).field name = i.field name
  /-- Nor is any other member that its name does not stand for. -/
  unnamed : ∀ index, (∀ name, c.slotOf? name ≠ some index) →
    (i.after calls).slot? index = i.slot? index

/-- The slot that a name stands for holds a value, before a session and after it. -/
theorem exists_before_of_slotOf? (hc : c.Formed) (hi : i.IsOf c) (calls : List Call)
    (hslot : c.slotOf? name = some slot) :
    ∃ before, i.slot? slot = some before ∧
      (i.after calls).slot? slot =
        some ((lastWritten? name (i.transcript calls)).getD before) := by
  obtain ⟨m, hm, -, hmslot⟩ := Class.exists_member_of_slotOf? hslot
  obtain ⟨before, hbefore⟩ := hi.exists_value (hc.lt_of_slot? hm hmslot)
  refine ⟨before, hbefore, ?_⟩
  rw [slot?_after_of_slotOf? hc hi calls hslot, hbefore, Option.or_some]

/-- Where layouts are in order, the last write decides. -/
theorem keepsLastWrites (hc : c.Formed) (hi : i.IsOf c) (calls : List Call) :
    i.KeepsLastWrites c calls := by
  have hafter := isOf_after hi calls
  have hunnamed (index : Nat) (h : ∀ name, c.slotOf? name ≠ some index) :=
    slot?_after_of_unnamed hc hi calls h
  constructor
  · intro name owner p hp
    obtain ⟨place, hstored, -⟩ := hc.storedAt hp
    have hslot : c.slotOf? name = some place := by
      rw [Class.slotOf?, hp]
      exact hstored.place
    obtain ⟨before, hbefore, hlast⟩ := exists_before_of_slotOf? hc hi calls hslot
    obtain ⟨held, hheld, hget⟩ := get_of_property hc hi hp hstored.place
    obtain ⟨value, hvalue, hgetAfter⟩ := get_of_property hc hafter hp hstored.place
    obtain rfl := Option.some.inj (hbefore.symm.trans hheld)
    obtain rfl := Option.some.inj (hlast.symm.trans hvalue)
    exact ⟨before, hget, hgetAfter⟩
  · intro name f hp hf
    have hslot : c.slotOf? name = some f.slot := by
      rw [Class.slotOf?, hp, hf]
      rfl
    obtain ⟨before, hbefore, hlast⟩ := exists_before_of_slotOf? hc hi calls hslot
    refine ⟨before, ?_, ?_⟩
    · rw [Instance.field, hi.1, hf]
      simp only [hbefore, Option.getD_some]
    · rw [Instance.field, hafter.1, hf]
      simp only [hlast, Option.getD_some]
  · intro name hhidden
    rw [Instance.field, Instance.field, hi.1, hafter.1]
    cases hf : c.field? name with
    | none => rw [hi.unknownMember_eq, hafter.unknownMember_eq]
    | some f =>
      have hkept := hunnamed f.slot (hc.slotOf?_ne_of_hidden hhidden hf)
      simp only [hkept]
  · exact hunnamed

end Instance

namespace Class

/-- On a class that was declared or realized, from any draft, on top of others that were, the
members are stored in slots of their own, hidden ones too. Its instances act as records at any time:
calls read and write the slot of the member that they name, or fail without a trace. So members read
as the values that were last written to them with success. -/
theorem Realized.instances_are_records {c : Class} (h : c.Realized) :
    c.storedMembers.map (·.slot?) = (List.range c.slotCount).map some ∧
      (c.storedMembers.map (·.slot?)).Nodup ∧
      ∀ i, Instance.Created c i → ∀ before : List Instance.Call,
        (i.after before).ActsAsRecord c ∧ ∀ calls, (i.after before).KeepsLastWrites c calls := by
  have hformed := h.formed
  refine ⟨hformed.places, hformed.nodup_slots, ?_⟩
  intro i hi before
  have hof := Instance.isOf_after hi.isOf before
  exact ⟨Instance.actsAsRecord hformed hof, Instance.keepsLastWrites hformed hof⟩

/-- A draft on top of the vehicle. Two of its properties have slots of one name, and the third one
has the name of a field of the vehicle. -/
def hybridDraft : Draft :=
  { carBuilder.draft with
    name := "Hybrid"
    properties :=
      [⟨"Age", .int, "_age", []⟩, ⟨"age", .int, "_age", []⟩, ⟨"wheels", .str, "_wheels", []⟩] }

/-- The class that it is realized to. -/
def hybrid : Class := hybridDraft.compile ⟨0, 0⟩

theorem realized_hybrid : hybrid.Realized := by
  have hrealized : outcomeOf (Draft.realize (hybridDraft, .empty 0 {})) = .ok hybrid := rfl
  exact .drafted (by rintro base ⟨⟩; exact made_vehicle.realized) hrealized

/-- The ages do not get in the way of each other, a text is no age, the wheels that are written are
not those of the vehicle, and there is no trunk to be read or written. -/
theorem instances_are_records_hybrid :
    hybrid.Realized ∧
      hybrid.slots.map (·.name) =
        ["wheels", "<Label>k__BackingField", "_age", "_age", "_wheels"] ∧
      ∃ i, Instance.create hybrid [.int 4, .str "Prius"] = .ok i ∧
        let left := i.after [.set "Age" (.int 7), .setMember "wheels" (.str "alloy"),
          .set "Age" (.str "old"), .setMember "Age" (.int 8), .set "age" .null]
        left.get "Age" = .ok (.int 8) ∧ left.get "age" = .ok (.int 0) ∧
          left.get "wheels" = .ok (.str "alloy") ∧ left.field "wheels" = .ok (.int 4) ∧
          left.get "Trunk" = .error (.unknownMember "Hybrid" "Trunk") ∧
          Instance.setMember "Trunk" .null left =
            .error (.unknownMember "Hybrid" "Trunk") left := by
  have hcreate : Instance.create hybrid [.int 4, .str "Prius"] =
      .ok ⟨hybrid, [.int 4, .str "Prius", .int 0, .int 0, .null]⟩ := rfl
  refine ⟨realized_hybrid, rfl, _, hcreate, ?_⟩
  obtain ⟨-, -, hrecords⟩ := realized_hybrid.instances_are_records
  have hlater := hrecords _ (.constructed _ hcreate)
  have hkeeps := (hlater []).2
    [.set "Age" (.int 7), .setMember "wheels" (.str "alloy"), .set "Age" (.str "old"),
      .setMember "Age" (.int 8), .set "age" .null]
  obtain ⟨_, -, hupper⟩ := hkeeps.property "Age" _ _ rfl
  obtain ⟨before, hbefore, hlower⟩ := hkeeps.property "age" _ _ rfl
  obtain ⟨_, -, hwheels⟩ := hkeeps.property "wheels" _ _ rfl
  obtain rfl : before = .int 0 := (Except.ok.inj hbefore).symm
  exact ⟨hupper, hlower, hwheels, hkeeps.hidden "wheels" rfl,
    ((hlater _).1.noProperty "Trunk" rfl).1, ((hlater _).1.noField "Trunk" rfl).2 rfl .null⟩

end Class

end ClassSynthesis
