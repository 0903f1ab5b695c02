import ClassSynthesis.Proofs.Instance.Records

/-!
# Instances that agree

A class may retain the members of another one, in the same slots, apart from some that it hides
behind members of its own. An instance of it agrees with one of the other class if the slots of the
members that are not hidden hold the same values. Calls on hidden members cannot break the
agreement; calls on the other members are answered alike, and keep it if they are made on both
sides. So two sessions that differ only in calls on hidden members give the same answers on the
others.
-/

namespace ClassSynthesis

/-- An error without the name of the type that lacks a member. -/
def Error.unowned : Error → Error
  | unknownMember _ member => unknownMember "" member
  | e => e

/-- An answer without the name of the type that lacks a member. -/
def Instance.Answer.unowned (answer : Instance.Answer) : Instance.Answer :=
  answer.mapError Error.unowned

/-- What a session shows of the members that are not hidden: the calls on them with their answers,
apart from names of types. -/
def Instance.shown (hidden : List String) (entries : List (Instance.Call × Instance.Answer)) :
    List (Instance.Call × Instance.Answer) :=
  (entries.filter fun entry => entry.1.member ∉ hidden).map fun entry =>
    (entry.1, entry.2.unowned)

/-- The class `t` has the members of `b`, in the same slots, apart from those that are hidden. -/
structure Class.Retains (t b : Class) (hidden : List String) : Prop where
  /-- The slots come first. -/
  slots : b.slots <+: t.slots
  /-- They belong to members of the same names. -/
  labels : b.memberNames <+: t.memberNames
  /-- The same properties are found. -/
  property : ∀ name, name ∉ hidden → t.property? name = b.property? name
  /-- The same fields are found. -/
  field : ∀ name, name ∉ hidden → t.field? name = b.field? name

/-- A class retains its own members. -/
theorem Class.Retains.refl (b : Class) (hidden : List String) : b.Retains b hidden :=
  ⟨List.prefix_rfl, List.prefix_rfl, fun _ _ => rfl, fun _ _ => rfl⟩

namespace Instance

/-- An instance of `t` agrees with one of `b` on the members that are not hidden. -/
structure Agrees (b t : Class) (hidden : List String) (i j : Instance) : Prop where
  /-- The one is an instance of `b`. -/
  left : i.IsOf b
  /-- The other is an instance of `t`. -/
  right : j.IsOf t
  /-- The slots of members that are not hidden hold the same values. -/
  slots : ∀ index name, b.memberNames[index]? = some name → name ∉ hidden →
    j.slot? index = i.slot? index

variable {b t : Class} {hidden : List String} {i j : Instance}

/-- A call on a hidden member of the longer instance keeps the agreement. -/
theorem Agrees.next_hidden (ht : t.Formed) (hretains : t.Retains b hidden)
    (h : Agrees b t hidden i j) {call : Call} (hcall : call.member ∈ hidden) :
    Agrees b t hidden i (j.next call) where
  left := h.left
  right := keeps_next (storeKeeps_isOf t) h.right call
  slots := by
    intro index name hlabel hname
    have hlabel' := getElem?_longer hretains.labels hlabel
    rw [slot?_next ht h.right call]
    · exact h.slots index name hlabel hname
    · intro hsame
      obtain rfl := Option.some.inj (hlabel'.symm.trans hsame)
      exact hname hcall

/-- The same value written into the same slot of both instances keeps the agreement. -/
theorem Agrees.set (hretains : t.Retains b hidden) (h : Agrees b t hidden i j) {slot : Nat}
    (hslot : slot < b.slots.length) (value : Value) :
    Agrees b t hidden { i with slots := i.slots.set slot value }
      { j with slots := j.slots.set slot value } where
  left := ⟨h.left.1, by simpa using h.left.2⟩
  right := ⟨h.right.1, by simpa using h.right.2⟩
  slots := by
    intro index name hlabel hname
    have hi : slot < i.slots.length := h.left.2 ▸ hslot
    have hj : slot < j.slots.length :=
      h.right.2 ▸ Nat.lt_of_lt_of_le hslot hretains.slots.length_le
    have hold := h.slots index name hlabel hname
    -- Labels do not tell slots apart where a member hides one of an ancestor; numbers do.
    simp only [slot?, List.getElem?_set] at hold ⊢
    by_cases hsame : slot = index
    · subst hsame
      simp only [ite_true, hi, hj]
    · simpa only [hsame, ite_false] using hold

/-- Two results of writing the same member on two instances: both fail without a trace, in the same
way apart from names of types, or the same value has gone into the same slot. -/
inductive Paired (b : Class) (i j : Instance) :
    EStateM.Result Error Instance Unit → EStateM.Result Error Instance Unit → Prop
  /-- The same value in the same slot. -/
  | stored {slot : Nat} (value : Value) (hslot : slot < b.slots.length) :
    Paired b i j (.ok () { i with slots := i.slots.set slot value })
      (.ok () { j with slots := j.slots.set slot value })
  /-- No such member to be written. -/
  | unknown (owner other name : String) :
    Paired b i j (.error (.unknownMember owner name) i) (.error (.unknownMember other name) j)
  /-- No fitting value. -/
  | mismatch (member expected actual : String) :
    Paired b i j (.error (.typeMismatch member expected actual) i)
      (.error (.typeMismatch member expected actual) j)

/-- Paired results keep the agreement. -/
theorem Paired.agrees (hretains : t.Retains b hidden) (h : Agrees b t hidden i j)
    {effect : Effect Unit} (hpaired : Paired b i j (effect i) (effect j)) :
    Agrees b t hidden (effect.left i) (effect.left j) := by
  unfold Effect.left
  generalize effect i = atBase at hpaired
  generalize effect j = atDerived at hpaired
  cases hpaired with
  | stored value hslot => exact h.set hretains hslot value
  | unknown owner other name => exact h
  | mismatch member expected actual => exact h

/-- Paired results are answered alike. -/
theorem Paired.answer_eq {effect : Effect Unit} (hpaired : Paired b i j (effect i) (effect j)) :
    Answer.unowned ((effect.outcome j).map fun _ => none) =
      Answer.unowned ((effect.outcome i).map fun _ => none) := by
  unfold Effect.outcome
  generalize effect i = atBase at hpaired
  generalize effect j = atDerived at hpaired
  cases hpaired <;> rfl

/-- To write a property that is not hidden has paired results. -/
theorem Agrees.paired_set (hb : b.Formed) (ht : t.Formed) (hretains : t.Retains b hidden)
    (h : Agrees b t hidden i j) {name : String} (hname : name ∉ hidden) (value : Value) :
    Paired b i j (Instance.set name value i) (Instance.set name value j) := by
  have hsame := hretains.property name hname
  cases hp : b.property? name with
  | none =>
    rw [set_of_none h.left hp, set_of_none h.right (hsame.trans hp)]
    exact .unknown b.name t.name name
  | some found =>
    obtain ⟨owner, p⟩ := found
    obtain ⟨slot, hstored, hty, -⟩ := hb.storedAt hp
    rw [set_of_property hb h.left hp hstored.place,
      set_of_property ht h.right (hsame.trans hp) hstored.place]
    by_cases hsetter : p.setter.isNone
    · rw [if_pos hsetter, if_pos hsetter]
      exact .unknown b.name t.name name
    · rw [if_neg hsetter, if_neg hsetter]
      by_cases haccepts : p.ty.accepts value
      · rw [if_pos haccepts, if_pos haccepts]
        exact .stored value (lt_length_of_typed hty)
      · rw [if_neg haccepts, if_neg haccepts]
        exact .mismatch _ _ _

/-- To write a member that is not hidden has paired results. -/
theorem Agrees.paired_setMember (hb : b.Formed) (ht : t.Formed) (hretains : t.Retains b hidden)
    (h : Agrees b t hidden i j) {name : String} (hname : name ∉ hidden) (value : Value) :
    Paired b i j (setMember name value i) (setMember name value j) := by
  have hsame := hretains.property name hname
  have hsameField := hretains.field name hname
  cases hp : b.property? name with
  | some found =>
    obtain ⟨owner, p⟩ := found
    rw [setMember_of_property h.left hp, setMember_of_property h.right (hsame.trans hp)]
    by_cases hsetter : p.setter.isNone
    · rw [if_pos hsetter, if_pos hsetter]
      exact .unknown b.name t.name name
    · rw [if_neg hsetter, if_neg hsetter]
      exact h.paired_set hb ht hretains hname value
  | none =>
    have hp' := hsame.trans hp
    cases hf : b.field? name with
    | none =>
      rw [setMember_of_none h.left hp hf, setMember_of_none h.right hp' (hsameField.trans hf)]
      exact .unknown b.name t.name name
    | some f =>
      have hty := (hb.field_slot hf).1
      obtain ⟨slot, hslot, -⟩ := Option.map_eq_some_iff.mp hty
      rw [setMember_of_field h.left hp hf, setMember_of_field h.right hp' (hsameField.trans hf)]
      by_cases hopen : f.isPublic && !f.isReadonly
      · rw [if_pos hopen, if_pos hopen, store_of_slot h.left hslot,
          store_of_slot h.right (getElem?_longer hretains.slots hslot)]
        by_cases haccepts : slot.ty.accepts value
        · rw [if_pos haccepts, if_pos haccepts]
          exact .stored value (lt_length_of_typed hty)
        · rw [if_neg haccepts, if_neg haccepts]
          exact .mismatch _ _ _
      · rw [if_neg hopen, if_neg hopen]
        exact .unknown b.name t.name name

/-- A property that is not hidden reads the same. -/
theorem Agrees.get_eq (hb : b.Formed) (ht : t.Formed) (hretains : t.Retains b hidden)
    (h : Agrees b t hidden i j) {name : String} (hname : name ∉ hidden) :
    (j.answer (.get name)).unowned = (i.answer (.get name)).unowned := by
  have hsame := hretains.property name hname
  cases hp : b.property? name with
  | none =>
    rw [answer, answer, get_of_none h.left hp, get_of_none h.right (hsame.trans hp)]
    rfl
  | some found =>
    obtain ⟨owner, p⟩ := found
    obtain ⟨slot, hstored, -, hlabel⟩ := hb.storedAt hp
    obtain ⟨atBase, hatBase, hgetBase⟩ := get_of_property hb h.left hp hstored.place
    obtain ⟨atDerived, hatDerived, hgetDerived⟩ :=
      get_of_property ht h.right (hsame.trans hp) hstored.place
    have hvalue : some atDerived = some atBase := by
      rw [← hatDerived, ← hatBase]
      exact h.slots slot name hlabel hname
    rw [answer, answer, hgetBase, hgetDerived, Option.some.inj hvalue]

/-- A field that is not hidden reads the same. -/
theorem Agrees.field_eq (hb : b.Formed) (hretains : t.Retains b hidden)
    (h : Agrees b t hidden i j) {name : String} (hname : name ∉ hidden) :
    (j.answer (.field name)).unowned = (i.answer (.field name)).unowned := by
  have hsame := hretains.field name hname
  rw [answer, answer, field, field, h.left.1, h.right.1, hsame]
  cases hf : b.field? name with
  | none => rfl
  | some f =>
    have hvalue := h.slots f.slot name (hb.field_slot hf).2 hname
    simp only [hvalue]

/-- A call on a member that is not hidden is answered alike by both instances, which agree after it
if they agreed before it. -/
theorem Agrees.next_both (hb : b.Formed) (ht : t.Formed) (hretains : t.Retains b hidden)
    (h : Agrees b t hidden i j) {call : Call} (hcall : call.member ∉ hidden) :
    (j.answer call).unowned = (i.answer call).unowned ∧
      Agrees b t hidden (i.next call) (j.next call) := by
  cases call with
  | get name => exact ⟨h.get_eq hb ht hretains hcall, h⟩
  | field name => exact ⟨h.field_eq hb hretains hcall, h⟩
  | set name value =>
    have hpaired := h.paired_set hb ht hretains hcall value
    exact ⟨hpaired.answer_eq, hpaired.agrees hretains h⟩
  | setMember name value =>
    have hpaired := h.paired_setMember hb ht hretains hcall value
    exact ⟨hpaired.answer_eq, hpaired.agrees hretains h⟩

/-- Whatever calls on hidden members a session contains, it shows of the others what a session
without the hidden calls shows on an instance that agrees. -/
theorem Agrees.shown_transcript (hb : b.Formed) (ht : t.Formed) (hretains : t.Retains b hidden)
    (h : Agrees b t hidden i j) (calls : List Call) :
    shown hidden (j.transcript calls) =
      (i.transcript (calls.filter (·.member ∉ hidden))).map fun entry =>
        (entry.1, entry.2.unowned) := by
  induction calls generalizing i j with
  | nil => rfl
  | cons call rest ih =>
    by_cases hcall : call.member ∈ hidden
    · have hrest := ih (h.next_hidden ht hretains hcall)
      simpa [shown, transcript, hcall] using hrest
    · obtain ⟨hanswer, hnext⟩ := h.next_both hb ht hretains hcall
      have hrest := ih hnext
      simp only [shown, transcript, List.filter_cons, hcall, not_false_eq_true, decide_true,
        ite_true, List.map_cons, hanswer] at hrest ⊢
      rw [hrest]

/-- Two sessions that make the same calls on members that are not hidden show the same of them,
whatever calls on hidden members each of them makes in between. -/
theorem Agrees.shown_eq (hb : b.Formed) (ht : t.Formed) (hretains : t.Retains b hidden)
    (h : Agrees b t hidden i j) {left right : List Call}
    (hcalls : right.filter (·.member ∉ hidden) = left.filter (·.member ∉ hidden)) :
    shown hidden (j.transcript right) = shown hidden (i.transcript left) := by
  -- The shorter instance agrees with itself, which takes the hidden calls out of its own session.
  have hself : Agrees b b hidden i i := ⟨h.left, h.left, fun _ _ _ _ => rfl⟩
  rw [h.shown_transcript hb ht hretains, hcalls, hself.shown_transcript hb hb (.refl b hidden)]

end Instance

end ClassSynthesis
