import ClassSynthesis.Proofs.Class.Lineage
import ClassSynthesis.Proofs.Instance.Typing

/-!
# Code that may only read

Getters run with read access, all other code with full access. Both are compared here for code of
any shape. Up to the first write that a body comes to, it has done nothing but load, so it does the
same with either access and leaves its receiver alone. A write that lacks only access is refused;
one that lacks its value, its constructor or its arguments fails for that reason, with either
access. So a body with read access does what it does with full access, which then changes nothing,
or it ends at a write, with an error that says so.
-/

namespace ClassSynthesis

/-- The error says that code in this context may not write its receiver. -/
def Error.IsReadOnly (context : String) (e : Error) : Prop :=
  e = .invalidCode context "store through a read-only receiver" ∨
    e = .invalidCode context "base call through a read-only receiver"

/-- The two texts about access end in the same letter, and all others in a different one. -/
theorem Error.not_isReadOnly {context reason : String} (h : reason.toList.getLast? ≠ some 'r') :
    ¬ (invalidCode context reason).IsReadOnly context := by
  rintro (heq | heq)
  · obtain ⟨-, rfl⟩ := Error.invalidCode.inj heq
    exact h (by decide)
  · obtain ⟨-, rfl⟩ := Error.invalidCode.inj heq
    exact h (by decide)

namespace Instr

/-- The value that the instruction pushes, if it loads an argument or a slot that is there. -/
def loaded? (arguments : List Value) (i : Instance) : Instr → Option Value
  | loadArg index => arguments[index]?
  | loadSlot index => i.slot? index
  | storeSlot _ | callBase _ _ | ret => none

/-- As code of the class and from this stack, the instruction is a write that lacks nothing but
access: a store that has a value, or a base call that has its constructor and its arguments. -/
def WritesFrom (c : Class) (stack : List Value) : Instr → Prop
  | storeSlot _ => stack ≠ []
  | callBase target count =>
    ∃ parent k, c.parent = some parent ∧ parent.constructors[target]? = some k ∧
      count ≤ stack.length
  | loadArg _ | loadSlot _ | ret => False

/-- A load is no write. -/
theorem not_writesFrom_of_loaded {arguments : List Value} {i : Instance} {instr : Instr}
    {value : Value} (h : instr.loaded? arguments i = some value) (c : Class)
    (stack : List Value) : ¬ instr.WritesFrom c stack := by
  cases instr with
  | loadArg index => exact id
  | loadSlot index => exact id
  | storeSlot index => cases h
  | callBase target count => cases h
  | ret => exact id

end Instr

/-- As code of the class and from this stack, the code comes to a write: loads that go well are all
that stands before it. -/
inductive Code.ComesToWrite (c : Class) (arguments : List Value) (i : Instance) :
    Code → List Value → Prop
  /-- The write stands first. -/
  | here {instr : Instr} {code : Code} {stack : List Value} (h : instr.WritesFrom c stack) :
    ComesToWrite c arguments i (instr :: code) stack
  /-- The write comes after a load. -/
  | later {instr : Instr} {code : Code} {stack : List Value} {value : Value}
    (hload : instr.loaded? arguments i = some value)
    (h : ComesToWrite c arguments i code (value :: stack)) :
    ComesToWrite c arguments i (instr :: code) stack

namespace Code

variable {c : Class} {arguments : List Value} {i : Instance} {instr : Instr} {code : Code}
  {stack : List Value}

theorem not_comesToWrite_nil : ¬ ComesToWrite c arguments i [] stack := by
  rintro ⟨⟩

/-- After a load the rest of the code decides. -/
theorem comesToWrite_of_loaded {value : Value} (hload : instr.loaded? arguments i = some value) :
    ComesToWrite c arguments i (instr :: code) stack ↔
      ComesToWrite c arguments i code (value :: stack) := by
  constructor
  · intro h
    cases h with
    | here h => exact absurd h (Instr.not_writesFrom_of_loaded hload c stack)
    | later hother h =>
      obtain rfl := Option.some.inj (hload.symm.trans hother)
      exact h
  · exact .later hload

/-- An instruction that does not load decides by itself. -/
theorem comesToWrite_of_not_loaded (hload : instr.loaded? arguments i = none) :
    ComesToWrite c arguments i (instr :: code) stack ↔ instr.WritesFrom c stack := by
  constructor
  · intro h
    cases h with
    | here h => exact h
    | later hother h =>
      rw [hload] at hother
      cases hother
  · exact .here

end Code

namespace Frame

variable {c : Class} {context : String} {arguments : List Value} {i : Instance} {instr : Instr}
  {stack : List Value}

/-- A load does the same with either access. -/
theorem step_of_loaded {value : Value} (h : instr.loaded? arguments i = some value)
    (access : Access) (parent : Option Parent) :
    (⟨context, access, arguments⟩ : Frame).step parent instr stack i =
      .ok (value :: stack) i := by
  cases instr with
  | loadArg index =>
    change arguments[index]? = some value at h
    simp only [step, h]
  | loadSlot index =>
    change i.slot? index = some value at h
    simp only [step, h]
  | storeSlot index => cases h
  | callBase target count => cases h
  | ret => cases h

/-- A write is refused with read access. -/
theorem step_of_writesFrom (h : instr.WritesFrom c stack) :
    ∃ e, e.IsReadOnly context ∧
      (⟨context, .shared, arguments⟩ : Frame).step c.above instr stack i = .error e i := by
  cases instr with
  | loadArg index => cases h
  | loadSlot index => cases h
  | storeSlot index =>
    cases stack with
    | nil => exact absurd rfl h
    | cons value rest => exact ⟨_, .inl rfl, rfl⟩
  | callBase target count =>
    obtain ⟨parent, k, hparent, hk, hcount⟩ := h
    refine ⟨_, .inr rfl, ?_⟩
    simp only [step, callBase, Class.above, hparent, Option.map_some, hk,
      if_neg (Nat.not_lt.mpr hcount)]
    rfl
  | ret => cases h

/-- A base call that lacks the parent, the constructor or an argument fails for that reason, with
either access: access is looked at last. -/
theorem callBase_of_not_writesFrom {target count : Nat}
    (h : ¬ (Instr.callBase target count).WritesFrom c stack) :
    ∃ e, ¬ e.IsReadOnly context ∧ ∀ access,
      (⟨context, access, arguments⟩ : Frame).callBase c.above target count stack i =
        .error e i := by
  unfold Class.above
  cases hparent : c.parent with
  | none => exact ⟨_, Error.not_isReadOnly (by decide), fun access => rfl⟩
  | some parent =>
    cases hk : parent.constructors[target]? with
    | none =>
      refine ⟨.invalidCode context s!"parent constructor {target} does not exist", ?_, ?_⟩
      · exact Error.not_isReadOnly (by simp [toString, List.getLast?_cons])
      · intro access
        simp only [callBase, Option.map_some, hk]
        rfl
    | some k =>
      have hshort : stack.length < count :=
        Nat.lt_of_not_le fun hcount => h ⟨parent, k, hparent, hk, hcount⟩
      refine ⟨.invalidCode context "stack underflow", Error.not_isReadOnly (by decide), ?_⟩
      intro access
      simp only [callBase, Option.map_some, hk, if_pos hshort]
      rfl

/-- An instruction that cannot be carried out, for a reason other than access, fails in the same way
with either access. -/
theorem step_of_not_writesFrom (hret : instr ≠ .ret) (hload : instr.loaded? arguments i = none)
    (hwrites : ¬ instr.WritesFrom c stack) :
    ∃ e, ¬ e.IsReadOnly context ∧ ∀ access,
      (⟨context, access, arguments⟩ : Frame).step c.above instr stack i = .error e i := by
  cases instr with
  | loadArg index =>
    change arguments[index]? = none at hload
    refine ⟨.invalidCode context s!"argument {index} out of range", ?_, ?_⟩
    · exact Error.not_isReadOnly (by simp [toString, List.getLast?_cons])
    · intro access
      simp only [step, hload]
      rfl
  | loadSlot index =>
    change i.slot? index = none at hload
    refine ⟨.invalidCode context s!"slot {index} out of range", ?_, ?_⟩
    · exact Error.not_isReadOnly (by simp [toString, List.getLast?_cons])
    · intro access
      simp only [step, hload]
      rfl
  | storeSlot index =>
    cases stack with
    | nil => exact ⟨_, Error.not_isReadOnly (by decide), fun access => rfl⟩
    | cons value rest => exact absurd (List.cons_ne_nil value rest) hwrites
  | callBase target count => exact callBase_of_not_writesFrom hwrites
  | ret => exact absurd rfl hret

end Frame

/-- How a body fares on an instance with read access, and with full access where that makes no
difference. -/
inductive Effect.Compared {α : Type} (context : String) (i : Instance) (writes : Prop)
    (body : Access → Effect α) : Prop
  /-- With either access it gives the same result and leaves the instance as it is. -/
  | succeeds (result : α) (hwrites : ¬ writes) (hrun : ∀ access, body access i = .ok result i)
  /-- With either access it fails in the same way and leaves the instance as it is. -/
  | fails (e : Error) (hwrites : ¬ writes) (hother : ¬ e.IsReadOnly context)
    (hrun : ∀ access, body access i = .error e i)
  /-- It comes to a write, and read access is not enough. -/
  | refused (e : Error) (hwrites : writes) (hreadOnly : e.IsReadOnly context)
    (hrun : body .shared i = .error e i)

namespace Effect

variable {α : Type} {context : String} {i : Instance} {writes : Prop} {body : Access → Effect α}

/-- Bodies that do the same on the instance fare alike. -/
theorem Compared.congr (h : Compared context i writes body) {writes' : Prop}
    {body' : Access → Effect α} (hwrites : writes' ↔ writes)
    (hbody : ∀ access, body' access i = body access i) : Compared context i writes' body' := by
  cases h with
  | succeeds result hno hrun =>
    exact .succeeds result (fun h => hno (hwrites.mp h)) fun access =>
      (hbody access).trans (hrun access)
  | fails e hno hother hrun =>
    exact .fails e (fun h => hno (hwrites.mp h)) hother fun access =>
      (hbody access).trans (hrun access)
  | refused e hyes hreadOnly hrun =>
    exact .refused e (hwrites.mpr hyes) hreadOnly ((hbody .shared).trans hrun)

/-- What succeeds with read access does the same with full access, and neither changes anything. -/
theorem Compared.of_ok (h : Compared context i writes body) {result : α} {left : Instance}
    (hok : body .shared i = .ok result left) : left = i ∧ body .exclusive i = .ok result i := by
  cases h with
  | succeeds result' _ hrun =>
    obtain ⟨rfl, rfl⟩ := EStateM.Result.ok.inj (hok.symm.trans (hrun .shared))
    exact ⟨rfl, hrun .exclusive⟩
  | fails e _ _ hrun => exact absurd (hok.symm.trans (hrun .shared)) (by simp)
  | refused e _ _ hrun => exact absurd (hok.symm.trans hrun) (by simp)

/-- What fails with read access changes nothing. The error tells whether the body came to a write,
and if it did not, it fails in the same way with full access. -/
theorem Compared.of_error (h : Compared context i writes body) {e : Error} {left : Instance}
    (herror : body .shared i = .error e left) :
    left = i ∧ (e.IsReadOnly context ↔ writes) ∧
      (¬ e.IsReadOnly context → body .exclusive i = .error e i) := by
  cases h with
  | succeeds result _ hrun => exact absurd (herror.symm.trans (hrun .shared)) (by simp)
  | fails e' hno hother hrun =>
    obtain ⟨rfl, rfl⟩ := EStateM.Result.error.inj (herror.symm.trans (hrun .shared))
    exact ⟨rfl, ⟨fun h => absurd h hother, fun h => absurd h hno⟩, fun _ => hrun .exclusive⟩
  | refused e' hyes hreadOnly hrun =>
    obtain ⟨rfl, rfl⟩ := EStateM.Result.error.inj (herror.symm.trans hrun)
    exact ⟨rfl, ⟨fun _ => hyes, fun _ => hreadOnly⟩, fun hother => absurd hreadOnly hother⟩

end Effect

/-- A body compared from any stack. Loads add to the stack and go on to the rest of the body, and
any other instruction decides how it fares. -/
theorem Frame.compared_run (c : Class) (context : String) (arguments : List Value) (i : Instance)
    (code : Code) (stack : List Value) :
    Effect.Compared context i (code.ComesToWrite c arguments i stack) fun access =>
      (⟨context, access, arguments⟩ : Frame).run c.above code stack := by
  induction code generalizing stack with
  | nil => exact .succeeds stack.head? Code.not_comesToWrite_nil fun access => rfl
  | cons instr code ih =>
    by_cases hret : instr = .ret
    · subst hret
      have hno : ¬ Code.ComesToWrite c arguments i (.ret :: code) stack := fun h =>
        (Code.comesToWrite_of_not_loaded rfl).mp h
      exact .succeeds stack.head? hno fun access => rfl
    cases hload : instr.loaded? arguments i with
    | some value =>
      refine (ih (value :: stack)).congr (Code.comesToWrite_of_loaded hload) ?_
      intro access
      rw [run_cons hret, step_of_loaded hload]
    | none =>
      by_cases hwrites : instr.WritesFrom c stack
      · obtain ⟨e, hreadOnly, hstep⟩ := step_of_writesFrom hwrites
        refine .refused e (.here hwrites) hreadOnly ?_
        rw [run_cons hret, hstep]
      · obtain ⟨e, hother, hstep⟩ := step_of_not_writesFrom hret hload hwrites
        refine .fails e (fun h => hwrites ((Code.comesToWrite_of_not_loaded hload).mp h)) hother ?_
        intro access
        rw [run_cons hret, hstep]

/-- Code of any class, compared from the empty stack that it starts with. -/
theorem compared_execute (c : Class) (context : String) (arguments : List Value) (i : Instance)
    (code : Code) :
    Effect.Compared context i (code.ComesToWrite c arguments i []) fun access =>
      execute c.ancestors ⟨context, access, arguments⟩ code := by
  simp only [Class.execute_eq]
  exact Frame.compared_run c context arguments i code []

/-- To read a property is to run its getter with read access. -/
theorem Instance.get_of_getter {i : Instance} {name : String} {owner : Class} {getter : Method}
    (h : i.getter? name = some (owner, getter)) :
    i.get name =
      ((runAccessor owner getter .shared []).outcome i).map fun result => result.getD .null := by
  rw [get, h]

/--
Read access is full access without the writes. Take code of any shape as code of any class, any
arguments, and any instance as the receiver. What succeeds with read access gives the same result
with full access, and leaves the instance as it is. What fails with read access fails with the same
error under full access, and leaves the instance as it is, unless the error is one of the two that
say that the receiver is read-only; and it is one of these if and only if the code comes to a write.
So reading a property is refused where its getter comes to a write. Where it comes to none, the
answer is what the getter gives with full access, which then changes nothing.
-/
theorem reading_restricts_writing (i : Instance) :
    (∀ (c : Class) (context : String) (arguments : List Value) (code : Code),
      let body access := execute c.ancestors ⟨context, access, arguments⟩ code
      (∀ result left, body .shared i = .ok result left →
        left = i ∧ body .exclusive i = .ok result i) ∧
      ∀ e left, body .shared i = .error e left →
        left = i ∧ (e.IsReadOnly context ↔ code.ComesToWrite c arguments i []) ∧
          (¬ e.IsReadOnly context → body .exclusive i = .error e i)) ∧
    ∀ name owner getter, i.getter? name = some (owner, getter) →
      (getter.code.ComesToWrite owner [] i [] →
        ∃ e, e.IsReadOnly (methodContext owner.name getter.name) ∧ i.get name = .error e) ∧
      (¬ getter.code.ComesToWrite owner [] i [] →
        let body := Instance.runAccessor owner getter .exclusive []
        body.left i = i ∧ i.get name = (body.outcome i).map fun result => result.getD .null) := by
  refine ⟨fun c context arguments code => ?_, fun name owner getter hgetter => ?_⟩
  · have hcompared := compared_execute c context arguments i code
    exact ⟨fun result left => hcompared.of_ok, fun e left => hcompared.of_error⟩
  · rw [Instance.get_of_getter hgetter]
    unfold Effect.left Effect.outcome Instance.runAccessor
    cases compared_execute owner (methodContext owner.name getter.name) [] i getter.code with
    | succeeds result hno hrun =>
      refine ⟨fun hyes => absurd hyes hno, fun _ => ?_⟩
      simp only [hrun, and_self]
    | fails e hno hother hrun =>
      refine ⟨fun hyes => absurd hyes hno, fun _ => ?_⟩
      simp only [hrun, and_self]
    | refused e hyes hreadOnly hrun =>
      refine ⟨fun _ => ⟨e, hreadOnly, ?_⟩, fun hno => absurd hyes hno⟩
      simp only [hrun]
      rfl

/-- A class with a getter that has a store after its return, one that lacks an argument of its base
call, and one whose base call lacks nothing. -/
def odometer : Class where
  own :=
    { Instance.unrulyBase with
      key := ⟨0, 1⟩
      name := "Odometer"
      properties :=
        [⟨"Count", .int, some 0, none, some 0, []⟩, ⟨"Trip", .int, some 1, none, none, []⟩,
          ⟨"Reset", .int, some 2, none, none, []⟩]
      methods :=
        [⟨"get_Count", [], some .int, [.loadSlot 0, .ret, .storeSlot 1]⟩,
          ⟨"get_Trip", [], some .int, [.loadSlot 0, .callBase 0 2]⟩,
          ⟨"get_Reset", [], some .int, [.loadSlot 0, .callBase 0 1]⟩]
      constructors := [] }
  ancestors := [Instance.unrulyBase]

/-- The first getter never comes to its store and the second fails before its base call, so with full
access both do the same and change nothing. The third comes to its base call and is refused. -/
theorem reading_restricts_writing_odometer :
    execute odometer.ancestors ⟨"Odometer::get_Count", .exclusive, []⟩
        [.loadSlot 0, .ret, .storeSlot 1] (.blank odometer) =
      .ok (some (.int 0)) (.blank odometer) ∧
    execute odometer.ancestors ⟨"Odometer::get_Trip", .exclusive, []⟩
        [.loadSlot 0, .callBase 0 2] (.blank odometer) =
      .error (.invalidCode "Odometer::get_Trip" "stack underflow") (.blank odometer) ∧
    (∃ e, e.IsReadOnly "Odometer::get_Reset" ∧
      (Instance.blank odometer).get "Reset" = .error e) ∧
    (Instance.blank odometer).get "Count" =
      ((Instance.runAccessor odometer
        ⟨"get_Count", [], some .int, [.loadSlot 0, .ret, .storeSlot 1]⟩ .exclusive []).outcome
          (.blank odometer)).map fun result => result.getD .null := by
  obtain ⟨hcode, hproperty⟩ := reading_restricts_writing (.blank odometer)
  have hcount := (hcode odometer "Odometer::get_Count" [] [.loadSlot 0, .ret, .storeSlot 1]).1
    (some (.int 0)) (.blank odometer) rfl
  have htrip := (hcode odometer "Odometer::get_Trip" [] [.loadSlot 0, .callBase 0 2]).2
    (.invalidCode "Odometer::get_Trip" "stack underflow") (.blank odometer) rfl
  have hreset : Code.ComesToWrite odometer [] (.blank odometer) [.loadSlot 0, .callBase 0 1] [] :=
    .later rfl (.here ⟨⟨Instance.unrulyBase, []⟩, _, rfl, rfl, Nat.le_refl 1⟩)
  have hquiet : ¬ Code.ComesToWrite odometer [] (.blank odometer)
      [.loadSlot 0, .ret, .storeSlot 1] [] := by
    rw [Code.comesToWrite_of_loaded rfl, Code.comesToWrite_of_not_loaded rfl]
    exact id
  exact ⟨hcount.2, htrip.2.2 (Error.not_isReadOnly (by decide)),
    (hproperty "Reset" odometer _ rfl).1 hreset, ((hproperty "Count" odometer _ rfl).2 hquiet).2⟩

end ClassSynthesis
