import ClassSynthesis.Proofs.Code.Assignments

/-!
# Storing bodies

A storing body is a sequential program: the base call that it begins with, if any, and then one
assignment after the other. Nothing is presumed here about its numbers or about the code above it.
If the base call goes wrong nothing else happens. After it the first assignment that cannot be made
decides the error, the assignments before it stay made, and those behind it are never tried.
-/

namespace ClassSynthesis

/-- The assignment, an argument and the slot that it goes to, can be made to instances of the class:
there are such an argument and such a slot, and the slot accepts the argument. -/
def Class.Fits (c : Class) (arguments : List Value) (assignment : Nat × Nat) : Prop :=
  ∃ value place, arguments[assignment.1]? = some value ∧ c.slots[assignment.2]? = some place ∧
    place.ty.accepts value

/-- Why the assignment cannot be made to instances of the class, if it cannot. The argument is
missed by the body, which the context names, the slot by the class. -/
def Class.offence? (c : Class) (context : String) (arguments : List Value)
    (assignment : Nat × Nat) : Option Error :=
  match arguments[assignment.1]? with
  | none => some (.invalidCode context s!"argument {assignment.1} out of range")
  | some value =>
    match c.slots[assignment.2]? with
    | none => some (.invalidCode c.name s!"slot {assignment.2} out of range")
    | some _ => c.mismatch? assignment.2 value

/-- The assignments that can be made are those with nothing against them. -/
theorem Class.offence?_eq_none_iff {c : Class} {context : String} {arguments : List Value}
    {assignment : Nat × Nat} :
    c.offence? context arguments assignment = none ↔ c.Fits arguments assignment := by
  unfold offence? Fits mismatch?
  cases hvalue : arguments[assignment.1]? with
  | none => simp
  | some value =>
    cases hplace : c.slots[assignment.2]? with
    | none => simp
    | some place => simp

namespace Instance

/-- One instance is what assignments leave of another: each slot that some of them name holds the
argument of the last of these, and every other slot is as it was. -/
structure Assigned (arguments : List Value) (assignments : List (Nat × Nat)) (i j : Instance) :
    Prop where
  /-- The class is the same. -/
  cls : j.cls = i.cls
  /-- The last assignment to a slot decides what it holds. -/
  named : ∀ before argument slot rest, assignments = before ++ (argument, slot) :: rest →
    (∀ assignment ∈ rest, assignment.2 ≠ slot) → j.slot? slot = arguments[argument]?
  /-- A slot without an assignment keeps its value. -/
  others : ∀ slot, (∀ assignment ∈ assignments, assignment.2 ≠ slot) → j.slot? slot = i.slot? slot

/-- Slots that are overwritten hold what they were assigned, if the assignments can be made. -/
theorem assigned_overwritten {i : Instance} (hi : i.slots.length = i.cls.slots.length)
    {arguments : List Value} {assignments : List (Nat × Nat)}
    (hfits : ∀ assignment ∈ assignments, i.cls.Fits arguments assignment) :
    Assigned arguments assignments i
      { i with slots := overwritten arguments assignments i.slots } where
  cls := rfl
  named := by
    rintro before argument slot rest rfl hlast
    obtain ⟨value, place, hvalue, hplace, -⟩ := hfits (argument, slot) (by simp)
    have hlt : slot < i.slots.length := hi ▸ (List.getElem?_eq_some_iff.mp hplace).1
    rw [slot?, getElem?_overwritten_last before (fun a s hmem => hlast (a, s) hmem) hlt,
      List.getD_eq_getElem?_getD, hvalue, Option.getD_some]
  others slot hother := getElem?_overwritten_of_ne (fun a s hmem => hother (a, s) hmem) i.slots

end Instance

namespace Frame

/-- One assignment, with any code behind it. -/
theorem run_assignment {frame : Frame} (haccess : frame.access = .exclusive)
    (parent : Option Parent) (assignment : Nat × Nat) (code : Code) (i : Instance) :
    frame.run parent (Code.assignment assignment.1 assignment.2 ++ code) [] i =
      match i.cls.offence? frame.context frame.arguments assignment with
      | none => frame.run parent code []
          { i with slots := overwritten frame.arguments [assignment] i.slots }
      | some e => .error e i := by
  obtain ⟨argument, slot⟩ := assignment
  rw [Code.assignment, List.cons_append, List.cons_append, List.nil_append, run_cons (by simp)]
  simp only [step, Class.offence?]
  cases hvalue : frame.arguments[argument]? with
  | none => rfl
  | some value =>
    simp only
    rw [run_cons (by simp)]
    simp only [step, storeTop, haccess, Instance.store, Instance.checkStore, Class.mismatch?]
    cases hplace : i.cls.slots[slot]? with
    | none => rfl
    | some place =>
      by_cases haccepts : place.ty.accepts value
      · simp [haccepts, overwritten, hvalue]
      · simp [haccepts]

/-- Assignments that can be made, with any code behind them. -/
theorem run_fitting {frame : Frame} (haccess : frame.access = .exclusive)
    (parent : Option Parent) {assignments : List (Nat × Nat)} {i : Instance}
    (hfits : ∀ assignment ∈ assignments, i.cls.Fits frame.arguments assignment) (code : Code) :
    frame.run parent
        (assignments.flatMap (fun (argument, slot) => Code.assignment argument slot) ++ code) [] i =
      frame.run parent code []
        { i with slots := overwritten frame.arguments assignments i.slots } := by
  induction assignments generalizing i with
  | nil => cases i; rfl
  | cons first rest ih =>
    have hfirst : i.cls.offence? frame.context frame.arguments first = none :=
      Class.offence?_eq_none_iff.mpr (hfits first List.mem_cons_self)
    rw [List.flatMap_cons, List.append_assoc, run_assignment haccess, hfirst]
    -- The store leaves the class as it is, so what fitted before it still fits.
    exact ih fun assignment hmem => hfits assignment (List.mem_cons_of_mem _ hmem)

end Frame

/-- A base call leaves an instance of the same class, with a value for each slot. -/
theorem Class.keeps_chained (c d : Class) (context : String) (base : Option Nat) :
    Effect.Keeps (Instance.IsOf d) (c.chained context base) := by
  intro i hi
  cases base with
  | none => exact hi
  | some target =>
    unfold Effect.left chained
    cases c.parent with
    | none => exact hi
    | some parent =>
      simp only
      cases parent.constructors[target]? with
      | none => exact hi
      | some k =>
        exact (keeps_execute (Instance.storeKeeps_isOf d) parent.ancestors _ k.code).ignored i hi

/-- A storing body whose base call succeeds, up to the first assignment that cannot be made. -/
theorem execute_storing_of_chained {c : Class} {base : Option Nat} {context : String}
    {i left : Instance} (hchained : c.chained context base i = .ok () left)
    (assignments : List (Nat × Nat)) (arguments : List Value) :
    (∀ assignment ∈ assignments, left.cls.Fits arguments assignment) ∧
        execute c.ancestors ⟨context, .exclusive, arguments⟩ (Code.storing base assignments) i =
          .ok none { left with slots := overwritten arguments assignments left.slots } ∨
      ∃ before first rest e, assignments = before ++ first :: rest ∧
        (∀ assignment ∈ before, left.cls.Fits arguments assignment) ∧
        left.cls.offence? context arguments first = some e ∧
        execute c.ancestors ⟨context, .exclusive, arguments⟩ (Code.storing base assignments) i =
          .error e { left with slots := overwritten arguments before left.slots } := by
  rw [Class.execute_eq, Code.storing, List.append_assoc, Frame.run_chaining rfl, hchained]
  simp only
  cases hoffence : assignments.findSome? (left.cls.offence? context arguments) with
  | none =>
    have hfits : ∀ assignment ∈ assignments, left.cls.Fits arguments assignment := by
      intro assignment hmem
      exact Class.offence?_eq_none_iff.mp (List.findSome?_eq_none_iff.mp hoffence assignment hmem)
    refine .inl ⟨hfits, ?_⟩
    rw [Frame.run_fitting rfl _ hfits]
    rfl
  | some e =>
    obtain ⟨before, first, rest, rfl, hfirst, hnone⟩ := List.findSome?_eq_some_iff.mp hoffence
    have hfits : ∀ assignment ∈ before, left.cls.Fits arguments assignment :=
      fun assignment hmem => Class.offence?_eq_none_iff.mp (hnone assignment hmem)
    refine .inr ⟨before, first, rest, e, rfl, hfits, hfirst, ?_⟩
    rw [List.flatMap_append, List.append_assoc, Frame.run_fitting rfl _ hfits, List.flatMap_cons,
      List.append_assoc, Frame.run_assignment rfl, hfirst]

/--
A storing body is a base call followed by assignments. Take any class that it is code of, any base
constructor with any code, any assignments, any arguments, and as the receiver, which constructors
may always write, an instance of any class with a value for each slot. Where the base call fails,
the body fails in the same way. After a base call that succeeds, the body succeeds if and only if
every assignment can be made. It then returns nothing, every slot that is assigned to holds the
argument of the last assignment to it, and all others are as the base call left them. Where it
fails, the error is that of the first assignment that cannot be made, and exactly those before it
have been made.
-/
theorem execute_storing (c : Class) (base : Option Nat) (assignments : List (Nat × Nat))
    (context : String) (arguments : List Value) {i : Instance}
    (hi : i.slots.length = i.cls.slots.length) :
    let body := execute c.ancestors ⟨context, .exclusive, arguments⟩
      (Code.storing base assignments)
    (∀ e left, c.chained context base i = .error e left → body i = .error e left) ∧
    ∀ left, c.chained context base i = .ok () left →
      ((∃ result after, body i = .ok result after) ↔
        ∀ assignment ∈ assignments, left.cls.Fits arguments assignment) ∧
      (∀ result after, body i = .ok result after →
        result = none ∧ left.Assigned arguments assignments after) ∧
      ∀ e after, body i = .error e after → ∃ before first rest,
        assignments = before ++ first :: rest ∧
        (∀ assignment ∈ before, left.cls.Fits arguments assignment) ∧
        left.cls.offence? context arguments first = some e ∧
        left.Assigned arguments before after := by
  intro body
  refine ⟨fun e left hfailed => ?_, fun left hchained => ?_⟩
  · change execute c.ancestors _ _ i = _
    rw [Class.execute_eq, Code.storing, List.append_assoc, Frame.run_chaining rfl, hfailed]
  have hleft : left.slots.length = left.cls.slots.length := by
    obtain ⟨hcls, hlength⟩ :=
      (c.keeps_chained i.cls context base).of_ok hchained ⟨rfl, hi⟩
    rw [hlength, hcls]
  obtain ⟨hfits, hrun⟩ | ⟨before, first, rest, e, rfl, hfits, hfirst, hrun⟩ :=
    execute_storing_of_chained hchained assignments arguments
  · refine ⟨⟨fun _ => hfits, fun _ => ⟨_, _, hrun⟩⟩, ?_, ?_⟩
    · intro result after hok
      obtain ⟨rfl, rfl⟩ := EStateM.Result.ok.inj (hrun.symm.trans hok)
      exact ⟨rfl, Instance.assigned_overwritten hleft hfits⟩
    · intro e after herror
      exact absurd (hrun.symm.trans herror) (by simp)
  · have hunfit : ¬ left.cls.Fits arguments first := by
      intro hfit
      rw [Class.offence?_eq_none_iff.mpr hfit] at hfirst
      cases hfirst
    refine ⟨⟨?_, fun hall => absurd (hall first (by simp)) hunfit⟩, ?_, ?_⟩
    · rintro ⟨result, after, hok⟩
      exact absurd (hrun.symm.trans hok) (by simp)
    · intro result after hok
      exact absurd (hrun.symm.trans hok) (by simp)
    · intro e' after herror
      obtain ⟨rfl, rfl⟩ := EStateM.Result.error.inj (hrun.symm.trans herror)
      exact ⟨before, first, rest, rfl, hfits, hfirst, Instance.assigned_overwritten hleft hfits⟩

/-- A layer whose constructor copies the first slot into the second. -/
def crateBase : Layer where
  key := ⟨0, 0⟩
  name := "Box"
  container := ""
  visibility := .external
  kind := .plain
  slots := [⟨"count", .int⟩, ⟨"copy", .any⟩]
  fields := []
  properties := []
  methods := []
  constructors := [⟨[], [.loadSlot 0, .storeSlot 1, .ret]⟩]
  attributes := []

/-- A class below it with one more slot. -/
def crate : Class where
  own :=
    { crateBase with
      key := ⟨0, 1⟩
      name := "Crate"
      slots := crateBase.slots ++ [⟨"note", .str⟩]
      constructors := [] }
  ancestors := [crateBase]

/-- In the first run the last assignment names a slot for the second time. In the second run the
third assignment is the first that cannot be made, so the one behind it is never looked at. -/
theorem execute_storing_crate :
    (Instance.blank crate).slots.length = (Instance.blank crate).cls.slots.length ∧
      crate.chained "Crate::.ctor" (some 0) (.blank crate) =
        .ok () ⟨crate, [.int 0, .int 0, .null]⟩ ∧
      Instance.Assigned [.int 1, .str "old", .int 5] [(0, 0), (1, 2), (2, 0)]
        ⟨crate, [.int 0, .int 0, .null]⟩ ⟨crate, [.int 5, .int 0, .str "old"]⟩ ∧
      ∃ before first rest, [(0, 0), (1, 2), (1, 0), (9, 9)] = before ++ first :: rest ∧
        (∀ assignment ∈ before, crate.Fits [.int 1, .str "old", .int 5] assignment) ∧
        crate.offence? "Crate::.ctor" [.int 1, .str "old", .int 5] first =
          some (.typeMismatch "count" "Int64" "String") ∧
        Instance.Assigned [.int 1, .str "old", .int 5] before
          ⟨crate, [.int 0, .int 0, .null]⟩ ⟨crate, [.int 1, .int 0, .str "old"]⟩ := by
  have hchained : crate.chained "Crate::.ctor" (some 0) (.blank crate) =
      .ok () ⟨crate, [.int 0, .int 0, .null]⟩ := rfl
  have hmade := (execute_storing crate (some 0) [(0, 0), (1, 2), (2, 0)] "Crate::.ctor"
    [.int 1, .str "old", .int 5] (Instance.length_slots_blank crate)).2 _ hchained
  have hstopped := (execute_storing crate (some 0) [(0, 0), (1, 2), (1, 0), (9, 9)] "Crate::.ctor"
    [.int 1, .str "old", .int 5] (Instance.length_slots_blank crate)).2 _ hchained
  exact ⟨rfl, hchained, (hmade.2.1 _ _ rfl).2, hstopped.2.2 _ _ rfl⟩

end ClassSynthesis
