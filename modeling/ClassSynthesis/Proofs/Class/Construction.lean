import ClassSynthesis.Proofs.Class.Safety
import ClassSynthesis.Proofs.Code.Assignments

/-!
# What construction comes to

Behind each constructor of a class that can come about is a declared one, with assignments of
arguments to slots: the constructor itself, or the one at the bottom of a chain of constructors
that only pass their arguments on. To construct an instance is to make these assignments on initial
values. All the other code that runs along the way belongs to constructors without parameters, which
have nothing to assign and so change nothing.
-/

namespace ClassSynthesis

namespace Class

/-- The assignments, each of an argument to a slot, of the declared constructor that is behind a
constructor of a class. -/
inductive Assigns : Class → Nat → List (Nat × Nat) → Prop
  /-- The constructor is declared: its assignments are those of the declaration. -/
  | declared {d : Declaration} {r left : Registry} {c : Class}
      (h : Registry.declare d r = .ok c left) {target : Nat} {k : ConstructorDecl}
      (hk : d.constructors[target]? = some k) {assignments : List (Nat × Nat)}
      (hassigned : k.assignments.mapM (fun (parameter, member) =>
        k.compileAssignment c parameter member) = .ok assignments) :
    Assigns c target assignments
  /-- The constructor of a built class passes its arguments on to the one of the base. -/
  | forwarded {base c : Class} (h : c.BuiltOn (some base)) {target : Nat}
      {assignments : List (Nat × Nat)} (hbase : Assigns base target assignments) :
    Assigns c target assignments

/-- A constructor makes assignments, which are within its parameters and within the layout. -/
structure Runs (c : Class) (k : Constructor) (assignments : List (Nat × Nat)) : Prop where
  /-- The arguments are there. -/
  arguments : ∀ argument slot, (argument, slot) ∈ assignments → argument < k.parameters.length
  /-- The slots are there. -/
  slots : ∀ argument slot, (argument, slot) ∈ assignments → slot < c.slots.length
  /-- The body does nothing else. -/
  effect : ∀ arguments, arguments.length = k.parameters.length →
    (runConstructor c.own c.ancestors k arguments).ignored =
      Instance.assign arguments assignments

/-- A constructor without parameters has nothing to assign. -/
theorem Runs.idle {c : Class} {k : Constructor} {assignments : List (Nat × Nat)}
    (h : c.Runs k assignments) (hnone : k.parameters = []) :
    (runConstructor c.own c.ancestors k []).ignored = fun i => .ok () i := by
  have hassignments : assignments = [] := by
    refine List.eq_nil_iff_forall_not_mem.mpr ?_
    rintro ⟨argument, slot⟩ hmem
    have hlt := h.arguments argument slot hmem
    simp [hnone] at hlt
  rw [h.effect [] (by simp [hnone]), hassignments]
  rfl

/-- Constructors are compiled in the same way before and after a class has its constructors. -/
theorem compile_constructors (k : ConstructorDecl) (c : Class) (base : Option Nat)
    (constructors : List Constructor) :
    k.compile (c.mapOwn fun layer => { layer with constructors }) base = k.compile c base := by
  have hassignment : k.compileAssignment (c.mapOwn fun layer => { layer with constructors }) =
      k.compileAssignment c := by
    funext parameter member
    unfold ConstructorDecl.compileAssignment assignedSlot?
    rw [parent_mapOwn]
    rfl
  unfold ConstructorDecl.compile
  rw [hassignment]
  rfl

/-- The constructors of a declared class are those of the declaration, compiled for the class. -/
theorem constructors_of_declare {d : Declaration} {r left : Registry} {c : Class}
    (h : Registry.declare d r = .ok c left) :
    ∃ base, d.baseConstructor = .ok base ∧ ∀ target : Nat,
      (d.constructors[target]?).map (fun k => k.compile c base) =
        (c.constructors[target]?).map .ok := by
  obtain ⟨key, container, hc⟩ := Registry.declare_eq_ok h
  obtain ⟨base, constructors, hbase, hconstructors, rfl⟩ := Declaration.compile_eq_ok hc
  refine ⟨base, hbase, ?_⟩
  intro target
  simp only [compile_constructors]
  exact map_getElem?_of_mapM_eq_ok hconstructors target

/-- A compiled constructor makes the compiled assignments, if the constructor of the parent that it
runs first leaves every instance as it is. -/
theorem runs_of_compile {c : Class} (hc : c.Sound) {base : Option Nat}
    (hbase : ∀ target, base = some target → ∃ parent k, c.parent = some parent ∧
      parent.constructors[target]? = some k ∧
      (runConstructor parent.own parent.ancestors k []).ignored = fun i => .ok () i)
    {declared : ConstructorDecl} {k : Constructor} (h : declared.compile c base = .ok k) :
    ∃ assignments, declared.assignments.mapM (fun (parameter, member) =>
        declared.compileAssignment c parameter member) = .ok assignments ∧
      c.Runs k assignments := by
  obtain ⟨assignments, hassignments, hlength, hcode⟩ := ConstructorDecl.compile_eq_ok h
  have hbounds : ∀ argument slot, (argument, slot) ∈ assignments →
      argument < declared.parameters.length ∧ slot < c.slots.length := by
    intro argument slot hmem
    obtain ⟨⟨parameter, member⟩, -, hcompiled⟩ := exists_of_mapM_eq_ok hassignments hmem
    exact ConstructorDecl.compileAssignment_lt hc.own.layout
      (fun parent hparent => (hc.parent hparent).formed) hcompiled
  refine ⟨assignments, hassignments, ?_, fun a s hmem => (hbounds a s hmem).2, ?_⟩
  · intro argument slot hmem
    rw [hlength]
    exact (hbounds argument slot hmem).1
  · intro arguments harguments
    rw [runConstructor, hcode]
    refine ignored_execute_storing hbase ?_
    intro argument slot hmem
    rw [harguments, hlength]
    exact (hbounds argument slot hmem).1

/-- Under each number a declared class has a constructor if one is declared, and that constructor
makes the declared assignments, if the constructors without parameters of the parent leave every
instance as it is. -/
theorem runs_of_declare {d : Declaration} {r left : Registry} {c : Class} (hc : c.Sound)
    (h : Registry.declare d r = .ok c left)
    (hidle : ∀ parent, c.parent = some parent → ∀ k ∈ parent.constructors, k.parameters = [] →
      (runConstructor parent.own parent.ancestors k []).ignored = fun i => .ok () i)
    (target : Nat) :
    (c.constructors[target]?).isSome = (d.constructors[target]?).isSome ∧
      ∀ declared k, d.constructors[target]? = some declared → c.constructors[target]? = some k →
        ∃ assignments, declared.assignments.mapM (fun (parameter, member) =>
            declared.compileAssignment c parameter member) = .ok assignments ∧
          c.Runs k assignments := by
  obtain ⟨base, hbase, hconstructors⟩ := constructors_of_declare h
  have hcompiled := hconstructors target
  constructor
  · have hsome := congrArg Option.isSome hcompiled
    rw [Option.isSome_map, Option.isSome_map] at hsome
    exact hsome.symm
  · intro declared k hdeclared hk
    rw [hdeclared, hk] at hcompiled
    refine runs_of_compile hc ?_ (Option.some.inj hcompiled)
    rintro index rfl
    obtain ⟨parent, other, hp, hother, hnone⟩ := Declaration.exists_of_baseConstructor hbase
    rw [← parent_of_declare h] at hp
    exact ⟨parent, other, hp, hother, hidle parent hp other (List.mem_of_getElem? hother) hnone⟩

/-- A constructor that passes on makes the assignments of the constructor of the base. -/
theorem BuiltOn.runs {base c : Class} (h : c.BuiltOn (some base)) (hc : c.Sound) {target : Nat}
    {k : Constructor} (hk : base.constructors[target]? = some k) {assignments : List (Nat × Nat)}
    (hruns : base.Runs k assignments) :
    c.Runs ⟨k.parameters, Code.forwarding target k.parameters.length⟩ assignments where
  arguments := hruns.arguments
  slots := by
    intro argument slot hmem
    have hle := (hc.formed.slots_of_mem
      (mem_lineage_of_parent h.parent_eq (mem_lineage_self base))).length_le
    exact Nat.lt_of_lt_of_le (hruns.slots argument slot hmem) hle
  effect := by
    intro arguments hlength
    rw [← hruns.effect arguments hlength, runConstructor, ← hlength]
    funext i
    unfold Effect.ignored
    rw [execute_forwarding h.parent_eq hk]
    cases runConstructor base.own base.ancestors k arguments i <;> rfl

namespace Made

variable {c : Class}

/-- The parent of a class that came about did so before it. -/
theorem parent (h : c.Made) {parent : Class} (hparent : c.parent = some parent) :
    parent.Made := by
  cases h with
  | declared hmade h => exact hmade parent (parent_of_declare h ▸ hparent)
  | built hmade h => exact hmade parent (h.parent_eq ▸ hparent)

/-- All ancestors of a class that came about did so too. -/
theorem of_mem (h : c.Made) {d : Class} (hd : d ∈ c.lineage) : d.Made := by
  induction c using parentInduction with
  | root c hroot =>
    rw [lineage_of_root hroot, List.mem_singleton] at hd
    exact hd ▸ h
  | derived c parent hparent ih =>
    rw [lineage_of_parent hparent, List.mem_cons] at hd
    rcases hd with rfl | hd
    · exact h
    · exact ih (h.parent hparent) hd

/-- Behind every constructor are assignments, and it makes them. -/
theorem exists_runs (h : c.Made) {target : Nat} {k : Constructor}
    (hk : c.constructors[target]? = some k) :
    ∃ assignments, c.Assigns target assignments ∧ c.Runs k assignments := by
  have hsound := h.sound
  induction h generalizing target k with
  | @declared d r left c hparent h ih =>
    have hidle : ∀ parent, c.parent = some parent → ∀ k ∈ parent.constructors,
        k.parameters = [] →
          (runConstructor parent.own parent.ancestors k []).ignored = fun i => .ok () i := by
      intro parent hp other hother hnone
      rw [parent_of_declare h] at hp
      obtain ⟨index, hindex⟩ := List.getElem?_of_mem hother
      obtain ⟨assignments, -, hruns⟩ := ih parent hp hindex (hparent parent hp).sound
      exact hruns.idle hnone
    obtain ⟨hsome, hdeclares⟩ := runs_of_declare hsound h hidle target
    rw [hk, Option.isSome_some] at hsome
    obtain ⟨declared, hdeclared⟩ := Option.isSome_iff_exists.mp hsome.symm
    obtain ⟨assignments, hassigned, hruns⟩ := hdeclares declared k hdeclared hk
    exact ⟨assignments, .declared h hdeclared hassigned, hruns⟩
  | @built base c hbase h ih =>
    cases base with
    | none =>
      rw [h.constructors_of_none] at hk
      cases hk
    | some b =>
      rw [h.getElem?_constructors, Option.map_eq_some_iff] at hk
      obtain ⟨other, hother, rfl⟩ := hk
      obtain ⟨assignments, hassigns, hruns⟩ := ih b rfl hother (hbase b rfl).sound
      exact ⟨assignments, .forwarded h hassigns, h.runs hsound hother hruns⟩

/-- A constructor without parameters leaves every instance as it is. -/
theorem idle (h : c.Made) {k : Constructor} (hk : k ∈ c.constructors) (hnone : k.parameters = []) :
    (runConstructor c.own c.ancestors k []).ignored = fun i => .ok () i := by
  obtain ⟨target, htarget⟩ := List.getElem?_of_mem hk
  obtain ⟨assignments, -, hruns⟩ := h.exists_runs htarget
  exact hruns.idle hnone

/-- Whichever way down is taken, the assignments that are found are those that are made. -/
theorem runs_of_assigns (h : c.Made) {target : Nat} {assignments : List (Nat × Nat)}
    (hassigns : c.Assigns target assignments) :
    ∃ k, c.constructors[target]? = some k ∧ c.Runs k assignments := by
  induction hassigns with
  | @declared d r left c hc target declared hdeclared assignments hassigned =>
    have hidle := fun parent (hp : c.parent = some parent) k hk => (h.parent hp).idle (k := k) hk
    obtain ⟨hsome, hdeclares⟩ := runs_of_declare h.sound hc hidle target
    rw [hdeclared, Option.isSome_some] at hsome
    obtain ⟨k, hk⟩ := Option.isSome_iff_exists.mp hsome
    obtain ⟨others, hothers, hruns⟩ := hdeclares declared k hdeclared hk
    obtain rfl : others = assignments := Except.ok.inj (hothers.symm.trans hassigned)
    exact ⟨k, hk, hruns⟩
  | @forwarded base c hc target assignments hbase ih =>
    obtain ⟨k, hk, hruns⟩ := ih (h.parent hc.parent_eq)
    refine ⟨_, ?_, hc.runs h.sound hk hruns⟩
    rw [hc.getElem?_constructors, hk, Option.map_some]

/-- The implicit constructor of a class leaves every instance as it is: the nearest ancestor with
constructors has one without parameters, which has nothing to assign. -/
theorem runImplicit_eq (h : c.Made) (hnone : c.constructors = []) :
    runImplicit c.ancestors = fun i => .ok () i := by
  induction c using parentInduction with
  | root c hroot =>
    funext i
    exact runImplicit_of_root hroot i
  | derived c parent hparent ih =>
    rw [runImplicit_of_parent hparent]
    by_cases hempty : parent.constructors = []
    · rw [runImplicit_layers_of_isEmpty (List.isEmpty_iff.mpr hempty)]
      exact ih (h.parent hparent) hempty
    · have hchained := (h.sound.own.implicit hnone parent hparent).resolve_left hempty
      obtain ⟨k, hk, hparameters⟩ := hchained
      rw [layers, runImplicit, if_neg (by simpa using hempty)]
      cases hfound : parent.constructors.find? (·.parameters.isEmpty) with
      | none =>
        have hnot := List.find?_eq_none.mp hfound k hk
        simp [hparameters] at hnot
      | some found =>
        have hparameters := List.find?_some hfound
        exact (h.parent hparent).idle (List.mem_of_find?_eq_some hfound)
          (List.isEmpty_iff.mp hparameters)

/-- A constructor that accepts the arguments makes the assignments that are behind it, on initial
values. -/
theorem construct_eq (h : c.Made) {target : Nat} {assignments : List (Nat × Nat)}
    (hassigns : c.Assigns target assignments) {k : Constructor}
    (hk : c.constructors[target]? = some k) {arguments : List Value}
    (haccepts : k.accepts arguments) :
    Instance.construct c target arguments = match c.misfit? arguments assignments with
      | none => .ok ⟨c, overwritten arguments assignments (c.slots.map (·.ty.initial))⟩
      | some e => .error e := by
  obtain ⟨other, hother, hruns⟩ := h.runs_of_assigns hassigns
  obtain rfl : other = k := Option.some.inj (hother.symm.trans hk)
  have hlength := Constructor.length_of_accepts haccepts
  have hafter := Instance.after_assign (Instance.isOf_blank c) hruns.slots arguments
  have hignored (effect : Effect (Option Value)) (i : Instance) :
      effect.after i = effect.ignored.after i := by
    unfold Effect.after Effect.ignored
    cases effect i <;> rfl
  unfold Instance.construct
  rw [hk]
  simp only [haccepts, ite_true]
  rw [hignored, hruns.effect arguments hlength, hafter]
  rfl

/-- Without constructors an instance begins with initial values, and that is all. -/
theorem create_nil (h : c.Made) (hnone : c.constructors = []) :
    Instance.create c [] = .ok ⟨c, c.slots.map (·.ty.initial)⟩ := by
  have hisEmpty : c.constructors.isEmpty = true := List.isEmpty_iff.mpr hnone
  rw [Instance.create, if_pos hisEmpty, if_pos List.isEmpty_nil, h.runImplicit_eq hnone]
  rfl

/-- The first constructor that accepts the arguments is called. -/
theorem create_of_accepted (h : c.Made) {arguments : List Value} {target : Nat}
    (htarget : c.constructors.findIdx? (·.accepts arguments) = some target)
    {assignments : List (Nat × Nat)} (hassigns : c.Assigns target assignments) :
    (∀ argument slot, (argument, slot) ∈ assignments →
      argument < arguments.length ∧ slot < c.slotCount) ∧
    Instance.create c arguments = match c.misfit? arguments assignments with
      | none => .ok ⟨c, overwritten arguments assignments (c.slots.map (·.ty.initial))⟩
      | some e => .error e := by
  obtain ⟨hlt, haccepts, -⟩ := List.findIdx?_eq_some_iff_getElem.mp htarget
  have hk : c.constructors[target]? = some c.constructors[target] := List.getElem?_eq_getElem hlt
  have hsome : c.constructors ≠ [] := List.ne_nil_of_length_pos (Nat.zero_lt_of_lt hlt)
  obtain ⟨other, hother, hruns⟩ := h.runs_of_assigns hassigns
  obtain rfl : other = c.constructors[target] := Option.some.inj (hother.symm.trans hk)
  constructor
  · intro argument slot hmem
    rw [Constructor.length_of_accepts haccepts]
    exact ⟨hruns.arguments argument slot hmem, hruns.slots argument slot hmem⟩
  · rw [Instance.create, if_neg (by simpa using hsome), htarget]
    exact h.construct_eq hassigns hk haccepts

/-- A constructor without parameters, of the class or of an ancestor, leaves every instance as it
is. -/
theorem runConstructor_idle (h : c.Made) {d : Class} (hd : d ∈ c.lineage) {k : Constructor}
    (hk : k ∈ d.constructors) (hnone : k.parameters = []) (i : Instance) :
    ∃ result, runConstructor d.own d.ancestors k [] i = .ok result i := by
  have hidle := congrFun ((h.of_mem hd).idle hk hnone) i
  unfold Effect.ignored at hidle
  cases hrun : runConstructor d.own d.ancestors k [] i with
  | error e left => simp [hrun] at hidle
  | ok result left =>
    obtain rfl : left = i := by simpa [hrun] using hidle
    exact ⟨result, rfl⟩

/-- To make an instance of a class that can come about has a closed form. Without constructors the
class takes no arguments, and its instances begin with initial values. With constructors it takes
the arguments that some constructor accepts; behind the first of these is a declared constructor
with assignments within the arguments and the layout, and the initial values are overwritten by
them, in order, unless some argument does not fit its slot: then the first such argument is the
error. Other arguments are refused in the name of the class, with the types that they have.
Constructors without parameters, here and on all ancestors, change nothing. -/
theorem create_eq (h : c.Made) (arguments : List Value) :
    (c.constructors = [] →
      Instance.create c [] = .ok ⟨c, c.slots.map (·.ty.initial)⟩ ∧
      (arguments ≠ [] → Instance.create c arguments =
        .error (.noConstructor c.name (arguments.map (·.typeName)) "args"))) ∧
    (c.constructors ≠ [] → (∀ k ∈ c.constructors, ¬ k.accepts arguments) →
      Instance.create c arguments =
        .error (.noConstructor c.name (arguments.map (·.typeName)) "args")) ∧
    (∀ target, c.constructors.findIdx? (·.accepts arguments) = some target →
      (∃ assignments, c.Assigns target assignments) ∧
      ∀ assignments, c.Assigns target assignments →
        (∀ argument slot, (argument, slot) ∈ assignments →
          argument < arguments.length ∧ slot < c.slotCount) ∧
        Instance.create c arguments = match c.misfit? arguments assignments with
          | none => .ok ⟨c, overwritten arguments assignments (c.slots.map (·.ty.initial))⟩
          | some e => .error e) ∧
    ∀ d ∈ c.lineage, ∀ k ∈ d.constructors, k.parameters = [] → ∀ i,
      ∃ result, runConstructor d.own d.ancestors k [] i = .ok result i := by
  refine ⟨?_, ?_, ?_, ?_⟩
  · intro hnone
    refine ⟨h.create_nil hnone, ?_⟩
    intro harguments
    rw [Instance.create, if_pos (List.isEmpty_iff.mpr hnone), if_neg (by simpa using harguments),
      noConstructor]
  · intro hsome hrefused
    have hnone : c.constructors.findIdx? (·.accepts arguments) = none := by
      rw [List.findIdx?_eq_none_iff]
      intro k hk
      simpa using hrefused k hk
    rw [Instance.create, if_neg (by simpa using hsome), hnone, noConstructor]
  · intro target htarget
    obtain ⟨hlt, -⟩ := List.findIdx?_eq_some_iff_getElem.mp htarget
    obtain ⟨assignments, hassigns, -⟩ := h.exists_runs (List.getElem?_eq_getElem hlt)
    exact ⟨⟨assignments, hassigns⟩, fun _ hassigns => h.create_of_accepted htarget hassigns⟩
  · intro d hd k hk hnone i
    exact h.runConstructor_idle hd hk hnone i

end Made

/-- A class with a constructor that takes anything for the number that it stores. -/
def gaugeDeclaration : Declaration where
  name := "Gauge"
  fields := [{ name := "level", ty := .int }, { name := "label", ty := .str }]
  constructors :=
    [{ parameters := [("label", .str), ("level", .any)]
       assignments := [("label", "label"), ("level", "level")] }]

/-- The class of this declaration. -/
def gauge : Class :=
  (gaugeDeclaration.members ⟨0, 0⟩ "DynamicAssembly").mapOwn fun layer =>
    { layer with
      constructors :=
        [⟨[⟨"label", .str, 0, []⟩, ⟨"level", .any, 1, []⟩],
          Code.storing none [(0, 1), (1, 0)]⟩] }

/-- A class without constructors. -/
def tagDeclaration : Declaration where
  name := "Tag"
  properties := [{ name := "Text", ty := .str }]

/-- The class of this declaration. -/
def tag : Class := tagDeclaration.members ⟨0, 0⟩ "DynamicAssembly"

/-- The car passes its arguments on to the vehicle, which stores them in front; a number alone suits
neither. The gauge takes a text for a number, and fails at its second assignment. The tag is made
without arguments or not at all. -/
theorem create_eq_car_gauge_tag :
    car.Made ∧ car.Assigns 0 [(0, 0), (1, 1)] ∧
      Instance.create car [.int 4, .str "Beetle"] = .ok ⟨car, [.int 4, .str "Beetle", .int 0]⟩ ∧
      Instance.create car [.int 4] = .error (.noConstructor "Car" ["Int64"] "args") ∧
    gauge.Made ∧ gauge.Assigns 0 [(0, 1), (1, 0)] ∧
      Instance.create gauge [.str "Oil", .str "low"] =
        .error (.typeMismatch "level" "Int64" "String") ∧
    tag.Made ∧ Instance.create tag [] = .ok ⟨tag, [.null]⟩ ∧
      Instance.create tag [.str "Oil", .null] =
        .error (.noConstructor "Tag" ["String", "Null"] "args") := by
  have hvehicle : Registry.declare vehicleDeclaration (.empty 0 {}) =
      .ok vehicle ((Registry.empty 0 {}).allocate.2.register vehicle) := rfl
  have hcar : car.Assigns 0 [(0, 0), (1, 1)] :=
    .forwarded builtOn_car (.declared hvehicle (List.getElem?_cons_zero) rfl)
  have hdeclared : Registry.declare gaugeDeclaration (.empty 0 {}) =
      .ok gauge ((Registry.empty 0 {}).allocate.2.register gauge) := rfl
  have hgauge : gauge.Assigns 0 [(0, 1), (1, 0)] :=
    .declared hdeclared (List.getElem?_cons_zero) rfl
  have hmadeGauge : gauge.Made := .declared (by rintro parent ⟨⟩) hdeclared
  have htag : Registry.declare tagDeclaration (.empty 0 {}) =
      .ok tag ((Registry.empty 0 {}).allocate.2.register tag) := rfl
  have hmadeTag : tag.Made := .declared (by rintro parent ⟨⟩) htag
  have hrefused : ∀ k ∈ car.constructors, ¬ k.accepts [.int 4] := by decide
  refine ⟨made_car, hcar, ?_, ?_, hmadeGauge, hgauge, ?_, hmadeTag, ?_, ?_⟩
  · exact (((made_car.create_eq _).2.2.1 0 rfl).2 _ hcar).2
  · exact (made_car.create_eq _).2.1 (by decide) hrefused
  · exact (((hmadeGauge.create_eq _).2.2.1 0 rfl).2 _ hgauge).2
  · exact ((hmadeTag.create_eq []).1 rfl).1
  · exact ((hmadeTag.create_eq _).1 rfl).2 (List.cons_ne_nil _ _)

end Class

end ClassSynthesis
