import ClassSynthesis.Proofs.Builder.Calls
import ClassSynthesis.Proofs.Class.Declared
import ClassSynthesis.Proofs.Class.Heading

/-!
# A registry is the log of what was registered

Declarations, builders and drafts put classes into a registry, one at a time and with growing
numbers. The log of a run holds the classes that its calls returned, in this order. The registry
keeps more than that: it finds classes by number and by name and groups them into containers. All of
this can be read off the log, which only ever grows at its end.
-/

namespace ClassSynthesis

/-- One call that may register a class. -/
inductive RegistryCall where
  /-- Declare a class. -/
  | declare (d : Declaration)
  /-- Realize a draft. -/
  | realize (d : Draft)
  /-- Build the class of a builder. -/
  | build (b : Builder)
  /-- Build the class of a builder with a source. -/
  | buildFromSource (b : SourceBuilder)

namespace Registry

/-- The answer to a call, which is the registered class if the call succeeds. -/
def answer (r : Registry) : RegistryCall → Except Error Class
  | .declare d => outcomeOf (declare d r)
  | .realize d => outcomeOf (Draft.realize (d, r))
  | .build b => outcomeOf (Builder.build (b, r))
  | .buildFromSource b => outcomeOf (SourceBuilder.build (b, r))

/-- The registry after a call, whether it succeeded or failed. -/
def next (r : Registry) : RegistryCall → Registry
  | .declare d => stateOf (declare d r)
  | .realize d => (stateOf (Draft.realize (d, r))).2
  | .build b => (stateOf (Builder.build (b, r))).2
  | .buildFromSource b => (stateOf (SourceBuilder.build (b, r))).2

/-- The registry after a run of calls. -/
def after (r : Registry) (calls : List RegistryCall) : Registry := calls.foldl next r

/-- The classes that a run of calls returns, in order. -/
def log (r : Registry) : List RegistryCall → List Class
  | [] => []
  | call :: rest => (r.answer call).toOption.toList ++ (r.next call).log rest

theorem after_append (r : Registry) (calls more : List RegistryCall) :
    r.after (calls ++ more) = (r.after calls).after more := List.foldl_append

/-- What a run adds to the log depends on the registry that it starts from only. -/
theorem log_append (r : Registry) (calls more : List RegistryCall) :
    r.log (calls ++ more) = r.log calls ++ (r.after calls).log more := by
  induction calls generalizing r with
  | nil => rfl
  | cons call rest ih =>
    rw [List.cons_append, log, log, ih, List.append_assoc]
    rfl

/-! ### One call -/

/-- What a call comes to. -/
inductive Registers (r : Registry) : Except Error Class → Registry → Prop
  /-- A class is registered under the next number. -/
  | added {c : Class} (hkey : c.key = r.allocate.1) : Registers r (.ok c) (r.allocate.2.register c)
  /-- Nothing is registered, but the next number is used up. -/
  | skipped (e : Error) : Registers r (.error e) r.allocate.2
  /-- Nothing happens. -/
  | refused (e : Error) : Registers r (.error e) r

/-- A declaration registers its class or uses up a number. -/
theorem registers_declare (r : Registry) (d : Declaration) :
    Registers r (outcomeOf (declare d r)) (stateOf (declare d r)) := by
  simp only [declare]
  cases hc : d.compile r.allocate.1 (r.allocate.2.containerName d.container) with
  | error e => exact .skipped e
  | ok c =>
    obtain ⟨base, constructors, -, -, rfl⟩ := Declaration.compile_eq_ok hc
    exact .added (congrArg Layer.key (d.heading_members r.allocate.1 _))

/-- A draft registers its class, or nothing happens since it is frozen. -/
theorem registers_realize (r : Registry) (d : Draft) :
    Registers r (outcomeOf (Draft.realize (d, r))) (stateOf (Draft.realize (d, r))).2 := by
  unfold Draft.realize
  by_cases hfrozen : d.isFrozen
  · simp only [hfrozen, ite_true]
    exact .refused _
  · simp only [hfrozen, Bool.false_eq_true, ite_false]
    exact .added (d.key_compile r.allocate.1)

/-- A builder does what its draft does, or nothing since it has built its class. -/
theorem registers_build (r : Registry) (b : Builder) :
    Registers r (outcomeOf (Builder.build (b, r))) (stateOf (Builder.build (b, r))).2 := by
  have hdraft := r.registers_realize b.draft
  unfold Builder.build
  by_cases hbuilt : b.isBuilt
  · simp only [hbuilt, ite_true]
    exact .refused _
  · simp only [hbuilt, Bool.false_eq_true, ite_false]
    cases hrun : Draft.realize (b.draft, r) <;> rwa [hrun] at hdraft

/-- Every call registers one class with the next number, or none. -/
theorem registers_next (r : Registry) (call : RegistryCall) :
    Registers r (r.answer call) (r.next call) := by
  cases call with
  | declare d => exact r.registers_declare d
  | realize d => exact r.registers_realize d
  | build b => exact r.registers_build b
  | buildFromSource b =>
    have hbuild := r.registers_build b.builder
    simp only [answer, next, SourceBuilder.build]
    cases hrun : Builder.build (b.builder, r) <;> rwa [hrun] at hbuild

/-- A declaration that fails uses up the next number. -/
theorem next_declare_of_error {r : Registry} {d : Declaration} {e : Error}
    (h : r.answer (.declare d) = .error e) : r.next (.declare d) = r.allocate.2 := by
  simp only [answer, next, declare] at h ⊢
  cases hc : d.compile r.allocate.1 (r.allocate.2.containerName d.container) with
  | ok c => simp [hc, outcomeOf] at h
  | error e' => rfl

/-! ### One registration -/

/-- After a registration the name of the class stands for it in its container, and all other names
stand for what they stood for before. -/
theorem getByName?_register (r : Registry) (c : Class) (container name : String) :
    (r.register c).getByName? (some container) name =
      if c.own.container = container ∧ c.name = name then some c
      else r.getByName? (some container) name := by
  by_cases hcontainer : c.own.container = container
  · subst hcontainer
    by_cases hname : c.name = name
    · subst hname
      simpa using r.getByName?_register_self c
    · cases hbox : r.containers[c.own.container]? <;>
        simp [getByName?, containerName, register, Container.add, hbox, hname,
          Std.TreeMap.getD_eq_getD_getElem?, Std.TreeMap.getElem?_insert]
  · simp [getByName?, containerName, register, Std.TreeMap.getElem?_insert, hcontainer]

/-- A registration adds the container of the class to the containers. -/
theorem mem_containerNames_register (r : Registry) (c : Class) (container : String) :
    container ∈ (r.register c).containerNames ↔
      c.own.container = container ∨ container ∈ r.containerNames := by
  simp [containerNames, register, Std.TreeMap.mem_keys, Std.TreeMap.mem_insert]

/-- The names of the containers are sorted, and none is there twice. -/
theorem sorted_containerNames (r : Registry) : r.containerNames.Pairwise (· < ·) := by
  refine r.containers.ordered_keys.imp ?_
  intro a b h
  exact compareOfLessAndEq_eq_lt.mp h

/-! ### The log -/

/-- The registry holds the classes of the log, and nothing else. -/
structure Refines (r : Registry) (log : List Class) : Prop where
  /-- The classes are those of the log, in order. -/
  classes : r.classes.toList = log
  /-- Their numbers grow. -/
  increasing : log.Pairwise fun c d => c.key.id < d.key.id
  /-- All numbers that were given are below the next one. -/
  below : ∀ c ∈ log, c.key.id < r.nextId
  /-- A name in a container stands for the last class that has both. -/
  latest : ∀ container name, r.getByName? (some container) name =
    (log.filter fun c => c.own.container == container && c.name == name).getLast?
  /-- A container holds the classes that belong to it, in order. -/
  types : ∀ container, r.containerTypes container = log.filter (·.own.container == container)
  /-- There are the containers that some class belongs to. -/
  containers : ∀ container,
    container ∈ r.containerNames ↔ ∃ c ∈ log, c.own.container = container

/-- An empty registry has an empty log. -/
theorem refines_empty (key : Nat) (options : Options) : (empty key options).Refines [] where
  classes := rfl
  increasing := .nil
  below := by simp
  latest := by simp [getByName?, empty]
  types := by simp [containerTypes, empty]
  containers := by simp [containerNames, empty, Std.TreeMap.mem_keys]

namespace Refines

variable {r : Registry} {log : List Class}

/-- To use up a number leaves the log as it is. -/
theorem allocate (h : r.Refines log) : r.allocate.2.Refines log where
  classes := h.classes
  increasing := h.increasing
  below := fun c hc => Nat.lt_succ_of_lt (h.below c hc)
  latest := h.latest
  types := h.types
  containers := h.containers

/-- A class that is registered under the next number comes to the end of the log. -/
theorem register (h : r.Refines log) {c : Class} (hkey : c.key = r.allocate.1) :
    (r.allocate.2.register c).Refines (log ++ [c]) where
  classes := by
    have hclasses := h.allocate.classes
    simp [hclasses]
  increasing := by
    rw [List.pairwise_append]
    refine ⟨h.increasing, List.pairwise_singleton _ _, ?_⟩
    intro d hd e he
    obtain rfl := List.mem_singleton.mp he
    rw [hkey]
    exact h.below d hd
  below := by
    intro d hd
    rw [List.mem_append, List.mem_singleton] at hd
    rcases hd with hd | rfl
    · exact h.allocate.below d hd
    · rw [hkey]
      exact Nat.lt_succ_self r.nextId
  latest := by
    intro container name
    have hlatest := h.allocate.latest container name
    rw [getByName?_register, List.filter_append, List.getLast?_append, hlatest]
    by_cases hsame : c.own.container = container ∧ c.name = name
    · simp [hsame]
    · have hnot : (c.own.container == container && c.name == name) = false := by
        simpa using hsame
      simp [hsame, hnot]
  types := by
    intro container
    have htypes := h.allocate.types container
    rw [containerTypes_register, List.filter_append, htypes]
    by_cases hsame : c.own.container = container <;> simp [hsame]
  containers := by
    intro container
    have hcontainers := h.allocate.containers container
    rw [mem_containerNames_register, hcontainers]
    simp only [List.mem_append, List.mem_singleton, or_and_right, exists_or, exists_eq_left]
    exact or_comm

/-- A call keeps the registry and the log together. -/
theorem next (h : r.Refines log) (call : RegistryCall) :
    (r.next call).Refines (log ++ (r.answer call).toOption.toList) := by
  have hcall := r.registers_next call
  generalize r.answer call = answer at hcall ⊢
  generalize r.next call = left at hcall ⊢
  cases hcall with
  | added hkey => exact h.register hkey
  | skipped e => simpa [Except.toOption] using h.allocate
  | refused e => simpa [Except.toOption] using h

/-- A run keeps the registry and the log together. -/
theorem after (h : r.Refines log) (calls : List RegistryCall) :
    (r.after calls).Refines (log ++ r.log calls) := by
  induction calls generalizing r log with
  | nil => simpa [Registry.after, Registry.log] using h
  | cons call rest ih =>
    have hrest := ih (h.next call)
    rwa [List.append_assoc] at hrest

/-- A number stands for the class of the log that has it. -/
theorem get?_eq_some_iff (h : r.Refines log) {id : Nat} {c : Class} :
    r.get? id = some c ↔ c ∈ log ∧ c.key.id = id := by
  have hfind : r.get? id = log.find? (·.key.id == id) := by
    rw [get?, ← h.classes, Array.find?_toList]
  rw [hfind]
  constructor
  · intro hc
    exact ⟨List.mem_of_find?_eq_some hc, by simpa using List.find?_some hc⟩
  · rintro ⟨hc, rfl⟩
    -- Classes before `c` have smaller numbers, so the search does not stop at one of them.
    obtain ⟨before, rest, rfl⟩ := List.append_of_mem hc
    rw [List.find?_eq_some_iff_append]
    refine ⟨by simp, before, rest, rfl, ?_⟩
    intro d hd
    have hlt := (List.pairwise_append.mp h.increasing).2.2 d hd c List.mem_cons_self
    simpa using Nat.ne_of_lt hlt

end Refines

/-! ### Runs -/

/-- A call leaves the options alone, and never makes a number free again. -/
theorem options_next (r : Registry) (call : RegistryCall) :
    (r.next call).options = r.options ∧ r.nextId ≤ (r.next call).nextId := by
  have hcall := r.registers_next call
  generalize r.answer call = answer at hcall
  generalize r.next call = left at hcall ⊢
  cases hcall with
  | added hkey => exact ⟨rfl, Nat.le_succ r.nextId⟩
  | skipped e => exact ⟨rfl, Nat.le_succ r.nextId⟩
  | refused e => exact ⟨rfl, Nat.le_refl r.nextId⟩

theorem options_after (r : Registry) (calls : List RegistryCall) :
    (r.after calls).options = r.options := by
  induction calls generalizing r with
  | nil => rfl
  | cons call rest ih => exact (ih (r.next call)).trans (r.options_next call).1

/-- A run gives out no number that was given out before it. -/
theorem nextId_le_of_mem_log {r : Registry} {calls : List RegistryCall} {c : Class}
    (hc : c ∈ r.log calls) : r.nextId ≤ c.key.id := by
  induction calls generalizing r with
  | nil => cases hc
  | cons call rest ih =>
    rw [log, List.mem_append] at hc
    rcases hc with hc | hc
    · have hcall := r.registers_next call
      generalize r.answer call = answer at hcall hc
      generalize r.next call = left at hcall
      cases hcall with
      | added hkey =>
        obtain rfl := List.mem_singleton.mp hc
        rw [hkey]
        exact Nat.le_refl r.nextId
      | skipped e => cases hc
      | refused e => cases hc
    · exact Nat.le_trans (r.options_next call).2 (ih hc)

/-- A class of the log is found by its number after every further run. -/
theorem Refines.get?_after {r : Registry} {log : List Class} (h : r.Refines log)
    (more : List RegistryCall) {c : Class} (hc : c ∈ log) :
    (r.after more).get? c.key.id = some c :=
  (h.after more).get?_eq_some_iff.mpr ⟨List.mem_append_left _ hc, rfl⟩

/-- The number that a declaration has used up in vain stands for no class, after every further
run: the numbers of earlier classes are below it, those of later ones are above it. -/
theorem Refines.get?_of_failed {r : Registry} {log : List Class} (h : r.Refines log)
    {d : Declaration} {e : Error} (he : r.answer (.declare d) = .error e)
    (more : List RegistryCall) : (r.after (.declare d :: more)).get? r.nextId = none := by
  have hnext := next_declare_of_error he
  have hdeclared := h.after (.declare d :: more)
  rw [Registry.log, he, hnext] at hdeclared
  cases hfound : (r.after (.declare d :: more)).get? r.nextId with
  | none => rfl
  | some c =>
    obtain ⟨hc, hid⟩ := hdeclared.get?_eq_some_iff.mp hfound
    rcases List.mem_append.mp hc with hc | hc
    · have hbelow := h.below c hc
      omega
    · have habove : r.nextId + 1 ≤ c.key.id := nextId_le_of_mem_log hc
      omega

/-- Whatever is declared, realized and built in a registry, with or without success, it answers as
the log of the run says. Numbers grow along the log; a number stands for the class of the log that
has it and a name for the last one that has it; containers hold the classes of the log that belong
to them. The log only grows, so every class is found by its number for good, and the number of a
declaration that failed stays without a class. -/
theorem refines_log (key : Nat) (options : Options) (calls : List RegistryCall) :
    let r := (empty key options).after calls
    let log := (empty key options).log calls
    (log.map (·.key.id)).Pairwise (· < ·) ∧
    (∀ id c, r.get? id = some c ↔ c ∈ log ∧ c.key.id = id) ∧
    (∀ container name, r.getByName? container name =
      (log.filter fun c => c.own.container == container.getD options.defaultContainer &&
        c.name == name).getLast?) ∧
    (∀ container, r.containerTypes container = log.filter (·.own.container == container)) ∧
    r.containerNames.Pairwise (· < ·) ∧
    (∀ container, container ∈ r.containerNames ↔ ∃ c ∈ log, c.own.container = container) ∧
    r.size = log.length ∧
    (r.isEmpty ↔ log.length = 0) ∧
    (∀ more, log <+: (empty key options).log (calls ++ more) ∧
      ∀ c ∈ log, ((empty key options).after (calls ++ more)).get? c.key.id = some c) ∧
    ∀ d e more, r.answer (.declare d) = .error e →
      ((empty key options).after (calls ++ .declare d :: more)).get? r.nextId = none := by
  intro r log
  have hrefines : r.Refines log := (refines_empty key options).after calls
  have hoptions : r.options = options := options_after (empty key options) calls
  have hsize : r.classes.size = log.length := by
    rw [← Array.length_toList, hrefines.classes]
  refine ⟨?_, fun id c => hrefines.get?_eq_some_iff, ?_, hrefines.types, r.sorted_containerNames,
    hrefines.containers, hsize, ?_, ?_, ?_⟩
  · rw [List.pairwise_map]
    exact hrefines.increasing
  · intro container name
    rw [← hoptions]
    exact hrefines.latest (r.containerName container) name
  · rw [isEmpty, Array.isEmpty_iff_size_eq_zero, hsize]
  · intro more
    rw [log_append, after_append]
    exact ⟨List.prefix_append _ _, fun c hc => hrefines.get?_after more hc⟩
  · intro d e more he
    rw [after_append]
    exact hrefines.get?_of_failed he more

/-- A class with one field. -/
def point : Declaration where
  name := "Point"
  fields := [{ name := "x", ty := .int }]

/-- The same class with a constructor that stores a parameter which it lacks. -/
def brokenPoint : Declaration := { point with constructors := [{ assignments := [("x", "x")] }] }

/-- The class is declared, then in vain, then a second time. The first and the last class keep the
numbers 0 and 2, and the number 1 stands for nothing. -/
theorem refines_log_of_points :
    (empty 0 {}).log [.declare point, .declare brokenPoint, .declare point] =
        [point.members ⟨0, 0⟩ "DynamicAssembly", point.members ⟨0, 2⟩ "DynamicAssembly"] ∧
      ((empty 0 {}).after [.declare point]).answer (.declare brokenPoint) =
        .error (.unknownMember "Point" "x") ∧
      ((empty 0 {}).after [.declare point, .declare brokenPoint, .declare point]).get? 0 =
        some (point.members ⟨0, 0⟩ "DynamicAssembly") ∧
      ((empty 0 {}).after [.declare point, .declare brokenPoint, .declare point]).get? 1 =
        none := by
  have hlog := refines_log 0 {} [.declare point]
  refine ⟨rfl, rfl, ?_, ?_⟩
  · exact (hlog.2.2.2.2.2.2.2.2.1 [.declare brokenPoint, .declare point]).2 _ List.mem_cons_self
  · exact hlog.2.2.2.2.2.2.2.2.2 brokenPoint _ [.declare point] rfl

end Registry

end ClassSynthesis
