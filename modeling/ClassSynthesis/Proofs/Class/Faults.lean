import ClassSynthesis.Proofs.Class.Declared

/-!
# Faults of declarations

A declaration is consistent if its constructors can run one of the parent first, store parameters
that they have into members that are there, and attach attributes that can be applied to parameters
that they have. What is wrong with a declaration that is not can be listed: first the parent, then,
constructor by constructor, the assignments and the attributes. Compiling a declaration succeeds if
the list is empty, and fails with the first fault of it otherwise.
-/

namespace ClassSynthesis

/-! ### Checks that report a list of faults -/

/-- A computation reports a list of faults if it succeeds where there are none, and fails with the
first one where there are some. -/
inductive Reports {ε α : Type} : Except ε α → List ε → Prop
  /-- There are none. -/
  | passed (a : α) : Reports (.ok a) []
  /-- There are some. -/
  | failed (e : ε) (others : List ε) : Reports (.error e) (e :: others)

namespace Reports

variable {ε α β σ : Type}

theorem exists_ok_iff {result : Except ε α} {faults : List ε} (h : Reports result faults) :
    (∃ a, result = .ok a) ↔ faults = [] := by
  cases h with
  | passed a => simp
  | failed e others => simp

theorem head?_of_error {e : ε} {faults : List ε}
    (h : Reports (.error e : Except ε α) faults) : faults.head? = some e := by
  cases h with
  | failed e others => rfl

/-- The faults of the second step come after those of the first one. -/
theorem bind {first : Except ε α} {second : α → Except ε β} {faults more : List ε}
    (hfirst : Reports first faults) (hsecond : ∀ a, first = .ok a → Reports (second a) more) :
    Reports (first >>= second) (faults ++ more) := by
  cases hfirst with
  | passed a => exact hsecond a rfl
  | failed e others => exact .failed e (others ++ more)

/-- A last step that succeeds adds no faults. -/
theorem bind_pure {first : Except ε α} {faults : List ε} (hfirst : Reports first faults)
    (make : α → β) : Reports (first >>= fun a => pure (make a)) faults := by
  have hpure (a : α) : Reports (pure (make a) : Except ε β) [] := .passed (make a)
  have hboth := hfirst.bind fun a _ => hpure a
  rwa [List.append_nil] at hboth

/-- A traversal reports what the elements report, one after the other. -/
theorem mapM {f : α → Except ε β} {faultsOf : α → List ε} {as : List α}
    (h : ∀ a ∈ as, Reports (f a) (faultsOf a)) : Reports (as.mapM f) (as.flatMap faultsOf) := by
  induction as with
  | nil => exact .passed []
  | cons a as ih =>
    have hrest := ih fun b hb => h b (List.mem_cons_of_mem a hb)
    rw [List.mapM_cons, List.flatMap_cons]
    refine (h a List.mem_cons_self).bind ?_
    intro b _
    exact hrest.bind_pure (b :: ·)

/-- So does a fold, if what an element reports does not depend on the state, as long as the state
has a property that all steps keep. -/
theorem foldlM {P : σ → Prop} {f : σ → α → Except ε σ} {faultsOf : α → List ε} {as : List α}
    (hreports : ∀ s, ∀ a ∈ as, P s → Reports (f s a) (faultsOf a))
    (hkeeps : ∀ s, ∀ a ∈ as, ∀ t, P s → f s a = .ok t → P t) {s : σ} (hs : P s) :
    Reports (as.foldlM f s) (as.flatMap faultsOf) := by
  induction as generalizing s with
  | nil => exact .passed s
  | cons a as ih =>
    rw [List.foldlM_cons, List.flatMap_cons]
    refine (hreports s a List.mem_cons_self hs).bind ?_
    intro t ht
    have hkept := hkeeps s a List.mem_cons_self t hs ht
    exact ih (fun s b hb => hreports s b (List.mem_cons_of_mem a hb))
      (fun s b hb => hkeeps s b (List.mem_cons_of_mem a hb)) hkept

end Reports

/-- The fault that a computation fails with, if it does. -/
def faultOf {ε α : Type} : Except ε α → List ε
  | .ok _ => []
  | .error e => [e]

theorem reports_faultOf {ε α : Type} (result : Except ε α) : Reports result (faultOf result) := by
  cases result with
  | ok a => exact .passed a
  | error e => exact .failed e []

/-- The fault that there is unless a condition holds. -/
def faultUnless (condition : Prop) [Decidable condition] (fault : Error) : List Error :=
  if condition then [] else [fault]

section

variable {condition : Prop} [Decidable condition] {fault : Error}

theorem faultUnless_of_pos (h : condition) : faultUnless condition fault = [] := if_pos h

theorem faultUnless_of_neg (h : ¬ condition) : faultUnless condition fault = [fault] := if_neg h

@[simp] theorem faultUnless_eq_nil_iff : faultUnless condition fault = [] ↔ condition := by
  simp [faultUnless]

/-- A search that fails is a fault, which comes before those of what is done with the result. -/
theorem Reports.search {α β : Type} {found : Option α} (hfound : found.isSome ↔ condition)
    {result : Except Error β} {more : List Error} (hnone : found = none → result = .error fault)
    (hsome : ∀ a, found = some a → Reports result more) :
    Reports result (faultUnless condition fault ++ more) := by
  cases hsearch : found with
  | none =>
    have hnot : ¬ condition := fun h => by
      rw [hsearch] at hfound
      cases hfound.mpr h
    rw [faultUnless_of_neg hnot, hnone hsearch]
    exact .failed fault more
  | some a =>
    have hholds : condition := hfound.mp (by rw [hsearch]; rfl)
    rw [faultUnless_of_pos hholds]
    exact hsome a hsearch

end

/-! ### What is wrong with a declaration -/

/-- The class can be constructed without arguments, or has no constructors at all. -/
def Class.NeedsNoArguments (c : Class) : Prop :=
  c.constructors = [] ∨ ∃ k ∈ c.constructors, k.parameters = []

instance (c : Class) : Decidable c.NeedsNoArguments :=
  inferInstanceAs (Decidable (_ ∨ _))

/-- The class has, or inherits, a field of this name or a property that is stored in a slot. -/
def Class.Provides (c : Class) (member : String) : Prop :=
  (c.field? member).isSome ∨ ((c.property? member).bind (·.2.slot)).isSome

instance (c : Class) (member : String) : Decidable (c.Provides member) :=
  inferInstanceAs (Decidable (_ ∨ _))

/-- The constructor has a parameter of this name. -/
def ConstructorDecl.HasParameter (k : ConstructorDecl) (name : String) : Prop :=
  name ∈ k.parameters.map (·.1)

instance (k : ConstructorDecl) (name : String) : Decidable (k.HasParameter name) :=
  inferInstanceAs (Decidable (_ ∈ _))

/-- The attribute that is to be attached to a parameter. -/
def ParameterAttribute.application (a : ParameterAttribute) : Application :=
  ⟨a.kind, a.arguments, none⟩

namespace Declaration

/-- A constructor may store into the member: it is one that the class itself declares, or that the
parent provides. -/
def MayAssign (d : Declaration) (member : String) : Prop :=
  member ∈ d.fields.map (·.name) ∨ member ∈ d.properties.map (·.name) ∨
    ∃ parent ∈ d.parent, parent.Provides member

instance (d : Declaration) (member : String) : Decidable (d.MayAssign member) :=
  inferInstanceAs (Decidable (_ ∨ _ ∨ _))

/-- Nothing is wrong with the declaration. -/
structure Consistent (d : Declaration) : Prop where
  /-- The parent, if there is one, needs no arguments. -/
  parent : ∀ parent ∈ d.parent, parent.NeedsNoArguments
  /-- Every constructor stores parameters that it has into members that are there. -/
  assignments : ∀ k ∈ d.constructors, ∀ parameter member,
    (parameter, member) ∈ k.assignments → k.HasParameter parameter ∧ d.MayAssign member
  /-- Every constructor attaches attributes that can be applied to parameters that it has. -/
  attributes : ∀ k ∈ d.constructors, ∀ a ∈ k.attributes,
    k.HasParameter a.parameter ∧ ∃ made, a.application.resolve = .ok made

/-- What is wrong with the parent. -/
def parentFaults (d : Declaration) : List Error :=
  match d.parent with
  | none => []
  | some parent =>
    faultUnless parent.NeedsNoArguments (.noConstructor parent.name [] "parent")

/-- What is wrong with an assignment: the parameter and then the member. -/
def assignmentFaults (d : Declaration) (k : ConstructorDecl) (parameter member : String) :
    List Error :=
  faultUnless (k.HasParameter parameter) (.unknownMember d.name parameter) ++
    faultUnless (d.MayAssign member) (.unknownMember d.name member)

/-- What is wrong with an attribute: the parameter and then the attribute itself. -/
def attributeFaults (d : Declaration) (k : ConstructorDecl) (a : ParameterAttribute) :
    List Error :=
  faultUnless (k.HasParameter a.parameter) (.unknownMember d.name a.parameter) ++
    faultOf a.application.resolve

/-- What is wrong with a constructor: its assignments and then its attributes. -/
def constructorFaults (d : Declaration) (k : ConstructorDecl) : List Error :=
  k.assignments.flatMap (fun (parameter, member) => d.assignmentFaults k parameter member) ++
    k.attributes.flatMap (d.attributeFaults k)

/-- What is wrong with a declaration: the parent and then its constructors. -/
def faults (d : Declaration) : List Error :=
  d.parentFaults ++ d.constructors.flatMap d.constructorFaults

variable {d : Declaration}

theorem parentFaults_eq_nil_iff :
    d.parentFaults = [] ↔ ∀ parent ∈ d.parent, parent.NeedsNoArguments := by
  unfold parentFaults
  cases d.parent with
  | none => simp
  | some parent => simp

theorem constructorFaults_eq_nil_iff {k : ConstructorDecl} :
    d.constructorFaults k = [] ↔
      (∀ parameter member, (parameter, member) ∈ k.assignments →
        k.HasParameter parameter ∧ d.MayAssign member) ∧
      ∀ a ∈ k.attributes, k.HasParameter a.parameter ∧
        ∃ made, a.application.resolve = .ok made := by
  have hresolve (a : ParameterAttribute) := (reports_faultOf a.application.resolve).exists_ok_iff
  simp only [constructorFaults, assignmentFaults, attributeFaults, List.append_eq_nil_iff,
    List.flatMap_eq_nil_iff, faultUnless_eq_nil_iff, hresolve, Prod.forall]

/-- A declaration is consistent if nothing can be listed that is wrong with it. -/
theorem faults_eq_nil_iff : d.faults = [] ↔ d.Consistent := by
  simp only [faults, List.append_eq_nil_iff, List.flatMap_eq_nil_iff, parentFaults_eq_nil_iff,
    constructorFaults_eq_nil_iff]
  constructor
  · rintro ⟨hparent, hconstructors⟩
    exact ⟨hparent, fun k hk => (hconstructors k hk).1, fun k hk => (hconstructors k hk).2⟩
  · intro h
    exact ⟨h.parent, fun k hk => ⟨h.assignments k hk, h.attributes k hk⟩⟩

end Declaration

/-! ### What compilation checks -/

/-- A name is found if some entry has it. -/
theorem isSome_find?_iff {α : Type} {nameOf : α → String} {as : List α} {name : String} :
    (as.find? (nameOf · == name)).isSome ↔ name ∈ as.map nameOf := by
  simp

/-- So is the place of a name. -/
theorem isSome_findIdx?_iff {α : Type} {nameOf : α → String} {as : List α} {name : String} :
    (as.findIdx? (nameOf · == name)).isSome ↔ name ∈ as.map nameOf := by
  simp [List.findIdx?_isSome]

/-- A class has a constructor without parameters if one can be found. -/
theorem Class.isSome_parameterless?_iff {c : Class} :
    c.parameterless?.isSome ↔ ∃ k ∈ c.constructors, k.parameters = [] := by
  simp [Class.parameterless?, List.findIdx?_isSome]

namespace ConstructorDecl

theorem names_plainParameters (k : ConstructorDecl) :
    k.plainParameters.map (·.name) = k.parameters.map (·.1) := by
  apply List.ext_getElem?
  intro place
  simp [plainParameters, Function.comp_def]

/-- To attach an attribute leaves the names alone. -/
theorem names_of_attach {className : String} {parameters left : List Parameter}
    {a : ParameterAttribute} (h : attach className parameters a = .ok left) :
    left.map (·.name) = parameters.map (·.name) := by
  unfold attach at h
  cases hp : parameters.findIdx? (·.name == a.parameter) with
  | none => simp [hp] at h
  | some index =>
    simp only [hp] at h
    obtain ⟨made, -, h⟩ := bind_eq_ok h
    rw [← Except.ok.inj h]
    apply List.ext_getElem?
    intro place
    rw [List.getElem?_map, List.getElem?_map, List.getElem?_modify]
    cases parameters[place]? with
    | none => rfl
    | some p =>
      by_cases hplace : index = place
      · simp [hplace]
      · simp [hplace]

end ConstructorDecl

namespace Declaration

variable {d : Declaration}

theorem name_members (d : Declaration) (key : ClassKey) (container : String) :
    (d.members key container).name = d.name :=
  congrArg Layer.name (d.heading_members key container)

/-- The members that a constructor may store into are those that have a slot for it. -/
theorem isSome_assignedSlot?_members (key : ClassKey) (container member : String) :
    ((d.members key container).assignedSlot? member).isSome ↔ d.MayAssign member := by
  have hfield : ((d.members key container).own.fields.find? (·.name == member)).isSome ↔
      member ∈ d.fields.map (·.name) := by
    rw [isSome_find?_iff, names_fields_members]
  have hproperty : ((d.members key container).own.properties.find? (·.name == member)).isSome ↔
      member ∈ d.properties.map (·.name) := by
    rw [isSome_find?_iff, names_properties_members]
  unfold Class.assignedSlot? MayAssign
  rw [← hfield, ← hproperty, parent_members]
  cases hf : (d.members key container).own.fields.find? (·.name == member) with
  | some f => simp
  | none =>
    cases hp : (d.members key container).own.properties.find? (·.name == member) with
    | some p =>
      have hmem := List.mem_of_find?_eq_some hp
      obtain ⟨slot, hstored⟩ := (d.laidOut_members key container).properties p hmem
      simp [hstored.place]
    | none =>
      cases d.parent with
      | none => simp
      | some parent =>
        cases hinherited : parent.field? member with
        | some f => simp [Class.Provides, hinherited]
        | none => simp [Class.Provides, hinherited]

theorem reports_baseConstructor (d : Declaration) : Reports d.baseConstructor d.parentFaults := by
  unfold baseConstructor parentFaults
  cases d.parent with
  | none => exact .passed none
  | some parent =>
    by_cases hnone : parent.constructors = []
    · have hneeds : parent.NeedsNoArguments := .inl hnone
      simp only [hnone, List.isEmpty_nil, ite_true, faultUnless_of_pos hneeds]
      exact .passed none
    · have hfound : parent.parameterless?.isSome ↔ parent.NeedsNoArguments := by
        rw [Class.isSome_parameterless?_iff, Class.NeedsNoArguments, or_iff_right hnone]
      simp only [List.isEmpty_iff, hnone, ite_false]
      rw [← List.append_nil (faultUnless _ _)]
      refine .search hfound ?_ ?_
      · intro hbare
        rw [hbare]
      · intro target hbare
        rw [hbare]
        exact .passed (some target)

theorem reports_compileAssignment (k : ConstructorDecl) (key : ClassKey)
    (container parameter member : String) :
    Reports (k.compileAssignment (d.members key container) parameter member)
      (d.assignmentFaults k parameter member) := by
  have hparameter : (k.parameter? parameter).isSome ↔ k.HasParameter parameter :=
    isSome_findIdx?_iff
  have hmember := d.isSome_assignedSlot?_members key container member
  unfold ConstructorDecl.compileAssignment assignmentFaults
  rw [name_members]
  refine .search hparameter ?_ ?_
  · intro hp
    rw [hp]
  · intro argument hp
    rw [← List.append_nil (faultUnless (d.MayAssign member) _), hp]
    refine .search hmember ?_ ?_
    · intro hs
      rw [hs]
    · intro slot hs
      rw [hs]
      exact .passed (argument, slot)

/-- Attributes are attached to parameters that have the declared names. -/
theorem reports_attach {k : ConstructorDecl} {parameters : List Parameter}
    (hnames : parameters.map (·.name) = k.parameters.map (·.1)) (a : ParameterAttribute) :
    Reports (ConstructorDecl.attach d.name parameters a) (d.attributeFaults k a) := by
  have hparameter : (parameters.findIdx? (·.name == a.parameter)).isSome ↔
      k.HasParameter a.parameter := by
    rw [isSome_findIdx?_iff, hnames, ConstructorDecl.HasParameter]
  unfold ConstructorDecl.attach attributeFaults
  refine .search hparameter ?_ ?_
  · intro hp
    rw [hp]
  · intro index hp
    rw [hp]
    exact (reports_faultOf a.application.resolve).bind_pure _

theorem reports_compileConstructor (k : ConstructorDecl) (key : ClassKey) (container : String)
    (base : Option Nat) :
    Reports (k.compile (d.members key container) base) (d.constructorFaults k) := by
  unfold ConstructorDecl.compile constructorFaults
  refine Reports.bind (.mapM ?_) ?_
  · rintro ⟨parameter, member⟩ -
    exact d.reports_compileAssignment k key container parameter member
  · intro assignments _
    rw [name_members]
    refine Reports.bind_pure (.foldlM (P := fun ps => ps.map (·.name) = k.parameters.map (·.1))
      ?_ ?_ ?_) _
    · intro parameters a _ hnames
      exact reports_attach hnames a
    · intro parameters a _ left hnames hattach
      rw [ConstructorDecl.names_of_attach hattach, hnames]
    · exact k.names_plainParameters

/-- Compilation succeeds if there are no faults, and fails with the first one if there are some. -/
theorem reports_compile (d : Declaration) (key : ClassKey) (container : String) :
    Reports (d.compile key container) d.faults := by
  unfold compile faults
  refine d.reports_baseConstructor.bind ?_
  intro base _
  refine Reports.bind_pure (.mapM ?_) _
  intro k _
  exact d.reports_compileConstructor k key container base

end Declaration

end ClassSynthesis
