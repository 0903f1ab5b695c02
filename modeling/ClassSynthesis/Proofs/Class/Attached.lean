import ClassSynthesis.Proofs.Builder.Compiled
import ClassSynthesis.Proofs.Class.Materialization

/-!
# Attached attributes

Whatever is attached to a class, to one of its properties or to a parameter of its constructors was
resolved before: by a builder, by a declaration, or by the declaration whose constructor the class
passes its arguments on to. So it is valid, and it can be made into an instance.
-/

namespace ClassSynthesis

/-- All attributes in the log were resolved. -/
def ResolvedLog (log : List LogEntry) : Prop :=
  ∀ target made, .attached target made ∈ log → made.Resolved

/-- What was attached to a target is in the log. -/
theorem mem_of_mem_attributesOn {target : Target} {log : List LogEntry} {made : Attribute}
    (h : made ∈ attributesOn target log) : .attached target made ∈ log := by
  obtain ⟨entry, hentry, hmade⟩ := List.mem_filterMap.mp h
  cases entry with
  | defined handle name ty => cases hmade
  | attached other a =>
    by_cases hsame : other = target
    · simp only [LogEntry.attribute?, hsame, ite_true, Option.some.injEq] at hmade
      rwa [hsame, hmade] at hentry
    · simp [LogEntry.attribute?, hsame] at hmade

/-- Attempts are logged with what was resolved. -/
theorem resolvedLog_attachedEntries (target : Target)
    (attempts : List (Application × Except Error Unit)) :
    ResolvedLog (attachedEntries target attempts) := by
  intro other made hmem
  obtain ⟨⟨a, outcome⟩, -, hentry⟩ := List.mem_filterMap.mp hmem
  cases outcome with
  | error e => cases hentry
  | ok passed =>
    cases hresolve : a.resolve with
    | error e => simp [hresolve, Except.toOption] at hentry
    | ok resolved =>
      simp only [hresolve, Except.toOption, Option.map_some, Option.some.injEq,
        LogEntry.attached.injEq] at hentry
      exact ⟨a, by rw [hresolve, hentry.2]⟩

namespace Builder

/-- So is what a call attaches. -/
theorem resolvedLog_entries {ρ : Type} (b : Builder) (call : BuilderCall Ty ρ) :
    ResolvedLog (b.entries call) := by
  cases call with
  | define name ty =>
    rw [entries]
    cases define name ty b <;> simp [ResolvedLog]
  | defineWith name ty configuration =>
    rw [entries]
    cases define name ty b with
    | error e left => simp [ResolvedLog]
    | ok handle left =>
      cases (defineWith name ty configuration b).1.outcome with
      | error e => simp [ResolvedLog]
      | ok passed =>
        intro target made hmem
        rw [List.mem_cons] at hmem
        exact resolvedLog_attachedEntries _ _ target made (hmem.resolve_left (by simp))
  | configure handle configuration =>
    rw [entries]
    split
    · exact resolvedLog_attachedEntries _ _
    · simp [ResolvedLog]
  | addAttribute a => exact resolvedLog_attachedEntries _ _
  | build => simp [ResolvedLog, entries]

/-- The draft of a builder holds what some log says, with attributes that were resolved. -/
theorem Reachable.exists_log {base : Option Class} {b : Builder} (h : Reachable base b) :
    ∃ log, b.draft.Records log ∧ ResolvedLog log := by
  induction h with
  | start h => exact ⟨[], Draft.Records.start (draft_of_start h), by simp [ResolvedLog]⟩
  | @call ρ b h r call ih =>
    obtain ⟨log, hrecords, hresolved⟩ := ih
    refine ⟨_, records_next hrecords r call, ?_⟩
    intro target made hmem
    rcases List.mem_append.mp hmem with hmem | hmem
    · exact hresolved target made hmem
    · exact b.resolvedLog_entries call target made hmem

end Builder

namespace Class

/-- The attributes of the class itself and of the properties that it declares. -/
def marks (c : Class) : List Attribute :=
  c.own.attributes ++ c.own.properties.flatMap (·.attributes)

/-- The attributes of the parameters of its constructors. -/
def parameterMarks (c : Class) : List Attribute :=
  c.constructors.flatMap fun k => k.parameters.flatMap (·.attributes)

/-- Everything that is attached to a class, to its properties and to the parameters of its
constructors. -/
def attached (c : Class) : List Attribute := c.marks ++ c.parameterMarks

/-- What is attached to a built class and its properties was resolved. -/
theorem BuiltOn.resolved {base : Option Class} {c : Class} (h : c.BuiltOn base) {a : Attribute}
    (ha : a ∈ c.marks) : a.Resolved := by
  obtain ⟨b, r, hb, hbuild⟩ := h.exists_builder
  obtain ⟨log, hrecords, hresolved⟩ := hb.exists_log
  rw [Builder.build_eq_ok hbuild] at ha
  have hattributes : (b.draft.compile r.allocate.1).own.attributes = b.draft.attributes :=
    congrArg Layer.attributes (b.draft.heading_compile r.allocate.1)
  rw [marks, hattributes, b.draft.properties_compile, List.mem_append] at ha
  rcases ha with ha | ha
  · rw [← hrecords.own] at ha
    exact hresolved _ a (mem_of_mem_attributesOn ha)
  · obtain ⟨p, hp, hap⟩ := List.mem_flatMap.mp ha
    obtain ⟨index, hlt, rfl⟩ := List.mem_mapIdx.mp hp
    have hentry : a ∈ attributesOn (.property ⟨index⟩) log := by
      rw [hrecords.attributes, List.getElem?_eq_getElem hlt]
      exact hap
    exact hresolved _ a (mem_of_mem_attributesOn hentry)

/-- Constructors of a built class have parameters with the attributes that those of the base
have. -/
theorem BuiltOn.parameterMarks {base : Option Class} {c : Class} (h : c.BuiltOn base)
    {a : Attribute} (ha : a ∈ c.parameterMarks) : ∃ b, base = some b ∧ a ∈ b.parameterMarks := by
  cases base with
  | none =>
    rw [Class.parameterMarks, h.constructors_of_none] at ha
    cases ha
  | some b =>
    refine ⟨b, rfl, ?_⟩
    obtain ⟨k, hk, hak⟩ := List.mem_flatMap.mp ha
    rw [h.constructors_eq] at hk
    obtain ⟨target, htarget, rfl⟩ := List.mem_mapIdx.mp hk
    exact List.mem_flatMap.mpr ⟨_, List.getElem_mem htarget, hak⟩

/-- Declared properties have no attributes. -/
theorem attributes_declareProperties {layer : Layer} (h : ∀ p ∈ layer.properties, p.attributes = [])
    (properties : List PropertyDecl) :
    ∀ p ∈ (properties.foldl Layer.declareProperty layer).properties, p.attributes = [] := by
  induction properties generalizing layer with
  | nil => exact h
  | cons first rest ih =>
    refine ih ?_
    intro p hp
    rw [Layer.declareProperty, Layer.addProperty, List.mem_append, List.mem_singleton] at hp
    rcases hp with hp | rfl
    · exact h p hp
    · rfl

/-- Nothing is attached to a declared class or to its properties. -/
theorem marks_members (d : Declaration) (key : ClassKey) (container : String) :
    (d.members key container).marks = [] := by
  have hattributes : (d.members key container).own.attributes = [] :=
    congrArg Layer.attributes (d.heading_members key container)
  rw [marks, hattributes, List.nil_append, List.flatMap_eq_nil_iff]
  refine attributes_declareProperties ?_ d.properties
  rw [Layer.properties_declareFields]
  rintro p ⟨⟩

end Class

/-- What is in a list with one element modified is an element, or the modification of one. -/
private theorem mem_of_mem_modify {α : Type} {f : α → α} {as : List α} {index : Nat} {a : α}
    (h : a ∈ as.modify index f) : a ∈ as ∨ ∃ b ∈ as, a = f b := by
  obtain ⟨place, hplace⟩ := List.getElem?_of_mem h
  rw [List.getElem?_modify] at hplace
  obtain ⟨b, hb, hba⟩ := Option.map_eq_some_iff.mp hplace
  have hmem := List.mem_of_getElem? hb
  split at hba
  · exact .inr ⟨b, hmem, hba.symm⟩
  · exact .inl (hba ▸ hmem)

/-- Attributes of declared parameters are resolved from what is declared. -/
theorem ConstructorDecl.resolved {d : ConstructorDecl} {c : Class} {base : Option Nat}
    {k : Constructor} (h : d.compile c base = .ok k) :
    ∀ p ∈ k.parameters, ∀ a ∈ p.attributes,
      a.Resolved ∧ ∃ declared ∈ d.attributes, a.kind = declared.kind := by
  obtain ⟨assignments, -, h⟩ := bind_eq_ok h
  obtain ⟨parameters, hparameters, h⟩ := bind_eq_ok h
  obtain rfl : ⟨parameters, Code.storing base assignments⟩ = k := Except.ok.inj h
  refine foldlM_keeps (P := fun ps => ∀ p ∈ ps, ∀ a ∈ p.attributes,
    a.Resolved ∧ ∃ declared ∈ d.attributes, a.kind = declared.kind) ?_ ?_ hparameters
  · intro ps declared hdeclared ps' hps hattach
    unfold attach at hattach
    cases hindex : ps.findIdx? (·.name == declared.parameter) with
    | none => simp [hindex] at hattach
    | some index =>
      simp only [hindex] at hattach
      obtain ⟨made, hmade, hattach⟩ := bind_eq_ok hattach
      obtain rfl := Except.ok.inj hattach
      obtain ⟨target, -, hkind⟩ := Application.resolve_eq_ok hmade
      intro p hp a ha
      rcases mem_of_mem_modify hp with hp | ⟨q, hq, rfl⟩
      · exact hps p hp a ha
      · rcases List.mem_append.mp ha with ha | ha
        · exact hps q hq a ha
        · obtain rfl := List.mem_singleton.mp ha
          exact ⟨⟨_, hmade⟩, declared, hdeclared, by rw [hkind]⟩
  · intro p hp a ha
    obtain ⟨index, hlt, rfl⟩ := List.mem_mapIdx.mp hp
    cases ha

namespace Class

/-- So are all attributes that a declared class carries. -/
theorem resolved_of_declare {d : Declaration} {r left : Registry} {c : Class}
    (h : Registry.declare d r = .ok c left) {a : Attribute} (ha : a ∈ c.attached) :
    a.Resolved ∧ ∃ k ∈ d.constructors, ∃ declared ∈ k.attributes, a.kind = declared.kind := by
  obtain ⟨key, container, hc⟩ := Registry.declare_eq_ok h
  obtain ⟨base, constructors, -, hconstructors, rfl⟩ := Declaration.compile_eq_ok hc
  have hmarks : ((d.members key container).mapOwn fun layer => { layer with constructors }).marks =
      [] := marks_members d key container
  rw [attached, hmarks, List.nil_append] at ha
  obtain ⟨k, hk, hak⟩ := List.mem_flatMap.mp ha
  obtain ⟨p, hp, hap⟩ := List.mem_flatMap.mp hak
  obtain ⟨declared, hdeclared, hcompiled⟩ := exists_of_mapM_eq_ok hconstructors hk
  obtain ⟨hresolved, hkind⟩ := ConstructorDecl.resolved hcompiled p hp a hap
  exact ⟨hresolved, declared, hdeclared, hkind⟩

/-- The classes that declarations and builders make, with attributes of classes that are made in
the same way. -/
inductive Grounded : Class → Prop
  /-- By a declaration, in any registry. -/
  | declared {d : Declaration} {r left : Registry} {c : Class}
      (hparent : ∀ parent, d.parent = some parent → Grounded parent)
      (hkinds : ∀ k ∈ d.constructors, ∀ a ∈ k.attributes, Grounded a.kind)
      (h : Registry.declare d r = .ok c left) : Grounded c
  /-- By a builder. -/
  | built {base : Option Class} {c : Class} (hbase : ∀ b, base = some b → Grounded b)
      (hkinds : ∀ a ∈ c.marks, Grounded a.kind) (h : c.BuiltOn base) : Grounded c

namespace Grounded

variable {c : Class} {a : Attribute}

theorem made (h : c.Grounded) : c.Made := by
  induction h with
  | declared hparent hkinds h ihparent ihkinds => exact .declared ihparent h
  | built hbase hkinds h ihbase ihkinds => exact .built ihbase h

/-- Whatever is attached was resolved, and is of a class that was made in the same way. -/
theorem resolved (h : c.Grounded) (ha : a ∈ c.attached) : a.Resolved ∧ a.kind.Grounded := by
  induction h with
  | declared hparent hkinds h ihparent ihkinds =>
    obtain ⟨hresolved, k, hk, declared, hdeclared, hkind⟩ := resolved_of_declare h ha
    exact ⟨hresolved, hkind ▸ hkinds k hk declared hdeclared⟩
  | built hbase hkinds h ihbase ihkinds =>
    rcases List.mem_append.mp ha with hmark | hmark
    · exact ⟨h.resolved hmark, hkinds a hmark⟩
    · obtain ⟨b, hb, hmark⟩ := h.parameterMarks hmark
      exact ihbase b hb (List.mem_append_right _ hmark)

/-- Every attribute that is attached to a class, to one of its properties or to a parameter of its
constructors is valid, and can be made into an instance unless its constructor stores an argument
into a slot that does not accept it. -/
theorem valid_and_materializes (h : c.Grounded) (ha : a ∈ c.attached) :
    a.Valid ∧ a.Materializes := by
  obtain ⟨hresolved, hkind⟩ := h.resolved ha
  exact ⟨hresolved.valid, hresolved.valid.materializes hkind.made⟩

end Grounded

/-- An attribute class with a field and a property. -/
def noteDeclaration : Declaration where
  name := "Note"
  kind := .metadata
  fields := [{ name := "level", ty := .int }]
  properties := [{ name := "Text", ty := .str }]
  constructors := [{ parameters := [("text", .str)], assignments := [("text", "Text")] }]

/-- The class of this declaration. -/
def note : Class :=
  (noteDeclaration.members ⟨0, 0⟩ "DynamicAssembly").mapOwn fun layer =>
    { layer with constructors := [⟨[⟨"text", .str, 0, []⟩], Code.storing none [(0, 1)]⟩] }

/-- A note with three overrides, two of them for one field. -/
def reminder : Attribute where
  kind := note
  target := 0
  arguments := [.str "draft"]
  overrides := [("level", .int 1), ("Text", .str "final"), ("level", .int 2)]

/-- A builder with a property that carries the note. -/
def memoBuilder : Builder where
  draft :=
    { registry := 0
      slotPrefix := "_"
      name := "Memo"
      container := "DynamicAssembly"
      base := none
      constructors := []
      properties := [⟨"Due", .int, "_due", [reminder]⟩]
      attributes := []
      isFrozen := false }
  built := none

/-- The class that this builder builds. -/
def memo : Class := memoBuilder.draft.compile ⟨0, 0⟩

theorem grounded_note : note.Grounded := by
  have hdeclared : Registry.declare noteDeclaration (.empty 0 {}) =
      .ok note ((Registry.empty 0 {}).allocate.2.register note) := rfl
  refine .declared (by rintro parent ⟨⟩) ?_ hdeclared
  intro k hk a ha
  obtain rfl := List.mem_singleton.mp hk
  cases ha

theorem grounded_memo : memo.Grounded := by
  have hstart : Builder.start (.empty 0 {}) "Memo" none none =
      .ok ⟨{ memoBuilder.draft with properties := [] }, none⟩ := rfl
  have hdefined := (Builder.Reachable.start hstart).call (.empty 0 {})
    (.defineWith "Due" .int fun _ =>
      .ofList [⟨note, reminder.arguments, some reminder.overrides⟩] : BuilderCall Ty Unit)
  have hbuilt : memo.BuiltOn none := .builder hdefined (.empty 0 {}) rfl
  refine .built (by rintro b ⟨⟩) ?_ hbuilt
  intro a ha
  obtain rfl : a = reminder := List.mem_singleton.mp ha
  exact grounded_note

/-- The note on the property is made with the last level and with the text that overrides its
argument. -/
theorem valid_and_materializes_reminder :
    memo.Grounded ∧ reminder ∈ memo.attached ∧
      ∃ left, reminder.instantiate = .ok left ∧ left.getMember "level" = .ok (.int 2) ∧
        left.getMember "Text" = .ok (.str "final") := by
  have hmem : reminder ∈ memo.attached := List.mem_singleton.mpr rfl
  have hmade : Instance.construct note 0 [.str "draft"] = .ok ⟨note, [.int 0, .str "draft"]⟩ := rfl
  obtain ⟨left, hleft, hoverrides⟩ :=
    (grounded_memo.valid_and_materializes hmem).2.success _ hmade
  refine ⟨grounded_memo, hmem, left, hleft, ?_, ?_⟩
  · exact hoverrides.last [("level", .int 1), ("Text", .str "final")] "level" _ [] rfl (by simp)
  · exact hoverrides.last [("level", .int 1)] "Text" _ [("level", .int 2)] rfl (by simp)

end Class

end ClassSynthesis
