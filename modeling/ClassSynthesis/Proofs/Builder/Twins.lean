import ClassSynthesis.Class.Shape
import ClassSynthesis.Proofs.Builder.Lifecycle

/-!
# Twin builders

A draft says where it is, in which registry and container and with which prefix for the names of
slots. This is passed on to the class, and nothing else depends on it. So two builders that differ
in where they are, and in nothing else, give the same answers to the same calls and go on to differ
in nothing else. The classes that they build have one shape.
-/

namespace ClassSynthesis

/-- What a property of a draft is, apart from the name of its slot. -/
def DraftProperty.content (p : DraftProperty) : String × Ty × List Attribute :=
  (p.name, p.ty, p.attributes)

namespace Draft

/-- Two drafts differ in where they are, and in nothing else. -/
structure Twin (d d' : Draft) : Prop where
  /-- They have the same name. -/
  name : d.name = d'.name
  /-- They derive from the same class. -/
  base : d.base = d'.base
  /-- They have the same constructors. -/
  constructors : d.constructors = d'.constructors
  /-- They have the same properties, but the slots may have other names. -/
  properties : d.properties.map (·.content) = d'.properties.map (·.content)
  /-- They have the same attributes. -/
  attributes : d.attributes = d'.attributes
  /-- They are frozen both or none. -/
  isFrozen : d.isFrozen = d'.isFrozen

/-- Two drafts that are opened under one name on one base differ in where they are only. -/
theorem twin_of_start {r r' : Registry} {name : String} {container container' : Option String}
    {base : Option Class} {d d' : Draft} (h : start r name container base = .ok d)
    (h' : start r' name container' base = .ok d') : d.Twin d' := by
  unfold start at h h'
  by_cases hname : Text.isIdentifier name
  · rw [if_pos hname] at h h'
    rw [← Except.ok.inj h, ← Except.ok.inj h']
    exact ⟨rfl, rfl, rfl, rfl, rfl, rfl⟩
  · rw [if_neg hname] at h
    cases h

namespace Twin

variable {d d' : Draft}

theorem property?_eq (h : d.Twin d') (handle : PropertyHandle) :
    (d.property? handle).map (·.content) = (d'.property? handle).map (·.content) := by
  have hproperties := congrArg (·[handle.index]?) h.properties
  simpa [property?] using hproperties

/-- A handle stands for a property in both drafts or in none. -/
theorem isSome_property? (h : d.Twin d') (handle : PropertyHandle) :
    (d.property? handle).isSome = (d'.property? handle).isSome := by
  simpa using congrArg Option.isSome (h.property?_eq handle)

theorem length_eq (h : d.Twin d') : d.properties.length = d'.properties.length := by
  simpa using congrArg List.length h.properties

theorem handle?_eq (h : d.Twin d') (name : String) : d.handle? name = d'.handle? name := by
  have hsearch (ps : List DraftProperty) : ps.findIdx? (·.name == name) =
      (ps.map (·.content)).findIdx? (·.1 == name) := by
    rw [List.findIdx?_map]
    rfl
  rw [handle?, handle?, hsearch, hsearch, h.properties]

theorem checkDefine_eq (h : d.Twin d') (name : String) :
    d.checkDefine name = d'.checkDefine name := by
  rw [checkDefine, checkDefine, h.isFrozen, h.name, h.handle?_eq]

theorem unknownHandle_eq (h : d.Twin d') (handle : PropertyHandle) :
    d.unknownHandle handle = d'.unknownHandle handle := by
  rw [unknownHandle, unknownHandle, h.name]

theorem checkAttach_eq (h : d.Twin d') (target : Target) (a : Application) :
    d.checkAttach target a = d'.checkAttach target a := by
  have htarget : d.checkTarget target = d'.checkTarget target := by
    cases target with
    | type => rfl
    | property handle => simp only [checkTarget, h.isSome_property?, h.unknownHandle_eq]
  rw [checkAttach, checkAttach, h.isFrozen, h.name, htarget]

/-- Twins with one more property are twins. -/
theorem addProperty (h : d.Twin d') (name : String) (ty : Ty) :
    (d.addProperty name ty).Twin (d'.addProperty name ty) :=
  { h with
    properties := by
      rw [Draft.addProperty, Draft.addProperty, List.map_append, List.map_append, h.properties]
      rfl }

/-- Twins without their last property are twins. -/
theorem removeLast (h : d.Twin d') (handle : PropertyHandle) :
    (d.removeLast handle).Twin (d'.removeLast handle) := by
  rw [Draft.removeLast, Draft.removeLast, h.length_eq]
  split
  · refine { h with properties := ?_ }
    simp only [List.map_dropLast, h.properties]
  · exact h

/-- Twins with one more attribute are twins. -/
theorem addAttribute (h : d.Twin d') (target : Target) (made : Attribute) :
    (d.addAttribute target made).Twin (d'.addAttribute target made) := by
  have hattached (e : Draft) (index : Nat) :
      ((e.addAttribute target made).properties.map (·.content))[index]? =
        ((e.properties.map (·.content))[index]?).map fun (name, ty, attributes) =>
          if target = .property ⟨index⟩ then (name, ty, attributes ++ [made])
          else (name, ty, attributes) := by
    simp only [List.getElem?_map, getElem?_addAttribute, Option.map_map]
    congr 1
    funext p
    simp only [Function.comp, DraftProperty.content]
    split <;> rfl
  have hproperties : (d.addAttribute target made).properties.map (·.content) =
      (d'.addAttribute target made).properties.map (·.content) :=
    List.ext_getElem? fun index => by rw [hattached, hattached, h.properties]
  cases target with
  | type =>
    exact { h with
      properties := hproperties
      attributes := congrArg (· ++ [made]) h.attributes }
  | property handle => exact { h with properties := hproperties }

theorem freeze (h : d.Twin d') : { d with isFrozen := true }.Twin { d' with isFrozen := true } :=
  { h with isFrozen := rfl }

end Twin

/-- The shape of a compiled draft is what the draft is, apart from where it is. -/
theorem shape_compile (d : Draft) (key : ClassKey) :
    (d.compile key).shape =
      { name := d.name
        base := d.baseClass.map (·.name)
        properties := (d.properties.map (·.content)).map fun (name, ty, attributes) =>
          { name, ty := ty.name, readable := true, writable := true
            attributes := attributes.map (·.shape) }
        constructors := d.constructors.map fun f => f.parameters.map (·.shape)
        attributes := d.attributes.map (·.shape) } := by
  have hheading := d.heading_compile key
  have hname : (d.compile key).name = d.name := congrArg Layer.name hheading
  have hcompiled : (d.compile key).constructors = d.constructors.map Forwarding.compile :=
    congrArg Layer.constructors hheading
  have hconstructors : ((d.compile key).constructors.map fun k => k.parameters.map (·.shape)) =
      d.constructors.map fun f => f.parameters.map (·.shape) := by
    rw [hcompiled, List.map_map]
    rfl
  have hattributes : (d.compile key).own.attributes = d.attributes :=
    congrArg Layer.attributes hheading
  have hproperties : (d.compile key).own.properties.map (·.shape) =
      (d.properties.map (·.content)).map fun (name, ty, attributes) =>
        { name, ty := ty.name, readable := true, writable := true
          attributes := attributes.map (·.shape) } := by
    rw [d.properties_compile]
    apply List.ext_getElem?
    intro index
    simp [DraftProperty.compile, DraftProperty.content, Property.shape, Function.comp_def]
  rw [Class.shape, hname, d.parent_compile, hproperties, hconstructors, hattributes]

/-- Twins are compiled to classes of one shape, whatever the numbers of these are. -/
theorem Twin.shape_compile_eq {d d' : Draft} (h : d.Twin d') (key key' : ClassKey) :
    (d.compile key).shape = (d'.compile key').shape := by
  rw [shape_compile, shape_compile, baseClass, baseClass, h.name, h.base, h.properties,
    h.constructors, h.attributes]

/-- The action answers twins in the same way and leaves them twins. -/
def TreatsAlike {α : Type} (action : EStateM Error Draft α) : Prop :=
  ∀ {d d' : Draft}, d.Twin d' → outcomeOf (action d) = outcomeOf (action d') ∧
    (stateOf (action d)).Twin (stateOf (action d'))

theorem treatsAlike_define (name : String) (ty : Ty) : TreatsAlike (define name ty) := by
  intro d d' h
  rw [define, define, h.checkDefine_eq name]
  cases d'.checkDefine name with
  | error e => exact ⟨rfl, h⟩
  | ok passed =>
    rw [h.length_eq]
    exact ⟨rfl, h.addProperty name ty⟩

theorem treatsAlike_attach (target : Target) (a : Application) : TreatsAlike (attach target a) := by
  intro d d' h
  rw [attach, attach, h.checkAttach_eq target a]
  cases d'.checkAttach target a with
  | error e => exact ⟨rfl, h⟩
  | ok made => exact ⟨rfl, h.addAttribute target made⟩

end Draft

/-- A configuration goes the same way on twins. -/
theorem Configuration.run_twin {ρ : Type} (configuration : Configuration ρ)
    (handle : PropertyHandle) {d d' : Draft} (h : d.Twin d') :
    (configuration.run handle d).1 = (configuration.run handle d').1 ∧
      (configuration.run handle d).2.Twin (configuration.run handle d').2 := by
  induction configuration generalizing d d' with
  | finish outcome report => exact ⟨rfl, h⟩
  | attach a next ih =>
    obtain ⟨houtcome, hleft⟩ := Draft.treatsAlike_attach (.property handle) a h
    rw [run_attach, run_attach, houtcome]
    exact ih _ hleft

/-- Two answers are the same, except that they may be two classes of one shape. -/
inductive BuilderReply.Alike {ρ : Type} : BuilderReply ρ → BuilderReply ρ → Prop
  /-- They are the same. -/
  | same (reply : BuilderReply ρ) : Alike reply reply
  /-- They are classes of one shape. -/
  | built {c d : Class} (h : c.shape = d.shape) : Alike (.built (.ok c)) (.built (.ok d))

namespace Builder

variable {ρ : Type}

/-- Two builders differ in where they are and in the class that they have built, if they have built
one, and in nothing else. -/
structure Twin (b b' : Builder) : Prop where
  /-- Their drafts are twins. -/
  draft : b.draft.Twin b'.draft
  /-- Both have built their classes or none has. -/
  built : b.isBuilt = b'.isBuilt

/-- Two builders that are opened under one name on one base are twins. -/
theorem twin_of_start {r r' : Registry} {name : String} {container container' : Option String}
    {base : Option Class} {b b' : Builder} (h : start r name container base = .ok b)
    (h' : start r' name container' base = .ok b') : b.Twin b' where
  draft := Draft.twin_of_start (draft_of_start h) (draft_of_start h')
  built := (marks_of_start h).1.trans (marks_of_start h').1.symm

namespace Twin

variable {b b' : Builder}

theorem checkUnbuilt_eq (h : b.Twin b') : b.checkUnbuilt = b'.checkUnbuilt := by
  rw [checkUnbuilt, checkUnbuilt, h.built, h.draft.name]

/-- What treats drafts alike treats their builders alike. -/
theorem onDraft {α : Type} {action : EStateM Error Draft α} (haction : Draft.TreatsAlike action)
    (h : b.Twin b') :
    outcomeOf (onDraft action b) = outcomeOf (onDraft action b') ∧
      (stateOf (onDraft action b)).Twin (stateOf (onDraft action b')) := by
  obtain ⟨houtcome, hleft⟩ := haction h.draft
  rw [Builder.onDraft, Builder.onDraft, h.checkUnbuilt_eq]
  cases b'.checkUnbuilt with
  | error e => exact ⟨rfl, h⟩
  | ok passed =>
    generalize action b.draft = result at houtcome hleft
    generalize action b'.draft = result' at houtcome hleft
    cases result <;> cases result' <;> simp only [outcomeOf, stateOf] at houtcome hleft ⊢
    · exact ⟨houtcome, ⟨hleft, h.built⟩⟩
    · cases houtcome
    · cases houtcome
    · exact ⟨houtcome, ⟨hleft, h.built⟩⟩

/-- A definition with a configuration goes the same way on twins. -/
theorem defineWith (h : b.Twin b') (name : String) (ty : Ty)
    (configuration : PropertyScope → Configuration ρ) :
    (defineWith name ty configuration b).1 = (defineWith name ty configuration b').1 ∧
      (defineWith name ty configuration b).2.Twin (defineWith name ty configuration b').2 := by
  obtain ⟨houtcome, hleft⟩ := h.onDraft (Draft.treatsAlike_define name ty)
  rw [Builder.defineWith, Builder.defineWith, define]
  generalize Builder.onDraft (Draft.define name ty) b = result at houtcome hleft
  generalize Builder.onDraft (Draft.define name ty) b' = result' at houtcome hleft
  cases result with
  | error e left =>
    cases result' with
    | ok handle' left' => cases houtcome
    | error e' left' =>
      obtain rfl : e = e' := by simpa [outcomeOf] using houtcome
      exact ⟨rfl, hleft⟩
  | ok handle left =>
    cases result' with
    | error e' left' => cases houtcome
    | ok handle' left' =>
      obtain rfl : handle = handle' := by simpa [outcomeOf] using houtcome
      obtain ⟨hsame, hrun⟩ := (configuration ⟨handle, name⟩).run_twin handle hleft.draft
      simp only [stateOf] at hrun hsame ⊢
      generalize (configuration ⟨handle, name⟩).run handle left.draft = ran at hsame hrun
      generalize (configuration ⟨handle, name⟩).run handle left'.draft = ran' at hsame hrun
      obtain ⟨⟨outcome, report⟩, draft⟩ := ran
      obtain ⟨configured, draft'⟩ := ran'
      simp only at hsame hrun
      subst hsame
      cases outcome with
      | ok passed => exact ⟨rfl, ⟨hrun, hleft.built⟩⟩
      | error e => exact ⟨rfl, ⟨hrun.removeLast handle, hleft.built⟩⟩

/-- So does a configuration of a property that is there, which it is on both or on none. -/
theorem configure (h : b.Twin b') (handle : PropertyHandle)
    (configuration : PropertyScope → Configuration ρ) :
    (configure handle configuration b).1 = (configure handle configuration b').1 ∧
      (configure handle configuration b).2.Twin (configure handle configuration b').2 := by
  have hproperty := h.draft.property?_eq handle
  rw [Builder.configure, Builder.configure, h.checkUnbuilt_eq]
  cases b'.checkUnbuilt with
  | error e => exact ⟨rfl, h⟩
  | ok passed =>
    cases hp : b.draft.property? handle with
    | none =>
      cases hp' : b'.draft.property? handle with
      | some p' => simp [hp, hp'] at hproperty
      | none => exact ⟨by rw [h.draft.unknownHandle_eq], h⟩
    | some p =>
      cases hp' : b'.draft.property? handle with
      | none => simp [hp, hp'] at hproperty
      | some p' =>
        have hname : p.name = p'.name := by
          simp only [hp, hp', Option.map_some, Option.some.injEq] at hproperty
          exact congrArg Prod.fst hproperty
        obtain ⟨hsame, hrun⟩ := (configuration ⟨handle, p'.name⟩).run_twin handle h.draft
        simp only [hname]
        exact ⟨hsame, ⟨hrun, h.built⟩⟩

/-- Twins build classes of one shape, each in its own registry, or fail in the same way. -/
theorem build (h : b.Twin b') (r r' : Registry) :
    (BuilderReply.built (ρ := ρ) (outcomeOf (build (b, r)))).Alike
        (.built (outcomeOf (build (b', r')))) ∧
      (stateOf (build (b, r))).1.Twin (stateOf (build (b', r'))).1 := by
  rw [Builder.build, Builder.build, h.built]
  cases hbuilt : b'.isBuilt with
  | true =>
    simp only [h.draft.name, ite_true]
    exact ⟨.same _, h⟩
  | false =>
    simp only [Bool.false_eq_true, ite_false, Draft.realize, h.draft.isFrozen]
    cases b'.draft.isFrozen with
    | true =>
      simp only [h.draft.name, ite_true]
      exact ⟨.same _, h⟩
    | false =>
      exact ⟨.built (h.draft.shape_compile_eq _ _), ⟨h.draft.freeze, rfl⟩⟩

/-- Twins answer a call alike and are twins after it, whatever state their registries are in. -/
theorem next (h : b.Twin b') (r r' : Registry) (call : BuilderCall Ty ρ) :
    (reply (b, r) call).Alike (reply (b', r') call) ∧
      (next (b, r) call).1.Twin (next (b', r') call).1 := by
  cases call with
  | define name ty =>
    obtain ⟨houtcome, hleft⟩ := h.onDraft (Draft.treatsAlike_define name ty)
    rw [reply, reply, define, houtcome]
    exact ⟨.same _, hleft⟩
  | defineWith name ty configuration =>
    obtain ⟨hsame, hleft⟩ := h.defineWith name ty configuration
    rw [reply, reply, hsame]
    exact ⟨.same _, hleft⟩
  | configure handle configuration =>
    obtain ⟨hsame, hleft⟩ := h.configure handle configuration
    rw [reply, reply, hsame]
    exact ⟨.same _, hleft⟩
  | addAttribute a =>
    obtain ⟨houtcome, hleft⟩ := h.onDraft (Draft.treatsAlike_attach .type a)
    rw [reply, reply, addAttribute, houtcome]
    exact ⟨.same _, hleft⟩
  | build => exact h.build r r'

end Twin

end Builder

end ClassSynthesis
