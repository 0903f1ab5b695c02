import ClassSynthesis.Proofs.Builder.Opening
import ClassSynthesis.Proofs.Builder.Rollback

/-!
# What a builder was made to do

The log of a run of calls on a builder says what was done and was not taken back: which properties
were defined, and which attributes were attached to what, in the order of the calls. It is made from
the answers alone: of a call that fails nothing is logged, of a configuration the attachments that
were answered with success. The draft of the builder holds what the log says and nothing else.
-/

namespace ClassSynthesis

/-- Something that a builder was made to do. -/
inductive LogEntry where
  /-- A property was defined and got this handle. -/
  | defined (handle : PropertyHandle) (name : String) (ty : Ty)
  /-- An attribute was attached. -/
  | attached (target : Target) (made : Attribute)

namespace LogEntry

/-- The property that was defined. -/
def definition? : LogEntry → Option (PropertyHandle × String × Ty)
  | defined handle name ty => some (handle, name, ty)
  | attached _ _ => none

/-- The attribute that was attached to this target. -/
def attribute? (target : Target) : LogEntry → Option Attribute
  | defined _ _ _ => none
  | attached other made => if other = target then some made else none

end LogEntry

/-- The properties that were defined, in order. -/
def definitions (log : List LogEntry) : List (PropertyHandle × String × Ty) :=
  log.filterMap LogEntry.definition?

/-- The attributes that were attached to a target, in order. -/
def attributesOn (target : Target) (log : List LogEntry) : List Attribute :=
  log.filterMap (LogEntry.attribute? target)

/-- The entries for attachments to a target that were asked for and answered in this way. -/
def attachedEntries (target : Target) (attempts : List (Application × Except Error Unit)) :
    List LogEntry :=
  attempts.filterMap fun (a, outcome) =>
    match outcome with
    | .ok () => a.resolve.toOption.map (.attached target)
    | .error _ => none

/-- The attachments that a configuration asks for, each with its answer. -/
def Configuration.attempts {ρ : Type} (handle : PropertyHandle) :
    Configuration ρ → Draft → List (Application × Except Error Unit)
  | finish _ _, _ => []
  | attach a next, d =>
    let result := Draft.attach (.property handle) a d
    (a, outcomeOf result) :: (next (outcomeOf result)).attempts handle (stateOf result)

namespace Builder

variable {ρ : Type}

/-- What a call on a builder does and does not take back. -/
def entries (b : Builder) : BuilderCall Ty ρ → List LogEntry
  | .define name ty =>
    match define name ty b with
    | .ok handle _ => [.defined handle name ty]
    | .error _ _ => []
  | .defineWith name ty configuration =>
    match define name ty b, (defineWith name ty configuration b).1.outcome with
    | .ok handle left, .ok () =>
      .defined handle name ty :: attachedEntries (.property handle)
        ((configuration ⟨handle, name⟩).attempts handle left.draft)
    | _, _ => []
  | .configure handle configuration =>
    match (configure handle configuration b).1.report, b.draft.property? handle with
    | some _, some p => attachedEntries (.property handle)
        ((configuration ⟨handle, p.name⟩).attempts handle b.draft)
    | _, _ => []
  | .addAttribute a => attachedEntries .type [(a, outcomeOf (addAttribute a b))]
  | .build => []

/-- A builder after a run of calls, each with the registry as it is then. -/
def after (b : Builder) (calls : List (Registry × BuilderCall Ty ρ)) : Builder :=
  calls.foldl (fun b (r, call) => (next (b, r) call).1) b

/-- What a run of calls does and does not take back. -/
def log (b : Builder) : List (Registry × BuilderCall Ty ρ) → List LogEntry
  | [] => []
  | (r, call) :: rest => b.entries call ++ (next (b, r) call).1.log rest

end Builder

/-! ### Reading the log -/

section Log

variable {log more : List LogEntry}

@[simp] theorem definitions_append :
    definitions (log ++ more) = definitions log ++ definitions more := List.filterMap_append

@[simp] theorem attributesOn_append (target : Target) :
    attributesOn target (log ++ more) = attributesOn target log ++ attributesOn target more :=
  List.filterMap_append

@[simp] theorem definitions_defined (handle : PropertyHandle) (name : String) (ty : Ty) :
    definitions [.defined handle name ty] = [(handle, name, ty)] := rfl

@[simp] theorem definitions_attached (target : Target) (made : Attribute) :
    definitions [.attached target made] = [] := rfl

@[simp] theorem attributesOn_defined (target : Target) (handle : PropertyHandle) (name : String)
    (ty : Ty) : attributesOn target [.defined handle name ty] = [] := rfl

@[simp] theorem attributesOn_attached (target other : Target) (made : Attribute) :
    attributesOn target [.attached other made] = if other = target then [made] else [] := by
  by_cases h : other = target <;> simp [attributesOn, LogEntry.attribute?, h]

@[simp] theorem attachedEntries_error (target : Target) (a : Application) (e : Error) :
    attachedEntries target [(a, .error e)] = [] := rfl

theorem attachedEntries_ok (target : Target) {a : Application} {made : Attribute}
    (h : a.resolve = .ok made) :
    attachedEntries target [(a, .ok ())] = [.attached target made] := by
  simp [attachedEntries, h, Except.toOption]

theorem attachedEntries_cons (target : Target) (attempt : Application × Except Error Unit)
    (rest : List (Application × Except Error Unit)) :
    attachedEntries target (attempt :: rest) =
      attachedEntries target [attempt] ++ attachedEntries target rest := by
  rw [attachedEntries, ← List.singleton_append, List.filterMap_append]
  rfl

end Log

namespace Draft

/-- The draft holds what the log says, and nothing else. -/
structure Records (d : Draft) (log : List LogEntry) : Prop where
  /-- Its properties are the defined ones, in order, and their handles are their places. -/
  properties : definitions log = d.properties.mapIdx fun index p => (⟨index⟩, p.name, p.ty)
  /-- No two of them have one name. -/
  distinct : (d.properties.map (·.name)).Nodup
  /-- Their slots are named after them. -/
  slotNames : d.properties.map (·.slotName) =
    d.properties.map fun p => slotNameOf d.slotPrefix p.name
  /-- The attributes of each of them are those that were attached to it, in order; nothing was
  attached to places beyond. -/
  attributes : ∀ index : Nat, attributesOn (.property ⟨index⟩) log =
    ((d.properties[index]?).map (·.attributes)).getD []
  /-- The attributes of the type are those that were attached to it, in order. -/
  own : attributesOn .type log = d.attributes

/-- Only a name that no property has yet may be defined. -/
theorem name_ne_of_checkDefine {d : Draft} {name : String} (h : d.checkDefine name = .ok ()) :
    ∀ p ∈ d.properties, p.name ≠ name := by
  have hunused : ¬ (d.handle? name).isSome := by
    intro hused
    rw [checkDefine, hused] at h
    split at h
    · cases h
    · split at h <;> cases h
  simpa [handle?] using hunused

/-- What may be attached has been resolved, and its target is there. -/
theorem checkAttach_eq_ok {d : Draft} {target : Target} {a : Application} {made : Attribute}
    (h : d.checkAttach target a = .ok made) :
    d.checkTarget target = .ok () ∧ a.resolve = .ok made := by
  unfold checkAttach at h
  split at h
  · cases h
  · cases hthere : d.checkTarget target with
    | error e => simp [hthere] at h
    | ok passed => exact ⟨rfl, by simpa [hthere] using h⟩

/-- An attribute goes to the property at the place of its target, and to no other. -/
theorem getElem?_addAttribute (d : Draft) (target : Target) (made : Attribute) (index : Nat) :
    (d.addAttribute target made).properties[index]? = (d.properties[index]?).map fun p =>
      if target = .property ⟨index⟩ then { p with attributes := p.attributes ++ [made] }
      else p := by
  cases target with
  | type => simp [addAttribute]
  | property handle =>
    obtain ⟨place⟩ := handle
    simp [addAttribute, List.getElem?_modify]

/-- Attributes do not matter to what else is told of properties. -/
theorem mapIdx_addAttribute {α : Type} (d : Draft) (target : Target) (made : Attribute)
    (tell : Nat → DraftProperty → α)
    (htell : ∀ index p attributes, tell index { p with attributes } = tell index p) :
    (d.addAttribute target made).properties.mapIdx tell = d.properties.mapIdx tell := by
  apply List.ext_getElem?
  intro index
  simp only [List.getElem?_mapIdx, getElem?_addAttribute, Option.map_map]
  congr 1
  funext p
  simp only [Function.comp]
  split
  · exact htell index p _
  · rfl

/-- The same where places are not told. -/
theorem map_addAttribute {α : Type} (d : Draft) (target : Target) (made : Attribute)
    (tell : DraftProperty → α)
    (htell : ∀ p attributes, tell { p with attributes } = tell p) :
    (d.addAttribute target made).properties.map tell = d.properties.map tell := by
  have hplain (ps : List DraftProperty) : ps.mapIdx (fun _ => tell) = ps.map tell :=
    List.ext_getElem? fun index => by simp
  rw [← hplain, ← hplain]
  exact d.mapIdx_addAttribute target made (fun _ => tell) fun _ => htell

namespace Records

variable {d : Draft} {log : List LogEntry}

/-- A property that is defined comes to the end of both. -/
theorem define (h : d.Records log) {name : String} (hnew : d.checkDefine name = .ok ()) (ty : Ty) :
    (d.addProperty name ty).Records (log ++ [.defined d.nextHandle name ty]) where
  properties := by
    simp [h.properties, addProperty, nextHandle, List.mapIdx_append]
  distinct := by
    have hunused := name_ne_of_checkDefine hnew
    rw [addProperty, List.map_append, List.nodup_append]
    refine ⟨h.distinct, by simp, ?_⟩
    simpa using hunused
  slotNames := by
    simp [addProperty, h.slotNames]
  attributes := by
    intro index
    rw [attributesOn_append, h.attributes, attributesOn_defined, List.append_nil, addProperty,
      List.getElem?_append]
    split
    · rfl
    · next hbeyond =>
      rw [List.getElem?_eq_none (Nat.le_of_not_lt hbeyond)]
      cases index - d.properties.length <;> rfl
  own := by
    rw [attributesOn_append, attributesOn_defined, List.append_nil, h.own]
    rfl

/-- An attribute that is attached comes to the end of both. -/
theorem attach (h : d.Records log) {target : Target} (hthere : d.checkTarget target = .ok ())
    (made : Attribute) :
    (d.addAttribute target made).Records (log ++ [.attached target made]) where
  properties := by
    rw [definitions_append, definitions_attached, List.append_nil, h.properties]
    exact (d.mapIdx_addAttribute target made _ fun _ _ _ => rfl).symm
  distinct := by
    rw [d.map_addAttribute target made _ fun _ _ => rfl]
    exact h.distinct
  slotNames := by
    have hbefore : (d.addAttribute target made).slotPrefix = d.slotPrefix := by
      cases target <;> rfl
    rw [hbefore, d.map_addAttribute target made _ fun _ _ => rfl,
      d.map_addAttribute target made _ fun _ _ => rfl]
    exact h.slotNames
  attributes := by
    intro index
    rw [attributesOn_append, attributesOn_attached, h.attributes, getElem?_addAttribute]
    by_cases htarget : target = .property ⟨index⟩
    · subst htarget
      have hsome : (d.properties[index]?).isSome := by
        by_cases hp : (d.property? ⟨index⟩).isSome
        · exact hp
        · simp [checkTarget, hp] at hthere
      obtain ⟨p, hp⟩ := Option.isSome_iff_exists.mp hsome
      simp [hp]
    · simp [htarget]
  own := by
    rw [attributesOn_append, attributesOn_attached, h.own]
    cases target <;> simp [addAttribute]

/-- An attachment is logged if it succeeds. -/
theorem attempt (h : d.Records log) (target : Target) (a : Application) :
    (stateOf (Draft.attach target a d)).Records
      (log ++ attachedEntries target [(a, outcomeOf (Draft.attach target a d))]) := by
  cases hcheck : d.checkAttach target a with
  | error e =>
    have hrun : Draft.attach target a d = .error e d := by rw [Draft.attach, hcheck]
    simpa [hrun, stateOf, outcomeOf] using h
  | ok made =>
    have hrun : Draft.attach target a d = .ok () (d.addAttribute target made) := by
      rw [Draft.attach, hcheck]
    obtain ⟨hthere, hmade⟩ := checkAttach_eq_ok hcheck
    rw [hrun, outcomeOf, attachedEntries_ok target hmade]
    exact h.attach hthere made

/-- A draft that is frozen holds what it held before. -/
theorem freeze (h : d.Records log) : { d with isFrozen := true }.Records log :=
  ⟨h.properties, h.distinct, h.slotNames, h.attributes, h.own⟩

/-- A draft that was just opened holds nothing. -/
theorem start {r : Registry} {name : String} {container : Option String} {base : Option Class}
    (h : Draft.start r name container base = .ok d) : d.Records [] := by
  unfold Draft.start at h
  split at h
  · obtain rfl := Except.ok.inj h
    exact ⟨rfl, List.nodup_nil, rfl, fun _ => rfl, rfl⟩
  · cases h

end Records

end Draft

namespace Configuration

variable {ρ : Type}

/-- A configuration goes on from one attachment with what that answered and left. -/
theorem run_attach (handle : PropertyHandle) (a : Application)
    (next : Except Error Unit → Configuration ρ) (d : Draft) :
    (attach a next).run handle d =
      (next (outcomeOf (Draft.attach (.property handle) a d))).run handle
        (stateOf (Draft.attach (.property handle) a d)) := by
  rw [run]
  cases Draft.attach (.property handle) a d <;> rfl

/-- What a configuration attaches is logged. -/
theorem records_run (configuration : Configuration ρ) (handle : PropertyHandle) {d : Draft}
    {log : List LogEntry} (h : d.Records log) :
    (configuration.run handle d).2.Records
      (log ++ attachedEntries (.property handle) (configuration.attempts handle d)) := by
  induction configuration generalizing d log with
  | finish outcome report => simpa [attempts, attachedEntries, run] using h
  | attach a next ih =>
    rw [run_attach, attempts, attachedEntries_cons, ← List.append_assoc]
    exact ih _ (h.attempt (.property handle) a)

end Configuration

namespace Builder

variable {ρ : Type} {b : Builder} {log : List LogEntry}

/-- A definition with a configuration that succeeds leaves what the configuration leaves. -/
theorem defineWith_eq_ok {name : String} {ty : Ty} {configuration : PropertyScope → Configuration ρ}
    {handle : PropertyHandle} {left : Builder} (hdefine : define name ty b = .ok handle left)
    (houtcome : (defineWith name ty configuration b).1.outcome = .ok ()) :
    (defineWith name ty configuration b).2 =
      { left with draft := ((configuration ⟨handle, name⟩).run handle left.draft).2 } := by
  unfold defineWith at houtcome ⊢
  simp only [hdefine] at houtcome ⊢
  generalize (configuration ⟨handle, name⟩).run handle left.draft = result at houtcome ⊢
  obtain ⟨⟨outcome, report⟩, draft⟩ := result
  cases outcome with
  | ok passed => rfl
  | error e => cases houtcome

theorem records_define (h : b.draft.Records log) (name : String) (ty : Ty) :
    (stateOf (define name ty b)).draft.Records
      (log ++ b.entries (.define name ty : BuilderCall Ty ρ)) := by
  cases hrun : define name ty b with
  | error e left =>
    obtain rfl := define_eq_error hrun
    simpa [entries, hrun, stateOf] using h
  | ok handle left =>
    obtain ⟨hnew, rfl, rfl⟩ := define_eq_ok hrun
    rw [entries, hrun]
    exact h.define hnew ty

theorem records_defineWith (h : b.draft.Records log) (name : String) (ty : Ty)
    (configuration : PropertyScope → Configuration ρ) :
    (defineWith name ty configuration b).2.draft.Records
      (log ++ b.entries (.defineWith name ty configuration)) := by
  cases houtcome : (defineWith name ty configuration b).1.outcome with
  | error e =>
    rw [defineWith_eq_self houtcome]
    cases hrun : define name ty b <;> simpa [entries, houtcome, hrun] using h
  | ok passed =>
    cases hrun : define name ty b with
    | error e left => simp [defineWith, hrun] at houtcome
    | ok handle left =>
      obtain ⟨hnew, rfl, rfl⟩ := define_eq_ok hrun
      rw [defineWith_eq_ok hrun houtcome, entries, hrun, houtcome, List.append_cons]
      exact (configuration ⟨b.draft.nextHandle, name⟩).records_run b.draft.nextHandle
        (h.define hnew ty)

theorem records_configure (h : b.draft.Records log) (handle : PropertyHandle)
    (configuration : PropertyScope → Configuration ρ) :
    (configure handle configuration b).2.draft.Records
      (log ++ b.entries (.configure handle configuration)) := by
  cases hreport : (configure handle configuration b).1.report with
  | none =>
    rw [configure_eq_self hreport]
    simpa [entries, hreport] using h
  | some report =>
    unfold configure at hreport ⊢
    cases hb : b.checkUnbuilt with
    | error e => simp [hb] at hreport
    | ok passed =>
      cases hp : b.draft.property? handle with
      | none => simp [hb, hp] at hreport
      | some p =>
        have hrecords := (configuration ⟨handle, p.name⟩).records_run handle h
        simp only [hb, hp] at hreport
        simpa [entries, configure, hb, hp, hreport] using hrecords

theorem records_addAttribute (h : b.draft.Records log) (a : Application) :
    (stateOf (addAttribute a b)).draft.Records
      (log ++ b.entries (.addAttribute a : BuilderCall Ty ρ)) := by
  have hattempt := h.attempt .type a
  rw [entries, addAttribute, onDraft]
  cases hb : b.checkUnbuilt with
  | error e => simpa [stateOf, outcomeOf] using h
  | ok passed => cases hrun : Draft.attach .type a b.draft <;> rwa [hrun] at hattempt

theorem records_build (h : b.draft.Records log) (r : Registry) :
    (stateOf (build (b, r))).1.draft.Records log := by
  unfold build Draft.realize
  by_cases hbuilt : b.isBuilt
  · simpa [hbuilt, stateOf] using h
  · by_cases hfrozen : b.draft.isFrozen
    · simpa [hbuilt, hfrozen, stateOf] using h
    · simpa [hbuilt, hfrozen, stateOf] using h.freeze

/-- What the draft holds, and what a call adds to that, is what the log with the entries of the call
says. -/
theorem records_next (h : b.draft.Records log) (r : Registry) (call : BuilderCall Ty ρ) :
    (next (b, r) call).1.draft.Records (log ++ b.entries call) := by
  cases call with
  | define name ty => exact records_define h name ty
  | defineWith name ty configuration => exact records_defineWith h name ty configuration
  | configure handle configuration => exact records_configure h handle configuration
  | addAttribute a => exact records_addAttribute h a
  | build => simpa [next, entries] using records_build h r

/-- After a run of calls the draft holds what their log says. -/
theorem records_after (h : b.draft.Records log) (calls : List (Registry × BuilderCall Ty ρ)) :
    (b.after calls).draft.Records (log ++ b.log calls) := by
  induction calls generalizing b log with
  | nil => simpa [after, Builder.log] using h
  | cons first rest ih =>
    obtain ⟨r, call⟩ := first
    rw [Builder.log, ← List.append_assoc]
    exact ih (records_next h r call)

/-- No run of calls touches what the builder was opened with. -/
theorem opening_after (b : Builder) (calls : List (Registry × BuilderCall Ty ρ)) :
    (b.after calls).draft.opening = b.draft.opening := by
  induction calls generalizing b with
  | nil => rfl
  | cons first rest ih =>
    obtain ⟨r, call⟩ := first
    exact (ih (next (b, r) call).1).trans (opening_next (b, r) call)

end Builder

end ClassSynthesis
