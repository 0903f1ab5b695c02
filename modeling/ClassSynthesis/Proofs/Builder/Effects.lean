import ClassSynthesis.Proofs.Builder.Replay

/-!
# What a call does to a draft

A call that succeeds has one effect on the draft of its builder. A definition puts a property at the
end, an attachment puts an attribute at the end of those of its target, and a configuration does so
for every attribute that it attaches, all of them to its own property. Nothing else changes.
-/

namespace ClassSynthesis

variable {ρ : Type}

/-- The attributes that a configuration attaches to its property, in order. -/
def Configuration.attachments (handle : PropertyHandle) (configuration : Configuration ρ)
    (d : Draft) : List Attribute :=
  attributesOn (.property handle)
    (attachedEntries (.property handle) (configuration.attempts handle d))

/-- The call is to build the class. -/
def BuilderCall.isBuild {τ : Type} : BuilderCall τ ρ → Bool
  | .build => true
  | _ => false

namespace Draft

/-- Put attributes at the end of those of a property. -/
def addAttributes (d : Draft) (handle : PropertyHandle) (made : List Attribute) : Draft :=
  { d with
    properties := d.properties.modify handle.index fun p =>
      { p with attributes := p.attributes ++ made } }

/-- What a call that succeeds makes of a draft. -/
def carryOut (d : Draft) : BuilderCall Ty ρ → Draft
  | .define name ty => d.addProperty name ty
  | .defineWith name ty configuration =>
    let defined := d.addProperty name ty
    defined.addAttributes d.nextHandle
      ((configuration ⟨d.nextHandle, name⟩).attachments d.nextHandle defined)
  | .configure handle configuration =>
    match d.property? handle with
    | some p => d.addAttributes handle ((configuration ⟨handle, p.name⟩).attachments handle d)
    | none => d
  | .addAttribute a => { d with attributes := d.attributes ++ a.resolve.toOption.toList }
  | .build => { d with isFrozen := true }

@[simp] theorem addAttributes_nil (d : Draft) (handle : PropertyHandle) :
    d.addAttributes handle [] = d := by
  have hsame : (fun p : DraftProperty => { p with attributes := p.attributes ++ [] }) = id :=
    funext fun p => by simp
  rw [addAttributes, hsame, List.modify_id]

theorem addAttributes_append (d : Draft) (handle : PropertyHandle) (made more : List Attribute) :
    d.addAttributes handle (made ++ more) =
      (d.addAttributes handle made).addAttributes handle more := by
  simp [addAttributes, List.modify_modify_eq, Function.comp_def]

/-- An attachment that succeeds puts the resolved attribute at the end of those of its target. -/
theorem attach_eq_ok {target : Target} {a : Application} {d left : Draft}
    (h : attach target a d = .ok () left) :
    ∃ made, d.checkTarget target = .ok () ∧ a.resolve = .ok made ∧
      left = d.addAttribute target made := by
  unfold attach at h
  cases hcheck : d.checkAttach target a with
  | error e => simp [hcheck] at h
  | ok made =>
    obtain ⟨hthere, hmade⟩ := checkAttach_eq_ok hcheck
    simp only [hcheck, EStateM.Result.ok.injEq, true_and] at h
    exact ⟨made, hthere, hmade, h.symm⟩

end Draft

namespace Configuration

/-- What a configuration attaches first comes before what it attaches after that. -/
theorem attachments_attach (handle : PropertyHandle) (a : Application)
    (next : Except Error Unit → Configuration ρ) (d : Draft) :
    (attach a next).attachments handle d =
      attributesOn (.property handle) (attachedEntries (.property handle)
        [(a, outcomeOf (Draft.attach (.property handle) a d))]) ++
      (next (outcomeOf (Draft.attach (.property handle) a d))).attachments handle
        (stateOf (Draft.attach (.property handle) a d)) := by
  rw [attachments, attempts, attachedEntries_cons, attributesOn_append]
  rfl

/-- A configuration puts what it attaches at the end of the attributes of its property, and leaves
everything else alone. -/
theorem run_eq (configuration : Configuration ρ) (handle : PropertyHandle) (d : Draft) :
    (configuration.run handle d).2 =
      d.addAttributes handle (configuration.attachments handle d) := by
  induction configuration generalizing d with
  | finish outcome report => exact (d.addAttributes_nil handle).symm
  | attach a next ih =>
    rw [run_attach, attachments_attach, ih]
    cases hattach : Draft.attach (.property handle) a d with
    | error e left =>
      obtain rfl := Draft.attach_eq_error hattach
      simp [outcomeOf, stateOf, attributesOn]
    | ok passed left =>
      obtain ⟨made, -, hmade, rfl⟩ := Draft.attach_eq_ok hattach
      rw [outcomeOf, attachedEntries_ok _ hmade, attributesOn_attached, if_pos rfl,
        Draft.addAttributes_append]
      rfl

end Configuration

namespace Builder

/-- What succeeds on the builder has succeeded on its draft. -/
theorem onDraft_eq_ok {α : Type} {action : EStateM Error Draft α} {b left : Builder} {a : α}
    (h : onDraft action b = .ok a left) :
    ∃ d, action b.draft = .ok a d ∧ left = { b with draft := d } := by
  unfold onDraft at h
  cases hb : b.checkUnbuilt with
  | error e => simp [hb] at h
  | ok passed =>
    cases hrun : action b.draft with
    | error e d => simp [hb, hrun] at h
    | ok a' d =>
      simp only [hb, hrun, EStateM.Result.ok.injEq] at h
      exact ⟨d, by rw [h.1], h.2.symm⟩

/-- A definition that succeeds has its effect on the draft. -/
theorem carryOut_define {name : String} {ty : Ty} {b left : Builder} {handle : PropertyHandle}
    (h : define name ty b = .ok handle left) :
    left = { b with draft := b.draft.carryOut (.define name ty : BuilderCall Ty ρ) } :=
  (define_eq_ok h).2.2

/-- So has a definition with a configuration that succeeds. -/
theorem carryOut_defineWith {name : String} {ty : Ty}
    {configuration : PropertyScope → Configuration ρ} {b : Builder}
    (h : (defineWith name ty configuration b).1.outcome = .ok ()) :
    (defineWith name ty configuration b).2 =
      { b with draft := b.draft.carryOut (.defineWith name ty configuration) } := by
  cases hrun : define name ty b with
  | error e left => simp [defineWith, hrun] at h
  | ok handle left =>
    obtain ⟨-, rfl, rfl⟩ := define_eq_ok hrun
    rw [defineWith_eq_ok hrun h, Configuration.run_eq]
    rfl

/-- A configuration that is carried out has its effect on the draft, however it ends. -/
theorem carryOut_configure {handle : PropertyHandle}
    {configuration : PropertyScope → Configuration ρ} {b : Builder}
    (h : (configure handle configuration b).1.report ≠ none) :
    (configure handle configuration b).2 =
      { b with draft := b.draft.carryOut (.configure handle configuration) } := by
  unfold configure at h ⊢
  cases hb : b.checkUnbuilt with
  | error e => simp [hb] at h
  | ok passed =>
    cases hp : b.draft.property? handle with
    | none => simp [hb, hp] at h
    | some p =>
      have hrun := (configuration ⟨handle, p.name⟩).run_eq handle b.draft
      simp only [Draft.carryOut, hp, hrun]

/-- A configuration that is not carried out has failed. -/
theorem outcome_of_report_eq_none {handle : PropertyHandle}
    {configuration : PropertyScope → Configuration ρ} {b : Builder}
    (h : (configure handle configuration b).1.report = none) :
    ∃ e, (configure handle configuration b).1 = ⟨.error e, none⟩ := by
  unfold configure at h ⊢
  cases hb : b.checkUnbuilt with
  | error e => exact ⟨e, rfl⟩
  | ok passed =>
    cases hp : b.draft.property? handle with
    | none => exact ⟨_, rfl⟩
    | some p =>
      simp only [hb, hp] at h
      exact absurd h ((configuration ⟨handle, p.name⟩).report_run handle b.draft)

/-- An attribute that is attached to the type comes to the end of those of the type. -/
theorem carryOut_addAttribute {a : Application} {b left : Builder}
    (h : addAttribute a b = .ok () left) :
    left = { b with draft := b.draft.carryOut (.addAttribute a : BuilderCall Ty ρ) } := by
  obtain ⟨d, hattach, rfl⟩ := onDraft_eq_ok h
  obtain ⟨made, -, hmade, rfl⟩ := Draft.attach_eq_ok hattach
  simp [Draft.carryOut, Draft.addAttribute, hmade, Except.toOption]

/-- A call that succeeds has its effect on the draft. Unless it is to build the class, it changes
nothing else. -/
theorem next_of_success {b : Builder} {r : Registry} {call : BuilderCall Ty ρ}
    (hcall : call.isBuild = false) (h : (reply (b, r) call).error? = none) :
    next (b, r) call = ({ b with draft := b.draft.carryOut call }, r) := by
  cases call with
  | define name ty =>
    cases hrun : define name ty b with
    | error e left => simp [reply, hrun, outcomeOf, BuilderReply.error?] at h
    | ok handle left => simp only [next, hrun, stateOf, carryOut_define (ρ := ρ) hrun]
  | defineWith name ty configuration =>
    cases houtcome : (defineWith name ty configuration b).1.outcome with
    | ok passed => simp only [next, carryOut_defineWith houtcome]
    | error e =>
      rw [reply] at h
      generalize (defineWith name ty configuration b).1 = result at h houtcome
      obtain ⟨outcome, report⟩ := result
      subst houtcome
      simp [BuilderReply.error?] at h
  | configure handle configuration =>
    by_cases hreport : (configure handle configuration b).1.report = none
    · obtain ⟨e, he⟩ := outcome_of_report_eq_none hreport
      simp [reply, he, BuilderReply.error?] at h
    · simp only [next, carryOut_configure hreport]
  | addAttribute a =>
    cases hrun : addAttribute a b with
    | error e left => simp [reply, hrun, outcomeOf, BuilderReply.error?] at h
    | ok passed left => simp only [next, hrun, stateOf, carryOut_addAttribute (ρ := ρ) hrun]
  | build => cases hcall

/-- An open builder builds its draft, and has then built it. -/
theorem build_eq {b : Builder} (hbuilt : b.isBuilt = false) (hfrozen : b.draft.isFrozen = false)
    (r : Registry) :
    build (b, r) = .ok (b.draft.compile r.allocate.1)
      (⟨{ b.draft with isFrozen := true }, some (b.draft.compile r.allocate.1)⟩,
        r.allocate.2.register (b.draft.compile r.allocate.1)) := by
  simp only [build, hbuilt, Draft.realize, hfrozen, Bool.false_eq_true, ite_false]

/-- A class that is built is kept and registered, and the draft is frozen. -/
theorem next_of_built {b : Builder} {r : Registry} {c : Class}
    (h : outcomeOf (build (b, r)) = .ok c) :
    next (b, r) (.build : BuilderCall Ty ρ) =
      (⟨b.draft.carryOut (.build : BuilderCall Ty ρ), some c⟩, r.allocate.2.register c) := by
  cases hbuilt : b.isBuilt with
  | true => simp [build, hbuilt, outcomeOf] at h
  | false =>
    cases hfrozen : b.draft.isFrozen with
    | true => simp [build, Draft.realize, hbuilt, hfrozen, outcomeOf] at h
    | false =>
      have hbuild := build_eq hbuilt hfrozen r
      rw [hbuild] at h
      obtain rfl := Except.ok.inj h
      rw [next, hbuild]
      rfl

end Builder

end ClassSynthesis
