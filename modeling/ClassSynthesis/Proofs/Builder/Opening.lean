import ClassSynthesis.Proofs.Builder.Calls

/-!
# What a builder was opened with

Calls on a builder add properties and attributes to its draft, take back what they added, and
freeze the draft. They never touch what it was opened with: its name and container, the base class
and the constructors that pass on to those of the base. So the class that is built derives from the
base that the builder was opened with.
-/

namespace ClassSynthesis

namespace Draft

/-- A draft as it was when it was opened. -/
def opening (d : Draft) : Draft := { d with properties := [], attributes := [], isFrozen := false }

/-- The base class is part of what a draft was opened with. -/
theorem baseClass_eq_of_opening {d d' : Draft} (h : d.opening = d'.opening) :
    d.baseClass = d'.baseClass := by
  have hbase : d.opening.baseClass = d'.opening.baseClass := by rw [h]
  exact hbase

@[simp] theorem opening_addAttribute (d : Draft) (target : Target) (a : Attribute) :
    (d.addAttribute target a).opening = d.opening := by
  cases target <;> rfl

@[simp] theorem opening_removeLast (d : Draft) (handle : PropertyHandle) :
    (d.removeLast handle).opening = d.opening := by
  unfold removeLast
  split <;> rfl

theorem opening_stateOf_define (name : String) (ty : Ty) (d : Draft) :
    (stateOf (define name ty d)).opening = d.opening := by
  unfold define
  cases d.checkDefine name <;> rfl

theorem opening_stateOf_attach (target : Target) (a : Application) (d : Draft) :
    (stateOf (attach target a d)).opening = d.opening := by
  unfold attach
  cases d.checkAttach target a with
  | ok made => exact opening_addAttribute d target made
  | error e => rfl

/-- An opened draft is its own opening. -/
theorem opening_of_start {r : Registry} {name : String} {container : Option String}
    {base : Option Class} {d : Draft} (h : start r name container base = .ok d) :
    d.opening = d := by
  unfold start at h
  split at h
  · rw [← Except.ok.inj h]
    rfl
  · cases h

end Draft

/-- A configuration does not touch what the draft was opened with. -/
theorem Configuration.opening_run {ρ : Type} (handle : PropertyHandle)
    (configuration : Configuration ρ) (d : Draft) :
    (configuration.run handle d).2.opening = d.opening := by
  induction configuration generalizing d with
  | finish outcome report => rfl
  | attach a next ih =>
    have hattach := Draft.opening_stateOf_attach (.property handle) a d
    unfold run
    cases hrun : Draft.attach (.property handle) a d with
    | ok passed left =>
      rw [hrun] at hattach
      exact (ih (.ok ()) left).trans hattach
    | error e left =>
      rw [hrun] at hattach
      exact (ih (.error e) left).trans hattach

namespace Builder

variable {α ρ : Type}

/-- What an action on the draft leaves as it was opened, it leaves so on the builder. -/
theorem opening_onDraft {action : EStateM Error Draft α}
    (haction : ∀ d, (stateOf (action d)).opening = d.opening) (b : Builder) :
    (stateOf (onDraft action b)).draft.opening = b.draft.opening := by
  have hdraft := haction b.draft
  unfold onDraft
  cases b.checkUnbuilt with
  | error e => rfl
  | ok passed => cases hrun : action b.draft <;> rwa [hrun] at hdraft

theorem opening_defineWith (name : String) (ty : Ty)
    (configuration : PropertyScope → Configuration ρ) (b : Builder) :
    (defineWith name ty configuration b).2.draft.opening = b.draft.opening := by
  have hdefine := opening_onDraft (Draft.opening_stateOf_define name ty) b
  unfold defineWith
  rw [define]
  cases hrun : onDraft (Draft.define name ty) b with
  | error e left => rwa [hrun] at hdefine
  | ok handle left =>
    rw [hrun] at hdefine
    have hconfigured := (configuration ⟨handle, name⟩).opening_run handle left.draft
    simp only
    generalize (configuration ⟨handle, name⟩).run handle left.draft = result at hconfigured ⊢
    obtain ⟨⟨outcome, report⟩, draft⟩ := result
    cases outcome with
    | ok passed => exact hconfigured.trans hdefine
    | error e => exact (Draft.opening_removeLast draft handle).trans (hconfigured.trans hdefine)

theorem opening_configure (handle : PropertyHandle)
    (configuration : PropertyScope → Configuration ρ) (b : Builder) :
    (configure handle configuration b).2.draft.opening = b.draft.opening := by
  unfold configure
  cases b.checkUnbuilt with
  | error e => rfl
  | ok passed =>
    cases b.draft.property? handle with
    | none => rfl
    | some p => exact (configuration ⟨handle, p.name⟩).opening_run handle b.draft

theorem opening_build (s : Builder × Registry) :
    (stateOf (build s)).1.draft.opening = s.1.draft.opening := by
  obtain ⟨b, r⟩ := s
  unfold build Draft.realize
  by_cases hbuilt : b.isBuilt
  · simp only [hbuilt, ite_true]
    rfl
  · by_cases hfrozen : b.draft.isFrozen
    · simp only [hbuilt, hfrozen, ite_true, Bool.false_eq_true, ite_false]
      rfl
    · simp only [hbuilt, hfrozen, Bool.false_eq_true, ite_false]
      rfl

/-- No call touches what the builder was opened with. -/
theorem opening_next (s : Builder × Registry) (call : BuilderCall Ty ρ) :
    (next s call).1.draft.opening = s.1.draft.opening := by
  obtain ⟨b, r⟩ := s
  cases call with
  | define name ty => exact opening_onDraft (Draft.opening_stateOf_define name ty) b
  | defineWith name ty configuration => exact opening_defineWith name ty configuration b
  | configure handle configuration => exact opening_configure handle configuration b
  | addAttribute a => exact opening_onDraft (Draft.opening_stateOf_attach .type a) b
  | build => exact opening_build (b, r)

/-- A builder that was just opened has a draft that was just opened. -/
theorem draft_of_start {r : Registry} {name : String} {container : Option String}
    {base : Option Class} {b : Builder} (h : start r name container base = .ok b) :
    Draft.start r name container base = .ok b.draft := by
  cases hdraft : Draft.start r name container base with
  | error e => simp [start, hdraft, Except.map] at h
  | ok d =>
    obtain rfl : ⟨d, none⟩ = b := by simpa [start, hdraft, Except.map] using h
    rfl

/-- In every state of a builder its draft is one that was opened with the base of the builder. -/
theorem Reachable.exists_start {base : Option Class} {b : Builder} (h : Reachable base b) :
    ∃ r name container, Draft.start r name container base = .ok b.draft.opening := by
  induction h with
  | @start r name container b h =>
    have hdraft := draft_of_start h
    exact ⟨r, name, container, by rw [hdraft, Draft.opening_of_start hdraft]⟩
  | call h r call ih => rwa [opening_next]

end Builder

/-- Behind each state of a builder with a source is a state of a builder. -/
theorem SourceBuilder.Reachable.builder {base : Option Class} {b : SourceBuilder}
    (h : Reachable base b) : Builder.Reachable base b.builder := by
  induction h with
  | @start r source name container inherit b h =>
    cases hstart : Builder.start r (name.getD source.name) container
        (if inherit then some source else none) with
    | error e => simp [SourceBuilder.start, hstart, Except.map] at h
    | ok behind =>
      obtain rfl : ⟨source, behind⟩ = b := by
        simpa [SourceBuilder.start, hstart, Except.map] using h
      exact .start hstart
  | @call ρ base b h r call ih =>
    cases hchosen : b.chosen call with
    | error e => rwa [next_of_refused hchosen]
    | ok behind =>
      rw [(eq_of_chosen hchosen r).2]
      exact ih.call r behind

/-- The class is one that some builder builds which was opened with this base. -/
inductive Class.BuiltOn (base : Option Class) (c : Class) : Prop
  /-- By a builder. -/
  | builder {b : Builder} (h : Builder.Reachable base b) (r : Registry)
      (hbuild : outcomeOf (Builder.build (b, r)) = .ok c)
  /-- By a builder with a source. -/
  | sourceBuilder {b : SourceBuilder} (h : SourceBuilder.Reachable base b) (r : Registry)
      (hbuild : outcomeOf (SourceBuilder.build (b, r)) = .ok c)

/-- What a builder builds is its draft, compiled. -/
theorem Builder.build_eq_ok {b : Builder} {r : Registry} {c : Class}
    (h : outcomeOf (build (b, r)) = .ok c) : c = b.draft.compile r.allocate.1 := by
  unfold build Draft.realize at h
  by_cases hbuilt : b.isBuilt
  · simp [hbuilt, outcomeOf] at h
  · by_cases hfrozen : b.draft.isFrozen
    · simp [hbuilt, hfrozen, outcomeOf] at h
    · simp only [hbuilt, hfrozen, Bool.false_eq_true, ite_false] at h
      exact (Except.ok.inj h).symm

/-- What a builder with a source builds is built by the builder behind it. -/
theorem Class.BuiltOn.exists_builder {base : Option Class} {c : Class} (h : c.BuiltOn base) :
    ∃ b r, Builder.Reachable base b ∧ outcomeOf (Builder.build (b, r)) = .ok c := by
  cases h with
  | @builder b h r hbuild => exact ⟨b, r, h, hbuild⟩
  | @sourceBuilder b h r hbuild =>
    have hchosen : b.chosen (.build : BuilderCall Unit Unit) = .ok .build := rfl
    have hreply := (SourceBuilder.eq_of_chosen hchosen r).1
    exact ⟨b.builder, r, h.builder, (BuilderReply.built.inj hreply).symm.trans hbuild⟩

/-- What is built on a base is a draft, compiled, which was opened on that base. -/
theorem Class.BuiltOn.exists_draft {base : Option Class} {c : Class} (h : c.BuiltOn base) :
    ∃ (d : Draft) (key : ClassKey), c = d.compile key ∧
      ∃ r name container, Draft.start r name container base = .ok d.opening := by
  obtain ⟨b, r, hb, hbuild⟩ := h.exists_builder
  exact ⟨b.draft, _, Builder.build_eq_ok hbuild, hb.exists_start⟩

end ClassSynthesis
