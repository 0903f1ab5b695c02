import ClassSynthesis.Proofs.Builder.Calls

/-!
# Failed calls change nothing

Operations on drafts check before they change anything. The one exception is a property that is
defined together with its configuration: it is there while the configuration runs, and is removed
again if that fails. The configuration touches no other property, so the draft is then what it was
before, whatever the configuration attached in between.
-/

namespace ClassSynthesis

namespace Draft

/-- A draft with one more property at the end. -/
def snoc (d : Draft) (p : DraftProperty) : Draft := { d with properties := d.properties ++ [p] }

/-- The handle of the property that is defined next. -/
def nextHandle (d : Draft) : PropertyHandle := ⟨d.properties.length⟩

theorem addProperty_eq_snoc (d : Draft) (name : String) (ty : Ty) :
    d.addProperty name ty = d.snoc ⟨name, ty, slotNameOf d.slotPrefix name, []⟩ := rfl

/-- An attribute for the last property changes the last property only. -/
theorem addAttribute_snoc (d : Draft) (p : DraftProperty) (a : Attribute) :
    (d.snoc p).addAttribute (.property d.nextHandle) a =
      d.snoc { p with attributes := p.attributes ++ [a] } := by
  simp [addAttribute, snoc, nextHandle, List.modify_eq_take_cons_drop]

/-- Removing the last property gives back the draft without it. -/
@[simp] theorem removeLast_snoc (d : Draft) (p : DraftProperty) :
    (d.snoc p).removeLast d.nextHandle = d := by
  simp [removeLast, snoc, nextHandle]

/-- A draft that is realized in vain stays what it was, and so does the registry. -/
theorem realize_eq_error {s left : Draft × Registry} {e : Error}
    (h : realize s = .error e left) : left = s := by
  obtain ⟨d, r⟩ := s
  unfold realize at h
  by_cases hfrozen : d.isFrozen
  · simp only [hfrozen, ite_true, EStateM.Result.error.injEq] at h
    exact h.2.symm
  · simp [hfrozen] at h

end Draft

namespace Configuration

variable {ρ : Type}

/-- A configuration of the last property leaves all the others as they are. -/
theorem run_snoc (configuration : Configuration ρ) (d : Draft) (p : DraftProperty) :
    ∃ q, (configuration.run d.nextHandle (d.snoc p)).2 = d.snoc q := by
  induction configuration generalizing p with
  | finish outcome report => exact ⟨p, rfl⟩
  | attach a next ih =>
    unfold run Draft.attach
    cases (d.snoc p).checkAttach (.property d.nextHandle) a with
    | ok made =>
      simp only [Draft.addAttribute_snoc]
      exact ih (.ok ()) { p with attributes := p.attributes ++ [made] }
    | error e => exact ih (.error e) p

/-- After an attachment that failed, a configuration goes on with the draft as it was. -/
theorem run_attach_of_error {handle : PropertyHandle} {a : Application} {d left : Draft} {e : Error}
    (h : Draft.attach (.property handle) a d = .error e left)
    (next : Except Error Unit → Configuration ρ) :
    (attach a next).run handle d = (next (.error e)).run handle d := by
  have hleft := Draft.attach_eq_error h
  simp only [run, h, hleft]

/-- A configuration that is carried out reports at its end. -/
theorem report_run (configuration : Configuration ρ) (handle : PropertyHandle) (d : Draft) :
    (configuration.run handle d).1.report ≠ none := by
  induction configuration generalizing d with
  | finish outcome report => simp [run]
  | attach a next ih =>
    unfold run
    cases Draft.attach (.property handle) a d with
    | ok _ left => exact ih (.ok ()) left
    | error e left => exact ih (.error e) left

end Configuration

/-- An operation whose failures change nothing has the old state after it if it failed. -/
theorem stateOf_of_outcomeOf {σ α : Type} {result : EStateM.Result Error σ α} {s : σ} {e : Error}
    (hkeep : ∀ e left, result = .error e left → left = s) (h : outcomeOf result = .error e) :
    stateOf result = s := by
  cases result with
  | ok a left => cases h
  | error e left => exact hkeep e left rfl

namespace Builder

variable {α ρ : Type}

/-- What fails on the draft without changing it fails on the builder without changing it. -/
theorem onDraft_eq_error {action : EStateM Error Draft α} {b left : Builder} {e : Error}
    (haction : ∀ d e left, action d = .error e left → left = d)
    (h : onDraft action b = .error e left) : left = b := by
  unfold onDraft at h
  cases hb : b.checkUnbuilt with
  | error e' =>
    simp only [hb, EStateM.Result.error.injEq] at h
    exact h.2.symm
  | ok passed =>
    simp only [hb] at h
    cases hrun : action b.draft with
    | ok a d => simp [hrun] at h
    | error e' d =>
      simp only [hrun, EStateM.Result.error.injEq] at h
      rw [← h.2, haction _ _ _ hrun]

/-- A definition that fails leaves the builder as it was. -/
theorem define_eq_error {name : String} {ty : Ty} {b left : Builder} {e : Error}
    (h : define name ty b = .error e left) : left = b :=
  onDraft_eq_error (fun _ _ _ => Draft.define_eq_error) h

/-- An attachment that fails leaves the builder as it was. -/
theorem addAttribute_eq_error {a : Application} {b left : Builder} {e : Error}
    (h : addAttribute a b = .error e left) : left = b :=
  onDraft_eq_error (fun _ _ _ => Draft.attach_eq_error) h

/-- A definition that succeeds has passed its check and puts one property at the end of the
draft. -/
theorem define_eq_ok {name : String} {ty : Ty} {b left : Builder} {handle : PropertyHandle}
    (h : define name ty b = .ok handle left) :
    b.draft.checkDefine name = .ok () ∧ handle = b.draft.nextHandle ∧
      left = { b with draft := b.draft.addProperty name ty } := by
  unfold define onDraft Draft.define at h
  cases hb : b.checkUnbuilt with
  | error e => simp [hb] at h
  | ok passed =>
    cases hd : b.draft.checkDefine name with
    | error e => simp [hb, hd] at h
    | ok passed =>
      simp only [hb, hd, EStateM.Result.ok.injEq] at h
      exact ⟨rfl, h.1.symm, h.2.symm⟩

/-- A property whose definition or configuration fails is not there afterwards, and nothing else
has changed: the removal takes away just that property, with all that was attached to it. -/
theorem defineWith_eq_self {name : String} {ty : Ty}
    {configuration : PropertyScope → Configuration ρ} {b : Builder} {e : Error}
    (h : (defineWith name ty configuration b).1.outcome = .error e) :
    (defineWith name ty configuration b).2 = b := by
  unfold defineWith at h ⊢
  cases hdefine : define name ty b with
  | error e left => exact define_eq_error hdefine
  | ok handle left =>
    obtain ⟨-, rfl, rfl⟩ := define_eq_ok hdefine
    simp only [hdefine, Draft.addProperty_eq_snoc] at h ⊢
    obtain ⟨q, hq⟩ := (configuration ⟨b.draft.nextHandle, name⟩).run_snoc b.draft
      ⟨name, ty, slotNameOf b.draft.slotPrefix name, []⟩
    generalize (configuration ⟨b.draft.nextHandle, name⟩).run b.draft.nextHandle
      (b.draft.snoc ⟨name, ty, slotNameOf b.draft.slotPrefix name, []⟩) = result at h hq ⊢
    obtain ⟨⟨outcome, report⟩, left⟩ := result
    subst hq
    cases outcome with
    | ok passed => simp at h
    | error e => simp

/-- A property that cannot be configured is not touched. -/
theorem configure_eq_self {handle : PropertyHandle}
    {configuration : PropertyScope → Configuration ρ} {b : Builder}
    (h : (configure handle configuration b).1.report = none) :
    (configure handle configuration b).2 = b := by
  unfold configure at h ⊢
  cases hb : b.checkUnbuilt with
  | error e => rfl
  | ok passed =>
    cases hp : b.draft.property? handle with
    | none => rfl
    | some p =>
      simp only [hb, hp] at h
      exact absurd h ((configuration ⟨handle, p.name⟩).report_run handle b.draft)

/-- A class that is not built leaves the builder and the registry as they were. -/
theorem build_eq_error {s left : Builder × Registry} {e : Error} (h : build s = .error e left) :
    left = s := by
  obtain ⟨b, r⟩ := s
  unfold build at h
  by_cases hbuilt : b.isBuilt
  · simp only [hbuilt, ite_true, EStateM.Result.error.injEq] at h
    exact h.2.symm
  · simp only [hbuilt, Bool.false_eq_true, ite_false] at h
    cases hrun : Draft.realize (b.draft, r) with
    | ok c s => simp [hrun] at h
    | error e' s =>
      obtain rfl := Draft.realize_eq_error hrun
      simp only [hrun, EStateM.Result.error.injEq] at h
      exact h.2.symm

/-- A call that fails leaves the builder and its registry as they were. -/
theorem next_eq_self {s : Builder × Registry} {call : BuilderCall Ty ρ} {e : Error}
    (h : (reply s call).error? = some e) : next s call = s := by
  obtain ⟨b, r⟩ := s
  cases call with
  | define name ty =>
    cases houtcome : outcomeOf (define name ty b) with
    | ok handle => simp [reply, houtcome, BuilderReply.error?] at h
    | error e' =>
      simp only [next, stateOf_of_outcomeOf (fun _ _ => define_eq_error) houtcome]
  | defineWith name ty configuration =>
    cases houtcome : (defineWith name ty configuration b).1 with
    | mk outcome report =>
      cases outcome with
      | ok passed => simp [reply, houtcome, BuilderReply.error?] at h
      | error e' =>
        have hself := defineWith_eq_self (congrArg Configured.outcome houtcome)
        simp only [next, hself]
  | configure handle configuration =>
    cases houtcome : (configure handle configuration b).1 with
    | mk outcome report =>
      cases report with
      | some report => cases outcome <;> simp [reply, houtcome, BuilderReply.error?] at h
      | none =>
        have hself := configure_eq_self (congrArg Configured.report houtcome)
        simp only [next, hself]
  | addAttribute a =>
    cases houtcome : outcomeOf (addAttribute a b) with
    | ok passed => simp [reply, houtcome, BuilderReply.error?] at h
    | error e' =>
      simp only [next, stateOf_of_outcomeOf (fun _ _ => addAttribute_eq_error) houtcome]
  | build =>
    cases houtcome : outcomeOf (build (b, r)) with
    | ok c => simp [reply, houtcome, BuilderReply.error?] at h
    | error e' => exact stateOf_of_outcomeOf (fun _ _ => build_eq_error) houtcome

end Builder

/-- A call that fails leaves a builder with a source and its registry as they were. -/
theorem SourceBuilder.next_eq_self {ρ : Type} {s : SourceBuilder × Registry}
    {call : BuilderCall Unit ρ} {e : Error} (h : (reply s call).error? = some e) :
    next s call = s := by
  obtain ⟨b, r⟩ := s
  cases hchosen : b.chosen call with
  | error e' => exact next_of_refused hchosen r
  | ok behind =>
    obtain ⟨hreply, hnext⟩ := eq_of_chosen hchosen r
    rw [hreply] at h
    rw [hnext, Builder.next_eq_self h]

/-- Whatever state a builder is in, a call that fails leaves all of it as it was: the draft with
its properties and attributes, the class that was built and the registry. This holds for builders
with a source too, for each attachment that a configuration makes, and for the operations on a
draft by themselves. -/
theorem failed_call_changes_nothing (ρ : Type) :
    (∀ (s : Builder × Registry) (call : BuilderCall Ty ρ) (e : Error),
      (Builder.reply s call).error? = some e → Builder.next s call = s) ∧
    (∀ (s : SourceBuilder × Registry) (call : BuilderCall Unit ρ) (e : Error),
      (SourceBuilder.reply s call).error? = some e → SourceBuilder.next s call = s) ∧
    (∀ (handle : PropertyHandle) (a : Application) (next : Except Error Unit → Configuration ρ)
      (d left : Draft) (e : Error), Draft.attach (.property handle) a d = .error e left →
        (Configuration.attach a next).run handle d = (next (.error e)).run handle d) ∧
    (∀ (d left : Draft) (name : String) (ty : Ty) (e : Error),
      Draft.define name ty d = .error e left → left = d) ∧
    (∀ (d left : Draft) (target : Target) (a : Application) (e : Error),
      Draft.attach target a d = .error e left → left = d) ∧
    (∀ (s left : Draft × Registry) (e : Error), Draft.realize s = .error e left → left = s) :=
  ⟨fun _ _ _ => Builder.next_eq_self, fun _ _ _ => SourceBuilder.next_eq_self,
    fun _ _ next _ _ _ h => Configuration.run_attach_of_error h next,
    fun _ _ _ _ _ => Draft.define_eq_error, fun _ _ _ _ _ => Draft.attach_eq_error,
    fun _ _ _ => Draft.realize_eq_error⟩

/-- An attribute class with one constructor, which takes no arguments. -/
def marker : Class where
  own :=
    { key := ⟨0, 0⟩
      name := "Marker"
      container := "Scope"
      visibility := .external
      kind := .metadata
      slots := []
      fields := []
      properties := []
      methods := []
      constructors := [⟨[], Code.storing none []⟩]
      attributes := [] }
  ancestors := []

/-- A builder with a property that carries an attribute. -/
def markedBuilder : Builder where
  draft :=
    { registry := 0
      slotPrefix := "_"
      name := "Person"
      container := "Scope"
      base := none
      constructors := []
      properties := [⟨"Age", .int, "_age", [⟨marker, 0, [], []⟩]⟩]
      attributes := []
      isFrozen := false }
  built := none

/-- Define a property, attach two attributes to it, and give up at a third that does not fit. -/
def doomedCall : BuilderCall Ty Unit :=
  .defineWith "Name" .str fun _ =>
    .ofList [⟨marker, [], none⟩, ⟨marker, [], some []⟩, ⟨marker, [.int 1], none⟩]

/-- The call fails at its third attachment, and the property with its two attributes is gone. -/
theorem doomedCall_changes_nothing :
    (Builder.reply (markedBuilder, Registry.empty 0 {}) doomedCall).error? =
        some (.noConstructor "Marker" ["Int64"] "ctor_args") ∧
      Builder.next (markedBuilder, Registry.empty 0 {}) doomedCall =
        (markedBuilder, Registry.empty 0 {}) :=
  ⟨rfl, (failed_call_changes_nothing Unit).1 _ _ _ rfl⟩

end ClassSynthesis
