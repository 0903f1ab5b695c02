import ClassSynthesis.Proofs.Builder.Projects
import ClassSynthesis.Proofs.Workspace.History

/-!
# Projects side by side

Any number of projects go on in one workspace, in the same registries or in different ones, and
their calls come in any order, between calls of anyone else. Each project takes its own course all
the same: what it is answered depends on its own calls, and the class that it builds is no other
one, not even that of a project with the same calls.
-/

namespace ClassSynthesis

variable {ρ : Type}

/-- A workspace with the classes that have come about in it and the projects that go on in it. -/
structure Workshop (ρ : Type) where
  /-- The workspace. -/
  workspace : Workspace
  /-- The classes, in the order in which they came about. -/
  made : List Class
  /-- The projects, in the order in which they were begun. -/
  projects : List (Project ρ)

/-- The class that was built, if the answer is one. -/
def BuilderReply.class? : BuilderReply ρ → Option Class
  | built (.ok c) => some c
  | _ => none

theorem BuilderReply.class?_eq_none {reply : BuilderReply ρ}
    (h : ∀ c, reply ≠ .built (.ok c)) : reply.class? = none := by
  cases reply with
  | built outcome =>
    cases outcome with
    | ok c => exact absurd rfl (h c)
    | error e => rfl
  | _ => rfl

namespace Workshop

/-- The registry that the builder of a project was opened for. -/
def registryOf (w : Workshop ρ) (p : Project ρ) : Registry :=
  w.workspace.registry p.builder.draft.registry

/-- One more call in the project of this number. -/
def proceed (w : Workshop ρ) (index : Nat) (p : Project ρ) (call : ProjectCall ρ) : Workshop ρ where
  workspace := w.workspace.setRegistry (call.next (p.builder, w.registryOf p)).2
  made := w.made ++ (call.reply (p.builder, w.registryOf p)).class?.toList
  projects := w.projects.set index (p.proceed (w.registryOf p) call)

/-- What a workshop can come to. -/
inductive Reachable : Workshop ρ → Prop
  /-- At first there is nothing. -/
  | start : Reachable ⟨{}, [], []⟩
  /-- Something is done apart from the projects. -/
  | elsewhere {w : Workshop ρ} {workspace : Workspace} {made : List Class} (h : Reachable w)
      (hstep : Workspace.Step w.workspace w.made workspace made) :
      Reachable { w with workspace, made }
  /-- A project is begun, in a registry that was created and on a class that is there or none. If
  the project selects from a source, this is how the builder behind is opened. -/
  | begin {w : Workshop ρ} {key : Nat} {name : String} {container : Option String}
      {base : Option Class} {b : Builder} (h : Reachable w)
      (hkey : key < w.workspace.registries.size) (hbase : ∀ c, base = some c → c ∈ w.made)
      (hstart : Builder.start (w.workspace.registry key) name container base = .ok b) :
      Reachable { w with projects := w.projects ++ [.begun name base b] }
  /-- A call is made in one of the projects. -/
  | proceed {w : Workshop ρ} {index : Nat} {p : Project ρ} (h : Reachable w)
      (hp : w.projects[index]? = some p) (call : ProjectCall ρ) :
      Reachable (w.proceed index p call)

/-- One more call in the project of this number, if there is one. -/
def callIn (w : Workshop ρ) (index : Nat) (call : ProjectCall ρ) : Workshop ρ :=
  match w.projects[index]? with
  | some p => w.proceed index p call
  | none => w

/-- Calls that are made one after the other, each in the project of the given number. -/
def run (w : Workshop ρ) (schedule : List (Nat × ProjectCall ρ)) : Workshop ρ :=
  schedule.foldl (fun w (index, call) => w.callIn index call) w

theorem Reachable.callIn {w : Workshop ρ} (h : w.Reachable) (index : Nat) (call : ProjectCall ρ) :
    (w.callIn index call).Reachable := by
  unfold Workshop.callIn
  cases hp : w.projects[index]? with
  | some p => exact h.proceed hp call
  | none => exact h

/-- Calls may be made in every order. -/
theorem Reachable.run {w : Workshop ρ} (h : w.Reachable) (schedule : List (Nat × ProjectCall ρ)) :
    (w.run schedule).Reachable := by
  induction schedule generalizing w with
  | nil => exact h
  | cons first rest ih => exact ih (h.callIn first.1 first.2)

/-- A workshop is in order. -/
structure InOrder (w : Workshop ρ) : Prop where
  /-- Its workspace is in order. -/
  keeps : w.workspace.Keeps w.made
  /-- Each project has run by itself. -/
  ran : ∀ p ∈ w.projects, p.Ran
  /-- Each project has its registry and its base here. -/
  belongs : ∀ p ∈ w.projects, p.builder.draft.BelongsTo w.workspace w.made
  /-- The class of each project has come about here. -/
  built : ∀ p ∈ w.projects, ∀ c, p.builder.built = some c → c ∈ w.made
  /-- No two projects have one class. -/
  apart : ∀ (i j : Nat) (p q : Project ρ), i ≠ j → w.projects[i]? = some p →
    w.projects[j]? = some q → ∀ c d, p.builder.built = some c → q.builder.built = some d →
      c.key ≠ d.key

namespace InOrder

variable {w : Workshop ρ}

theorem elsewhere (h : w.InOrder) {workspace : Workspace} {made : List Class}
    (hstep : Workspace.Step w.workspace w.made workspace made) :
    ({ w with workspace, made } : Workshop ρ).InOrder := by
  obtain ⟨hsize, hmade⟩ := hstep.grows
  exact
    { keeps := h.keeps.step hstep
      ran := h.ran
      belongs := fun p hp => (h.belongs p hp).mono hsize hmade
      built := fun p hp c hc => hmade.subset (h.built p hp c hc)
      apart := h.apart }

theorem begin (h : w.InOrder) {key : Nat} {name : String} {container : Option String}
    {base : Option Class} {b : Builder} (hkey : key < w.workspace.registries.size)
    (hbase : ∀ c, base = some c → c ∈ w.made)
    (hstart : Builder.start (w.workspace.registry key) name container base = .ok b) :
    ({ w with projects := w.projects ++ [.begun name base b] } : Workshop ρ).InOrder := by
  have hdraft := Builder.draft_of_start hstart
  have hnone := Builder.built_of_start hstart
  -- A project with a class is one of those that were there before.
  have hbefore {i : Nat} {p : Project ρ}
      (hp : (w.projects ++ [.begun name base b])[i]? = some p) {c : Class}
      (hc : p.builder.built = some c) : w.projects[i]? = some p := by
    rw [List.getElem?_append] at hp
    split at hp
    · exact hp
    · obtain rfl := List.mem_singleton.mp (List.mem_of_getElem? hp)
      rw [Project.begun, hnone] at hc
      cases hc
  refine ⟨h.keeps, ?_, ?_, ?_, ?_⟩
  · intro p hp
    rcases List.mem_append.mp hp with hp | hp
    · exact h.ran p hp
    · rw [List.mem_singleton.mp hp]
      exact .start hstart
  · intro p hp
    rcases List.mem_append.mp hp with hp | hp
    · exact h.belongs p hp
    · rw [List.mem_singleton.mp hp]
      exact h.keeps.belongsTo_of_start hkey hbase hdraft
  · intro p hp c hc
    obtain ⟨i, hi⟩ := List.getElem?_of_mem hp
    exact h.built p (List.mem_of_getElem? (hbefore hi hc)) c hc
  · intro i j p q hne hp hq c d hc hd
    exact h.apart i j p q hne (hbefore hp hc) (hbefore hq hd) c d hc hd

/-- A call registers the class that it answers with, and keeps the workspace in order. -/
theorem keeps_proceed (h : w.InOrder) (index : Nat) {p : Project ρ} (hp : p ∈ w.projects)
    (call : ProjectCall ρ) :
    (w.proceed index p call).workspace.Keeps (w.proceed index p call).made := by
  have hbelongs := h.belongs p hp
  rw [Workshop.proceed]
  rcases call.builds_or_idles p.builder (w.registryOf p) with
    ⟨c, hc, -, hreply, -, hleft⟩ | ⟨hnot, -, hleft⟩
  · have hkey : c.key = (w.registryOf p).allocate.1 := by
      rw [hc]
      exact Draft.key_compile p.builder.draft _
    rw [hreply, hleft]
    refine h.keeps.registers hbelongs.registry (.added hkey) ?_
    intro made hmade parent hparent
    rw [← Except.ok.inj hmade, hc, Draft.parent_compile] at hparent
    exact hbelongs.base parent hparent
  · rw [BuilderReply.class?_eq_none hnot, hleft]
    exact h.keeps.registers hbelongs.registry (.refused (.frozen p.name)) (by rintro c ⟨⟩)

/-- After a call the class of the project is the one that it was answered with or the one that it
had before. -/
theorem built_proceed (p : Project ρ) (r : Registry) (call : ProjectCall ρ) {c : Class}
    (hc : (p.proceed r call).builder.built = some c) :
    (call.reply (p.builder, r)).class? = some c ∨
      (call.reply (p.builder, r)).class? = none ∧ p.builder.built = some c := by
  rcases call.builds_or_idles p.builder r with
    ⟨made, -, -, hreply, hafter, -⟩ | ⟨hnot, hkept, -⟩
  · left
    have hmade : some made = some c := hafter.symm.trans hc
    rw [hreply, ← Option.some.inj hmade]
    rfl
  · exact .inr ⟨BuilderReply.class?_eq_none hnot, hkept.symm.trans hc⟩

theorem proceed (h : w.InOrder) {index : Nat} {p : Project ρ} (hp : w.projects[index]? = some p)
    (call : ProjectCall ρ) : (w.proceed index p call).InOrder := by
  have hmem := List.mem_of_getElem? hp
  have hkeeps := h.keeps_proceed index hmem call
  have hsize : w.workspace.registries.size ≤
      (w.proceed index p call).workspace.registries.size :=
    Nat.le_of_eq (Workspace.size_setRegistry _ _).symm
  have hmade : w.made <+: (w.proceed index p call).made := List.prefix_append _ _
  have hplace {k : Nat} {q : Project ρ} (hq : (w.proceed index p call).projects[k]? = some q) :
      (index = k ∧ p.proceed (w.registryOf p) call = q) ∨
        (index ≠ k ∧ w.projects[k]? = some q) := by
    have hlt := (List.getElem?_eq_some_iff.mp hp).1
    rw [Workshop.proceed, List.getElem?_set] at hq
    by_cases hk : index = k
    · rw [if_pos hk, if_pos (hk ▸ hlt)] at hq
      exact .inl ⟨hk, Option.some.inj hq⟩
    · rw [if_neg hk] at hq
      exact .inr ⟨hk, hq⟩
  -- The class of the project that goes on is not that of any other one.
  have hnew {j : Nat} {q : Project ρ} (hj : index ≠ j) (hq : w.projects[j]? = some q) {c d : Class}
      (hc : (p.proceed (w.registryOf p) call).builder.built = some c)
      (hd : q.builder.built = some d) : c.key ≠ d.key := by
    rcases built_proceed p (w.registryOf p) call hc with hclass | ⟨-, hkept⟩
    · have hlast : (w.proceed index p call).made = w.made ++ [c] := by
        rw [Workshop.proceed, hclass]
        rfl
      have hgenealogy := hkeeps.genealogy
      rw [hlast] at hgenealogy
      exact hgenealogy.key_ne_last (h.built q (List.mem_of_getElem? hq) d hd)
    · exact h.apart index j p q hj hp hq c d hkept hd
  refine ⟨hkeeps, ?_, ?_, ?_, ?_⟩
  · intro q hq
    rcases List.mem_or_eq_of_mem_set hq with hq | rfl
    · exact h.ran q hq
    · exact (h.ran p hmem).call _ call
  · intro q hq
    rcases List.mem_or_eq_of_mem_set hq with hq | rfl
    · exact (h.belongs q hq).mono hsize hmade
    · exact ((h.belongs p hmem).of_opening (call.opening_next p.builder _)).mono hsize hmade
  · intro q hq c hc
    rcases List.mem_or_eq_of_mem_set hq with hq | rfl
    · exact hmade.subset (h.built q hq c hc)
    · rcases built_proceed p (w.registryOf p) call hc with hclass | ⟨-, hkept⟩
      · rw [Workshop.proceed, hclass]
        exact List.mem_append_right _ List.mem_cons_self
      · exact hmade.subset (h.built p hmem c hkept)
  · intro i j q q' hne hq hq' c d hc hd
    rcases hplace hq with ⟨rfl, rfl⟩ | ⟨hi, hq⟩
    · rcases hplace hq' with ⟨hj, -⟩ | ⟨hj, hq'⟩
      · exact absurd hj hne
      · exact hnew hj hq' hc hd
    · rcases hplace hq' with ⟨rfl, rfl⟩ | ⟨-, hq'⟩
      · exact (hnew hi hq hd hc).symm
      · exact h.apart i j q q' hne hq hq' c d hc hd

end InOrder

/-- Every workshop is in order. -/
theorem Reachable.inOrder {w : Workshop ρ} (h : w.Reachable) : w.InOrder := by
  induction h with
  | start => exact ⟨Workspace.keeps_empty, by simp, by simp, by simp, by simp⟩
  | elsewhere h hstep ih => exact ih.elsewhere hstep
  | begin h hkey hbase hstart ih => exact ih.begin hkey hbase hstart
  | proceed h hp call ih => exact ih.proceed hp call

/-- Two projects that were begun under one name and on one base, with the same calls, do not
interfere with each other or with anything else, in whatever registries they are and whatever was
done between their calls. They get the same answers, up to the classes that they build. They build
classes if they were to do so; these have one shape but are not the same, neither is a subclass of
the other, and nothing is an instance of both. -/
theorem Reachable.twin_projects {w : Workshop ρ} (h : w.Reachable) {i j : Nat} {p q : Project ρ}
    (hne : i ≠ j) (hp : w.projects[i]? = some p) (hq : w.projects[j]? = some q)
    (hname : p.name = q.name) (hbase : p.base = q.base) (hcalls : p.calls = q.calls) :
    List.Forall₂ BuilderReply.Alike p.replies q.replies ∧
    (p.calls.any (·.isBuild) → ∃ c d, .built (.ok c) ∈ p.replies ∧ .built (.ok d) ∈ q.replies) ∧
    ∀ c d, .built (.ok c) ∈ p.replies → .built (.ok d) ∈ q.replies →
      c ∈ w.made ∧ d ∈ w.made ∧ c.shape = d.shape ∧ c.same d = false ∧
      c.isSubclassOf d = false ∧ d.isSubclassOf c = false ∧
      ∀ i : Instance, i.cls ∈ w.made → ¬ (i.isInstanceOf c ∧ i.isInstanceOf d) := by
  have horder := h.inOrder
  have hpmem := List.mem_of_getElem? hp
  have hqmem := List.mem_of_getElem? hq
  have hpran := horder.ran p hpmem
  have hqran := horder.ran q hqmem
  obtain ⟨htwin, hreplies⟩ := hpran.twin hqran hname hbase hcalls
  have hpstands := hpran.standing
  have hqstands := hqran.standing
  refine ⟨hreplies, ?_, ?_⟩
  · intro hasked
    have hpbuilt : p.builder.isBuilt := hpstands.asked.trans hasked
    have hqbuilt : q.builder.isBuilt := htwin.built.symm.trans hpbuilt
    obtain ⟨c, hc⟩ := Option.isSome_iff_exists.mp hpbuilt
    obtain ⟨d, hd⟩ := Option.isSome_iff_exists.mp hqbuilt
    exact ⟨c, d, (hpstands.answered c).mpr hc, (hqstands.answered d).mpr hd⟩
  · intro c d hc hd
    rw [hpstands.answered] at hc
    rw [hqstands.answered] at hd
    have hcmade := horder.built p hpmem c hc
    have hdmade := horder.built q hqmem d hd
    have hkeys : c.key ≠ d.key := horder.apart i j p q hne hp hq c d hc hd
    have hgenealogy := horder.keeps.genealogy
    obtain ⟨key, hcompiled⟩ := hpstands.settled c hc
    obtain ⟨key', hcompiled'⟩ := hqstands.settled d hd
    have hparents : c.parent = d.parent := by
      rw [hcompiled, hcompiled', Draft.parent_compile, Draft.parent_compile, hpstands.base,
        hqstands.base, hbase]
    have hcd : ¬ c.isSubclassOf d := fun hsub => hkeys (congrArg Class.key
      (hgenealogy.eq_of_isSubclassOf_of_parent_eq hcmade hdmade hparents hsub))
    have hdc : ¬ d.isSubclassOf c := fun hsub => hkeys (congrArg Class.key
      (hgenealogy.eq_of_isSubclassOf_of_parent_eq hdmade hcmade hparents.symm hsub)).symm
    refine ⟨hcmade, hdmade, ?_, ?_, by simpa using hcd, by simpa using hdc, ?_⟩
    · rw [hcompiled, hcompiled']
      exact htwin.draft.shape_compile_eq key key'
    · simpa [Class.same] using hkeys
    · rintro i hi ⟨hic, hid⟩
      rcases hgenealogy.isSubclassOf_linear hi hcmade hdmade hic hid with hsub | hsub
      · exact hcd hsub
      · exact hdc hsub

/-- A builder that was just opened for a person. -/
def newPerson (registry : Nat) (slotPrefix container : String) : Builder where
  draft :=
    { registry, slotPrefix, container
      name := "Person"
      base := none
      constructors := []
      properties := []
      attributes := []
      isFrozen := false }
  built := none

/-- A person is begun in each of two registries that have different options. -/
def twoDesks : Workshop Unit where
  workspace := (Workspace.addRegistry ⟨"Office", "m_"⟩ (Workspace.addRegistry {} {}).2).2
  made := []
  projects :=
    [.begun "Person" none (newPerson 0 "_" "DynamicAssembly"),
      .begun "Person" none (newPerson 1 "m_" "Office")]

theorem reachable_twoDesks : twoDesks.Reachable := by
  have hregistries : Reachable ⟨twoDesks.workspace, [], ([] : List (Project Unit))⟩ :=
    (Reachable.start.elsewhere (.addRegistry {})).elsewhere (.addRegistry ⟨"Office", "m_"⟩)
  have hfirst : Builder.start (twoDesks.workspace.registry 0) "Person" none none =
      .ok (newPerson 0 "_" "DynamicAssembly") := rfl
  have hsecond : Builder.start (twoDesks.workspace.registry 1) "Person" none none =
      .ok (newPerson 1 "m_" "Office") := rfl
  exact (hregistries.begin (by decide) (by rintro c ⟨⟩) hfirst).begin (by decide)
    (by rintro c ⟨⟩) hsecond

/-- An age is defined, then in vain once more, and the person is built. -/
def personCalls : List (ProjectCall Unit) :=
  [.free (.define "Age" .int), .free (.define "Age" .bool), .free .build]

/-- The two persons are made in turns. -/
def turns : List (Nat × ProjectCall Unit) :=
  personCalls.flatMap fun call => [(0, call), (1, call)]

/-- The second definition of the age fails in both projects, and both build a person of one shape.
The two persons are not the same. -/
theorem twin_projects_person :
    ∃ p q : Project Unit, (twoDesks.run turns).projects[0]? = some p ∧
      (twoDesks.run turns).projects[1]? = some q ∧
      p.calls = personCalls ∧ q.calls = personCalls ∧
      p.replies[1]?.bind (·.error?) = some (.duplicateProperty "Person" "Age") ∧
      List.Forall₂ BuilderReply.Alike p.replies q.replies ∧
      ∃ c d, .built (.ok c) ∈ p.replies ∧ .built (.ok d) ∈ q.replies ∧
        c.shape = d.shape ∧ c.same d = false ∧ c.isSubclassOf d = false := by
  have hshop := reachable_twoDesks.run turns
  have hp : (twoDesks.run turns).projects[0]? = some _ := rfl
  have hq : (twoDesks.run turns).projects[1]? = some _ := rfl
  obtain ⟨halike, hbuilt, hclasses⟩ := hshop.twin_projects (by decide) hp hq rfl rfl rfl
  obtain ⟨c, d, hc, hd⟩ := hbuilt rfl
  obtain ⟨-, -, hshape, hsame, hsubclass, -⟩ := hclasses c d hc hd
  exact ⟨_, _, hp, hq, rfl, rfl, rfl, halike, c, d, hc, hd, hshape, hsame, hsubclass⟩

end Workshop

end ClassSynthesis
