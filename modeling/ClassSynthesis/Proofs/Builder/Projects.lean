import ClassSynthesis.Proofs.Builder.Twins
import Mathlib.Data.List.Forall2

/-!
# Projects

A project is the work on one type: a builder is opened, and calls are made on it one after the
other. Between them the registry may change in any way. The answers depend on the calls alone, so
two projects with the same calls get the same answers, and classes of one shape.
-/

namespace ClassSynthesis

variable {ρ : Type}

/-- One call in a project. On a builder with a source it selects from the source. -/
inductive ProjectCall (ρ : Type) where
  /-- A call on a builder. -/
  | free (call : BuilderCall Ty ρ)
  /-- A call on a builder with this source. -/
  | selecting (source : Class) (call : BuilderCall Unit ρ)

/-- A call that fails answers with no class. -/
theorem BuilderReply.ne_built_of_error {reply : BuilderReply ρ} {e : Error}
    (h : reply.error? = some e) (c : Class) : reply ≠ .built (.ok c) := by
  rintro rfl
  cases h

/-- Only the call to build the class answers with a class. -/
theorem Builder.ne_built_of_isBuild {call : BuilderCall Ty ρ} (h : call.isBuild = false)
    {s : Builder × Registry} (c : Class) : reply s call ≠ .built (.ok c) := by
  cases call with
  | build => cases h
  | _ => rintro ⟨⟩

namespace ProjectCall

/-- The call is to build the class. -/
def isBuild : ProjectCall ρ → Bool
  | free call => call.isBuild
  | selecting _ call => call.isBuild

/-- The answer to a call, with the builder and its registry as they are. -/
def reply : Builder × Registry → ProjectCall ρ → BuilderReply ρ
  | s, free call => Builder.reply s call
  | (b, r), selecting source call => SourceBuilder.reply (⟨source, b⟩, r) call

/-- The builder and its registry after a call. -/
def next : Builder × Registry → ProjectCall ρ → Builder × Registry
  | s, free call => Builder.next s call
  | (b, r), selecting source call =>
    let (left, r) := SourceBuilder.next (⟨source, b⟩, r) call
    (left.builder, r)

/-- Behind a call in a project is a call on the builder, or it is refused by the source. -/
theorem passed_or_refused (b : Builder) (r : Registry) (call : ProjectCall ρ) :
    (∃ behind : BuilderCall Ty ρ, behind.isBuild = call.isBuild ∧
      reply (b, r) call = Builder.reply (b, r) behind ∧
      next (b, r) call = Builder.next (b, r) behind) ∨
    (call.isBuild = false ∧ (∃ e, (reply (b, r) call).error? = some e) ∧
      next (b, r) call = (b, r)) := by
  cases call with
  | free call => exact .inl ⟨call, rfl, rfl, rfl⟩
  | selecting source call =>
    cases hchosen : (⟨source, b⟩ : SourceBuilder).chosen call with
    | ok behind =>
      obtain ⟨hreply, hnext⟩ := SourceBuilder.eq_of_chosen hchosen r
      exact .inl ⟨behind, SourceBuilder.isBuild_of_chosen hchosen, hreply, by rw [next, hnext]⟩
    | error e =>
      exact .inr ⟨SourceBuilder.isBuild_of_refused hchosen,
        ⟨e, SourceBuilder.error?_of_refused hchosen r⟩,
        by rw [next, SourceBuilder.next_of_refused hchosen]⟩

/-- No call touches what the builder was opened with. -/
theorem opening_next (b : Builder) (r : Registry) (call : ProjectCall ρ) :
    (next (b, r) call).1.draft.opening = b.draft.opening := by
  rcases call.passed_or_refused b r with ⟨behind, -, -, hnext⟩ | ⟨-, -, hnext⟩
  · rw [hnext]
    exact Builder.opening_next (b, r) behind
  · rw [hnext]

/-- A call leaves the marks of builder and draft alone, or builds the class and sets both. -/
theorem marks_next {b : Builder} (h : b.isBuilt = b.draft.isFrozen) (r : Registry)
    (call : ProjectCall ρ) :
    (next (b, r) call).1.isBuilt = (b.isBuilt || call.isBuild) ∧
      (next (b, r) call).1.draft.isFrozen = (b.isBuilt || call.isBuild) := by
  rcases call.passed_or_refused b r with ⟨behind, hisBuild, -, hnext⟩ | ⟨hcall, -, hnext⟩
  · rw [hnext, ← hisBuild]
    exact Builder.marks_next h r behind
  · rw [hnext, hcall, Bool.or_false]
    exact ⟨rfl, h.symm⟩

theorem settled_next {b : Builder} (h : b.Settled) (r : Registry) (call : ProjectCall ρ) :
    (next (b, r) call).1.Settled := by
  rcases call.passed_or_refused b r with ⟨behind, -, -, hnext⟩ | ⟨-, -, hnext⟩
  · rw [hnext]
    exact h.next r behind
  · rwa [hnext]

/-- A call builds the class of an open builder, with the next number of the registry, or it touches
neither the class nor the registry. -/
theorem builds_or_idles (b : Builder) (r : Registry) (call : ProjectCall ρ) :
    (∃ c, c = b.draft.compile r.allocate.1 ∧ b.built = none ∧
      reply (b, r) call = .built (.ok c) ∧ (next (b, r) call).1.built = some c ∧
      (next (b, r) call).2 = r.allocate.2.register c) ∨
    ((∀ c, reply (b, r) call ≠ .built (.ok c)) ∧ (next (b, r) call).1.built = b.built ∧
      (next (b, r) call).2 = r) := by
  rcases call.passed_or_refused b r with ⟨behind, -, hreply, hnext⟩ | ⟨-, ⟨e, herror⟩, hnext⟩
  · rw [hreply, hnext]
    rcases b.next_cases r behind with
      ⟨e, herror, hafter⟩ | ⟨hcall, -, -, hafter⟩ | ⟨c, -, hbuild, hanswer, hnone, hafter⟩
    · exact .inr ⟨BuilderReply.ne_built_of_error herror, by rw [hafter], by rw [hafter]⟩
    · exact .inr ⟨Builder.ne_built_of_isBuild hcall, by rw [hafter], by rw [hafter]⟩
    · exact .inl ⟨c, Builder.build_eq_ok hbuild, hnone, hanswer, by rw [hafter], by rw [hafter]⟩
  · rw [hnext]
    exact .inr ⟨BuilderReply.ne_built_of_error herror, rfl, rfl⟩

/-- Twins answer a call alike and are twins after it. -/
theorem twin_next {b b' : Builder} (h : b.Twin b') (r r' : Registry) (call : ProjectCall ρ) :
    (reply (b, r) call).Alike (reply (b', r') call) ∧
      (next (b, r) call).1.Twin (next (b', r') call).1 := by
  cases call with
  | free call => exact h.next r r' call
  | selecting source call =>
    have hsame : (⟨source, b⟩ : SourceBuilder).chosen call =
        (⟨source, b'⟩ : SourceBuilder).chosen call := SourceBuilder.chosen_congr rfl call
    cases hchosen : (⟨source, b'⟩ : SourceBuilder).chosen call with
    | ok behind =>
      rw [hchosen] at hsame
      obtain ⟨hreply, hnext⟩ := SourceBuilder.eq_of_chosen hsame r
      obtain ⟨hreply', hnext'⟩ := SourceBuilder.eq_of_chosen hchosen r'
      rw [reply, reply, hreply, hreply', next, next, hnext, hnext']
      exact h.next r r' behind
    | error e =>
      rw [hchosen] at hsame
      have hsource : (⟨source, b⟩ : SourceBuilder).source =
          (⟨source, b'⟩ : SourceBuilder).source := rfl
      have hreply := SourceBuilder.reply_of_refused hsource hsame r r'
      rw [reply, reply, hreply, next, next, SourceBuilder.next_of_refused hsame,
        SourceBuilder.next_of_refused hchosen]
      exact ⟨.same _, h⟩

end ProjectCall

/-- The work on one type. -/
structure Project (ρ : Type) where
  /-- The name that the builder was opened under. -/
  name : String
  /-- The class that it was opened on, if any. -/
  base : Option Class
  /-- The builder as it is now. -/
  builder : Builder
  /-- The calls so far. -/
  calls : List (ProjectCall ρ)
  /-- The answers to them. -/
  replies : List (BuilderReply ρ)

namespace Project

/-- A project with a builder that was just opened. -/
def begun (name : String) (base : Option Class) (b : Builder) : Project ρ := ⟨name, base, b, [], []⟩

/-- A project after one more call. -/
def proceed (p : Project ρ) (r : Registry) (call : ProjectCall ρ) : Project ρ :=
  { p with
    builder := (call.next (p.builder, r)).1
    calls := p.calls ++ [call]
    replies := p.replies ++ [call.reply (p.builder, r)] }

/-- The project came about by opening a builder and making calls, each with the registry in some
state of its own. -/
inductive Ran : Project ρ → Prop
  /-- The builder was just opened. -/
  | start {r : Registry} {name : String} {container : Option String} {base : Option Class}
      {b : Builder} (h : Builder.start r name container base = .ok b) : Ran (begun name base b)
  /-- One more call was made. -/
  | call {p : Project ρ} (h : Ran p) (r : Registry) (call : ProjectCall ρ) : Ran (p.proceed r call)

/-- Two projects under one name and on one base, with the same calls, get answers that are alike,
and their builders are twins. -/
theorem Ran.twin {p q : Project ρ} (hp : p.Ran) (hq : q.Ran) (hname : p.name = q.name)
    (hbase : p.base = q.base) (hcalls : p.calls = q.calls) :
    p.builder.Twin q.builder ∧ List.Forall₂ BuilderReply.Alike p.replies q.replies := by
  induction hp generalizing q with
  | start h =>
    cases hq with
    | start h' =>
      obtain rfl := hname
      obtain rfl := hbase
      exact ⟨Builder.twin_of_start h h', .nil⟩
    | call hq r' call' => simp [begun, proceed] at hcalls
  | @call p hp r call ih =>
    cases hq with
    | start h' => simp [begun, proceed] at hcalls
    | @call q hq r' call' =>
      obtain ⟨hbefore, hlast⟩ := List.append_inj' hcalls rfl
      obtain rfl : call = call' := List.cons.inj hlast |>.1
      obtain ⟨htwin, hreplies⟩ := ih hq hname hbase hbefore
      obtain ⟨hreply, hnext⟩ := ProjectCall.twin_next htwin r r' call
      exact ⟨hnext, List.rel_append hreplies (.cons hreply .nil)⟩

/-- What is true of a project at any time. -/
structure Standing (p : Project ρ) : Prop where
  /-- The builder derives from the base of the project. -/
  base : p.builder.draft.baseClass = p.base
  /-- The marks of builder and draft agree. -/
  marks : p.builder.isBuilt = p.builder.draft.isFrozen
  /-- The class has been built if it was to be built. -/
  asked : p.builder.isBuilt = p.calls.any (·.isBuild)
  /-- The class is the draft, compiled. -/
  settled : p.builder.Settled
  /-- The class is the one that was answered. -/
  answered : ∀ c, .built (.ok c) ∈ p.replies ↔ p.builder.built = some c

/-- A project stands like this at its beginning. -/
theorem standing_begun {r : Registry} {name : String} {container : Option String}
    {base : Option Class} {b : Builder} (h : Builder.start r name container base = .ok b) :
    (begun name base b : Project ρ).Standing := by
  obtain ⟨hunbuilt, hopen⟩ := Builder.marks_of_start h
  refine ⟨(Draft.base_of_start (Builder.draft_of_start h)).1, hunbuilt.trans hopen.symm, hunbuilt,
    Builder.settled_of_start h, ?_⟩
  intro c
  simp [begun, Builder.built_of_start h]

/-- And it goes on standing like this. -/
theorem Standing.proceed {p : Project ρ} (h : p.Standing) (r : Registry) (call : ProjectCall ρ) :
    (p.proceed r call).Standing := by
  have hcalls : (p.proceed r call).calls.any (·.isBuild) =
      (p.calls.any (·.isBuild) || call.isBuild) := by simp [Project.proceed]
  have hreplies (c : Class) : .built (.ok c) ∈ (p.proceed r call).replies ↔
      .built (.ok c) ∈ p.replies ∨ call.reply (p.builder, r) = .built (.ok c) := by
    simp [Project.proceed, eq_comm]
  obtain ⟨hbuilt, hfrozen⟩ := call.marks_next h.marks r
  have hbase := Draft.baseClass_eq_of_opening (call.opening_next p.builder r)
  refine ⟨hbase.trans h.base, hbuilt.trans hfrozen.symm, ?_, call.settled_next h.settled r, ?_⟩
  · rw [hcalls, ← h.asked]
    exact hbuilt
  · intro c
    rw [hreplies, h.answered]
    rcases call.builds_or_idles p.builder r with
      ⟨made, -, hnone, hanswer, hafter, -⟩ | ⟨hnot, hkept, -⟩
    · simp [Project.proceed, hnone, hanswer, hafter]
    · simp [Project.proceed, hkept, hnot c]

theorem Ran.standing {p : Project ρ} (h : p.Ran) : p.Standing := by
  induction h with
  | start h => exact standing_begun h
  | call h r call ih => exact ih.proceed r call

end Project

end ClassSynthesis
