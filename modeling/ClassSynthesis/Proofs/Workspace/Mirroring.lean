import ClassSynthesis.Proofs.Builder.Shadowing
import ClassSynthesis.Proofs.Class.Realized
import ClassSynthesis.Proofs.Class.Visible
import ClassSynthesis.Proofs.Workspace.History

/-!
# Mirroring a class

The class that comes of a builder with a source mirrors the source: every property that it declares
is one that is visible there. The property has the type that it has on the source, the one that
counts if classes further up declare the name too, but a slot and a setter of its own. So it can be
written with the values of that type, whether the source lets its own property be written or not.
-/

namespace ClassSynthesis

variable {ρ : Type}

namespace Workspace

/-- A step makes classes that are declared or realized on top of such classes. -/
theorem Step.realized {w w' : Workspace} {made made' : List Class} (h : Step w made w' made')
    (hmade : ∀ c ∈ made, c.Realized) : ∀ c ∈ made', c.Realized := by
  have hnew {answer : Except Error Class} (hanswer : ∀ c, answer = .ok c → c.Realized) :
      ∀ c ∈ made ++ answer.toOption.toList, c.Realized := by
    intro c hc
    rcases List.mem_append.mp hc with hc | hc
    · exact hmade c hc
    · cases answer with
      | error e => cases hc
      | ok last => exact List.mem_singleton.mp hc ▸ hanswer last rfl
  cases h with
  | addRegistry options => exact hmade
  | declare key d hkey hparent =>
    rw [(declare_eq key d w).1]
    refine hnew fun c hc => ?_
    cases hrun : Registry.declare d (w.registry key) with
    | error e left => simp [hrun, outcomeOf] at hc
    | ok declared left =>
      obtain rfl : declared = c := by simpa [hrun, outcomeOf] using hc
      exact .declared (fun parent hp => hmade parent (hparent parent hp)) hrun
  | realize d hd =>
    rw [Workspace.realize, (onRegistry_eq d.registry Draft.realize d w).1]
    exact hnew fun c hc => .drafted (fun base hb => hmade base (hd.base base hb)) hc
  | build b hb =>
    rw [Workspace.build, (onRegistry_eq b.draft.registry Builder.build b w).1]
    exact hnew fun c hc =>
      .drafted (fun base hbase => hmade base (hb.base base hbase)) (Builder.realize_of_build hc)
  | buildFromSource b hb =>
    rw [Workspace.buildFromSource,
      (onRegistry_eq b.builder.draft.registry SourceBuilder.build b w).1]
    exact hnew fun c hc => .drafted (fun base hbase => hmade base (hb.base base hbase))
      (Builder.realize_of_build (SourceBuilder.build_behind hc))

/-- So are all classes of a workspace. -/
theorem History.realized {w : Workspace} {made : List Class} (h : w.History made) :
    ∀ c ∈ made, c.Realized := by
  induction h with
  | start => simp
  | step h hstep ih => exact hstep.realized ih

end Workspace

namespace Registry

/-- The registry is one of a workspace, as it is at some time after the class came about there, in
this registry or in another. -/
def Follows (r : Registry) (c : Class) : Prop :=
  ∃ (w : Workspace) (made : List Class) (key : Nat), w.History made ∧ c ∈ made ∧
    key < w.registries.size ∧ r = w.registry key

variable {r : Registry} {c : Class}

theorem Follows.realized (h : r.Follows c) : c.Realized := by
  obtain ⟨w, made, key, hhistory, hc, -⟩ := h
  exact hhistory.realized c hc

/-- The next number of the registry is not that of the class. -/
theorem Follows.key_ne (h : r.Follows c) : r.allocate.1 ≠ c.key := by
  obtain ⟨w, made, key, hhistory, hc, hkey, rfl⟩ := h
  intro hsame
  have hregistry : c.key.registry = key := by
    rw [← hsame]
    exact hhistory.keeps.places key hkey
  have hid := (hhistory.keeps.below c hc).2
  rw [hregistry, ← hsame] at hid
  exact Nat.lt_irrefl _ hid

end Registry

/-- The class mirrors a source, and derives from it if that was asked for. -/
structure Class.Mirrors (c source : Class) (inherit : Bool) : Prop where
  /-- It is realized like every other class. -/
  realized : c.Realized
  /-- It derives from the source or from nothing. -/
  parent : c.parent = if inherit then some source else none
  /-- Each property that it declares is visible on the source and has the type that it has there. An
  instance, of this class or of one above which it is seen, takes the values of this type for it,
  whether the source lets its own property be written or not. -/
  property : ∀ p ∈ c.own.properties, ∃ owner q, source.property? p.name = some (owner, q) ∧
    p.ty = q.ty ∧ c.property? p.name = some (c, p) ∧
    ∀ (d : Class) (i : Instance), d.Realized → d.property? p.name = some (c, p) → i.IsOf d →
      ∀ value, (∃ left, Instance.set p.name value i = .ok () left) ↔ q.ty.accepts value
  /-- If it does not derive from the source, it has no constructors, is made from no arguments, and
  is no subclass of the source. -/
  apart : inherit = false → c.constructors = [] ∧ Instance.create c [] = .ok (.blank c) ∧
    c.isSubclassOf source = false

namespace Class

/-- A property with a setter takes the values of its type, on every instance that sees it. -/
theorem Realized.set_succeeds_iff {d : Class} (hd : d.Realized) {i : Instance} (hi : i.IsOf d)
    {name : String} {owner : Class} {p : Property} (hp : d.property? name = some (owner, p))
    (hsetter : p.setter.isSome) (value : Value) :
    (∃ left, Instance.set name value i = .ok () left) ↔ p.ty.accepts value := by
  obtain ⟨slot, hstored, -⟩ := hd.formed.storedAt hp
  have hwritable : p.setter.isNone = false := by simpa using hsetter
  rw [Instance.set_of_property hd.formed hi hp hstored.place, hwritable]
  by_cases haccepts : p.ty.accepts value
  · simp [haccepts]
  · simp [haccepts]

/-- A root without constructors makes blank instances. -/
theorem create_of_root {c : Class} (hroot : c.parent = none) (hnone : c.constructors = []) :
    Instance.create c [] = .ok (.blank c) := by
  simp [Instance.create, hnone, Effect.after, runImplicit_of_root hroot]

/-- A root is a subclass only of classes with its own identity. -/
theorem isSubclassOf_of_root {c other : Class} (hroot : c.parent = none)
    (hkey : c.key ≠ other.key) : c.isSubclassOf other = false := by
  rw [Bool.eq_false_iff]
  intro hsub
  obtain ⟨d, hd, hsame⟩ := derivesFrom_iff.mp hsub
  rw [lineage_of_root hroot, List.mem_singleton] at hd
  exact hkey (hd ▸ hsame)

/-- What replays a log in which every definition is one of a property of the source, with the type
that it has there, mirrors the source. -/
theorem Replays.mirrors {c source : Class} {name container slotPrefix : String} {inherit : Bool}
    {log : List LogEntry}
    (h : c.Replays name container slotPrefix (if inherit then some source else none) log)
    (hrealized : c.Realized) (hkey : c.key ≠ source.key)
    (hdefined : ∀ defined ∈ definitions log, ∃ owner q,
      source.property? defined.2.1 = some (owner, q) ∧ q.ty = defined.2.2) :
    c.Mirrors source inherit where
  realized := hrealized
  parent := h.parent
  property := by
    intro p hp
    obtain ⟨index, hindex⟩ := List.getElem?_of_mem hp
    have hlogged : (⟨index⟩, p.name, p.ty) ∈ definitions log := by
      rw [h.properties]
      exact List.mem_of_getElem? (i := index) (by rw [List.getElem?_mapIdx, hindex]; rfl)
    obtain ⟨owner, q, hq, hty⟩ := hdefined _ hlogged
    refine ⟨owner, q, hq, hty.symm, ?_, ?_⟩
    · rw [c.property?_eq, Layer.property?_of_mem h.distinct hp]
    · intro d i hd hfound hi value
      rw [hty]
      exact hd.set_succeeds_iff hi hfound (h.stored index p hindex).1 value
  apart := by
    rintro rfl
    have hroot : c.parent = none := h.parent
    have hnone : c.constructors = [] := List.map_eq_nil_iff.mp h.constructors
    exact ⟨hnone, create_of_root hroot hnone, isSubclassOf_of_root hroot hkey⟩

end Class

namespace SourceBuilder

/-- A class that is built behind a builder with a source, after calls that were passed on, mirrors
the source. -/
theorem mirrors_of_build {r₀ : Registry} {source : Class} {name container : Option String}
    {inherit : Bool} {b₀ : SourceBuilder} (hstart : start r₀ source name container inherit = .ok b₀)
    {passed : List (Registry × BuilderCall Ty ρ)}
    (hpassed : ∀ r behind, (r, behind) ∈ passed →
      ∃ call : BuilderCall Unit ρ, b₀.chosen call = .ok behind)
    {r : Registry} (hplace : r.Follows source) {c : Class}
    (hbuild : outcomeOf (Builder.build (b₀.builder.after passed, r)) = .ok c) :
    c.Mirrors source inherit := by
  obtain ⟨hsource, hbehind⟩ := builder_of_start hstart
  have hreplays := Builder.build_replays hbehind passed hbuild
  have hkey : c.key = r.allocate.1 := by
    rw [Builder.build_eq_ok hbuild, Draft.key_compile]
  have hrealized : c.Realized := by
    refine .drafted ?_ (Builder.realize_of_build hbuild)
    intro base hbase
    rw [← Draft.parent_compile _ r.allocate.1, ← Builder.build_eq_ok hbuild,
      hreplays.parent] at hbase
    cases inherit with
    | true => exact Option.some.inj hbase ▸ hplace.realized
    | false => cases hbase
  refine hreplays.mirrors hrealized (hkey ▸ hplace.key_ne) ?_
  rintro ⟨handle, property, ty⟩ hdefined
  obtain ⟨r', behind, hmem, hdefinition⟩ := Builder.exists_call_of_mem hdefined
  obtain ⟨call, hchosen⟩ := hpassed r' behind hmem
  rcases definition?_of_chosen hchosen with ⟨selected, owner, q, -, hq, hselected⟩ | ⟨-, hnot⟩
  · rw [hdefinition] at hselected
    obtain ⟨rfl, rfl⟩ := Prod.mk.inj (Option.some.inj hselected)
    exact ⟨owner, q, hsource ▸ hq, rfl⟩
  · rw [hdefinition] at hnot
    cases hnot

/-- A class that is there after a run mirrors the source, if the source was there before. -/
theorem mirrors_of_built {r₀ : Registry} {source : Class} {name container : Option String}
    {inherit : Bool} {b₀ : SourceBuilder} (hstart : start r₀ source name container inherit = .ok b₀)
    {calls : List (Registry × BuilderCall Unit ρ)} {c : Class}
    (hbuilt : (b₀.after calls).builder.built = some c)
    (hfollows : ∀ called ∈ calls, called.1.Follows source) : c.Mirrors source inherit := by
  obtain ⟨-, hbehind⟩ := builder_of_start hstart
  rw [builder_after] at hbuilt
  obtain ⟨passed, r, rest, hsplit, hbuild⟩ :=
    Builder.exists_build_of_built (Builder.built_of_start hbehind) hbuilt
  have hpassed : ∀ r' behind, (r', behind) ∈ passed ++ (r, .build) :: rest →
      ∃ call, (r', call) ∈ calls ∧ b₀.chosen call = .ok behind :=
    fun r' behind hmem => mem_passedOn.mp (hsplit ▸ hmem)
  obtain ⟨call, hcall, -⟩ := hpassed r .build (by simp)
  refine mirrors_of_build hstart ?_ (hfollows _ hcall) hbuild
  intro r' behind hmem
  obtain ⟨call', -, hchosen⟩ := hpassed r' behind (List.mem_append_left _ hmem)
  exact ⟨call', hchosen⟩

end SourceBuilder

/--
A builder with a source mirrors it, with or without inheritance. It is opened as a free builder is
under the same name, that of the source if none is given, with the source as its base if the new
type is to inherit and without a base otherwise. Whatever is called on it, in whatever order, a
property that is visible nowhere on the source is refused as such, and every other call comes to
what it comes to on the free builder, with the type written out. So the run of the free builder
consists of the calls that are passed on. If the run ends with a call to build the class, in
registries of a workspace in which the source came about, there is a class at the end, and it
mirrors the source.
-/
theorem SourceBuilder.mirrors_source (ρ : Type) (r₀ : Registry) (source : Class)
    (name container : Option String) (inherit : Bool) :
    let opened := Builder.start r₀ (name.getD source.name) container
      (if inherit then some source else none)
    (∀ e, start r₀ source name container inherit = .error e ↔ opened = .error e) ∧
    ∀ b₀, start r₀ source name container inherit = .ok b₀ →
      opened = .ok b₀.builder ∧
      ∀ calls : List (Registry × BuilderCall Unit ρ),
        (b₀.after calls).Shadows ρ source (b₀.builder.after (b₀.passedOn calls)) ∧
        ∀ r, (∀ called ∈ calls ++ [(r, .build)], called.1.Follows source) →
          ∃ c, (b₀.after (calls ++ [(r, .build)])).builder.built = some c ∧
            c.Mirrors source inherit := by
  intro opened
  refine ⟨?_, ?_⟩
  · intro e
    rw [start]
    change opened.map _ = _ ↔ _
    cases opened <;> simp [Except.map]
  · intro b₀ hstart
    obtain ⟨hsource, hbehind⟩ := builder_of_start hstart
    refine ⟨hbehind, fun calls => ⟨?_, ?_⟩⟩
    · have hshadows := (b₀.after calls).shadows (ρ := ρ)
      rwa [source_after, hsource, builder_after] at hshadows
    · intro r hfollows
      -- The builder builds when it is asked to at the end, unless it has done so before.
      have hisBuilt : (b₀.after (calls ++ [(r, .build)])).builder.isBuilt := by
        rw [(lifecycle_after hstart _).built]
        simp [BuilderCall.isBuild]
      obtain ⟨c, hc⟩ := Option.isSome_iff_exists.mp hisBuilt
      exact ⟨c, hc, mirrors_of_built hstart hc hfollows⟩

/-- A class whose properties cannot be written. -/
def Class.plateDeclaration : Declaration where
  name := "Plate"
  properties := [{ name := "Number", ty := .int, writable := false },
    { name := "Issued", ty := .int, writable := false }]

/-- The class of this declaration. -/
def Class.plate : Class := plateDeclaration.members ⟨0, 0⟩ "DynamicAssembly"

/-- A class on top of it with numbers that are texts. -/
def Class.badgeDeclaration : Declaration where
  name := "Badge"
  parent := some plate
  properties := [{ name := "Number", ty := .str }]

/-- The class of this declaration. -/
def Class.badge : Class := badgeDeclaration.members ⟨0, 1⟩ "DynamicAssembly"

/-- Number and date of issue are taken from the badge. Wings cannot be. -/
def badgeCalls (r : Registry) : List (Registry × BuilderCall Unit Unit) :=
  [ .define "Number" (), .defineWith "Issued" () fun _ => .ofList [],
    .define "Wings" () ].map (r, ·)

/-- The number of the copy is a text as on the badge, and its date of issue can be written, which
that of the badge cannot. -/
theorem SourceBuilder.mirrors_source_badge :
    ∃ (w : Workspace) (b₀ : SourceBuilder) (c : Class), w.History [Class.plate, Class.badge] ∧
      start (w.registry 0) Class.badge none none false = .ok b₀ ∧
      (b₀.after (badgeCalls (w.registry 0))).Shadows Unit Class.badge
        (b₀.builder.after (b₀.passedOn (badgeCalls (w.registry 0)))) ∧
      (b₀.after (badgeCalls (w.registry 0) ++ [(w.registry 0, .build)])).builder.built = some c ∧
      c.Mirrors Class.badge false ∧
      c.own.properties.map (fun p => (p.name, p.ty)) = [("Number", .str), ("Issued", .int)] ∧
      (Class.badge.property? "Issued").map (·.2.setter) = some none := by
  have hplate : Workspace.History _ [Class.plate] :=
    (Workspace.History.start.step (.addRegistry {})).step
      (.declare 0 Class.plateDeclaration (by decide) (by rintro c ⟨⟩))
  obtain ⟨w, hw, hhistory⟩ :
      ∃ w : Workspace, w = _ ∧ w.History [Class.plate, Class.badge] :=
    ⟨_, rfl, hplate.step (.declare 0 Class.badgeDeclaration (by decide)
      (by rintro c ⟨⟩; exact List.mem_cons_self))⟩
  have hfollows : (w.registry 0).Follows Class.badge :=
    ⟨w, _, 0, hhistory, by simp, by rw [hw]; decide, rfl⟩
  obtain ⟨-, hopened⟩ :=
    SourceBuilder.mirrors_source Unit (w.registry 0) Class.badge none none false
  obtain ⟨b₀, hstart⟩ : ∃ b₀, start (w.registry 0) Class.badge none none false = .ok b₀ := by
    rw [hw]
    exact ⟨_, rfl⟩
  obtain ⟨hshadows, hbuilt⟩ := (hopened b₀ hstart).2 (badgeCalls (w.registry 0))
  have hplaces : ∀ called ∈ badgeCalls (w.registry 0) ++ [(w.registry 0, .build)],
      called.1.Follows Class.badge := by
    intro called hmem
    rcases List.mem_append.mp hmem with hmem | hmem
    · obtain ⟨call, -, rfl⟩ := List.mem_map.mp hmem
      exact hfollows
    · obtain rfl := List.mem_singleton.mp hmem
      exact hfollows
  obtain ⟨c, hc, hmirrors⟩ := hbuilt (w.registry 0) hplaces
  refine ⟨w, b₀, c, hhistory, hstart, hshadows, hc, hmirrors, ?_, rfl⟩
  subst hw
  obtain rfl := Except.ok.inj hstart
  obtain rfl := Option.some.inj hc
  rfl

end ClassSynthesis
