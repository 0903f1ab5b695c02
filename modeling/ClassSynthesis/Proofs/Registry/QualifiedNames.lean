import ClassSynthesis.Proofs.Class.Safety
import ClassSynthesis.Proofs.Registry.Log

/-!
# Qualified names

A qualified name leads back to the container and the name that it was put together from, whatever
the container is, as long as the name is plain. So in a registry it stands for the class that was
registered last under both. A name that stands for a class is the qualified name of that class, or
its bare name if the class is in the default container.
-/

namespace ClassSynthesis

/-- The name of the class is plain, so its container can be told apart from it. -/
def Class.HasPlainName (c : Class) : Prop := Text.IsPlain c.name

/-- The class that was registered last under this name in this container. -/
def latest? (log : List Class) (container name : String) : Option Class :=
  log.reverse.find? fun c => c.own.container == container && c.name == name

variable {log : List Class} {container name : String} {c d : Class}

/-- A class that is found has the name, and belongs to the container. -/
theorem of_latest?_eq_some (h : latest? log container name = some c) :
    c ∈ log ∧ c.own.container = container ∧ c.name = name := by
  have hmem := List.mem_of_find?_eq_some h
  have hboth := List.find?_some h
  rw [Bool.and_eq_true, beq_iff_eq, beq_iff_eq] at hboth
  exact ⟨List.mem_reverse.mp hmem, hboth⟩

/-- A class of the log is found under its name, or a later one is. -/
theorem exists_latest? (h : c ∈ log) : ∃ d, latest? log c.own.container c.name = some d := by
  rw [← Option.isSome_iff_exists, latest?, List.find?_isSome]
  exact ⟨c, List.mem_reverse.mpr h, by simp⟩

/-! ### Names that stand for classes -/

namespace Registry.Refines

variable {r : Registry}

/-- A name in a container stands for the class that was registered last under both. -/
theorem getByName?_eq (h : r.Refines log) (container : Option String) (name : String) :
    r.getByName? container name = latest? log (r.containerName container) name := by
  have hlatest := h.latest (r.containerName container) name
  rw [← List.head?_reverse, ← List.filter_reverse, List.head?_filter] at hlatest
  exact hlatest

/-- A plain name in a container is found by the qualified name. -/
theorem resolve_qualified (h : r.Refines log) (hname : Text.IsPlain name)
    (hfound : latest? log container name = some d) :
    r.resolve (Text.qualified container name) = .ok d := by
  simp only [resolve, Text.splitQualified?_qualified container hname, h.getByName?_eq,
    containerName_some, hfound]

/-- A name without a pair of colons is found in the default container. -/
theorem resolve_bare (h : r.Refines log) (hname : ¬ Text.HasSeparator name)
    (hfound : latest? log r.options.defaultContainer name = some d) : r.resolve name = .ok d := by
  simp only [resolve, Text.splitQualified?_eq_none_iff.mpr hname, h.getByName?_eq,
    containerName_none, hfound]

/-- What is found by a text is the class that was registered last under its name, in its container.
The text is its qualified name if it has a pair of colons, and else its bare name. -/
theorem of_resolve_eq_ok (h : r.Refines log) {text : String} (hfound : r.resolve text = .ok d) :
    latest? log d.own.container d.name = some d ∧
      (Text.HasSeparator text → text = d.qualifiedName) ∧
      (¬ Text.HasSeparator text →
        text = d.name ∧ d.own.container = r.options.defaultContainer) := by
  cases hsplit : Text.splitQualified? text with
  | none =>
    have hbare := Text.splitQualified?_eq_none_iff.mp hsplit
    simp only [resolve, hsplit, h.getByName?_eq, containerName_none] at hfound
    split at hfound
    · next found hlatest =>
      obtain rfl := Except.ok.inj hfound
      obtain ⟨-, hcontainer, hname⟩ := of_latest?_eq_some hlatest
      refine ⟨?_, fun hpair => absurd hpair hbare, fun _ => ⟨hname.symm, hcontainer⟩⟩
      rwa [hcontainer, hname]
    · cases hfound
  | some parts =>
    obtain ⟨container, name⟩ := parts
    have htext := Text.qualified_of_splitQualified? hsplit
    have hpair : Text.HasSeparator text := htext ▸ Text.hasSeparator_qualified container name
    simp only [resolve, hsplit, h.getByName?_eq, containerName_some] at hfound
    split at hfound
    · next found hlatest =>
      obtain rfl := Except.ok.inj hfound
      obtain ⟨-, hcontainer, hname⟩ := of_latest?_eq_some hlatest
      refine ⟨?_, fun _ => ?_, fun hnot => absurd hpair hnot⟩
      · rw [hcontainer, hname]
        exact hlatest
      · rw [Class.qualifiedName, hcontainer, hname, htext]
    · cases hfound

end Registry.Refines

/-! ### Names of synthesized classes -/

/-- An identifier is plain. -/
theorem Text.isPlain_of_isIdentifier {name : String} (h : isIdentifier name) : IsPlain name := by
  have hcolon := colon_notMem_of_isIdentifier h
  constructor
  · intro hpair
    exact hcolon (hpair.subset List.mem_cons_self)
  · intro hfront
    exact hcolon (List.mem_of_mem_head? hfront)

/-- A draft that was opened is named by an identifier. -/
theorem Draft.isIdentifier_of_start {r : Registry} {container : Option String}
    {base : Option Class} {draft : Draft} (h : start r name container base = .ok draft) :
    Text.isIdentifier draft.name := by
  unfold start at h
  split at h
  · next hname =>
    rw [← Except.ok.inj h]
    exact hname
  · cases h

/-- What a builder builds has a plain name. -/
theorem Class.BuiltOn.hasPlainName {base : Option Class} (h : c.BuiltOn base) :
    c.HasPlainName := by
  obtain ⟨draft, key, rfl, r, name, container, hstart⟩ := h.exists_draft
  have hname : (draft.compile key).name = draft.opening.name :=
    congrArg Layer.name (draft.heading_compile key)
  rw [HasPlainName, hname]
  exact Text.isPlain_of_isIdentifier (Draft.isIdentifier_of_start hstart)

/-- Classes with plain names have one qualified name only if they have one container and one
name. -/
theorem Class.HasPlainName.qualifiedName_inj (hc : c.HasPlainName) (hd : d.HasPlainName)
    (h : c.qualifiedName = d.qualifiedName) :
    c.own.container = d.own.container ∧ c.name = d.name := by
  have hsplit := Text.splitQualified?_qualified c.own.container hc
  have hsame : Text.qualified c.own.container c.name = Text.qualified d.own.container d.name := h
  rw [hsame, Text.splitQualified?_qualified d.own.container hd] at hsplit
  obtain ⟨hcontainer, hname⟩ := Prod.mk.inj (Option.some.inj hsplit)
  exact ⟨hcontainer.symm, hname.symm⟩

/-- Whatever has been declared, realized and built in a registry, a class with a plain name is found
by its qualified name, or the class that took its place is. In the default container the bare name
is enough. A text stands for no other classes than those whose name it is. What builders build
always has a plain name, so it is told apart by its qualified name from what has another name or
another container. -/
theorem resolve_qualifiedName (key : Nat) (options : Options) (calls : List RegistryCall) :
    let r := (Registry.empty key options).after calls
    let log := (Registry.empty key options).log calls
    (∀ c ∈ log, c.HasPlainName →
      (∃ d, latest? log c.own.container c.name = some d ∧ r.resolve c.qualifiedName = .ok d) ∧
      (c.own.container = options.defaultContainer →
        ∃ d, latest? log c.own.container c.name = some d ∧ r.resolve c.name = .ok d)) ∧
    (∀ text d, r.resolve text = .ok d →
      latest? log d.own.container d.name = some d ∧
      (Text.HasSeparator text → text = d.qualifiedName) ∧
      (¬ Text.HasSeparator text → text = d.name ∧ d.own.container = options.defaultContainer)) ∧
    (∀ (base : Option Class) (c : Class), c.BuiltOn base → c.HasPlainName) ∧
    ∀ (base other : Option Class) (c d : Class), c.BuiltOn base → d.BuiltOn other →
      c.qualifiedName = d.qualifiedName → c.own.container = d.own.container ∧ c.name = d.name := by
  intro r log
  have hrefines : r.Refines log := (Registry.refines_empty key options).after calls
  have hoptions : r.options = options := Registry.options_after (Registry.empty key options) calls
  refine ⟨?_, ?_, fun base c h => h.hasPlainName, ?_⟩
  · intro c hc hname
    obtain ⟨d, hd⟩ := exists_latest? hc
    refine ⟨⟨d, hd, hrefines.resolve_qualified hname hd⟩, fun hcontainer => ⟨d, hd, ?_⟩⟩
    rw [hcontainer, ← hoptions] at hd
    exact hrefines.resolve_bare hname.pair hd
  · intro text d hfound
    rw [← hoptions]
    exact hrefines.of_resolve_eq_ok hfound
  · intro base other c d hc hd
    exact hc.hasPlainName.qualifiedName_inj hd.hasPlainName

/-- The container ends with a colon, so three of them stand together in the qualified name; still it
leads to the second of two classes of one name. Cars that were built in different registries have
one qualified name, for one container and one name. -/
theorem resolve_qualifiedName_point :
    let options : Options := { defaultContainer := "A:" }
    let r := (Registry.empty 0 options).after [.declare Registry.point, .declare Registry.point]
    let point (id : Nat) := Registry.point.members ⟨0, id⟩ "A:"
    let otherCar := Class.carBuilder.draft.compile ⟨7, 0⟩
    (point 0).HasPlainName ∧ (point 0).qualifiedName = "A:::Point" ∧
      r.resolve "A:::Point" = .ok (point 1) ∧ r.resolve "Point" = .ok (point 1) ∧
      (point 1).qualifiedName = "A:::Point" ∧ Class.car.HasPlainName ∧
      otherCar.own.container = Class.car.own.container ∧ otherCar.name = Class.car.name := by
  intro options r point otherCar
  obtain ⟨hfound, hconverse, hbuilt, hinj⟩ :=
    resolve_qualifiedName 0 options [.declare Registry.point, .declare Registry.point]
  have hplain : (point 0).HasPlainName := Text.isPlain_of_isIdentifier (by decide)
  have hlog : (Registry.empty 0 options).log
      [.declare Registry.point, .declare Registry.point] = [point 0, point 1] := rfl
  rw [hlog] at hfound
  obtain ⟨⟨d, hd, hqualified⟩, hdefault⟩ := hfound (point 0) List.mem_cons_self hplain
  obtain ⟨e, he, hbare⟩ := hdefault rfl
  obtain rfl : point 1 = d := Option.some.inj hd
  obtain rfl : point 1 = e := Option.some.inj he
  have hseparator := Text.hasSeparator_qualified "A:" "Point"
  have hname := ((hconverse "A:::Point" (point 1) hqualified).2.1 hseparator).symm
  have hother : otherCar.BuiltOn (some Class.vehicle) :=
    .builder Class.reachable_carBuilder (.empty 7 {}) rfl
  exact ⟨hplain, rfl, hqualified, hbare, hname, hbuilt _ _ Class.builtOn_car,
    hinj _ _ otherCar Class.car hother Class.builtOn_car rfl⟩

end ClassSynthesis
