import ClassSynthesis.Proofs.Class.Attached
import ClassSynthesis.Proofs.Class.Subtyping

/-!
# Built attribute classes stand in for their bases

All that is checked of the class of an application is its kind, who may refer to it, what the
parameters of its constructors are, and which of the overridden members may be written. A class that
is built on an attribute class has all of this in common with a public copy of the base, as far as
it does not declare the overridden members anew. So the same application to the one and to the other
is resolved alike, and what is made of the two attributes reads alike.
-/

namespace ClassSynthesis

/-- The error with another name for the class of the application that was refused. -/
def Error.ofKind (kind : String) : Error → Error
  | notAttribute _ => notAttribute kind
  | hiddenAttribute _ parameter => hiddenAttribute kind parameter
  | noConstructor _ arguments parameter => noConstructor kind arguments parameter
  | unknownOverrides _ members parameter => unknownOverrides kind members parameter
  | e => e

/-- The attribute of another class, with the constructor of the same number. -/
def Attribute.on (a : Attribute) (kind : Class) : Attribute := { a with kind }

namespace Application

/-- The same application to another class. -/
def on (a : Application) (kind : Class) : Application := { a with kind }

/-- What an application is resolved to, as the same for another class: the constructor has the same
number, or the error names the other class. -/
def onto (kind : Class) : Except Error Attribute → Except Error Attribute
  | .ok made => .ok (made.on kind)
  | .error e => .error (e.ofKind kind.name)

end Application

/-- To applications that override none of the given members the class `t` looks like `b`. -/
structure Class.LooksLike (t b : Class) (hidden : List String) : Prop where
  /-- It is of the same kind. -/
  kind : t.own.kind = b.own.kind
  /-- The same code may refer to it. -/
  visibility : t.own.visibility = b.own.visibility
  /-- Its constructors have the same parameters. -/
  parameters : t.constructors.map (·.parameters) = b.constructors.map (·.parameters)
  /-- The same members may be written. -/
  writable : ∀ name, name ∉ hidden → t.writable? name = b.writable? name

namespace Class.LooksLike

variable {t b : Class} {hidden : List String} {overrides : List (String × Value)}

/-- The same overrides are for unknown members. -/
theorem strangers_eq (h : t.LooksLike b hidden)
    (hkeys : ∀ entry ∈ overrides, entry.1 ∉ hidden) :
    t.strangers overrides = b.strangers overrides := by
  unfold strangers
  apply List.filter_congr
  intro name hname
  obtain ⟨entry, hentry, rfl⟩ := List.mem_map.mp hname
  rw [h.writable entry.1 (hkeys entry hentry)]

/-- The same overrides are taken. -/
theorem takes (h : t.LooksLike b hidden) {entry : String × Value} (hkey : entry.1 ∉ hidden)
    (htakes : b.Takes entry.1 entry.2) : t.Takes entry.1 entry.2 := by
  obtain ⟨member, hmember, haccepts⟩ := htakes
  refine ⟨member, ?_, haccepts⟩
  rw [h.writable entry.1 hkey, hmember]

/-- The same override is refused first. -/
theorem firstRefusal (h : t.LooksLike b hidden)
    (hkeys : ∀ entry ∈ overrides, entry.1 ∉ hidden) {name : String} {member : WritableMember}
    {value : Value} (hrefusal : b.FirstRefusal overrides name member value) :
    t.FirstRefusal overrides name member value := by
  obtain ⟨before, after, rfl, hbefore⟩ := hrefusal.first
  constructor
  · rw [h.writable name (hkeys (name, value) (by simp)), hrefusal.writable]
  · exact hrefusal.refused
  · refine ⟨before, after, rfl, ?_⟩
    intro entry hentry
    exact h.takes (hkeys entry (List.mem_append_left _ hentry)) (hbefore entry hentry)

end Class.LooksLike

namespace Application

variable {a : Application} {t : Class} {hidden : List String}

/-- The same constructor matches. -/
theorem target?_on (h : t.LooksLike a.kind hidden) : (a.on t).target? = a.target? :=
  Constructor.findIdx?_of_parameters h.parameters fun _ _ hsame => by
    rw [Constructor.matchesExactly, Constructor.matchesExactly, hsame]

/-- The same overrides are given. -/
theorem Gives.on {overrides : List (String × Value)} (h : a.Gives overrides) (t : Class) :
    (a.on t).Gives overrides := by
  cases h with
  | absent h => exact .absent h
  | listed h => exact .listed h

/-- An application to a class that looks the same breaks the same condition first, or none. -/
theorem Resolves.on (h : t.LooksLike a.kind hidden)
    (hkeys : ∀ entry ∈ a.overrideList, entry.1 ∉ hidden) {result : Except Error Attribute}
    (hresolves : a.Resolves result) : (a.on t).Resolves (onto t result) := by
  have hopens : a.IsOpen → (a.on t).IsOpen := fun hopen =>
    ⟨h.kind.trans hopen.kind, h.visibility.trans hopen.visibility⟩
  have hfirst {target : Nat} (hmatch : a.FirstMatch target) : (a.on t).FirstMatch target := by
    rw [← target?_eq_some_iff, target?_on h]
    exact target?_eq_some_iff.mpr hmatch
  have hgivenKeys {overrides : List (String × Value)} (hgiven : a.Gives overrides) :
      ∀ entry ∈ overrides, entry.1 ∉ hidden := hgiven.overrideList_eq ▸ hkeys
  cases hresolves with
  | notAttribute hkind =>
    refine .notAttribute ?_
    rwa [Application.on, h.kind]
  | hidden hkind hvisibility =>
    refine .hidden (h.kind.trans hkind) ?_
    rwa [Application.on, h.visibility]
  | noConstructor hopen hnone =>
    refine .noConstructor (hopens hopen) ?_
    rw [← target?_eq_none_iff, target?_on h]
    exact target?_eq_none_iff.mpr hnone
  | unknownOverrides hopen hmatch hgiven hstrangers =>
    rw [← h.strangers_eq (hgivenKeys hgiven)] at hstrangers ⊢
    exact .unknownOverrides (hopens hopen) (hfirst hmatch) (hgiven.on t) hstrangers
  | mismatch hopen hmatch hgiven hstrangers hrefusal =>
    have hkept := hgivenKeys hgiven
    exact .mismatch (hopens hopen) (hfirst hmatch) (hgiven.on t)
      ((h.strangers_eq hkept).trans hstrangers) (h.firstRefusal hkept hrefusal)
  | resolved hopen hmatch hgiven htakes =>
    refine .resolved (hopens hopen) (hfirst hmatch) (hgiven.on t) ?_
    intro entry hentry
    exact h.takes (hgivenKeys hgiven entry hentry) (htakes entry hentry)

/-- So it is resolved to the same, apart from the class. -/
theorem resolve_on (h : t.LooksLike a.kind hidden)
    (hkeys : ∀ entry ∈ a.overrideList, entry.1 ∉ hidden) :
    (a.on t).resolve = onto t a.resolve :=
  (a.resolves_resolve.on h hkeys).resolve_eq

end Application

namespace Class

variable {b t : Class} {arguments : List Value}

/-- A copy of the class that everyone may refer to. -/
def opened (c : Class) : Class := c.mapOwn fun layer => { layer with visibility := .external }

/-- A public class is its own public copy. -/
theorem opened_of_isExternal (h : b.isExternal = true) : b.opened = b := by
  obtain ⟨⟨key, name, container, visibility, kind, _, _, _, _, _, _⟩, ancestors⟩ := b
  obtain rfl : visibility = .external := by
    simpa [isExternal] using h
  rfl

/-- The public copy has the same writable members. -/
theorem writable?_opened (b : Class) (name : String) :
    b.opened.writable? name = b.writable? name := by
  have hown : b.opened.own.property? name = b.own.property? name := rfl
  have hfield : b.opened.field? name = b.field? name := rfl
  have hparent : b.opened.parent = b.parent := parent_mapOwn b _
  unfold writable?
  rw [property?_eq, property?_eq b, hown, hfield, hparent]
  cases b.own.property? name <;> rfl

/-- Members that are retained may be written as before. -/
theorem Retains.writable?_eq {hidden : List String} (h : t.Retains b hidden) {name : String}
    (hname : name ∉ hidden) : t.writable? name = b.writable? name := by
  rw [writable?, writable?, h.property name hname, h.field name hname]

/-- A built class is of the kind of its base, and public. -/
theorem BuiltOn.heading (h : t.BuiltOn (some b)) :
    t.own.kind = b.own.kind ∧ t.own.visibility = .external := by
  obtain ⟨d, key, rfl, hbase, -⟩ := h.exists_compile
  have hkind := congrArg Layer.kind (d.heading_compile key)
  rw [hbase] at hkind
  exact ⟨hkind, congrArg Layer.visibility (d.heading_compile key)⟩

/-- To applications that override no members that it declares, a built class looks like a public
copy of its base. -/
theorem BuiltOn.looksLike (h : t.BuiltOn (some b)) :
    t.LooksLike b.opened (t.own.properties.map (·.name)) where
  kind := h.heading.1
  visibility := h.heading.2
  parameters := h.parameters_eq
  writable := by
    intro name hname
    rw [h.retains.writable?_eq hname, writable?_opened]

/-! ### What is made -/

/-- Members of the shorter class are overridden in front of further values. -/
theorem overridden_append_values (hb : b.Formed) {overrides : List (String × Value)}
    (hsame : ∀ entry ∈ overrides, t.writable? entry.1 = b.writable? entry.1) {values : List Value}
    (hlength : values.length = b.slotCount) (rest : List Value) :
    t.overridden overrides (values ++ rest) = b.overridden overrides values ++ rest := by
  induction overrides generalizing values with
  | nil => rfl
  | cons first overrides ih =>
    obtain ⟨name, value⟩ := first
    have hslots : t.writableSlot? name = b.writableSlot? name := by
      rw [writableSlot?, writableSlot?, hsame (name, value) List.mem_cons_self]
    have hfirst : t.overridden [(name, value)] (values ++ rest) =
        b.overridden [(name, value)] values ++ rest := by
      cases hslot : b.writableSlot? name with
      | none => simp [overridden, hslots, hslot]
      | some slot =>
        obtain ⟨member, hmember, -⟩ := Option.bind_eq_some_iff.mp hslot
        obtain ⟨place, hplace, hty, -⟩ := hb.slot_of_writable? hmember
        obtain rfl : place = slot := Option.some.inj (hplace.symm.trans hslot)
        have hlt : place < values.length := hlength ▸ lt_length_of_typed hty
        rw [overridden_singleton (hslots.trans hslot), overridden_singleton hslot,
          List.set_append_left _ _ hlt]
    rw [overridden_cons, overridden_cons, hfirst]
    apply ih
    · exact fun entry hentry => hsame entry (List.mem_cons_of_mem _ hentry)
    · rw [length_overridden, hlength]

/-- Valid attributes of a base and of a class that is built on it are made alike. -/
theorem BuiltOn.instantiate_alike (ht : t.BuiltOn (some b)) (hb : b.Made) {a : Attribute}
    (hkind : a.kind = b) (hvalid : a.Valid) (hvalid' : (a.on t).Valid)
    (hkeys : ∀ entry ∈ a.overrides, entry.1 ∉ t.own.properties.map (·.name)) :
    Alike b t a.arguments a.instantiate (a.on t).instantiate := by
  subst hkind
  have htMade : t.Made := .built (fun base hbase => Option.some.inj hbase ▸ hb) ht
  have halike : Alike a.kind t a.arguments (Instance.construct a.kind a.target a.arguments)
      (Instance.construct t a.target a.arguments) := ht.construct_alike hb.sound a.target
  rw [hvalid.instantiate_eq hb, hvalid'.instantiate_eq htMade]
  change Alike a.kind t a.arguments _
    ((Instance.construct t a.target a.arguments).map fun made =>
      { made with slots := t.overridden a.overrides made.slots })
  cases hmade : Instance.construct a.kind a.target a.arguments with
  | error e =>
    rw [hmade] at halike
    generalize Instance.construct t a.target a.arguments = result at halike
    cases halike with
    | refused => exact .refused
    | mismatched he => exact .mismatched he
  | ok made =>
    rw [hmade] at halike
    generalize Instance.construct t a.target a.arguments = result at halike
    cases halike with
    | made =>
      have hsame : ∀ entry ∈ a.overrides, t.writable? entry.1 = a.kind.writable? entry.1 :=
        fun entry hentry => ht.retains.writable?_eq (hkeys entry hentry)
      have hvalues := overridden_append_values hb.sound.formed hsame
        (Attribute.isOf_of_construct hmade).2 (furtherValues a.kind t)
      rw [Instance.extend, Except.map, Except.map, hvalues]
      exact .made { made with slots := a.kind.overridden a.overrides made.slots }

/-- They both fail to be made, with the same error, or both are made into instances on which every
member that the built class does not declare anew reads the same. -/
theorem BuiltOn.instantiate_reads (ht : t.BuiltOn (some b)) (hb : b.Made) {a : Attribute}
    (hkind : a.kind = b) (hvalid : a.Valid) (hvalid' : (a.on t).Valid)
    (hkeys : ∀ entry ∈ a.overrides, entry.1 ∉ t.own.properties.map (·.name)) :
    (∃ e, a.instantiate = .error e ∧ (a.on t).instantiate = .error e) ∨
      ∃ i j, a.instantiate = .ok i ∧ (a.on t).instantiate = .ok j ∧
        ∀ name, name ∉ t.own.properties.map (·.name) →
          (j.answer (.get name)).unowned = (i.answer (.get name)).unowned ∧
          (j.answer (.field name)).unowned = (i.answer (.field name)).unowned := by
  have htMade : t.Made := .built (fun base hbase => Option.some.inj hbase ▸ hb) ht
  have halike := ht.instantiate_alike hb hkind hvalid hvalid' hkeys
  subst hkind
  cases hmade : a.instantiate with
  | error e =>
    left
    obtain ⟨-, hmismatch, -⟩ := (hvalid.materializes hb).failure e hmade
    rw [hmade] at halike
    generalize (a.on t).instantiate = result at halike
    cases halike with
    | refused => exact absurd hmismatch (noConstructor_not_isMismatch a.kind.name)
    | mismatched => exact ⟨e, rfl, rfl⟩
  | ok i =>
    right
    have hi : i.IsOf a.kind := hvalid.isOf_of_instantiate hb hmade
    rw [hmade] at halike
    cases hlonger : (a.on t).instantiate with
    | error e =>
      rw [hlonger] at halike
      cases halike
    | ok j =>
      have hj : j.IsOf t := hvalid'.isOf_of_instantiate htMade hlonger
      rw [hlonger] at halike
      cases halike with
      | made =>
        refine ⟨i, _, rfl, rfl, ?_⟩
        intro name hname
        have hagrees := Instance.Agrees.of_extend hb.sound.formed hi hj
          (t.own.properties.map (·.name))
        constructor
        · exact hagrees.get_eq hb.sound.formed htMade.sound.formed ht.retains hname
        · exact hagrees.field_eq hb.sound.formed ht.retains hname

/-- An application that overrides no properties of a built class, to that class. If the base is a
public attribute class, the application is resolved as on the base: to the constructor of the same
number, or to the same error in another name. What is resolved on both either fails to be made with
one and the same error, or is made into instances on which every member that the built class does
not declare anew reads the same. If the base is not public, it refuses the application for that
alone, while the built class resolves it as a public copy of the base does. -/
theorem BuiltOn.stands_in_for_base (ht : t.BuiltOn (some b)) (hb : b.Made)
    (hkind : b.isAttribute = true) (arguments : List Value)
    {overrides : Option (List (String × Value))}
    (hkeys : ∀ entry ∈ overrides.getD [], entry.1 ∉ t.own.properties.map (·.name)) :
    (b.isExternal = true →
      Application.resolve ⟨t, arguments, overrides⟩ =
        Application.onto t (Application.resolve ⟨b, arguments, overrides⟩) ∧
      ∀ made, Application.resolve ⟨b, arguments, overrides⟩ = .ok made →
        (∃ e, made.instantiate = .error e ∧ (made.on t).instantiate = .error e) ∨
        ∃ i j, made.instantiate = .ok i ∧ (made.on t).instantiate = .ok j ∧
          ∀ name, name ∉ t.own.properties.map (·.name) →
            (j.answer (.get name)).unowned = (i.answer (.get name)).unowned ∧
            (j.answer (.field name)).unowned = (i.answer (.field name)).unowned) ∧
    (b.isExternal = false →
      Application.resolve ⟨b, arguments, overrides⟩ = .error (.hiddenAttribute b.name "kind") ∧
      Application.resolve ⟨t, arguments, overrides⟩ =
        Application.onto t (Application.resolve ⟨b.opened, arguments, overrides⟩)) := by
  have hopened : Application.resolve ⟨t, arguments, overrides⟩ =
      Application.onto t (Application.resolve ⟨b.opened, arguments, overrides⟩) :=
    Application.resolve_on (a := ⟨b.opened, arguments, overrides⟩) ht.looksLike hkeys
  constructor
  · intro hexternal
    rw [opened_of_isExternal hexternal] at hopened
    refine ⟨hopened, ?_⟩
    intro made hmade
    rw [hmade] at hopened
    have hresolved : made.Resolved := ⟨_, hmade⟩
    have hresolved' : (made.on t).Resolved := ⟨_, hopened⟩
    obtain ⟨target, -, rfl⟩ := Application.resolve_eq_ok hmade
    exact ht.instantiate_reads hb rfl hresolved.valid hresolved'.valid hkeys
  · intro hhidden
    refine ⟨?_, hopened⟩
    have hresolve := Application.Resolves.hidden (a := ⟨b, arguments, overrides⟩)
      (by simpa [isAttribute] using hkind) (by simpa [isExternal] using hhidden)
    exact hresolve.resolve_eq

/-- A builder on top of the note that hides its level behind a text. -/
def circularBuilder : Builder where
  draft :=
    { registry := 0
      slotPrefix := "_"
      name := "Circular"
      container := "DynamicAssembly"
      base := some (.ofClass note)
      constructors := (Base.ofClass note).forwardings
      properties := [⟨"level", .str, "_level", []⟩]
      attributes := []
      isFrozen := false }
  built := none

/-- The class that this builder builds. -/
def circular : Class := circularBuilder.draft.compile ⟨0, 0⟩

theorem builtOn_circular : circular.BuiltOn (some note) := by
  have hstart : Builder.start (.empty 0 {}) "Circular" none (some note) =
      .ok ⟨{ circularBuilder.draft with properties := [] }, none⟩ := rfl
  have hdefined := (Builder.Reachable.start hstart).call (.empty 0 {})
    (.define "level" .str : BuilderCall Ty Unit)
  exact .builder hdefined (.empty 0 {}) rfl

/-- The circular takes the draft and the final text as the note does, and reads as the note does. -/
theorem circular_stands_in_for_note :
    Application.resolve ⟨circular, [.str "draft"], some [("Text", .str "final")]⟩ =
        .ok ⟨circular, 0, [.str "draft"], [("Text", .str "final")]⟩ ∧
      ∃ i j,
        Attribute.instantiate ⟨note, 0, [.str "draft"], [("Text", .str "final")]⟩ = .ok i ∧
        Attribute.instantiate ⟨circular, 0, [.str "draft"], [("Text", .str "final")]⟩ = .ok j ∧
        (j.answer (.get "Text")).unowned = (i.answer (.get "Text")).unowned := by
  have hnote : Application.resolve ⟨note, [.str "draft"], some [("Text", .str "final")]⟩ =
      .ok ⟨note, 0, [.str "draft"], [("Text", .str "final")]⟩ := rfl
  have hmade : Attribute.instantiate ⟨note, 0, [.str "draft"], [("Text", .str "final")]⟩ =
      .ok ⟨note, [.int 0, .str "final"]⟩ := rfl
  have hkeys : ∀ entry ∈ (some [("Text", Value.str "final")]).getD [],
      entry.1 ∉ circular.own.properties.map (·.name) :=
    List.forall_mem_singleton.mpr (by decide)
  obtain ⟨hresolve, hreads⟩ := (builtOn_circular.stands_in_for_base grounded_note.made rfl
    [.str "draft"] hkeys).1 rfl
  refine ⟨hresolve.trans (congrArg (Application.onto circular) hnote), ?_⟩
  rcases hreads _ hnote with ⟨e, he, -⟩ | ⟨i, j, hi, hj, hsame⟩
  · rw [hmade] at he
    cases he
  · exact ⟨i, j, hi, hj, (hsame "Text" (by decide)).1⟩

end Class

end ClassSynthesis
