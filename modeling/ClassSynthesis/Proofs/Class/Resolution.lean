import ClassSynthesis.Declaration
import ClassSynthesis.Proofs.Instance.Overrides

/-!
# What applications are resolved to

The conditions on an application have an order, and the first one that it breaks decides what it is
resolved to: its class is to be an attribute class and open to everyone, one of the constructors is
to match the arguments exactly, all overrides are to name writable members, and each of them is to
be taken. An application that breaks none is resolved to the attribute that it describes. Here the
conditions are stated without the checks, and tied to them.
-/

namespace ClassSynthesis

namespace Class

variable {kind : Class} {overrides : List (String × Value)}

/-- The names that are overridden without being those of writable members, in order and as often as
they are given. -/
def strangers (kind : Class) (overrides : List (String × Value)) : List String :=
  (overrides.map (·.1)).filter fun name => (kind.writable? name).isNone

/-- The members of overrides that are no strangers are writable. -/
theorem exists_member_of_strangers_eq_nil (h : kind.strangers overrides = []) {name : String}
    {value : Value} (hentry : (name, value) ∈ overrides) :
    ∃ member, kind.writable? name = some member := by
  have hwritable := List.filter_eq_nil_iff.mp h name (List.mem_map_of_mem hentry)
  rw [Option.isNone_iff_eq_none] at hwritable
  exact Option.ne_none_iff_exists'.mp hwritable

/-- Where every override is taken, there are no strangers. -/
theorem strangers_eq_nil (h : ∀ entry ∈ overrides, kind.Takes entry.1 entry.2) :
    kind.strangers overrides = [] := by
  rw [strangers, List.filter_eq_nil_iff]
  intro name hname
  obtain ⟨entry, hentry, rfl⟩ := List.mem_map.mp hname
  obtain ⟨member, hmember, -⟩ := h entry hentry
  simp [hmember]

/-- The override of a member by a value is the first one that is not taken. -/
structure FirstRefusal (kind : Class) (overrides : List (String × Value)) (name : String)
    (member : WritableMember) (value : Value) : Prop where
  /-- The member may be written. -/
  writable : kind.writable? name = some member
  /-- It does not accept the value. -/
  refused : member.ty.accepts value = false
  /-- All overrides before it are taken. -/
  first : ∃ before after, overrides = before ++ (name, value) :: after ∧
    ∀ entry ∈ before, kind.Takes entry.1 entry.2

end Class

namespace Application

variable {a : Application} {kind : Class} {overrides : List (String × Value)}

/-- The class is an attribute class, and everyone may refer to it. -/
structure IsOpen (a : Application) : Prop where
  /-- It is an attribute class. -/
  kind : a.kind.own.kind = .metadata
  /-- Everyone may refer to it. -/
  visibility : a.kind.own.visibility = .external

/-- This constructor matches the arguments exactly, and no earlier one does. -/
structure FirstMatch (a : Application) (target : Nat) : Prop where
  /-- It matches. -/
  found : ∃ k, a.kind.constructors[target]? = some k ∧ k.matchesExactly a.arguments = true
  /-- Those before it do not. -/
  least : ∀ earlier < target, ∀ k, a.kind.constructors[earlier]? = some k →
    k.matchesExactly a.arguments = false

/-- The overrides that an application gives. -/
inductive Gives (a : Application) : List (String × Value) → Prop
  /-- It does not mention any. -/
  | absent (h : a.overrides = none) : Gives a []
  /-- It lists them. -/
  | listed {overrides : List (String × Value)} (h : a.overrides = some overrides) :
    Gives a overrides

/-- What an application is to be resolved to. -/
inductive Resolves (a : Application) : Except Error Attribute → Prop
  /-- The class is no attribute class. -/
  | notAttribute (hkind : a.kind.own.kind ≠ .metadata) :
    Resolves a (.error (.notAttribute a.kind.name))
  /-- It is one that not everyone may refer to. -/
  | hidden (hkind : a.kind.own.kind = .metadata)
    (hvisibility : a.kind.own.visibility ≠ .external) :
    Resolves a (.error (.hiddenAttribute a.kind.name "kind"))
  /-- No constructor matches the arguments exactly, whatever is overridden. -/
  | noConstructor (hopen : a.IsOpen)
    (hnone : ∀ k ∈ a.kind.constructors, k.matchesExactly a.arguments = false) :
    Resolves a
      (.error (.noConstructor a.kind.name (a.arguments.map (·.typeName)) "ctor_args"))
  /-- Some overrides are not for writable members. -/
  | unknownOverrides (hopen : a.IsOpen) {target : Nat} (hmatch : a.FirstMatch target)
    {overrides : List (String × Value)} (hgiven : a.Gives overrides)
    (hstrangers : a.kind.strangers overrides ≠ []) :
    Resolves a
      (.error (.unknownOverrides a.kind.name (a.kind.strangers overrides) "overrides"))
  /-- They all are, but some value does not fit. -/
  | mismatch (hopen : a.IsOpen) {target : Nat} (hmatch : a.FirstMatch target)
    {overrides : List (String × Value)} (hgiven : a.Gives overrides)
    (hstrangers : a.kind.strangers overrides = []) {name : String} {member : WritableMember}
    {value : Value} (hrefusal : a.kind.FirstRefusal overrides name member value) :
    Resolves a (.error (.typeMismatch name member.ty.name value.typeName))
  /-- Every condition is met. -/
  | resolved (hopen : a.IsOpen) {target : Nat} (hmatch : a.FirstMatch target)
    {overrides : List (String × Value)} (hgiven : a.Gives overrides)
    (htakes : ∀ entry ∈ overrides, a.kind.Takes entry.1 entry.2) :
    Resolves a (.ok ⟨a.kind, target, a.arguments, overrides⟩)

/-! ### The checks -/

/-- The constructor that is looked up is the first match. -/
theorem target?_eq_some_iff {target : Nat} : a.target? = some target ↔ a.FirstMatch target := by
  rw [target?, List.findIdx?_eq_some_iff_getElem]
  constructor
  · rintro ⟨hlt, hmatches, hleast⟩
    refine ⟨⟨_, List.getElem?_eq_getElem hlt, hmatches⟩, ?_⟩
    intro earlier hearlier k hk
    obtain ⟨_, rfl⟩ := List.getElem?_eq_some_iff.mp hk
    simpa using hleast earlier hearlier
  · rintro ⟨⟨k, hk, hmatches⟩, hleast⟩
    obtain ⟨hlt, rfl⟩ := List.getElem?_eq_some_iff.mp hk
    refine ⟨hlt, hmatches, ?_⟩
    intro earlier hearlier
    have hnot := hleast earlier hearlier _ (List.getElem?_eq_getElem (Nat.lt_trans hearlier hlt))
    simp [hnot]

/-- None is found where none matches. -/
theorem target?_eq_none_iff :
    a.target? = none ↔ ∀ k ∈ a.kind.constructors, k.matchesExactly a.arguments = false :=
  List.findIdx?_eq_none_iff

/-- The overrides that are checked are those that are given. -/
theorem gives_overrideList (a : Application) : a.Gives a.overrideList := by
  cases h : a.overrides with
  | none =>
    rw [overrideList, h]
    exact .absent h
  | some overrides =>
    rw [overrideList, h]
    exact .listed h

theorem Gives.overrideList_eq (h : a.Gives overrides) : a.overrideList = overrides := by
  cases h with
  | absent h =>
    rw [overrideList, h]
    rfl
  | listed h =>
    rw [overrideList, h]
    rfl

/-- The unknown names are those of strangers. -/
theorem Gives.unknownNames_eq (h : a.Gives overrides) :
    a.unknownNames = a.kind.strangers overrides := by
  rw [unknownNames, h.overrideList_eq, Class.strangers, List.filter_map]
  rfl

/-- The check of one override tells whether it is taken. -/
theorem checkOverride_eq_ok_iff {name : String} {value : Value} :
    checkOverride kind name value = .ok () ↔ kind.Takes name value := by
  unfold checkOverride
  constructor
  · intro h
    cases hmember : kind.writable? name with
    | none => simp [hmember] at h
    | some member =>
      by_cases haccepts : member.ty.accepts value
      · exact ⟨member, hmember, haccepts⟩
      · simp [hmember, haccepts] at h
  · rintro ⟨member, hmember, haccepts⟩
    simp only [hmember, haccepts, ite_true]

/-- The check of all overrides fails with the first one whose check fails. -/
theorem checkOverrides_eq_error_iff {e : Error} :
    checkOverrides kind overrides = .error e ↔
      ∃ before name value after, overrides = before ++ (name, value) :: after ∧
        (∀ entry ∈ before, kind.Takes entry.1 entry.2) ∧
        checkOverride kind name value = .error e := by
  induction overrides with
  | nil => simp [checkOverrides]
  | cons first rest ih =>
    obtain ⟨name, value⟩ := first
    cases hfirst : checkOverride kind name value with
    | error e' =>
      simp only [checkOverrides, hfirst, Except.error.injEq]
      constructor
      · rintro rfl
        exact ⟨[], name, value, rest, rfl, by simp, hfirst⟩
      · rintro ⟨_ | ⟨entry, before⟩, other, otherValue, after, hsplit, hbefore, herror⟩
        · obtain ⟨⟨rfl, rfl⟩, rfl⟩ := by simpa using hsplit
          exact Except.error.inj (hfirst.symm.trans herror)
        · obtain ⟨rfl, rfl⟩ := List.cons_eq_cons.mp hsplit
          have hok := checkOverride_eq_ok_iff.mpr (hbefore _ List.mem_cons_self)
          rw [hfirst] at hok
          cases hok
    | ok passed =>
      simp only [checkOverrides, hfirst, ih]
      constructor
      · rintro ⟨before, other, otherValue, after, rfl, hbefore, herror⟩
        refine ⟨(name, value) :: before, other, otherValue, after, rfl, ?_, herror⟩
        rw [List.forall_mem_cons]
        exact ⟨checkOverride_eq_ok_iff.mp hfirst, hbefore⟩
      · rintro ⟨_ | ⟨entry, before⟩, other, otherValue, after, hsplit, hbefore, herror⟩
        · obtain ⟨⟨rfl, rfl⟩, rfl⟩ := by simpa using hsplit
          rw [hfirst] at herror
          cases herror
        · obtain ⟨rfl, rfl⟩ := List.cons_eq_cons.mp hsplit
          rw [List.forall_mem_cons] at hbefore
          exact ⟨before, other, otherValue, after, rfl, hbefore.2, herror⟩

/-- Among overrides of writable members, the check fails with the first refusal. -/
theorem exists_firstRefusal {e : Error} (hstrangers : kind.strangers overrides = [])
    (h : checkOverrides kind overrides = .error e) :
    ∃ name member value, kind.FirstRefusal overrides name member value := by
  obtain ⟨before, name, value, after, hsplit, hbefore, herror⟩ :=
    checkOverrides_eq_error_iff.mp h
  have hentry : (name, value) ∈ overrides := by
    simp [hsplit]
  obtain ⟨member, hmember⟩ := Class.exists_member_of_strangers_eq_nil hstrangers hentry
  refine ⟨name, member, value, hmember, ?_, before, after, hsplit, hbefore⟩
  cases haccepts : member.ty.accepts value with
  | false => rfl
  | true =>
    rw [checkOverride_eq_ok_iff.mpr ⟨member, hmember, haccepts⟩] at herror
    cases herror

/-- A first refusal fails the check of the overrides. -/
theorem checkOverrides_of_firstRefusal {name : String} {member : WritableMember} {value : Value}
    (h : kind.FirstRefusal overrides name member value) :
    checkOverrides kind overrides =
      .error (.typeMismatch name member.ty.name value.typeName) := by
  obtain ⟨before, after, hsplit, hbefore⟩ := h.first
  refine checkOverrides_eq_error_iff.mpr ⟨before, name, value, after, hsplit, hbefore, ?_⟩
  simp [checkOverride, h.writable, h.refused]

/-! ### The outcome -/

theorem IsOpen.isAttribute (h : a.IsOpen) : a.kind.isAttribute = true := by
  rw [Class.isAttribute, h.kind]
  rfl

theorem IsOpen.isExternal (h : a.IsOpen) : a.kind.isExternal = true := by
  rw [Class.isExternal, h.visibility]
  rfl

/-- The check of an open class. -/
theorem IsOpen.resolve_eq (h : a.IsOpen) (hgiven : a.Gives overrides) :
    a.resolve = match a.target? with
      | none => .error (.noConstructor a.kind.name (a.arguments.map (·.typeName)) "ctor_args")
      | some target =>
        if (a.kind.strangers overrides).isEmpty then
          (checkOverrides a.kind overrides).map fun _ => ⟨a.kind, target, a.arguments, overrides⟩
        else .error (.unknownOverrides a.kind.name (a.kind.strangers overrides) "overrides") := by
  simp only [resolve, h.isAttribute, h.isExternal, Bool.not_true, Bool.false_eq_true, ite_false,
    hgiven.unknownNames_eq, hgiven.overrideList_eq]
  cases checkOverrides a.kind overrides <;> rfl

/-- Every application is to be resolved to something. -/
theorem exists_resolves (a : Application) : ∃ result, a.Resolves result := by
  have hgiven := a.gives_overrideList
  by_cases hkind : a.kind.own.kind = .metadata
  · by_cases hvisibility : a.kind.own.visibility = .external
    · have hopen : a.IsOpen := ⟨hkind, hvisibility⟩
      cases htarget : a.target? with
      | none => exact ⟨_, .noConstructor hopen (target?_eq_none_iff.mp htarget)⟩
      | some target =>
        have hmatch := target?_eq_some_iff.mp htarget
        by_cases hstrangers : a.kind.strangers a.overrideList = []
        · cases hcheck : checkOverrides a.kind a.overrideList with
          | ok passed =>
            refine ⟨_, .resolved hopen hmatch hgiven ?_⟩
            intro entry hentry
            exact checkOverride_eq_ok_iff.mp (checkOverrides_eq_ok_iff.mp hcheck _ _ hentry)
          | error e =>
            obtain ⟨name, member, value, hrefusal⟩ := exists_firstRefusal hstrangers hcheck
            exact ⟨_, .mismatch hopen hmatch hgiven hstrangers hrefusal⟩
        · exact ⟨_, .unknownOverrides hopen hmatch hgiven hstrangers⟩
    · exact ⟨_, .hidden hkind hvisibility⟩
  · exact ⟨_, .notAttribute hkind⟩

/-- What an application is to be resolved to, it is resolved to. -/
theorem Resolves.resolve_eq {result : Except Error Attribute} (h : a.Resolves result) :
    a.resolve = result := by
  cases h with
  | notAttribute hkind =>
    have hattribute : a.kind.isAttribute = false := by
      simp [Class.isAttribute, hkind]
    simp [resolve, hattribute]
  | hidden hkind hvisibility =>
    have hattribute : a.kind.isAttribute = true := by
      simp [Class.isAttribute, hkind]
    have hexternal : a.kind.isExternal = false := by
      simp [Class.isExternal, hvisibility]
    simp [resolve, hattribute, hexternal]
  | noConstructor hopen hnone =>
    rw [hopen.resolve_eq a.gives_overrideList, target?_eq_none_iff.mpr hnone]
  | unknownOverrides hopen hmatch hgiven hstrangers =>
    simp only [hopen.resolve_eq hgiven, target?_eq_some_iff.mpr hmatch,
      List.isEmpty_eq_false_iff.mpr hstrangers, Bool.false_eq_true, ite_false]
  | mismatch hopen hmatch hgiven hstrangers hrefusal =>
    simp only [hopen.resolve_eq hgiven, target?_eq_some_iff.mpr hmatch, hstrangers,
      List.isEmpty_nil, ite_true, checkOverrides_of_firstRefusal hrefusal]
    rfl
  | @resolved hopen target hmatch overrides hgiven htakes =>
    have hcheck : checkOverrides a.kind overrides = .ok () :=
      checkOverrides_eq_ok_iff.mpr fun name value hentry =>
        checkOverride_eq_ok_iff.mpr (htakes (name, value) hentry)
    simp only [hopen.resolve_eq hgiven, target?_eq_some_iff.mpr hmatch,
      Class.strangers_eq_nil htakes, List.isEmpty_nil, ite_true, hcheck]
    rfl

theorem resolves_resolve (a : Application) : a.Resolves a.resolve := by
  obtain ⟨result, h⟩ := a.exists_resolves
  rwa [h.resolve_eq]

/-- An application is resolved to what it is to be resolved to: the first condition that it breaks
decides. The check of a single override never reports a member as unknown, since all names are
checked before, and no overrides are the same as an empty list of them. -/
theorem resolve_eq_iff_resolves (a : Application) :
    (∀ result, a.resolve = result ↔ a.Resolves result) ∧
      (∀ owner member, a.resolve ≠ .error (.unknownMember owner member)) ∧
      resolve { a with overrides := none } = resolve { a with overrides := some [] } := by
  have hresolves := a.resolves_resolve
  refine ⟨?_, ?_, rfl⟩
  · intro result
    constructor
    · rintro rfl
      exact hresolves
    · exact Resolves.resolve_eq
  · intro owner member h
    rw [h] at hresolves
    cases hresolves

/-- An attribute class with a field and a property that may be written, and with one of each that
may not. -/
def noticeDeclaration : Declaration where
  name := "Notice"
  kind := .metadata
  fields := [{ name := "rank", ty := .int }, { name := "origin", ty := .str, isReadonly := true }]
  properties := [{ name := "Text", ty := .str }, { name := "Size", ty := .int, writable := false }]
  constructors :=
    [{ parameters := [("text", .any)] },
      { parameters := [("text", .str)], assignments := [("text", "Text")] }]

/-- The class of this declaration. -/
def notice : Class :=
  (noticeDeclaration.members ⟨0, 0⟩ "DynamicAssembly").mapOwn fun layer =>
    { layer with
      constructors :=
        [⟨[⟨"text", .any, 0, []⟩], Code.storing none []⟩,
          ⟨[⟨"text", .str, 0, []⟩], Code.storing none [(0, 2)]⟩] }

/-- The second constructor matches a text. Overrides that fit are kept as they are given, repeated
ones too. Of those that do not fit the first one is reported, unless there are names that are
unknown or read-only: then these are, as often as they occur. Arguments that nothing matches are
refused, whatever is overridden. -/
theorem resolve_eq_iff_resolves_notice :
    (∃ left, Registry.declare noticeDeclaration (.empty 0 {}) = .ok notice left) ∧
    resolve ⟨notice, [.str "draft"], none⟩ = .ok ⟨notice, 1, [.str "draft"], []⟩ ∧
    resolve ⟨notice, [.str "draft"],
        some [("Text", .str "one"), ("rank", .int 2), ("Text", .null)]⟩ =
      .ok ⟨notice, 1, [.str "draft"],
        [("Text", .str "one"), ("rank", .int 2), ("Text", .null)]⟩ ∧
    resolve ⟨notice, [.str "draft"],
        some [("Text", .str "one"), ("rank", .str "high"), ("Text", .int 3)]⟩ =
      .error (.typeMismatch "rank" "Int64" "String") ∧
    resolve ⟨notice, [.str "draft"],
        some [("Size", .int 1), ("Text", .int 2), ("origin", .null), ("Owner", .null),
          ("Size", .null)]⟩ =
      .error (.unknownOverrides "Notice" ["Size", "origin", "Owner", "Size"] "overrides") ∧
    resolve ⟨notice, [.int 1, .null], some [("Owner", .null)]⟩ =
      .error (.noConstructor "Notice" ["Int64", "Null"] "ctor_args") := by
  have hopen (arguments : List Value) (overrides : Option (List (String × Value))) :
      IsOpen ⟨notice, arguments, overrides⟩ := ⟨rfl, rfl⟩
  have hmatch (overrides : Option (List (String × Value))) :
      FirstMatch ⟨notice, [.str "draft"], overrides⟩ 1 := target?_eq_some_iff.mp rfl
  have htext {value : Value} (h : Ty.str.accepts value = true) : notice.Takes "Text" value :=
    ⟨_, rfl, h⟩
  have hrank : notice.Takes "rank" (.int 2) := ⟨_, rfl, rfl⟩
  have hrefusal : notice.FirstRefusal
      [("Text", .str "one"), ("rank", .str "high"), ("Text", .int 3)] "rank" _ (.str "high") :=
    ⟨rfl, rfl, [("Text", .str "one")], _, rfl, List.forall_mem_singleton.mpr (htext rfl)⟩
  have hresolve {a : Application} {result : Except Error Attribute} (h : a.Resolves result) :
      a.resolve = result := ((resolve_eq_iff_resolves a).1 result).mpr h
  refine ⟨⟨_, rfl⟩, hresolve ?_, hresolve ?_, hresolve ?_, hresolve ?_, hresolve ?_⟩
  · exact .resolved (hopen _ _) (hmatch _) (.absent rfl) (List.forall_mem_nil _)
  · refine .resolved (hopen _ _) (hmatch _) (.listed rfl) ?_
    rw [List.forall_mem_cons, List.forall_mem_cons, List.forall_mem_singleton]
    exact ⟨htext rfl, hrank, htext rfl⟩
  · exact .mismatch (hopen _ _) (hmatch _) (.listed rfl) rfl hrefusal
  · exact .unknownOverrides (hopen _ _) (hmatch _) (.listed rfl) (by decide)
  · exact .noConstructor (hopen _ _) (by decide)

end Application

end ClassSynthesis
