/-!
# Qualified names

A qualified name is a container and a name with two colons between them. Containers may hold colons
of their own, so a qualified name is split at the last place where two colons stand together.
-/

namespace ClassSynthesis.Text

/-- Split at the last pair of adjacent colons. -/
def splitLast : List Char → Option (List Char × List Char)
  | [] => none
  | ':' :: ':' :: rest =>
    match splitLast (':' :: rest) with
    | some (container, name) => some (':' :: container, name)
    | none => some ([], rest)
  | c :: rest => (splitLast rest).map fun (container, name) => (c :: container, name)

/-- The container and the name of a qualified name, if it has two adjacent colons. -/
def splitQualified? (text : String) : Option (String × String) :=
  (splitLast text.toList).map fun (container, name) =>
    (String.ofList container, String.ofList name)

/-- The name in its container. -/
def qualified (container name : String) : String := s!"{container}::{name}"

/-- The text has two adjacent colons. -/
def HasSeparator (text : String) : Prop := [':', ':'] <:+: text.toList

/-- The text can be told apart from a container that stands in front of it: it has no two adjacent
colons and does not begin with a colon, which could make a pair with one that ends the container. -/
structure IsPlain (name : String) : Prop where
  /-- There is no pair of colons. -/
  pair : ¬ HasSeparator name
  /-- There is no colon in front. -/
  front : name.toList.head? ≠ some ':'

/-- Both parts put together again give what was split. -/
theorem append_of_splitLast {text container name : List Char}
    (h : splitLast text = some (container, name)) : container ++ [':', ':'] ++ name = text := by
  fun_induction splitLast text generalizing container name with
  | case1 => simp at h
  | case2 rest inner found hinner ih =>
    simp only [Option.some.injEq, Prod.mk.injEq] at h
    obtain ⟨rfl, rfl⟩ := h
    simpa using ih hinner
  | case3 rest hinner ih => simp_all
  | case4 c rest hne ih =>
    obtain ⟨⟨inner, found⟩, hinner, heq⟩ := Option.map_eq_some_iff.1 h
    simp only [Prod.mk.injEq] at heq
    obtain ⟨rfl, rfl⟩ := heq
    simpa using ih hinner

/-- A container and a name with neither a pair of colons nor a colon in front come apart again. -/
theorem splitLast_append {container name : List Char} (hpair : splitLast name = none)
    (hfront : name.head? ≠ some ':') :
    splitLast (container ++ ':' :: ':' :: name) = some (container, name) := by
  induction container with
  | nil =>
    have hcolon : splitLast (':' :: name) = none := by
      unfold splitLast
      split <;> simp_all
    simp [splitLast, hcolon]
  | cons c container ih =>
    rw [List.cons_append]
    unfold splitLast
    split <;> simp_all

/-- A text comes apart if there is a place to split it at. -/
theorem splitLast_eq_none_iff {text : List Char} :
    splitLast text = none ↔ ¬ [':', ':'] <:+: text := by
  fun_induction splitLast text with
  | case1 => simp
  | case2 rest container name hinner ih =>
    have hpair : [':', ':'] <:+: ':' :: ':' :: rest := ⟨[], rest, rfl⟩
    simp [hpair]
  | case3 rest hinner ih =>
    have hpair : [':', ':'] <:+: ':' :: ':' :: rest := ⟨[], rest, rfl⟩
    simp [hpair]
  | case4 c rest hne ih =>
    -- No pair starts here, so one that is in the text is in the rest of it.
    have hfront : ¬ [':', ':'] <+: c :: rest := by
      rintro ⟨tail, htail⟩
      obtain ⟨rfl, rfl⟩ := List.cons_eq_cons.mp htail
      exact hne tail rfl rfl
    rw [Option.map_eq_none_iff, ih, List.infix_cons_iff, or_iff_right hfront]

@[simp] theorem toList_qualified (container name : String) :
    (qualified container name).toList = container.toList ++ ':' :: ':' :: name.toList := by
  have happend : qualified container name = container ++ "::" ++ name := rfl
  simp [happend]

/-- A qualified name has two adjacent colons. -/
theorem hasSeparator_qualified (container name : String) :
    HasSeparator (qualified container name) :=
  ⟨container.toList, name.toList, by simp⟩

theorem splitQualified?_eq_none_iff {text : String} :
    splitQualified? text = none ↔ ¬ HasSeparator text := by
  rw [splitQualified?, Option.map_eq_none_iff, splitLast_eq_none_iff, HasSeparator]

/-- Whatever the container is, a plain name comes apart from it. -/
theorem splitQualified?_qualified (container : String) {name : String} (h : IsPlain name) :
    splitQualified? (qualified container name) = some (container, name) := by
  have hsplit : splitLast (container.toList ++ ':' :: ':' :: name.toList) =
      some (container.toList, name.toList) :=
    splitLast_append (splitLast_eq_none_iff.mpr h.pair) h.front
  simp [splitQualified?, hsplit]

example : splitQualified? "A:::B" = some ("A:", "B") := by decide

/-- A text that comes apart is the qualified name of its parts. -/
theorem qualified_of_splitQualified? {text container name : String}
    (h : splitQualified? text = some (container, name)) : qualified container name = text := by
  obtain ⟨⟨front, back⟩, hsplit, hparts⟩ := Option.map_eq_some_iff.mp h
  obtain ⟨rfl, rfl⟩ := Prod.mk.inj hparts
  rw [← String.toList_inj]
  simpa using append_of_splitLast hsplit

end ClassSynthesis.Text
