import SinkCheck.Keyed
/-
  The properties of a configuration, before they are understood.

  A configuration gives texts to property names, each name having at most one text.  The order in which
  it was written down does not matter, so the properties are kept in the order of their names, and two
  configurations with the same texts are equal.

  Main statements: `get?_insert` and `get?_filter` say what inserting and throwing out do to a look-up,
  `ext_get?` that the look-ups determine the properties.
-/

namespace SinkCheck

/-- Texts of properties, in the order of the names. -/
structure Properties where
  entries : List (String × String)
  ordered : Keyed.Ordered entries

namespace Properties

/-- No property at all. -/
def empty : Properties := ⟨[], List.Pairwise.nil⟩

/-- The text of a property. -/
def get? (ps : Properties) (name : String) : Option String := Keyed.find? name ps.entries

/-- Give a property a text. -/
def insert (ps : Properties) (name text : String) : Properties :=
  ⟨Keyed.put name text ps.entries, Keyed.ordered_put name text ps.ordered⟩

/-- The properties of a list of pairs, later pairs overriding earlier ones. -/
def ofList (l : List (String × String)) : Properties := ⟨Keyed.ofList l, Keyed.ordered_ofList l⟩

theorem get?_insert (ps : Properties) (name other text : String) :
    (ps.insert name text).get? other = if name = other then some text else ps.get? other :=
  Keyed.find?_put name other text ps.entries

/-- The properties whose names fulfil a condition. -/
def filter (ps : Properties) (p : String → Bool) : Properties :=
  ⟨ps.entries.filter fun e => p e.1, List.Pairwise.filter _ ps.ordered⟩

theorem get?_filter (ps : Properties) (p : String → Bool) (name : String) :
    (ps.filter p).get? name = if p name then ps.get? name else none :=
  Keyed.find?_filter p name ps.entries

/-- **Properties with the same texts** are the same. -/
theorem ext_get? {ps qs : Properties} (h : ∀ name, ps.get? name = qs.get? name) : ps = qs := by
  obtain ⟨entries, hps⟩ := ps
  obtain ⟨others, hqs⟩ := qs
  have heq : entries = others := Keyed.eq_of_find?_eq hps hqs h
  subst heq
  rfl

/-- The names of the properties, in order. -/
def names (ps : Properties) : List String := ps.entries.map Prod.fst

theorem mem_names_iff {ps : Properties} {name : String} :
    name ∈ ps.names ↔ (ps.get? name).isSome = true :=
  Keyed.isSome_find?_iff.symm

theorem mem_names_filter_iff {ps : Properties} {p : String → Bool} {name : String} :
    name ∈ (ps.filter p).names ↔ name ∈ ps.names ∧ p name = true := by
  simp only [names, filter, List.mem_map, List.mem_filter]
  constructor
  · rintro ⟨e, ⟨he, hp⟩, rfl⟩
    exact ⟨⟨e, he, rfl⟩, hp⟩
  · rintro ⟨⟨e, he, rfl⟩, hp⟩
    exact ⟨e, ⟨he, hp⟩, rfl⟩

end Properties

end SinkCheck
