import PluginManual.Text.Basic

/-! Dictionaries: what is known under each of finitely many names. -/

namespace PluginManual

/-- Values under names, no two of them under the same name. What was set last stands last. -/
structure Dictionary (α : Type) where
  entries : List (Text × α)
  distinct : (entries.map (·.1)).Nodup
deriving DecidableEq, Repr

namespace Dictionary

variable {α : Type} {d : Dictionary α} {name n : Text} {x y : α}

instance : EmptyCollection (Dictionary α) := ⟨[], .nil⟩

instance : Inhabited (Dictionary α) := ⟨∅⟩

def names (d : Dictionary α) : List Text := d.entries.map (·.1)

def values (d : Dictionary α) : List α := d.entries.map (·.2)

def size (d : Dictionary α) : Nat := d.entries.length

def get? (d : Dictionary α) (name : Text) : Option α := d.entries.lookup name

/-- What is known under other names, and `x` behind it. -/
def entriesWith (d : Dictionary α) (name : Text) (x : α) : List (Text × α) :=
  d.entries.filter (·.1 ≠ name) ++ [(name, x)]

theorem nodup_entriesWith (d : Dictionary α) (name : Text) (x : α) : ((d.entriesWith name x).map (·.1)).Nodup := by
  rw [entriesWith, List.map_append, List.nodup_append]
  refine ⟨d.distinct.sublist (List.filter_sublist.map _), by simp, ?_⟩
  simp only [List.mem_map, List.mem_filter, List.map_singleton, List.mem_singleton]
  rintro _ ⟨e, ⟨-, he⟩, rfl⟩ _ rfl
  exact of_decide_eq_true he

/-- Sets what is known under a name, in place of what was known under it. -/
def insert (d : Dictionary α) (name : Text) (x : α) : Dictionary α :=
  ⟨d.entriesWith name x, d.nodup_entriesWith name x⟩

/-! ### What is known -/

/-- What is known under a name is the one entry with that name. -/
theorem get?_eq_some_iff : d.get? name = some x ↔ (name, x) ∈ d.entries := by
  rw [get?, List.lookup_eq_some_iff]
  constructor
  · rintro ⟨before, after, h, -⟩
    rw [h]
    exact List.mem_append_right _ List.mem_cons_self
  · intro h
    obtain ⟨before, after, hentries⟩ := List.append_of_mem h
    refine ⟨before, after, hentries, fun e he => ?_⟩
    have hdistinct := d.distinct
    rw [hentries, List.map_append, List.nodup_append] at hdistinct
    exact bne_iff_ne.mpr (hdistinct.2.2 _ (List.mem_map_of_mem he) _ List.mem_cons_self).symm

theorem size_insert (d : Dictionary α) (name : Text) (x : α) :
    (d.insert name x).size = (d.entries.filter (·.1 ≠ name)).length + 1 := List.length_append

theorem length_names (d : Dictionary α) : d.names.length = d.size := List.length_map _

@[simp] theorem get?_empty : (∅ : Dictionary α).get? name = none := rfl

theorem mem_entries_insert {e : Text × α} :
    e ∈ (d.insert name x).entries ↔ (e ∈ d.entries ∧ e.1 ≠ name) ∨ e = (name, x) := by
  simp [insert, entriesWith]

theorem get?_insert : (d.insert name x).get? n = if name = n then some x else d.get? n := by
  apply Option.ext
  intro y
  rw [get?_eq_some_iff, mem_entries_insert]
  by_cases h : name = n
  · subst h
    simp [eq_comm]
  · simp [h, Ne.symm h, get?_eq_some_iff]

theorem mem_names_of_get? (h : d.get? name = some x) : name ∈ d.names := List.mem_map_of_mem (get?_eq_some_iff.mp h)

theorem get?_eq_none_of_not_mem (h : name ∉ d.names) : d.get? name = none :=
  Option.eq_none_iff_forall_ne_some.mpr fun _ hx => h (mem_names_of_get? hx)

theorem mem_values_of_get? (h : d.get? name = some x) : x ∈ d.values := List.mem_map_of_mem (get?_eq_some_iff.mp h)

/-- Each value is an old one or the one that has been set. -/
theorem mem_values_insert (h : y ∈ (d.insert name x).values) : y ∈ d.values ∨ y = x := by
  obtain ⟨e, he, rfl⟩ := List.mem_map.mp h
  rcases mem_entries_insert.mp he with ⟨he, -⟩ | rfl
  · exact .inl (List.mem_map_of_mem he)
  · exact .inr rfl

end Dictionary
end PluginManual
