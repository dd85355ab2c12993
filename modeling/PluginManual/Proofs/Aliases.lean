import Mathlib.Data.List.Perm.Subperm
import Mathlib.Logic.Function.Iterate
import Mathlib.Logic.Relation
import PluginManual.Docs.Catalog

/-! Where other names for types lead. From a type a walk goes from name to name, until a class has the name or nothing
    is known under it. A walk that reaches a class uses no name twice, so that as many steps as there are names are
    enough to find it. -/

namespace PluginManual
namespace Catalog

variable {c : Catalog} {type type' : Text} {k : ClassDoc} {n m : Nat}

/-! ### Walks -/

/-- The type names the class. -/
def Names (c : Catalog) (type : Text) (k : ClassDoc) : Prop :=
  ∃ name, TypeExpr.single? type = some name ∧ c.class? name = some k

/-- The type names no class but is another name for a type. -/
def LeadsTo (c : Catalog) (type type' : Text) : Prop :=
  ∃ name, TypeExpr.single? type = some name ∧ c.class? name = none ∧ c.alias? name = some type'

/-- The type has no single alternative, or nothing has its name. -/
def IsStuck (c : Catalog) (type : Text) : Prop :=
  ∀ name, TypeExpr.single? type = some name → c.class? name = none ∧ c.alias? name = none

/-- The class is named at the end of a walk from the type. -/
def Reaches (c : Catalog) (type : Text) (k : ClassDoc) : Prop :=
  ∃ type', Relation.ReflTransGen c.LeadsTo type type' ∧ c.Names type' k

theorem names_or_leadsTo_or_isStuck (c : Catalog) (type : Text) :
    (∃ k, c.Names type k) ∨ (∃ type', c.LeadsTo type type') ∨ c.IsStuck type := by
  cases hname : TypeExpr.single? type with
  | none => exact .inr (.inr fun name h => by rw [hname] at h; cases h)
  | some name =>
    cases hclass : c.class? name with
    | some k => exact .inl ⟨k, name, hname, hclass⟩
    | none =>
      cases halias : c.alias? name with
      | some type' => exact .inr (.inl ⟨type', name, hname, hclass, halias⟩)
      | none =>
        refine .inr (.inr fun name' h => ?_)
        obtain rfl := Option.some.inj (hname.symm.trans h)
        exact ⟨hclass, halias⟩

/-! ### Following for some steps -/

theorem Names.follow (h : c.Names type k) (n : Nat) : c.follow (n + 1) type = some k := by
  obtain ⟨name, hname, hclass⟩ := h
  rw [Catalog.follow, hname]
  simp [hclass]

theorem LeadsTo.follow (h : c.LeadsTo type type') (n : Nat) : c.follow (n + 1) type = c.follow n type' := by
  obtain ⟨name, hname, hclass, halias⟩ := h
  rw [Catalog.follow, hname]
  simp [hclass, halias]

theorem IsStuck.follow (h : c.IsStuck type) (n : Nat) : c.follow n type = none := by
  cases n with
  | zero => rfl
  | succ n =>
    rw [Catalog.follow]
    cases hname : TypeExpr.single? type with
    | none => rfl
    | some name =>
      obtain ⟨hclass, halias⟩ := h name hname
      simp [hclass, halias]

/-- Further steps find the same class. -/
theorem follow_mono (h : c.follow n type = some k) (hnm : n ≤ m) : c.follow m type = some k := by
  induction n generalizing type m with
  | zero => cases h
  | succ n ih =>
    obtain ⟨m, rfl⟩ := Nat.exists_eq_succ_of_ne_zero (Nat.ne_of_gt (Nat.lt_of_lt_of_le n.succ_pos hnm))
    rcases c.names_or_leadsTo_or_isStuck type with ⟨k', hk'⟩ | ⟨type', hstep⟩ | hstuck
    · rw [hk'.follow] at h ⊢
      exact h
    · rw [hstep.follow] at h ⊢
      exact ih h (Nat.le_of_succ_le_succ hnm)
    · rw [hstuck.follow] at h
      cases h

theorem reaches_of_follow (h : c.follow n type = some k) : c.Reaches type k := by
  induction n generalizing type with
  | zero => cases h
  | succ n ih =>
    rcases c.names_or_leadsTo_or_isStuck type with ⟨k', hk'⟩ | ⟨type', hstep⟩ | hstuck
    · rw [hk'.follow] at h
      cases h
      exact ⟨type, .refl, hk'⟩
    · rw [hstep.follow] at h
      obtain ⟨last, hwalk, hk⟩ := ih h
      exact ⟨last, .head hstep hwalk, hk⟩
    · rw [hstuck.follow] at h
      cases h

theorem exists_follow_of_reaches (h : c.Reaches type k) : ∃ n, c.follow n type = some k := by
  obtain ⟨last, hwalk, hk⟩ := h
  induction hwalk using Relation.ReflTransGen.head_induction_on with
  | refl => exact ⟨1, hk.follow 0⟩
  | head hstep _ ih =>
    obtain ⟨n, hn⟩ := ih
    exact ⟨n + 1, (hstep.follow n).trans hn⟩

/-! ### Enough steps -/

/-- A walk that finds a class in `n + 1` steps, and not in `n`, passes `n` different names: no name leads to a type from
    which the class is found sooner than from where the name stands first. -/
theorem exists_names_of_follow (h : c.follow (n + 1) type = some k) (hnone : c.follow n type = none) :
    ∃ names : List Text, names.Nodup ∧ names.length = n ∧
      ∀ name ∈ names, ∃ type', c.alias? name = some type' ∧ (c.follow n type').isSome := by
  induction n generalizing type with
  | zero => exact ⟨[], .nil, rfl, by simp⟩
  | succ n ih =>
    rcases c.names_or_leadsTo_or_isStuck type with ⟨k', hk'⟩ | ⟨type', hstep⟩ | hstuck
    · rw [hk'.follow] at hnone
      cases hnone
    · rw [hstep.follow] at h hnone
      obtain ⟨name, -, -, halias⟩ := hstep
      obtain ⟨names, hnodup, hlength, hnames⟩ := ih h hnone
      have hnew : name ∉ names := by
        intro hmem
        obtain ⟨type'', halias', hsome⟩ := hnames name hmem
        obtain rfl := Option.some.inj (halias.symm.trans halias')
        rw [hnone] at hsome
        cases hsome
      refine ⟨name :: names, List.nodup_cons.mpr ⟨hnew, hnodup⟩, by rw [List.length_cons, hlength], fun name' hmem => ?_⟩
      rcases List.mem_cons.mp hmem with rfl | hmem
      · exact ⟨type', halias, Option.isSome_of_eq_some h⟩
      · obtain ⟨type'', halias', hsome⟩ := hnames name' hmem
        obtain ⟨k'', hk''⟩ := Option.isSome_iff_exists.mp hsome
        exact ⟨type'', halias', Option.isSome_of_eq_some (follow_mono hk'' n.le_succ)⟩
    · rw [hstuck.follow] at h
      cases h

/-- As many steps as there are names, and one more for the class, find what any number of steps finds. -/
theorem classFor?_of_follow (h : c.follow n type = some k) : c.classFor? type = some k := by
  induction n with
  | zero => cases h
  | succ n ih =>
    cases hn : c.follow n type with
    | some k' =>
      rw [follow_mono hn n.le_succ] at h
      exact ih (hn.trans h)
    | none =>
      obtain ⟨names, hnodup, hlength, hnames⟩ := exists_names_of_follow h hn
      have hsubset : names ⊆ c.aliases.names := fun name hmem => by
        obtain ⟨type', halias, -⟩ := hnames name hmem
        exact Dictionary.mem_names_of_get? halias
      have hcount := (hnodup.subperm hsubset).length_le
      rw [hlength, Dictionary.length_names] at hcount
      exact follow_mono h (Nat.succ_le_succ hcount)

/-! ### Walks without end -/

theorem follow_of_isStuck (hwalk : Relation.ReflTransGen c.LeadsTo type type') (hstuck : c.IsStuck type') (n : Nat) :
    c.follow n type = none := by
  induction hwalk using Relation.ReflTransGen.head_induction_on generalizing n with
  | refl => exact hstuck.follow n
  | head hstep _ ih =>
    cases n with
    | zero => rfl
    | succ n => exact (hstep.follow n).trans (ih n)

theorem follow_of_endless {walk : Nat → Text} (hwalk : ∀ i, c.LeadsTo (walk i) (walk (i + 1))) (n i : Nat) :
    c.follow n (walk i) = none := by
  induction n generalizing i with
  | zero => rfl
  | succ n ih => exact ((hwalk i).follow n).trans (ih (i + 1))

/-- A walk that neither gets stuck nor names a class never ends. -/
theorem exists_endless (hstuck : ∀ type', Relation.ReflTransGen c.LeadsTo type type' → ¬ c.IsStuck type')
    (hclass : ∀ k, ¬ c.Reaches type k) : ∃ walk : Nat → Text, walk 0 = type ∧ ∀ i, c.LeadsTo (walk i) (walk (i + 1)) := by
  have hnext : ∀ type', Relation.ReflTransGen c.LeadsTo type type' → ∃ type'', c.LeadsTo type' type'' := by
    intro type' hwalk
    rcases c.names_or_leadsTo_or_isStuck type' with ⟨k, hk⟩ | hstep | hstuck'
    · exact absurd ⟨type', hwalk, hk⟩ (hclass k)
    · exact hstep
    · exact absurd hstuck' (hstuck type' hwalk)
  choose! next hnext using hnext
  have hreached : ∀ i, Relation.ReflTransGen c.LeadsTo type (next^[i] type) := by
    intro i
    induction i with
    | zero => exact .refl
    | succ i ih =>
      rw [Function.iterate_succ_apply']
      exact ih.tail (hnext _ ih)
  refine ⟨fun i => next^[i] type, rfl, fun i => ?_⟩
  show c.LeadsTo (next^[i] type) (next^[i + 1] type)
  rw [Function.iterate_succ_apply']
  exact hnext _ (hreached i)

/-- The class that a type refers to is the one that a walk of any length names, and there is none exactly if the walk
    gets stuck or never ends. -/
theorem classFor?_isUnbounded (c : Catalog) (type : Text) :
    (∀ k, c.classFor? type = some k ↔ c.Reaches type k) ∧
      (c.classFor? type = none ↔
        (∃ type', Relation.ReflTransGen c.LeadsTo type type' ∧ c.IsStuck type') ∨
          ∃ walk : Nat → Text, walk 0 = type ∧ ∀ i, c.LeadsTo (walk i) (walk (i + 1))) := by
  have hreaches : ∀ k, c.classFor? type = some k ↔ c.Reaches type k := by
    intro k
    constructor
    · exact reaches_of_follow
    · intro h
      obtain ⟨n, hn⟩ := exists_follow_of_reaches h
      exact classFor?_of_follow hn
  refine ⟨hreaches, ?_⟩
  constructor
  · intro hnone
    rw [or_iff_not_imp_left, not_exists]
    intro hstuck
    refine exists_endless (fun type' hwalk h => hstuck type' ⟨hwalk, h⟩) fun k hk => ?_
    rw [(hreaches k).mpr hk] at hnone
    cases hnone
  · rintro (⟨type', hwalk, hstuck⟩ | ⟨walk, rfl, hwalk⟩)
    · exact follow_of_isStuck hwalk hstuck _
    · exact follow_of_endless hwalk _ 0

/-- No fewer steps are enough. -/
example :
    let c : Catalog :=
      { classes := ⟨[("K", ⟨"K", none, []⟩)], by decide⟩, aliases := ⟨[("a", "b?"), ("b", "nil|K")], by decide⟩ }
    c.classFor? "a" = some ⟨"K", none, []⟩ ∧ c.follow c.aliases.size "a" = none := by
  decide

end Catalog
end PluginManual
