import Mathlib.Data.List.Chain
import Mathlib.Data.List.Induction
import Mathlib.Data.List.Nodup
import Mathlib.Data.List.Perm.Subperm
import Mathlib.Logic.Relation
import PluginManual.Docs.Catalog

/-! The ancestors of a class. Parents are followed as long as no class comes twice, and a class whose links lead in
    circles has no more ancestors than there are classes. So the fields of a class are those of the longest line of
    different classes that begins with it, and all that its links ever reach are in that line. -/

namespace PluginManual
namespace Catalog

variable {c : Catalog} {k p x y : ClassDoc} {line other chain rest : List ClassDoc} {name : Text} {n : Nat}

/-! ### Parents -/

/-- The class that a class names as its parent. -/
def parentOf? (c : Catalog) (k : ClassDoc) : Option ClassDoc := k.parent.bind c.class?

theorem HasOwnNames.class?_of_parentOf? (hc : c.HasOwnNames) (h : c.parentOf? k = some p) :
    c.class? p.name = some p := by
  obtain ⟨name, -, hp⟩ := Option.bind_eq_some_iff.mp h
  rw [hc name p hp, hp]

theorem ancestry_succ (c : Catalog) (n : Nat) (x : ClassDoc) (rest : List ClassDoc) :
    c.ancestry (n + 1) (x :: rest) = match c.parentOf? x with
      | none => x :: rest
      | some p => if (x :: rest).any (·.name = p.name) then x :: rest else c.ancestry n (p :: x :: rest) := by
  rw [ancestry, parentOf?]
  cases hparent : x.parent with
  | none => simp [hparent]
  | some name => cases hclass : c.class? name <;> simp [hparent, hclass]

/-! ### Lines of classes -/

/-- Each class of the line is followed by its parent, and no two of them have the same name. -/
structure IsLineage (c : Catalog) (k : ClassDoc) (line : List ClassDoc) : Prop where
  begins : line.head? = some k
  linked : line.IsChain (c.parentOf? · = some ·)
  distinct : (line.map (·.name)).Nodup

/-- The line cannot be continued. -/
structure IsFullLineage (c : Catalog) (k : ClassDoc) (line : List ClassDoc) : Prop extends c.IsLineage k line where
  ends : ∀ p, ¬ c.IsLineage k (line ++ [p])

theorem isLineage_singleton (c : Catalog) (k : ClassDoc) : c.IsLineage k [k] :=
  ⟨rfl, .singleton k, List.nodup_singleton _⟩

/-- Parents are followed in one way only. -/
theorem prefix_or_prefix_of_linked {as bs : List ClassDoc} (h : (k :: as).IsChain (c.parentOf? · = some ·))
    (h' : (k :: bs).IsChain (c.parentOf? · = some ·)) : as <+: bs ∨ bs <+: as := by
  induction as generalizing bs k with
  | nil => exact .inl List.nil_prefix
  | cons x as ih =>
    cases bs with
    | nil => exact .inr List.nil_prefix
    | cons y bs =>
      obtain ⟨hx, has⟩ := List.isChain_cons_cons.mp h
      obtain ⟨hy, hbs⟩ := List.isChain_cons_cons.mp h'
      obtain rfl := Option.some.inj (hx.symm.trans hy)
      simpa using ih has hbs

namespace IsLineage

theorem ne_nil (h : c.IsLineage k line) : line ≠ [] := by
  rintro rfl
  cases h.begins

theorem left (h : c.IsLineage k (line ++ rest)) (hne : line ≠ []) : c.IsLineage k line where
  begins := by
    have hbegins := h.begins
    rwa [List.head?_append_of_ne_nil _ hne] at hbegins
  linked := (List.isChain_append.mp h.linked).1
  distinct := by
    have hdistinct := h.distinct
    rw [List.map_append] at hdistinct
    exact hdistinct.of_append_left

/-- A line goes on with the parent of its last class, unless its name is in the line. -/
theorem concat_iff (h : c.IsLineage k line) (hx : line.getLast? = some x) :
    c.IsLineage k (line ++ [p]) ↔ c.parentOf? x = some p ∧ p.name ∉ line.map (·.name) := by
  constructor
  · intro hp
    obtain ⟨-, -, hlink⟩ := List.isChain_append.mp hp.linked
    have hdistinct := hp.distinct
    rw [List.map_append, List.nodup_append] at hdistinct
    exact ⟨hlink x hx p rfl, fun hmem => hdistinct.2.2 _ hmem _ List.mem_cons_self rfl⟩
  · rintro ⟨hlink, hnew⟩
    refine ⟨?_, List.isChain_append.mpr ⟨h.linked, .singleton p, ?_⟩, ?_⟩
    · rw [List.head?_append, h.begins, Option.some_or]
    · rintro y hy z ⟨⟩
      obtain rfl := Option.some.inj (hx.symm.trans hy)
      exact hlink
    · rw [List.map_append, List.map_singleton, List.nodup_append]
      refine ⟨h.distinct, List.nodup_singleton _, fun a ha b hb => ?_⟩
      rw [List.mem_singleton.mp hb]
      exact ne_of_mem_of_not_mem ha hnew

theorem class?_of_mem (h : c.IsLineage k line) (hc : c.HasOwnNames) (hk : c.class? k.name = some k) (hx : x ∈ line) :
    c.class? x.name = some x := by
  obtain ⟨before, after, rfl⟩ := List.append_of_mem hx
  -- The first class is in the catalog, and each other one has been found there as a parent.
  cases hlast : before.getLast? with
  | none =>
    rw [List.getLast?_eq_none_iff.mp hlast] at h
    obtain rfl : x = k := Option.some.inj h.begins
    exact hk
  | some y => exact hc.class?_of_parentOf? ((List.isChain_append.mp h.linked).2.2 y hlast x rfl)

theorem length_le (h : c.IsLineage k line) (hc : c.HasOwnNames) (hk : c.class? k.name = some k) :
    line.length ≤ c.classes.size := by
  have hsubset : line.map (·.name) ⊆ c.classes.names := by
    intro name hname
    obtain ⟨x, hx, rfl⟩ := List.mem_map.mp hname
    exact Dictionary.mem_names_of_get? (h.class?_of_mem hc hk hx)
  have hle := (h.distinct.subperm hsubset).length_le
  rwa [List.length_map, Dictionary.length_names] at hle

/-- Of two lines that begin with the same class one continues the other. -/
theorem prefix_or_prefix (h : c.IsLineage k line) (h' : c.IsLineage k other) : line <+: other ∨ other <+: line := by
  obtain ⟨as, rfl⟩ := List.head?_eq_some_iff.mp h.begins
  obtain ⟨bs, rfl⟩ := List.head?_eq_some_iff.mp h'.begins
  simpa using prefix_or_prefix_of_linked h.linked h'.linked

end IsLineage

namespace IsFullLineage

/-- No line goes further. -/
theorem prefix_of (h : c.IsFullLineage k line) (h' : c.IsLineage k other) : other <+: line := by
  rcases h.toIsLineage.prefix_or_prefix h' with ⟨more, rfl⟩ | hprefix
  · cases more with
    | nil => simp
    | cons p more =>
      rw [List.append_cons] at h'
      exact absurd (h'.left (by simp)) (h.ends p)
  · exact hprefix

theorem unique (h : c.IsFullLineage k line) (h' : c.IsFullLineage k other) : line = other :=
  (h'.prefix_of h.toIsLineage).eq_of_length_le (h.prefix_of h'.toIsLineage).length_le

/-- With a class the line has its parent: the class behind it, or one that it leads back to. -/
theorem mem_of_parentOf? (h : c.IsFullLineage k line) (hc : c.HasOwnNames) (hk : c.class? k.name = some k)
    (hx : x ∈ line) (hy : c.parentOf? x = some y) : y ∈ line := by
  obtain ⟨before, after, rfl⟩ := List.append_of_mem hx
  cases after with
  | nil =>
    have hlast : (before ++ [x]).getLast? = some x := by simp
    -- The line does not go on with the parent, so its name is in the line already.
    have hname : y.name ∈ (before ++ [x]).map (·.name) := by
      by_contra hnew
      exact h.ends y ((h.toIsLineage.concat_iff hlast).mpr ⟨hy, hnew⟩)
    obtain ⟨z, hz, hzy⟩ := List.mem_map.mp hname
    have hfound := h.class?_of_mem hc hk hz
    rw [hzy, hc.class?_of_parentOf? hy] at hfound
    exact Option.some.inj hfound ▸ hz
  | cons z after =>
    have hlink := (List.isChain_append.mp h.linked).2.1
    obtain rfl := Option.some.inj (hy.symm.trans (List.isChain_cons_cons.mp hlink).1)
    simp

theorem reaches_iff (h : c.IsFullLineage k line) (hc : c.HasOwnNames) (hk : c.class? k.name = some k) :
    Relation.ReflTransGen (c.parentOf? · = some ·) k p ↔ p ∈ line := by
  constructor
  · intro hreach
    induction hreach with
    | refl => exact List.mem_of_mem_head? h.begins
    | tail _ hstep ih => exact h.mem_of_parentOf? hc hk ih hstep
  · intro hp
    obtain ⟨before, after, rfl⟩ := List.append_of_mem hp
    clear hp
    induction before using List.reverseRecOn generalizing p after with
    | nil =>
      obtain rfl : p = k := Option.some.inj h.begins
      exact .refl
    | append_singleton before x ih =>
      rw [List.append_assoc, List.singleton_append] at h
      have hlink := (List.isChain_append.mp h.linked).2.1
      exact (ih _ h).tail (List.isChain_cons_cons.mp hlink).1

end IsFullLineage

/-! ### Following parents -/

/-- With as many steps as there are classes missing from the line, it becomes one that cannot be continued. -/
theorem isFullLineage_ancestry (hc : c.HasOwnNames) (hk : c.class? k.name = some k) (hchain : c.IsLineage k chain.reverse)
    (hn : c.classes.size ≤ n + chain.length) : c.IsFullLineage k (c.ancestry n chain).reverse := by
  induction n generalizing chain with
  | zero =>
    refine ⟨hchain, fun p hp => ?_⟩
    have hle : (chain.reverse ++ [p]).length ≤ c.classes.size := hp.length_le hc hk
    rw [List.length_append, List.length_reverse, List.length_singleton] at hle
    omega
  | succ n ih =>
    obtain ⟨x, rest, rfl⟩ := List.exists_cons_of_ne_nil (List.reverse_ne_nil_iff.mp hchain.ne_nil)
    have hlast : (x :: rest).reverse.getLast? = some x := by simp
    have hnext : ∀ p, c.IsLineage k ((x :: rest).reverse ++ [p]) ↔
        c.parentOf? x = some p ∧ (x :: rest).any (·.name = p.name) = false := by
      intro p
      rw [hchain.concat_iff hlast, List.any_eq_false]
      simp only [List.mem_map, List.mem_reverse, decide_eq_true_eq, not_exists, not_and]
    rw [ancestry_succ]
    split
    · next hnone => exact ⟨hchain, fun p hp => absurd (hnone.symm.trans ((hnext p).mp hp).1) (by simp)⟩
    · next p hp =>
      split
      · next hany =>
        refine ⟨hchain, fun q hq => ?_⟩
        obtain ⟨hq, hnew⟩ := (hnext q).mp hq
        obtain rfl := Option.some.inj (hp.symm.trans hq)
        rw [hany] at hnew
        cases hnew
      · next hany =>
        refine ih ?_ (by simp only [List.length_cons] at hn ⊢; omega)
        rw [List.reverse_cons]
        exact (hnext p).mpr ⟨hp, Bool.not_eq_true _ ▸ hany⟩

/-- Where classes are known under their own names, each of them has the fields of its line of ancestors, the most distant
    ones first. The line is the longest one without a repeated class, it has all classes that the links lead to, and it
    takes no more steps than there are classes. -/
theorem fieldsOf_isInherited (hc : c.HasOwnNames) (hk : c.class? k.name = some k) :
    ∃ line, c.IsLineage k line ∧ (∀ other, c.IsLineage k other → other <+: line) ∧
      (∀ p, Relation.ReflTransGen (c.parentOf? · = some ·) k p ↔ p ∈ line) ∧
      (∀ n, c.classes.size ≤ n → c.ancestry n [k] = line.reverse) ∧
      c.fieldsOf k = line.reverse.flatMap (·.fields) := by
  have hstart : c.IsLineage k [k].reverse := c.isLineage_singleton k
  have hfull : ∀ n, c.classes.size ≤ n → c.IsFullLineage k (c.ancestry n [k]).reverse := fun n hn =>
    isFullLineage_ancestry hc hk hstart (by omega)
  have hline := hfull _ (Nat.le_refl _)
  refine ⟨_, hline.toIsLineage, fun other => hline.prefix_of, fun p => hline.reaches_iff hc hk, fun n hn => ?_, ?_⟩
  · rw [← (hfull n hn).unique hline, List.reverse_reverse]
  · rw [List.reverse_reverse, fieldsOf]

/-- The ancestors of the first class lead in circles, and the parent of the last one is not there. -/
theorem fieldsOf_isInherited_of_circle :
    let field : String → FieldDoc := fun name => { name, type := "any" }
    let a : ClassDoc := ⟨"a", some "b", [field "x", field "y"]⟩
    let b : ClassDoc := ⟨"b", some "c", [field "z"]⟩
    let c : ClassDoc := ⟨"c", some "b", [field "x"]⟩
    let d : ClassDoc := ⟨"d", some "e", [field "w"]⟩
    let catalog : Catalog := { classes := ⟨[("d", d), ("c", c), ("a", a), ("b", b)], by decide⟩ }
    catalog.HasOwnNames ∧ (catalog.class? "a" = some a ∧ catalog.fieldsOf a = [field "x", field "z", field "x", field "y"] ∧
      ∃ line, catalog.IsLineage a line ∧ (∀ other, catalog.IsLineage a other → other <+: line) ∧
        catalog.fieldsOf a = line.reverse.flatMap (·.fields)) ∧
    catalog.class? "d" = some d ∧ catalog.fieldsOf d = [field "w"] := by
  intro field a b c d catalog
  have hc : catalog.HasOwnNames := by decide
  have ha : catalog.class? "a" = some a := by decide
  obtain ⟨line, hline, hlongest, -, -, hfields⟩ := fieldsOf_isInherited (k := a) hc ha
  exact ⟨hc, ⟨ha, by decide, line, hline, hlongest, hfields⟩, by decide, by decide⟩

end Catalog
end PluginManual
