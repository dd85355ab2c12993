import Mathlib.Data.List.Nodup
import Mathlib.Data.List.Perm.Subperm
import PluginManual.Proofs.Cuts

/-! Anchors that are given one after the other. For each anchor that it has given a slugger knows the number to
    try next when the anchor is wanted again, and all smaller numbers are taken. So a search that begins with this
    number finds what a search through all numbers would find, and no anchor is given twice. -/

namespace PluginManual
namespace Slugger
open Text

variable {g : Slugger} {base text a x : Text} {given texts : List Text} {fuel n m : Nat}

/-! ### Numbers behind an anchor -/

@[simp] theorem numbered_inj : numbered base n = numbered base m ↔ n = m := by
  simp [numbered]

/-! ### Anchors that have been seen -/

theorem hasSeen_iff : g.hasSeen a = true ↔ a ∈ g.seen.map (·.1) := by
  rw [hasSeen, List.lookup_isSome_iff, List.mem_map]
  exact exists_congr fun p => and_congr_right fun _ => by rw [beq_iff_eq, eq_comm]

theorem hasSeen_of_lookup (h : g.seen.lookup a = some n) : g.hasSeen a = true := by
  rw [hasSeen, h]
  rfl

theorem lookup_give (h : g.hasSeen a = false) :
    (g.give a).seen.lookup x = if x = a then some 1 else g.seen.lookup x := by
  rw [give, if_neg (by simp [h]), List.lookup_cons]
  by_cases hx : x = a
  · simp [hx]
  · rw [if_neg hx, beq_eq_false_iff_ne.mpr hx]

theorem lookup_advance :
    (g.advance base n).seen.lookup x = if x = base then (g.seen.lookup x).map fun _ => n else g.seen.lookup x := by
  simp only [advance]
  induction g.seen with
  | nil => simp
  | cons entry rest ih =>
    obtain ⟨b, k⟩ := entry
    have hhead : (if b = base then (b, n) else (b, k)) = (b, if b = base then n else k) := by split <;> rfl
    simp only [List.map_cons, List.lookup_cons, hhead, ih]
    by_cases hx : x = b
    · subst hx
      by_cases hb : x = base <;> simp [hb]
    · rw [beq_eq_false_iff_ne.mpr hx]

@[simp] theorem hasSeen_advance : (g.advance base n).hasSeen x = g.hasSeen x := by
  rw [hasSeen, hasSeen, lookup_advance]
  split <;> simp

/-! ### The search for a number -/

/-- The search from the number `n` on ends with the number `m`, however many trials that takes. -/
inductive Finds (g : Slugger) (base : Text) : Nat → Nat → Prop
  | free {n : Nat} : g.hasSeen (numbered base n) = false → Finds g base n n
  | taken {n m : Nat} : g.hasSeen (numbered base n) = true → Finds g base (n + 1) m → Finds g base n m

/-- The search passes over numbers that are taken, and stops at the first that is not. -/
theorem Finds.first (h : Finds g base n m) :
    n ≤ m ∧ g.hasSeen (numbered base m) = false ∧ ∀ k, n ≤ k → k < m → g.hasSeen (numbered base k) = true := by
  induction h with
  | free hfree => exact ⟨Nat.le_refl _, hfree, fun k hk hlt => absurd hk (Nat.not_le.mpr hlt)⟩
  | @taken n m htaken _ ih =>
    obtain ⟨hle, hfree, hbetween⟩ := ih
    refine ⟨Nat.le_of_succ_le hle, hfree, fun k hk hlt => ?_⟩
    rcases Nat.eq_or_lt_of_le hk with rfl | hk
    · exact htaken
    · exact hbetween k hk hlt

theorem finds_freeNumber_of_free (h : ∃ i < fuel, g.hasSeen (numbered base (n + i)) = false) :
    Finds g base n (g.freeNumber base fuel n) := by
  induction fuel generalizing n with
  | zero =>
    obtain ⟨i, hi, -⟩ := h
    exact absurd hi (Nat.not_lt_zero i)
  | succ fuel ih =>
    rw [freeNumber]
    split
    · next htaken =>
      obtain ⟨i, hi, hfree⟩ := h
      cases i with
      | zero => simp [htaken] at hfree
      | succ i => exact .taken htaken (ih ⟨i, by omega, by rwa [Nat.add_right_comm, Nat.add_assoc]⟩)
    · next hfree => exact .free (Bool.not_eq_true _ ▸ hfree)

/-- Of more numbers than there are anchors one is free. -/
theorem exists_free (g : Slugger) (base : Text) (n : Nat) :
    ∃ i < g.seen.length + 1, g.hasSeen (numbered base (n + i)) = false := by
  by_contra hall
  have hnodup : ((List.range (g.seen.length + 1)).map fun i => numbered base (n + i)).Nodup :=
    List.Nodup.map (fun i j h => by simpa using h) List.nodup_range
  have hsubset : ((List.range (g.seen.length + 1)).map fun i => numbered base (n + i)) ⊆ g.seen.map (·.1) := by
    intro a ha
    obtain ⟨i, hi, rfl⟩ := List.mem_map.mp ha
    by_contra hseen
    rw [← hasSeen_iff, Bool.not_eq_true] at hseen
    exact hall ⟨i, List.mem_range.mp hi, hseen⟩
  have hlength := (List.subperm_of_subset hnodup hsubset).length_le
  simp only [List.length_map, List.length_range] at hlength
  exact Nat.not_succ_le_self _ hlength

/-- The trials suffice for the search to end. -/
theorem finds_freeNumber (g : Slugger) (base : Text) (n : Nat) :
    Finds g base n (g.freeNumber base (g.seen.length + 1) n) := finds_freeNumber_of_free (exists_free g base n)

/-! ### One anchor -/

/-- The anchor is `base` or, if that has been given, the first of `base-1`, `base-2` and so on that has not. -/
def IsFirstFree (given : List Text) (base a : Text) : Prop :=
  (base ∉ given ∧ a = base) ∨
  (base ∈ given ∧ ∃ n, 1 ≤ n ∧ a = numbered base n ∧ numbered base n ∉ given ∧
    ∀ k, 1 ≤ k → k < n → numbered base k ∈ given)

theorem IsFirstFree.not_mem (h : IsFirstFree given base a) : a ∉ given := by
  rcases h with ⟨hfree, rfl⟩ | ⟨-, n, -, rfl, hfree, -⟩
  · exact hfree
  · exact hfree

/-- The slugger has given these anchors, and for none of them a number is free below the one to try next. -/
structure HasGiven (g : Slugger) (given : List Text) : Prop where
  seen : ∀ a, g.hasSeen a = true ↔ a ∈ given
  next : ∀ a n, g.seen.lookup a = some n → 1 ≤ n ∧ ∀ k, 1 ≤ k → k < n → numbered a k ∈ given

theorem hasGiven_nil : HasGiven {} [] := ⟨by simp [hasSeen], by simp⟩

theorem HasGiven.hasSeen_eq_false (h : HasGiven g given) : g.hasSeen a = false ↔ a ∉ given := by
  rw [← h.seen, Bool.not_eq_true]

/-- An anchor that is given for the first time has no number taken. -/
theorem HasGiven.give (h : HasGiven g given) (ha : a ∉ given) : HasGiven (g.give a) (given ++ [a]) := by
  have hlookup := fun x => lookup_give (x := x) (h.hasSeen_eq_false.mpr ha)
  constructor
  · intro x
    rw [hasSeen, hlookup, List.mem_append, ← h.seen, hasSeen]
    by_cases hx : x = a <;> simp [hx]
  · intro x n hn
    rw [hlookup] at hn
    split at hn
    · cases hn
      exact ⟨Nat.le_refl 1, fun k hk hlt => absurd hk (Nat.not_le.mpr hlt)⟩
    · obtain ⟨hle, htaken⟩ := h.next x n hn
      exact ⟨hle, fun k hk hlt => List.mem_append_left _ (htaken k hk hlt)⟩

/-- A number behind an anchor is given when all smaller ones are taken. -/
theorem HasGiven.giveNumbered (h : HasGiven g given) (hfree : numbered base n ∉ given)
    (htaken : ∀ k, 1 ≤ k → k < n → numbered base k ∈ given) :
    HasGiven ((g.advance base (n + 1)).give (numbered base n)) (given ++ [numbered base n]) := by
  have hlookup := fun x => lookup_give (g := g.advance base (n + 1)) (x := x)
    (hasSeen_advance.trans (h.hasSeen_eq_false.mpr hfree))
  constructor
  · intro x
    have hsame : (g.advance base (n + 1)).hasSeen x = g.hasSeen x := hasSeen_advance
    rw [hasSeen, hlookup, List.mem_append, ← h.seen, ← hsame, hasSeen]
    by_cases hx : x = numbered base n <;> simp [hx]
  · intro x m hm
    rw [hlookup] at hm
    split at hm
    · cases hm
      exact ⟨Nat.le_refl 1, fun k hk hlt => absurd hk (Nat.not_le.mpr hlt)⟩
    · rw [lookup_advance] at hm
      split at hm
      · next hx =>
        -- The number that has just been taken is the last one below the next.
        obtain ⟨_, -, rfl⟩ := Option.map_eq_some_iff.mp hm
        refine ⟨Nat.le_add_left 1 n, fun k hk hlt => ?_⟩
        rw [hx]
        rcases Nat.eq_or_lt_of_le (Nat.le_of_lt_succ hlt) with rfl | hlt
        · exact List.mem_append_right _ (List.mem_singleton.mpr rfl)
        · exact List.mem_append_left _ (htaken k hk hlt)
      · obtain ⟨hle, hnext⟩ := h.next x m hm
        exact ⟨hle, fun k hk hlt => List.mem_append_left _ (hnext k hk hlt)⟩

/-- What the slugger gives is what a search through all numbers finds, and it goes on to know what it has given. -/
theorem HasGiven.anchor (h : HasGiven g given) (text : Text) :
    IsFirstFree given text.slug (g.anchor text).1 ∧ HasGiven (g.anchor text).2 (given ++ [(g.anchor text).1]) := by
  rw [Slugger.anchor]
  cases hlookup : g.seen.lookup text.slug with
  | none =>
    have hfree : text.slug ∉ given := h.hasSeen_eq_false.mp (by rw [hasSeen, hlookup]; rfl)
    exact ⟨.inl ⟨hfree, rfl⟩, h.give hfree⟩
  | some first =>
    have hbase := (h.seen _).mp (hasSeen_of_lookup hlookup)
    obtain ⟨hfirst, hbelow⟩ := h.next _ _ hlookup
    obtain ⟨hle, hfree, hbetween⟩ := (finds_freeNumber g text.slug first).first
    have hfree := h.hasSeen_eq_false.mp hfree
    have htaken : ∀ k, 1 ≤ k → k < g.freeNumber text.slug (g.seen.length + 1) first → numbered text.slug k ∈ given := by
      intro k hk hlt
      rcases Nat.lt_or_ge k first with hk' | hk'
      · exact hbelow k hk hk'
      · exact (h.seen _).mp (hbetween k hk' hlt)
    exact ⟨.inr ⟨hbase, _, Nat.le_trans hfirst hle, rfl, hfree, htaken⟩, h.giveNumbered hfree htaken⟩

/-! ### All anchors -/

/-- The slugger once it has given an anchor to each of the texts. -/
def after (g : Slugger) (texts : List Text) : Slugger := texts.foldl (fun g text => (g.anchor text).2) g

theorem anchors_append (g : Slugger) (texts more : List Text) :
    g.anchors (texts ++ more) = g.anchors texts ++ (g.after texts).anchors more := by
  induction texts generalizing g with
  | nil => rfl
  | cons text texts ih => exact congrArg _ (ih (g.anchor text).2)

@[simp] theorem length_anchors (g : Slugger) (texts : List Text) : (g.anchors texts).length = texts.length := by
  induction texts generalizing g with
  | nil => rfl
  | cons text texts ih => exact congrArg (· + 1) (ih (g.anchor text).2)

theorem HasGiven.after (h : HasGiven g given) (texts : List Text) :
    HasGiven (g.after texts) (given ++ g.anchors texts) := by
  induction texts generalizing g given with
  | nil => exact (List.append_nil given).symm ▸ h
  | cons text texts ih =>
    have := ih (h.anchor text).2
    rwa [List.append_assoc] at this

theorem HasGiven.nodup (h : HasGiven g given) (hgiven : given.Nodup) (texts : List Text) :
    (given ++ g.anchors texts).Nodup := by
  induction texts generalizing g given with
  | nil => exact (List.append_nil given).symm ▸ hgiven
  | cons text texts ih =>
    obtain ⟨hfirst, hnext⟩ := h.anchor text
    have hgiven' : (given ++ [(g.anchor text).1]).Nodup := by
      rw [← List.concat_eq_append, List.nodup_concat]
      exact ⟨hfirst.not_mem, hgiven⟩
    have := ih hnext hgiven'
    rwa [List.append_assoc] at this

theorem nodup_anchors (texts : List Text) : (anchors {} texts).Nodup := hasGiven_nil.nodup List.nodup_nil texts

/-- Each text gets the first free of the anchors with its words, and the search for a number always ends. -/
theorem anchors_areFirstFree (texts : List Text) :
    (anchors {} texts).Nodup ∧
    (∀ before text more, texts = before ++ text :: more → ∃ a rest,
      anchors {} texts = anchors {} before ++ a :: rest ∧ IsFirstFree (anchors {} before) text.slug a) ∧
    ∀ (g : Slugger) (base : Text) (n : Nat), Finds g base n (g.freeNumber base (g.seen.length + 1) n) := by
  refine ⟨nodup_anchors texts, ?_, finds_freeNumber⟩
  rintro before text more rfl
  refine ⟨_, _, anchors_append {} before (text :: more), ?_⟩
  exact ((hasGiven_nil.after before).anchor text).1

end Slugger
end PluginManual
