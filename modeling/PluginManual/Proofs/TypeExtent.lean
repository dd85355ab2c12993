import Mathlib.Data.List.TakeWhile
import PluginManual.Proofs.Cuts

/-! Where a type expression ends. A text is divided into a type, a gap of blanks and what follows the gap in at most
    one way, and the reader of types takes this division. If there is none the type is the whole text. -/

namespace PluginManual

namespace Text

variable {a b s : Text} {c : Char}

/-- The first character that is not blank. -/
def firstNonblank? (s : Text) : Option Char := s.find? (!PluginManual.isBlank ·)

/-- The last character that is not blank. -/
def lastNonblank? (s : Text) : Option Char := s.reverse.find? (!PluginManual.isBlank ·)

theorem firstNonblank?_append : firstNonblank? (a ++ b) = (firstNonblank? a).or (firstNonblank? b) := List.find?_append

theorem firstNonblank?_eq_none_iff : firstNonblank? s = none ↔ ∀ c ∈ s, PluginManual.isBlank c = true := by
  simp [firstNonblank?]

theorem firstNonblank?_blank_append (ha : ∀ c ∈ a, PluginManual.isBlank c = true) :
    firstNonblank? (a ++ s) = firstNonblank? s := by
  rw [firstNonblank?_append, firstNonblank?_eq_none_iff.mpr ha, Option.none_or]

theorem firstNonblank?_cons_of_blank (hc : PluginManual.isBlank c = true) :
    firstNonblank? (c :: s) = firstNonblank? s :=
  firstNonblank?_blank_append (a := [c]) (by simpa using hc)

theorem head?_trimStart (s : Text) : s.trimStart.head? = firstNonblank? s := (List.find?_not_eq_head?_dropWhile _ _).symm

theorem firstNonblank?_of_avoids (h : Avoids PluginManual.isBlank s) : firstNonblank? s = s.head? := by
  have hsame : s.trimStart = s := trimStart_eq_iff.mpr ⟨[], rfl, by simp, h⟩
  rw [← head?_trimStart, hsame]

theorem firstNonblank?_trimStart (s : Text) : firstNonblank? s.trimStart = firstNonblank? s :=
  (firstNonblank?_of_avoids (avoids_dropWhile _ s)).trans (head?_trimStart s)

theorem firstNonblank?_trimEnd (s : Text) : firstNonblank? s.trimEnd = firstNonblank? s := by
  obtain ⟨w, hs, hw, -⟩ := dropEndWhile_eq_iff.mp (rfl : s.trimEnd = _)
  conv_rhs => rw [hs]
  rw [firstNonblank?_append, firstNonblank?_eq_none_iff.mpr hw, Option.or_none]

theorem getLast?_trimEnd (s : Text) : s.trimEnd.getLast? = lastNonblank? s := by
  rw [trimEnd, dropEndWhile, List.getLast?_reverse]
  exact head?_trimStart s.reverse

theorem lastNonblank?_concat (s : Text) (c : Char) :
    lastNonblank? (s ++ [c]) = if PluginManual.isBlank c then lastNonblank? s else some c := by
  rw [lastNonblank?, List.reverse_concat, List.find?_cons]
  cases PluginManual.isBlank c <;> rfl

theorem lastNonblank?_append_blank (hb : ∀ c ∈ b, PluginManual.isBlank c = true) :
    lastNonblank? (a ++ b) = lastNonblank? a := by
  have hnone : firstNonblank? b.reverse = none :=
    firstNonblank?_eq_none_iff.mpr fun c hc => hb c (List.mem_reverse.mp hc)
  rw [lastNonblank?, List.reverse_append]
  exact firstNonblank?_append.trans (by rw [hnone, Option.none_or]; rfl)

end Text

namespace TypeExpr
open Text

variable {s t d p u v w a b : Text}

/-! ### Places where a type goes on -/

/-- The depth of brackets behind a text. -/
def depthOf (s : Text) : Nat := s.foldl depthAfter 0

theorem depthOf_concat (s : Text) (c : Char) : depthOf (s ++ [c]) = depthAfter (depthOf s) c := List.foldl_concat _ _ _ _

theorem depthAfter_of_isBlank {c : Char} (hc : isBlank c = true) (depth : Nat) : depthAfter depth c = depth := by
  have hne : ∀ x : Char, isBlank x = false → c ≠ x := by
    rintro x hx rfl
    rw [hx] at hc
    cases hc
  rw [depthAfter, if_neg, if_neg] <;>
    simp only [List.mem_cons, List.not_mem_nil, or_false, not_or] <;>
    exact ⟨hne _ (by decide), hne _ (by decide), hne _ (by decide), hne _ (by decide)⟩

theorem depthOf_append_blank (hw : ∀ c ∈ w, isBlank c = true) : depthOf (p ++ w) = depthOf p := by
  induction w generalizing p with
  | nil => rw [List.append_nil]
  | cons c w ih =>
    obtain ⟨hc, hw⟩ := List.forall_mem_cons.mp hw
    rw [List.append_cons, ih hw, depthOf_concat, depthAfter_of_isBlank hc]

/-- A type goes on between two texts: blanks aside, the first ends with a bar, a colon or a comma, or the second
    begins with a bar. -/
def Joined (a b : Text) : Prop :=
  (∃ c ∈ lastNonblank? a, c = '|' ∨ c = ':' ∨ c = ',') ∨ firstNonblank? b = some '|'

theorem joins_iff : joins (lastNonblank? a) (firstNonblank? b) = true ↔ Joined a b := by
  cases h : lastNonblank? a <;> simp [joins, Joined, h, or_assoc]

/-- The type `a` ends before `b`: all its brackets are closed, and a blank follows across which it does not go on. -/
structure Stops (a b : Text) : Prop where
  closed : depthOf a = 0
  blank : ∃ c ∈ b.head?, isAsciiBlank c = true
  apart : ¬ Joined a b

theorem stops_cons_iff {c : Char} :
    Stops p (c :: s) ↔ depthOf p = 0 ∧ isAsciiBlank c ∧ !joins (lastNonblank? p) (Text.trimStart s).head? := by
  have hapart : isAsciiBlank c = true →
      ((!joins (lastNonblank? p) (Text.trimStart s).head?) = true ↔ ¬ Joined p (c :: s)) := by
    intro hc
    rw [head?_trimStart, ← firstNonblank?_cons_of_blank (isBlank_of_isAsciiBlank hc), ← joins_iff]
    simp
  constructor
  · rintro ⟨hdepth, hblank, h⟩
    have hblank : isAsciiBlank c = true := by simpa using hblank
    exact ⟨hdepth, hblank, (hapart hblank).mpr h⟩
  · rintro ⟨hdepth, hblank, h⟩
    exact ⟨hdepth, by simpa using hblank, (hapart hblank).mp h⟩

/-- Behind `p` a type is read up to the end of `u`, and `v` is left. -/
structure IsFirstStop (p u v : Text) : Prop where
  stops : Stops (p ++ u) v
  first : ∀ a c b, u = a ++ c :: b → ¬ Stops (p ++ a) (c :: (b ++ v))

theorem isFirstStop_cons {c : Char} (hc : ¬ Stops p (c :: (u ++ v))) (h : IsFirstStop (p ++ [c]) u v) :
    IsFirstStop p (c :: u) v := by
  refine ⟨?_, fun a x b hu => ?_⟩
  · rw [List.append_cons]
    exact h.stops
  · cases a with
    | nil =>
      obtain ⟨rfl, rfl⟩ := List.cons.inj hu
      rwa [List.append_nil]
    | cons y a =>
      obtain ⟨rfl, rfl⟩ := List.cons.inj hu
      rw [List.append_cons]
      exact h.first a x b rfl

theorem IsFirstStop.unique {u' v' : Text} (h : IsFirstStop p u v) (h' : IsFirstStop p u' v') (heq : u ++ v = u' ++ v') :
    u = u' := by
  -- If one of the two went on, the other would have stopped before it.
  have hle : ∀ {u v u' v' : Text}, IsFirstStop p u v → IsFirstStop p u' v' → ∀ more, u' = u ++ more → v = more ++ v' → u' = u := by
    intro u v u' v' h h' more hu hv
    cases more with
    | nil => rw [hu, List.append_nil]
    | cons c more =>
      subst hv
      exact absurd h.stops (h'.first u c more hu)
  rcases List.append_eq_append_iff.mp heq with ⟨more, hu, hv⟩ | ⟨more, hu, hv⟩
  · exact (hle h h' more hu hv).symm
  · exact hle h' h more hu hv

/-- A type is read up to the first place where it ends, or to the end of the text. -/
theorem splitFrom_cases (p r : Text) :
    (∃ u v, r = u ++ v ∧ IsFirstStop p u v ∧ splitFrom (depthOf p) (lastNonblank? p) r = (u, trimStart v)) ∨
    (∀ u v, r = u ++ v → ¬ Stops (p ++ u) v) ∧ splitFrom (depthOf p) (lastNonblank? p) r = (r, []) := by
  induction r generalizing p with
  | nil =>
    refine .inr ⟨fun u v huv h => ?_, rfl⟩
    obtain ⟨c, hc, -⟩ := h.blank
    rw [(List.append_eq_nil_iff.mp huv.symm).2] at hc
    cases hc
  | cons c s ih =>
    rw [splitFrom]
    by_cases hstop : Stops p (c :: s)
    · have hstop' := stops_cons_iff.mp hstop
      rw [if_pos hstop']
      refine .inl ⟨[], c :: s, rfl, ⟨by rwa [List.append_nil], by simp⟩, ?_⟩
      rw [trimStart, trimStart, List.dropWhile_cons_of_pos (isBlank_of_isAsciiBlank hstop'.2.1)]
    · rw [if_neg fun h => hstop (stops_cons_iff.mpr h), ← depthOf_concat, ← lastNonblank?_concat]
      rcases ih (p ++ [c]) with ⟨u, v, rfl, hfirst, hsplit⟩ | ⟨hnone, hsplit⟩
      · exact .inl ⟨c :: u, v, rfl, isFirstStop_cons hstop hfirst, by rw [hsplit]⟩
      · refine .inr ⟨fun u v huv => ?_, by rw [hsplit]⟩
        cases u with
        | nil =>
          rw [List.nil_append] at huv
          rwa [List.append_nil, ← huv]
        | cons x u =>
          obtain ⟨rfl, hs⟩ := List.cons.inj huv
          rw [List.append_cons]
          exact hnone u v hs

/-! ### Types, gaps and divisions -/

/-- A type begins with a character that is not blank, closes all its brackets and does not end with a sign after which
    it would go on. Outside of brackets it goes on across each of its blanks. -/
structure IsType (t : Text) : Prop where
  begins : ∃ c ∈ t.head?, isBlank c = false
  closed : depthOf t = 0
  joined : ∀ a c b, t = a ++ c :: b → isAsciiBlank c = true → depthOf a = 0 → Joined a b
  ends : ∀ c ∈ lastNonblank? t, c ≠ '|' ∧ c ≠ ':' ∧ c ≠ ','

/-- Blanks of which the first is one of ASCII. -/
structure IsGap (w : Text) : Prop where
  begins : ∃ c ∈ w.head?, isAsciiBlank c = true
  blank : ∀ c ∈ w, isBlank c = true

/-- What can follow a type behind a gap: nothing, or a text that begins neither with a blank nor with a bar. -/
def Follows (d : Text) : Prop := ∀ c ∈ d.head?, isBlank c = false ∧ c ≠ '|'

/-- Blanks aside, a text is a type, a gap and what follows it. -/
inductive IsDivided : Text → Text → Text → Prop
  | mk {a t w d : Text} : (∀ c ∈ a, isBlank c = true) → IsType t → IsGap w → Follows d →
      IsDivided (a ++ (t ++ (w ++ d))) t d

theorem IsType.avoids (h : IsType t) (s : Text) : Avoids isBlank (t ++ s) := by
  obtain ⟨c, hc, hblank⟩ := h.begins
  obtain ⟨t', rfl⟩ := List.head?_eq_some_iff.mp hc
  exact avoids_cons.mpr hblank

theorem IsGap.trimStart (hw : IsGap w) (hd : Follows d) : Text.trimStart (w ++ d) = d :=
  trimStart_eq_iff.mpr ⟨w, rfl, hw.blank, fun c hc => (hd c hc).1⟩

theorem Follows.firstNonblank? (hd : Follows d) : Text.firstNonblank? d ≠ some '|' := by
  intro hbar
  rw [firstNonblank?_of_avoids fun c hc => (hd c hc).1] at hbar
  exact (hd _ hbar).2 rfl

/-- A type ends before a gap. -/
theorem IsType.isFirstStop (ht : IsType t) (hw : IsGap w) (hd : Follows d) : IsFirstStop [] t (w ++ d) := by
  have hhead : (w ++ d).head? = w.head? := by
    obtain ⟨c, hc, -⟩ := hw.begins
    obtain ⟨w', rfl⟩ := List.head?_eq_some_iff.mp hc
    rfl
  refine ⟨⟨ht.closed, hhead ▸ hw.begins, ?_⟩, fun a c b hu hstop => hstop.apart ?_⟩
  · rintro (⟨c, hc, hsign⟩ | hbar)
    · obtain ⟨hne, hne', hne''⟩ := ht.ends c hc
      rcases hsign with rfl | rfl | rfl <;> contradiction
    · rw [firstNonblank?_blank_append hw.blank] at hbar
      exact hd.firstNonblank? hbar
  · have hc : isAsciiBlank c = true := by simpa using hstop.blank
    refine (ht.joined a c b hu hc hstop.closed).imp_right fun hbar => ?_
    rw [firstNonblank?_cons_of_blank (isBlank_of_isAsciiBlank hc), firstNonblank?_append, hbar]
    rfl

/-- What comes before the first place where a type ends is a type. -/
theorem IsFirstStop.isType (h : IsFirstStop [] t v) (hbegins : Avoids isBlank (t ++ v)) : IsType t where
  begins := by
    cases t with
    | nil =>
      obtain ⟨c, hc, hblank⟩ := h.stops.blank
      exact absurd (isBlank_of_isAsciiBlank hblank) (by rw [hbegins c hc]; simp)
    | cons c t => exact ⟨c, rfl, avoids_cons.mp hbegins⟩
  closed := h.stops.closed
  joined a c b hu hc hdepth := by
    have hjoined : Joined a (c :: (b ++ v)) := by
      by_contra hapart
      exact h.first a c b hu ⟨hdepth, ⟨c, rfl, hc⟩, hapart⟩
    refine hjoined.imp_right fun hbar => ?_
    rw [firstNonblank?_cons_of_blank (isBlank_of_isAsciiBlank hc), firstNonblank?_append, Option.or_eq_some_iff] at hbar
    -- A bar behind the type would keep it from ending there.
    exact hbar.resolve_right fun hbar => h.stops.apart (.inr hbar.2)
  ends c hc := by
    have hapart : ¬ (c = '|' ∨ c = ':' ∨ c = ',') := fun hsign => h.stops.apart (.inl ⟨c, hc, hsign⟩)
    simpa only [not_or] using hapart

theorem IsFirstStop.isGap (h : IsFirstStop [] t v) : IsGap (v.takeWhile isBlank) ∧ Follows v.trimStart := by
  obtain ⟨c, hc, hblank⟩ := h.stops.blank
  obtain ⟨v', rfl⟩ := List.head?_eq_some_iff.mp hc
  refine ⟨⟨⟨c, ?_, hblank⟩, fun x hx => List.mem_takeWhile_imp hx⟩, fun x hx => ⟨avoids_dropWhile _ _ x hx, ?_⟩⟩
  · rw [List.takeWhile_cons_of_pos (isBlank_of_isAsciiBlank hblank)]
    rfl
  · rintro rfl
    rw [head?_trimStart] at hx
    exact h.stops.apart (.inr hx)

/-- The type that is divided off, however blanks are put before it. -/
theorem split_of_isDivided (h : IsDivided s t d) : split s = (t, d) := by
  obtain ⟨ha, ht, hw, hd⟩ := h
  rename_i a w
  have htrim : trimStart (a ++ (t ++ (w ++ d))) = t ++ (w ++ d) := trimStart_eq_iff.mpr ⟨a, rfl, ha, ht.avoids _⟩
  have hfirst := ht.isFirstStop hw hd
  rw [split, htrim]
  rcases splitFrom_cases [] (t ++ (w ++ d)) with ⟨u, v, huv, hfirst', hsplit⟩ | ⟨hnone, -⟩
  · obtain rfl := hfirst.unique hfirst' huv
    obtain rfl := List.append_cancel_left huv
    rw [hw.trimStart hd] at hsplit
    exact hsplit
  · exact absurd hfirst.stops (hnone t (w ++ d) rfl)

/-- No type ends inside of a type. -/
theorem IsType.not_stops (ht : IsType t) (h : t = u ++ v) : ¬ Stops u v := by
  rintro ⟨hdepth, ⟨c, hc, hblank⟩, hapart⟩
  obtain ⟨v', rfl⟩ := List.head?_eq_some_iff.mp hc
  refine hapart ((ht.joined u c v' h hblank hdepth).imp_right fun hbar => ?_)
  rw [firstNonblank?_cons_of_blank (isBlank_of_isAsciiBlank hblank), hbar]

/-- A type that nothing follows. -/
theorem split_of_isType (ha : ∀ c ∈ a, isBlank c = true) (ht : IsType t) : split (a ++ t) = (t, []) := by
  have htrim : trimStart (a ++ t) = t := trimStart_eq_iff.mpr ⟨a, rfl, ha, List.append_nil t ▸ ht.avoids []⟩
  rw [split, htrim]
  rcases splitFrom_cases [] t with ⟨u, v, huv, hfirst, -⟩ | ⟨-, hsplit⟩
  · exact absurd hfirst.stops (ht.not_stops huv)
  · exact hsplit

/-- Either the text is divided as it is split, or there is no way to divide it. -/
theorem isDivided_or (s : Text) :
    IsDivided s (split s).1 (split s).2 ∨ (∀ t d, ¬ IsDivided s t d) ∧ split s = (s.trimStart, []) := by
  obtain ⟨a, hs, ha, hbegins⟩ := trimStart_eq_iff.mp (rfl : s.trimStart = _)
  rcases splitFrom_cases [] s.trimStart with ⟨t, v, htv, hfirst, hsplit⟩ | ⟨hnone, hsplit⟩
  · rw [htv] at hbegins hs
    obtain ⟨hgap, hfollows⟩ := hfirst.isGap
    have hv : v = v.takeWhile isBlank ++ v.trimStart := List.takeWhile_append_dropWhile.symm
    have hdivided := IsDivided.mk ha (hfirst.isType hbegins) hgap hfollows
    rw [← hv, ← hs] at hdivided
    rw [split_of_isDivided hdivided]
    exact .inl hdivided
  · refine .inr ⟨fun t d hdivided => ?_, hsplit⟩
    obtain ⟨ha', ht, hw, hd⟩ := hdivided
    rename_i a' w
    have htrim : trimStart (a' ++ (t ++ (w ++ d))) = t ++ (w ++ d) := trimStart_eq_iff.mpr ⟨a', rfl, ha', ht.avoids _⟩
    exact hnone t (w ++ d) htrim (ht.isFirstStop hw hd).stops

/-- A text is split in the only way in which it is divided. If there is none, all of it is the type. -/
theorem split_eq_iff :
    split s = (t, d) ↔ IsDivided s t d ∨ (∀ t d, ¬ IsDivided s t d) ∧ t = s.trimStart ∧ d = [] := by
  constructor
  · intro h
    rcases isDivided_or s with hdivided | ⟨hnone, hsplit⟩
    · rw [h] at hdivided
      exact .inl hdivided
    · obtain ⟨rfl, rfl⟩ := Prod.mk.inj (hsplit.symm.trans h)
      exact .inr ⟨hnone, rfl, rfl⟩
  · rintro (hdivided | ⟨hnone, rfl, rfl⟩)
    · exact split_of_isDivided hdivided
    · rcases isDivided_or s with hdivided | ⟨-, hsplit⟩
      · exact absurd hdivided (hnone _ _)
      · exact hsplit

end TypeExpr
end PluginManual
