import PluginManual.Proofs.Cuts
import PluginManual.Proofs.Literal

/-! Patterns for a text behind any number of blanks at the start of the line. Such a marker matches the lines whose first
    characters that are no blanks are those of the text. -/

namespace PluginManual
namespace Regex

variable {text : Text} {ps : Positions} {s : CharSet} {i j n : Nat}

/-! ### Repeated characters -/

/-- All characters from the one place to the other are members of the set. -/
def IsRun (s : CharSet) (text : Text) (i j : Nat) : Prop :=
  i ≤ j ∧ ∀ k, i ≤ k → k < j → ∃ c, text[k]? = some c ∧ s.has c.toNat = true

theorem isRun_self (s : CharSet) (text : Text) (i : Nat) : IsRun s text i i :=
  ⟨Nat.le_refl i, fun k hik hki => by omega⟩

theorem isRun_succ_left (h : i < j) : IsRun s text i j ↔
    (∃ c, text[i]? = some c ∧ s.has c.toNat = true) ∧ IsRun s text (i + 1) j := by
  constructor
  · rintro ⟨-, hrun⟩
    exact ⟨hrun i (Nat.le_refl i) h, h, fun k hik hkj => hrun k (by omega) hkj⟩
  · rintro ⟨hfirst, -, hrun⟩
    refine ⟨by omega, fun k hik hkj => ?_⟩
    rcases Nat.eq_or_lt_of_le hik with rfl | hik
    · exact hfirst
    · exact hrun k hik hkj

/-- What one more character leads to. -/
theorem at_step (hlength : ps.length = text.length + 1) :
    Positions.At (List.zipWith or ps (ends text (.char s) ps)) j ↔
      ps.At j ∨ ∃ i c, j = i + 1 ∧ text[i]? = some c ∧ ps.At i ∧ s.has c.toNat = true := by
  rw [← at_char]
  have hends : (ends text (.char s) ps).length = ps.length := by
    rw [ends, List.length_cons, List.length_zipWith]
    omega
  simp only [Positions.At, List.getElem?_zipWith]
  by_cases hj : j < ps.length
  · rw [List.getElem?_eq_getElem hj, List.getElem?_eq_getElem (hends ▸ hj)]
    simp
  · rw [List.getElem?_eq_none (by omega), List.getElem?_eq_none (by omega)]
    simp

theorem length_step (hlength : ps.length = text.length + 1) :
    (List.zipWith or ps (ends text (.char s) ps)).length = text.length + 1 := by
  rw [List.length_zipWith, ends, List.length_cons, List.length_zipWith]
  omega

theorem exists_isRun_of_at_grow (hlength : ps.length = text.length + 1)
    (h : Positions.At (grow (ends text (.char s)) n ps) j) : ∃ i, ps.At i ∧ IsRun s text i j := by
  induction n generalizing ps with
  | zero => exact ⟨j, h, isRun_self s text j⟩
  | succ n ih =>
    rw [grow] at h
    split at h
    · exact ⟨j, h, isRun_self s text j⟩
    · obtain ⟨i, hi, hrun⟩ := ih (length_step hlength) h
      rcases (at_step hlength).mp hi with hi | ⟨k, c, rfl, hc, hk, hs⟩
      · exact ⟨i, hi, hrun⟩
      · exact ⟨k, hk, (isRun_succ_left hrun.1).mpr ⟨⟨c, hc, hs⟩, hrun⟩⟩

theorem at_grow_of_isRun (hlength : ps.length = text.length + 1) (hi : ps.At i) (hrun : IsRun s text i j) (hn : j - i ≤ n) :
    Positions.At (grow (ends text (.char s)) n ps) j := by
  induction n generalizing ps i with
  | zero =>
    obtain rfl : i = j := by
      have := hrun.1
      omega
    exact hi
  | succ n ih =>
    rw [grow]
    split
    · next hsame =>
      -- The positions are closed under one more character, so nothing on the run is missing.
      clear ih hn
      obtain ⟨m, rfl⟩ := Nat.exists_eq_add_of_le hrun.1
      induction m generalizing i with
      | zero => exact hi
      | succ m ihm =>
        obtain ⟨⟨c, hc, hs⟩, hrest⟩ := (isRun_succ_left (by omega)).mp hrun
        have hnext : ps.At (i + 1) := hsame ▸ (at_step hlength).mpr (.inr ⟨i, c, rfl, hc, hi, hs⟩)
        rw [show i + (m + 1) = i + 1 + m by omega] at hrest ⊢
        exact ihm hnext hrest
    · rcases Nat.eq_or_lt_of_le hrun.1 with rfl | hlt
      · exact ih (length_step hlength) ((at_step hlength).mpr (.inl hi)) (isRun_self s text i) (by omega)
      · obtain ⟨⟨c, hc, hs⟩, hrest⟩ := (isRun_succ_left hlt).mp hrun
        exact ih (length_step hlength) ((at_step hlength).mpr (.inr ⟨i, c, rfl, hc, hi, hs⟩)) hrest (by omega)

theorem at_repeated (hlength : ps.length = text.length + 1) :
    Positions.At (ends text (.rep (.char s) 0 none) ps) j ↔ ∃ i, ps.At i ∧ IsRun s text i j := by
  have hends : ends text (.rep (.char s) 0 none) ps = grow (ends text (.char s)) (text.length + 1) ps := by
    rw [ends]
    simp [times]
  rw [hends]
  constructor
  · exact exists_isRun_of_at_grow hlength
  · rintro ⟨i, hi, hrun⟩
    refine at_grow_of_isRun hlength hi hrun ?_
    by_contra hlong
    obtain ⟨c, hc, -⟩ := hrun.2 (j - 1) (by omega) (by omega)
    have := (List.getElem?_eq_some_iff.mp hc).1
    omega

/-! ### Words behind blanks -/

/-- Matches any number of blanks at the start. -/
def margin : Regex := .seq (.look .textStart) (.rep (.char CharSet.blank) 0 none)

/-- Matches a text behind any number of blanks at the start. -/
def indented (word : Text) : Regex := thenWord margin word

theorem length_lookPositions (l : Look) (before : Option Char) (text : Text) :
    (lookPositions l before text).length = text.length + 1 := by
  induction text generalizing before with
  | nil => rfl
  | cons c text ih => rw [lookPositions, List.length_cons, ih, List.length_cons]

theorem isRun_zero_iff : IsRun s text 0 j ↔ j ≤ text.length ∧ ∀ c ∈ text.take j, s.has c.toNat = true := by
  constructor
  · rintro ⟨-, hrun⟩
    refine ⟨?_, fun c hc => ?_⟩
    · by_contra hlong
      obtain ⟨c, hc, -⟩ := hrun text.length (Nat.zero_le _) (by omega)
      simp at hc
    · obtain ⟨k, hk⟩ := List.getElem?_of_mem hc
      rw [List.getElem?_take] at hk
      split at hk
      · next hkj =>
        obtain ⟨c', hc', hs⟩ := hrun k (Nat.zero_le k) hkj
        rw [hk] at hc'
        exact Option.some.inj hc' ▸ hs
      · cases hk
  · rintro ⟨hj, hall⟩
    refine ⟨Nat.zero_le j, fun k _ hkj => ?_⟩
    have hk : k < text.length := by omega
    refine ⟨text[k], List.getElem?_eq_getElem hk, hall _ (List.mem_of_getElem? (i := k) ?_)⟩
    rw [List.getElem?_take_of_lt hkj, List.getElem?_eq_getElem hk]

theorem at_margin : Positions.At (ends text margin (true :: List.replicate text.length false)) i ↔
    IsRun CharSet.blank text 0 i := by
  have hlength : (ends text (.look .textStart) (true :: List.replicate text.length false)).length = text.length + 1 := by
    simp [ends, length_lookPositions]
  rw [margin, ends, at_repeated hlength]
  constructor
  · rintro ⟨k, hk, hrun⟩
    obtain ⟨rfl, -⟩ := at_textStart.mp (at_look.mp hk).2
    exact hrun
  · intro hrun
    exact ⟨0, at_look.mpr ⟨at_start.mpr rfl, at_textStart.mpr ⟨rfl, rfl⟩⟩, hrun⟩

theorem matchesStart_indented {word : Text} (hword : Text.Avoids isBlank word) (hne : word ≠ []) :
    (indented word).matchesStart text = true ↔ word <+: text.trimStart := by
  rw [matchesStart_iff]
  constructor
  · rintro ⟨j, hj⟩
    obtain ⟨i, hi, -, hprefix⟩ := at_thenWord.mp hj
    obtain ⟨hi, hall⟩ := isRun_zero_iff.mp (at_margin.mp hi)
    obtain ⟨rest, hrest⟩ := hprefix
    have havoids : Text.Avoids isBlank (text.drop i) := by
      obtain ⟨c, w, rfl⟩ := List.exists_cons_of_ne_nil hne
      exact hrest ▸ Text.avoids_cons.mpr (Text.avoids_cons.mp hword)
    have htrim : text.trimStart = text.drop i :=
      Text.trimStart_eq_iff.mpr ⟨text.take i, (List.take_append_drop i text).symm, hall, havoids⟩
    exact htrim ▸ ⟨rest, hrest⟩
  · intro hprefix
    obtain ⟨a, htext, hall, -⟩ := Text.trimStart_eq_iff.mp (rfl : text.trimStart = text.trimStart)
    have htake : text.take a.length = a := by
      conv_lhs => rw [htext]
      exact List.take_left
    have hdrop : text.drop a.length = text.trimStart := by
      conv_lhs => rw [htext]
      exact List.drop_left
    have hrun : IsRun CharSet.blank text 0 a.length := by
      refine isRun_zero_iff.mpr ⟨?_, ?_⟩
      · rw [htext, List.length_append]
        omega
      · rw [htake]
        exact hall
    exact ⟨_, at_thenWord.mpr ⟨a.length, at_margin.mpr hrun, rfl, hdrop ▸ hprefix⟩⟩

end Regex

namespace Marker

/-- The marker for the lines that begin with a text behind any number of blanks. -/
def indented (word : Text) : Marker := ⟨"^\\s*" ++ word, Regex.indented word⟩

theorem isAt_indented {word : Text} (hword : Text.Avoids isBlank word) (hne : word ≠ []) (line : Text) :
    (indented word).isAt line = true ↔ word <+: line.dropTerminator.trimStart :=
  Regex.matchesStart_indented hword hne

end Marker
end PluginManual
