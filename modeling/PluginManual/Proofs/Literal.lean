import PluginManual.Pattern.Marker

/-! Patterns without choices: one text between the start and the end of the line. Such a marker
    matches the lines that consist of the text, whatever their terminator. -/

namespace PluginManual
namespace Regex

variable {text : Text} {ps : Positions}

/-! ### Positions -/

/-- The set holds the place before character `i`. -/
def Positions.At (ps : Positions) (i : Nat) : Prop := ps[i]? = some true

theorem at_start {n i : Nat} : Positions.At (true :: List.replicate n false) i ↔ i = 0 := by
  cases i with
  | zero => simp [Positions.At]
  | succ i => simp [Positions.At, List.getElem?_replicate]

theorem at_char {s : CharSet} {j : Nat} :
    Positions.At (ends text (.char s) ps) j ↔
      ∃ i c, j = i + 1 ∧ text[i]? = some c ∧ ps.At i ∧ s.has c.toNat = true := by
  cases j with
  | zero => simp [Positions.At, ends]
  | succ j =>
    simp only [Positions.At, ends, List.getElem?_cons_succ, List.getElem?_zipWith]
    constructor
    · intro h
      split at h
      · next c p hc hp =>
        simp only [Option.some.injEq, Bool.and_eq_true] at h
        exact ⟨j, c, rfl, hc, h.1 ▸ hp, h.2⟩
      · cases h
    · rintro ⟨i, c, hj, hc, hp, hs⟩
      obtain rfl := Nat.succ.inj hj
      simp [hc, hp, hs]

theorem at_look {l : Look} {j : Nat} :
    Positions.At (ends text (.look l) ps) j ↔ ps.At j ∧ (lookPositions l none text).At j := by
  simp only [Positions.At, ends, List.getElem?_zipWith]
  constructor
  · intro h
    split at h
    · next p q hp hq =>
      simp only [Option.some.injEq, Bool.and_eq_true] at h
      exact ⟨h.1 ▸ hp, h.2 ▸ hq⟩
    · cases h
  · rintro ⟨hp, hq⟩
    simp [hp, hq]

theorem at_textStart {before : Option Char} {j : Nat} :
    (lookPositions .textStart before text).At j ↔ j = 0 ∧ before = none := by
  induction text generalizing before j with
  | nil => cases j <;> simp [Positions.At, lookPositions, Look.holds]
  | cons c text ih =>
    cases j with
    | zero => simp [Positions.At, lookPositions, Look.holds]
    | succ j =>
      have := @ih (some c) j
      simpa [Positions.At, lookPositions] using this

theorem at_textEnd {before : Option Char} {j : Nat} :
    (lookPositions .textEnd before text).At j ↔ j = text.length := by
  induction text generalizing before j with
  | nil => cases j <;> simp [Positions.At, lookPositions, Look.holds]
  | cons c text ih =>
    cases j with
    | zero => simp [Positions.At, lookPositions, Look.holds]
    | succ j =>
      have := @ih (some c) j
      simpa [Positions.At, lookPositions] using this

/-! ### Words -/

/-- Reads what `r` reads and then the characters of a text. -/
def thenWord (r : Regex) (s : Text) : Regex := s.foldl (fun r c => .seq r (.char (.single c))) r

theorem has_single {c d : Char} : (CharSet.single c).has d.toNat = true ↔ d = c := by
  have hcovers : (CharSet.single c).has d.toNat = CodeRange.covers [.single c.toNat] d.toNat := rfl
  rw [hcovers, CodeRange.covers_iff (by exact Nat.le_refl _)]
  constructor
  · rintro ⟨r, hr, h1, h2⟩
    obtain rfl := List.mem_singleton.mp hr
    exact Char.toNat_inj.mp (Nat.le_antisymm h2 h1)
  · rintro rfl
    exact ⟨_, List.mem_singleton_self _, Nat.le_refl _, Nat.le_refl _⟩

theorem at_thenWord {r : Regex} {s : Text} {j : Nat} :
    Positions.At (ends text (thenWord r s) ps) j ↔
      ∃ i, Positions.At (ends text r ps) i ∧ j = i + s.length ∧ s <+: text.drop i := by
  induction s generalizing r with
  | nil => simp [thenWord]
  | cons c s ih =>
    -- The word is added from the left, so the hypothesis is about what has been added to `r`.
    have hcons : thenWord r (c :: s) = thenWord (.seq r (.char (.single c))) s := rfl
    rw [hcons, ih]
    constructor
    · rintro ⟨i, hi, rfl, hs⟩
      obtain ⟨k, d, rfl, hd, hk, hcd⟩ := at_char.mp hi
      obtain rfl := has_single.mp hcd
      refine ⟨k, hk, by rw [List.length_cons]; omega, ?_⟩
      obtain ⟨hlt, hget⟩ := List.getElem?_eq_some_iff.mp hd
      rw [List.drop_eq_getElem_cons hlt, hget]
      exact List.cons_prefix_cons.mpr ⟨rfl, hs⟩
    · rintro ⟨i, hi, rfl, hs⟩
      have hlt : i < text.length := by
        have := hs.length_le
        rw [List.length_cons, List.length_drop] at this
        omega
      rw [List.drop_eq_getElem_cons hlt] at hs
      obtain ⟨hc, hs⟩ := List.cons_prefix_cons.mp hs
      refine ⟨i + 1, ?_, by rw [List.length_cons]; omega, hs⟩
      exact at_char.mpr ⟨i, c, rfl, hc ▸ List.getElem?_eq_getElem hlt, hi, has_single.mpr rfl⟩

/-- Matches the text alone. -/
def exactly (s : Text) : Regex := .seq (thenWord (.look .textStart) s) (.look .textEnd)

theorem matchesStart_iff {r : Regex} :
    r.matchesStart text = true ↔
      ∃ j, Positions.At (ends text r (true :: List.replicate text.length false)) j := by
  rw [matchesStart, List.any_eq_true]
  constructor
  · rintro ⟨p, hp, h⟩
    obtain ⟨j, hj⟩ := List.getElem?_of_mem hp
    exact ⟨j, hj.trans (congrArg some h)⟩
  · rintro ⟨j, hj⟩
    exact ⟨true, List.mem_of_getElem? hj, rfl⟩

theorem matchesStart_exactly (s : Text) : (exactly s).matchesStart text = true ↔ text = s := by
  rw [matchesStart_iff]
  constructor
  · rintro ⟨j, hj⟩
    obtain ⟨hword, hend⟩ := at_look.mp hj
    obtain ⟨i, hi, rfl, hs⟩ := at_thenWord.mp hword
    obtain ⟨rfl, -⟩ := at_textStart.mp (at_look.mp hi).2
    rw [at_textEnd, Nat.zero_add] at hend
    exact (hs.eq_of_length hend).symm
  · rintro rfl
    refine ⟨text.length, at_look.mpr ⟨at_thenWord.mpr ⟨0, ?_, by simp, List.prefix_rfl⟩, at_textEnd.mpr rfl⟩⟩
    exact at_look.mpr ⟨at_start.mpr rfl, at_textStart.mpr ⟨rfl, rfl⟩⟩

end Regex

namespace Marker

/-- The marker for the lines that consist of a text. -/
def exactly (s : Text) : Marker := ⟨'^' :: s ++ ['$'], Regex.exactly s⟩

theorem isAt_exactly (s text : Text) : (exactly s).isAt text = true ↔ text.dropTerminator = s :=
  Regex.matchesStart_exactly s

theorem isAt_exactly_eq_false (s text : Text) : (exactly s).isAt text = false ↔ text.dropTerminator ≠ s := by
  rw [← Bool.not_eq_true, isAt_exactly]

end Marker
end PluginManual
