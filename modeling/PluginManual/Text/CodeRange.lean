import PluginManual.Text.Basic

/-! Sets of characters given by ranges of code points. Large tables are written as text: ranges in
    hexadecimal, ascending and apart, with a blank or a line end between two of them and a hyphen
    between the ends of one that has more than one member, as in `30-39 41-5A 5F`. -/

namespace PluginManual

/-- The entries of a table written as text: what stands between spaces and line ends. -/
def Text.entries (s : Text) : List Text :=
  ((s.map fun c => if c = '\n' then ' ' else c : Text).splitOn ' ').filter (· ≠ [])

/-- The code points from `first` to `last`, both included. -/
structure CodeRange where
  first : Nat
  last : Nat
deriving DecidableEq, Repr

namespace CodeRange

def single (n : Nat) : CodeRange := ⟨n, n⟩

/-- The range written as `41` or `41-5A`. -/
def ofText? (s : Text) : Option CodeRange :=
  match s.splitOnce? '-' with
  | none => s.hex?.map single
  | some (l, r) => do return ⟨← l.hex?, ← r.hex?⟩

def table (s : String) : List CodeRange := (Text.entries s).filterMap ofText?

/-- Is `n` in one of the ranges, which ascend? The search ends at the first range that begins above `n`. -/
def covers : List CodeRange → Nat → Bool
  | [], _ => false
  | r :: rest, n => if n < r.first then false else n ≤ r.last || covers rest n

/-- The ranges ascend and do not touch. -/
def Ascending : List CodeRange → Prop
  | [] => True
  | [r] => r.first ≤ r.last
  | r :: s :: rest => r.first ≤ r.last ∧ r.last + 1 < s.first ∧ Ascending (s :: rest)

instance decidableAscending : (rs : List CodeRange) → Decidable (Ascending rs)
  | [] => .isTrue trivial
  | [r] => inferInstanceAs (Decidable (r.first ≤ r.last))
  | r :: s :: rest =>
    have := decidableAscending (s :: rest)
    inferInstanceAs (Decidable (r.first ≤ r.last ∧ r.last + 1 < s.first ∧ Ascending (s :: rest)))

theorem Ascending.tail {r : CodeRange} {rs : List CodeRange} (h : Ascending (r :: rs)) : Ascending rs := by
  cases rs with
  | nil => trivial
  | cons s rest => exact h.2.2

theorem Ascending.first_lt {r : CodeRange} : ∀ {rs : List CodeRange}, Ascending (r :: rs) →
    ∀ s ∈ rs, r.first < s.first
  | [], _, s, hs => by simp at hs
  | s' :: rest, h, s, hs => by
    have h1 : r.first < s'.first := by have := h.1; have := h.2.1; omega
    rcases List.mem_cons.mp hs with rfl | hs
    · exact h1
    · exact Nat.lt_trans h1 (Ascending.first_lt h.tail s hs)

/-- On an ascending table the early end of the search loses nothing. -/
theorem covers_iff {rs : List CodeRange} (h : Ascending rs) (n : Nat) :
    covers rs n = true ↔ ∃ r ∈ rs, r.first ≤ n ∧ n ≤ r.last := by
  induction rs with
  | nil => simp [covers]
  | cons r rs ih =>
    simp only [covers, List.mem_cons, exists_eq_or_imp]
    split
    · next hlt =>
      simp only [Bool.false_eq_true, false_iff, not_or, not_exists, not_and]
      refine ⟨by omega, fun s hs => ?_⟩
      have := h.first_lt s hs
      omega
    · next hge =>
      rw [Bool.or_eq_true, ih h.tail, decide_eq_true_eq]
      constructor
      · rintro (hl | hr)
        · exact .inl ⟨by omega, hl⟩
        · exact .inr hr
      · rintro (⟨-, hl⟩ | hr)
        · exact .inl hl
        · exact .inr hr

end CodeRange

/-- A set of code points with the names that it goes by. -/
structure NamedRanges where
  names : List Text
  ranges : List CodeRange

namespace NamedRanges

/-- Reads a row: the names with a comma between two of them, an equals sign, and the ranges. -/
def ofRow? (s : Text) : Option NamedRanges := do
  let (names, ranges) ← s.splitOnce? '='
  return ⟨names.splitOn ',', ranges.entries.filterMap CodeRange.ofText?⟩

def table (rows : List String) : List NamedRanges := rows.filterMap fun row => ofRow? row.toList

end NamedRanges
end PluginManual
