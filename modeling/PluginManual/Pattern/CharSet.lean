import PluginManual.Text.Letter
import PluginManual.Text.Blank
import PluginManual.Text.Casing

/-! Sets of code points, as the characters classes of a pattern denote them. A set is kept as the
    expression that describes it; membership is decided one code point at a time. -/

namespace PluginManual

inductive CharSet where
  /-- The members of ascending ranges. -/
  | ranges (rs : List CodeRange)
  | union (a b : CharSet)
  | inter (a b : CharSet)
  | compl (a : CharSet)
  /-- Every code point that differs from a member in case only. -/
  | folded (a : CharSet)
  /-- Every code point that differs from a member only in the case of an ASCII letter. -/
  | foldedAscii (a : CharSet)
deriving Repr

namespace CharSet

/-- The code points that differ from `n` at most in the case of an ASCII letter. -/
def asciiVariants (n : Nat) : List Nat :=
  if 0x41 ≤ n ∧ n ≤ 0x5A then [n, n + 0x20] else if 0x61 ≤ n ∧ n ≤ 0x7A then [n, n - 0x20] else [n]

def has : CharSet → Nat → Bool
  | ranges rs, n => CodeRange.covers rs n
  | union a b, n => a.has n || b.has n
  | inter a b, n => a.has n && b.has n
  | compl a, n => !a.has n
  | folded a, n => (caseVariants n).any a.has
  | foldedAscii a, n => (asciiVariants n).any a.has

/-- The number of ranges that the description mentions. -/
def size : CharSet → Nat
  | ranges rs => rs.length
  | union a b | inter a b => a.size + b.size
  | compl a | folded a | foldedAscii a => a.size

/-! ### Sets by name -/

def none : CharSet := ranges []

def all : CharSet := compl none

def single (c : Char) : CharSet := ranges [.single c.toNat]

def diff (a b : CharSet) : CharSet := inter a (compl b)

/-- The members of exactly one of the two sets. -/
def symmDiff (a b : CharSet) : CharSet := union (diff a b) (diff b a)

def ofCategories (ks : List Category) : CharSet := ks.foldr (fun k s => union (ranges k.ranges) s) none

def blank : CharSet := ranges blankRanges

def digit : CharSet := ranges Category.decimalNumber.ranges

def word : CharSet :=
  union (ranges alphabeticRanges) (union
    (ofCategories [.nonspacingMark, .spacingMark, .enclosingMark, .decimalNumber, .connectorPunctuation])
    (ranges [⟨0x200C, 0x200D⟩]))

def bytes : CharSet := ranges [⟨0, 0xFF⟩]

/-- ASCII white space in the widest sense, the vertical tab included. -/
def asciiBlank : CharSet := ranges [⟨0x09, 0x0D⟩, .single 0x20]

def asciiDigit : CharSet := ranges [⟨0x30, 0x39⟩]

def asciiWord : CharSet := ranges [⟨0x30, 0x39⟩, ⟨0x41, 0x5A⟩, .single 0x5F, ⟨0x61, 0x7A⟩]

/-- Does the set hold no byte beyond ASCII? -/
def isAscii (s : CharSet) : Bool := (List.range 128).all fun n => !s.has (n + 128)

theorem covers_nil (n : Nat) : CodeRange.covers [] n = false := rfl

theorem covers_joiners (n : Nat) :
    CodeRange.covers [⟨0x200C, 0x200D⟩] n = (n == 0x200C || n == 0x200D) := by
  rw [Bool.eq_iff_iff]
  simp only [CodeRange.covers, Bool.or_false, Bool.or_eq_true, beq_iff_eq]
  split
  · simp only [Bool.false_eq_true, false_iff]
    omega
  · rw [decide_eq_true_eq]
    omega

/-- The set of word characters and the predicate on characters agree. -/
theorem has_word (n : Nat) : word.has n = isWordCode n := by
  simp only [word, ofCategories, List.foldr, has, isWordCode, isAlphabeticCode, Category.has, none,
    covers_nil, covers_joiners, Bool.or_false, Bool.or_assoc]

end CharSet
end PluginManual
