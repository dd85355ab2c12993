/-! Text as a list of characters, and the cuts that the rest of the library makes in it: at a
    separator, at both ends, at a known beginning or end. -/

namespace PluginManual

/-- A piece of text, character by character. -/
abbrev Text := List Char

instance : Coe String Text := ⟨String.toList⟩

namespace Text

/-! ### Cutting -/

/-- The pieces between the occurrences of `sep`; there is always at least one. -/
def splitOn (sep : Char) : Text → List Text
  | [] => [[]]
  | c :: s =>
    if c = sep then [] :: splitOn sep s
    else
      match splitOn sep s with
      | [] => [[c]]
      | piece :: rest => (c :: piece) :: rest

/-- The text before the first occurrence of `sep` and the text after it. -/
def splitOnce? (sep : Char) : Text → Option (Text × Text)
  | [] => none
  | c :: s => if c = sep then some ([], s) else (splitOnce? sep s).map fun (l, r) => (c :: l, r)

/-- Drops the longest end whose characters all satisfy `p`. -/
def dropEndWhile (p : Char → Bool) (s : Text) : Text := (s.reverse.dropWhile p).reverse

/-- The pieces with `sep` between each two neighbours. -/
def join (sep : Text) : List Text → Text
  | [] => []
  | [s] => s
  | s :: rest => s ++ sep ++ join sep rest

def replaceChar (c : Char) (by' : Text) (s : Text) : Text :=
  s.flatMap fun d => if d = c then by' else [d]

/-! ### Widths -/

def spaces (n : Nat) : Text := List.replicate n ' '

/-- The text filled with spaces on the right up to `width` characters. A longer text stays as it is. -/
def padEnd (width : Nat) (s : Text) : Text := s ++ spaces (width - s.length)

/-- The text filled with spaces on the left up to `width` characters. A longer text stays as it is. -/
def padStart (width : Nat) (s : Text) : Text := spaces (width - s.length) ++ s

/-! ### Numerals -/

def ofNat (n : Nat) : Text := Nat.toDigits 10 n

def digit? (c : Char) : Option Nat :=
  if '0' ≤ c ∧ c ≤ '9' then some (c.toNat - '0'.toNat) else none

/-- The value of a hexadecimal digit of either case. -/
def hexDigit? (c : Char) : Option Nat :=
  if 'a' ≤ c ∧ c ≤ 'f' then some (c.toNat - 'a'.toNat + 10)
  else if 'A' ≤ c ∧ c ≤ 'F' then some (c.toNat - 'A'.toNat + 10)
  else digit? c

/-- Reads a nonempty numeral in the given base whose digits are read by `value`. -/
def numeral? (base : Nat) (value : Char → Option Nat) : Text → Option Nat
  | [] => none
  | s => s.foldlM (fun n c => (value c).map (base * n + ·)) 0

/-- Reads a nonempty hexadecimal numeral. -/
def hex? : Text → Option Nat := numeral? 16 hexDigit?

/-! ### What the cuts keep -/

theorem splitOn_ne_nil (sep : Char) (s : Text) : splitOn sep s ≠ [] := by
  induction s with
  | nil => simp [splitOn]
  | cons c s ih =>
    simp only [splitOn]
    split
    · simp
    · split <;> simp

/-- Joining the pieces with the separator gives the text back. -/
theorem join_splitOn (sep : Char) (s : Text) : join [sep] (splitOn sep s) = s := by
  induction s with
  | nil => rfl
  | cons c s ih =>
    simp only [splitOn]
    split
    · next h =>
      subst h
      cases hs : splitOn c s with
      | nil => exact absurd hs (splitOn_ne_nil c s)
      | cons piece rest =>
        rw [hs] at ih
        simp [join, ih]
    · cases hs : splitOn sep s with
      | nil => exact absurd hs (splitOn_ne_nil sep s)
      | cons piece rest =>
        rw [hs] at ih
        cases rest <;> simp_all [join]

@[simp] theorem ofNat_inj {n m : Nat} : ofNat n = ofNat m ↔ n = m := by
  constructor
  · intro h
    rw [← Nat.ofDigitChars_ten_toDigits (n := n), ← Nat.ofDigitChars_ten_toDigits (n := m)]
    exact congrArg (Nat.ofDigitChars 10 · 0) h
  · exact congrArg ofNat

/-- A numeral is made of digits. -/
theorem not_mem_ofNat {c : Char} (hc : c.isDigit = false) (n : Nat) : c ∉ ofNat n := by
  intro hmem
  rw [Nat.isDigit_of_mem_toDigits (by decide) (by decide) hmem] at hc
  cases hc

@[simp] theorem length_spaces (n : Nat) : (spaces n).length = n := by simp [spaces]

@[simp] theorem length_padEnd (width : Nat) (s : Text) : (padEnd width s).length = max width s.length := by
  simp only [padEnd, List.length_append, length_spaces]
  omega

end Text
end PluginManual
