import PluginManual.Proofs.TypeExtent

/-! Splitting off a type by a scan over the bytes of a text. A byte is compared with the codes of single characters,
    while the blanks around a place and the two parts of the text are cut out of the text itself. Such a cut could fall
    inside of a character. It never does, and the scan splits the text as the reader of types does. -/

namespace PluginManual

namespace Text

variable {s a b : Text} {c z : Char} {i : Nat}

/-! ### Bytes -/

/-- The bytes of a text in UTF-8. -/
def bytes (s : Text) : List UInt8 := s.flatMap String.utf8EncodeChar

@[simp] theorem bytes_append (a b : Text) : bytes (a ++ b) = bytes a ++ bytes b := List.flatMap_append

@[simp] theorem bytes_cons (c : Char) (s : Text) : bytes (c :: s) = String.utf8EncodeChar c ++ bytes s := rfl

@[simp] theorem bytes_nil : bytes [] = [] := rfl

/-- The character with the code that a byte holds. -/
def signOf (b : UInt8) : Char := Char.ofNat b.toNat

def signAt? (s : Text) (i : Nat) : Option Char := (bytes s)[i]?.map signOf

def lastSign? (s : Text) : Option Char := (bytes s).getLast?.map signOf

theorem toNat_signOf (b : UInt8) : (signOf b).toNat = b.toNat := by
  have hvalid : b.toNat.isValidChar := .inl (Nat.lt_trans b.toNat_lt (by decide))
  rw [signOf, Char.ofNat, dif_pos hvalid]
  rfl

/-- A character of ASCII is one byte, which holds its code. -/
theorem utf8EncodeChar_of_ascii (h : c.toNat < 128) : ∃ b, String.utf8EncodeChar c = [b] ∧ signOf b = c := by
  have hle : c.val.toNat ≤ 127 := Nat.le_of_lt_succ h
  refine ⟨UInt8.ofNat c.val.toNat, if_pos hle, Char.toNat_inj.mp ?_⟩
  rw [toNat_signOf, UInt8.toNat_ofNat_of_lt' (Nat.lt_of_le_of_lt hle (by decide))]
  rfl

/-- No byte of another character is the code of a character of ASCII. -/
theorem le_toNat_of_mem_utf8EncodeChar (h : 128 ≤ c.toNat) : ∀ b ∈ String.utf8EncodeChar c, 128 ≤ (signOf b).toNat := by
  have hlt : ¬ c.val.toNat ≤ 127 := Nat.not_le.mpr h
  intro b hb
  rw [toNat_signOf]
  simp only [String.utf8EncodeChar, if_neg hlt] at hb
  split at hb
  · simp only [List.mem_cons, List.not_mem_nil, or_false] at hb
    rcases hb with rfl | rfl <;> rw [UInt8.toNat_ofNat'] <;> omega
  · split at hb
    · simp only [List.mem_cons, List.not_mem_nil, or_false] at hb
      rcases hb with rfl | rfl | rfl <;> rw [UInt8.toNat_ofNat'] <;> omega
    · simp only [List.mem_cons, List.not_mem_nil, or_false] at hb
      rcases hb with rfl | rfl | rfl | rfl <;> rw [UInt8.toNat_ofNat'] <;> omega

/-- A byte of a character tells whether it is a given character of ASCII. -/
theorem signOf_eq_iff {b : UInt8} (hb : b ∈ String.utf8EncodeChar c) (hz : z.toNat < 128) : signOf b = z ↔ c = z := by
  by_cases hc : c.toNat < 128
  · obtain ⟨b', hbytes, hsign⟩ := utf8EncodeChar_of_ascii hc
    rw [hbytes, List.mem_singleton] at hb
    rw [hb, hsign]
  · have hsign := le_toNat_of_mem_utf8EncodeChar (Nat.not_lt.mp hc) b hb
    refine iff_of_false ?_ ?_ <;> rintro rfl <;> omega

theorem signAt?_append_cons {b : Text} {k : Nat} (hk : k < (String.utf8EncodeChar c).length) :
    signAt? (a ++ c :: b) ((bytes a).length + k) = some (signOf (String.utf8EncodeChar c)[k]) := by
  rw [signAt?, bytes_append, List.getElem?_append_right (Nat.le_add_right _ _), Nat.add_sub_cancel_left, bytes_cons,
    List.getElem?_append_left hk, List.getElem?_eq_getElem hk]
  rfl

theorem signAt?_eq_some_iff (hz : z.toNat < 128) : signAt? (a ++ b) (bytes a).length = some z ↔ b.head? = some z := by
  cases b with
  | nil => simp [signAt?]
  | cons c b =>
    have hpos : 0 < (String.utf8EncodeChar c).length := List.length_pos_iff.mpr String.utf8EncodeChar_ne_nil
    have hsign := signAt?_append_cons (a := a) (b := b) hpos
    rw [Nat.add_zero] at hsign
    rw [hsign, Option.some_inj, List.head?_cons, Option.some_inj]
    exact signOf_eq_iff (List.getElem_mem hpos) hz

theorem lastSign?_eq_some_iff (hz : z.toNat < 128) : lastSign? s = some z ↔ s.getLast? = some z := by
  rcases List.eq_nil_or_concat' s with rfl | ⟨a, c, rfl⟩
  · simp [lastSign?]
  · have hne : String.utf8EncodeChar c ≠ [] := String.utf8EncodeChar_ne_nil
    rw [lastSign?, bytes_append, bytes_cons, bytes_nil, List.append_nil, List.getLast?_append_of_ne_nil _ hne,
      List.getLast?_eq_some_getLast hne, Option.map_some, Option.some_inj, List.getLast?_concat, Option.some_inj]
    exact signOf_eq_iff (List.getLast_mem hne) hz

/-! ### Cuts behind a number of bytes -/

/-- The text before and the text after its first `i` bytes. There is no cut inside of a character. -/
def cutAt? : Nat → Text → Option (Text × Text)
  | 0, s => some ([], s)
  | _ + 1, [] => none
  | i + 1, c :: s =>
    let n := (String.utf8EncodeChar c).length
    if n ≤ i + 1 then (cutAt? (i + 1 - n) s).map fun (before, after) => (c :: before, after) else none

theorem cutAt?_append (a b : Text) : cutAt? (bytes a).length (a ++ b) = some (a, b) := by
  induction a with
  | nil => cases b <;> rfl
  | cons c a ih =>
    have hpos : 0 < (String.utf8EncodeChar c).length := List.length_pos_iff.mpr String.utf8EncodeChar_ne_nil
    obtain ⟨n, hn⟩ : ∃ n, (bytes (c :: a)).length = n + 1 :=
      Nat.exists_eq_succ_of_ne_zero (by rw [bytes_cons, List.length_append]; omega)
    have hrest : n + 1 - (String.utf8EncodeChar c).length = (bytes a).length := by
      rw [← hn, bytes_cons, List.length_append]
      omega
    have hle : (String.utf8EncodeChar c).length ≤ n + 1 := by
      rw [← hn, bytes_cons, List.length_append]
      omega
    rw [hn, List.cons_append, cutAt?]
    simp only [if_pos hle, hrest, ih]
    rfl

end Text

namespace TypeExpr
open Text

/-- Scans the bytes of a text from number `i` on, where `depth` is the depth of brackets. Nothing comes out if a cut
    falls inside of a character, or if the scan does not get on. -/
def scan? (s : Text) (depth i : Nat) : Option (Text × Text) :=
  match hsign : signAt? s i with
  | none => some (s, [])
  | some c =>
    if depth = 0 ∧ isAsciiBlank c then
      match cutAt? i s with
      | none => none
      | some (before, after) =>
        let next := i + ((bytes after).length - (bytes after.trimStart).length)
        if joins (lastSign? before.trimEnd) (signAt? s next) then
          if i < next then scan? s depth next else none
        else some (before, after.trimStart)
    else scan? s (depthAfter depth c) (i + 1)
termination_by (bytes s).length - i
decreasing_by
  all_goals
    have hlt : i < (bytes s).length := by
      rw [signAt?, Option.map_eq_some_iff] at hsign
      obtain ⟨b, hb, -⟩ := hsign
      exact (List.getElem?_eq_some_iff.mp hb).1
    omega

/-! ### Characters beyond ASCII -/

theorem isAsciiBlank_of_le {c : Char} (h : 128 ≤ c.toNat) : isAsciiBlank c = false := by
  rw [Bool.eq_false_iff]
  intro hblank
  simp only [isAsciiBlank, Bool.or_eq_true, beq_iff_eq] at hblank
  rcases hblank with (((rfl | rfl) | rfl) | rfl) | rfl <;> exact absurd h (by decide)

theorem ascii_of_isAsciiBlank {c : Char} (h : isAsciiBlank c = true) : c.toNat < 128 := by
  by_contra hle
  rw [isAsciiBlank_of_le (Nat.not_lt.mp hle)] at h
  cases h

theorem depthAfter_of_le {c : Char} (h : 128 ≤ c.toNat) (depth : Nat) : depthAfter depth c = depth := by
  have hne : ∀ x : Char, x.toNat < 128 → c ≠ x := by
    rintro x hx rfl
    omega
  rw [depthAfter, if_neg, if_neg] <;>
    simp only [List.mem_cons, List.not_mem_nil, or_false, not_or] <;>
    exact ⟨hne _ (by decide), hne _ (by decide), hne _ (by decide), hne _ (by decide)⟩

/-- Whether a type goes on depends on characters of ASCII alone. -/
theorem joins_congr {x x' y y' : Option Char} (hx : ∀ z : Char, z.toNat < 128 → (x = some z ↔ x' = some z))
    (hy : ∀ z : Char, z.toNat < 128 → (y = some z ↔ y' = some z)) : joins x y = joins x' y' := by
  rw [Bool.eq_iff_iff]
  simp only [joins, Bool.or_eq_true, beq_iff_eq, hx '|' (by decide), hx ':' (by decide), hx ',' (by decide),
    hy '|' (by decide)]

/-! ### Steps of the scan -/

variable {s p r w : Text} {c : Char} {depth i : Nat} {before : Option Char}

theorem scan?_of_none (h : signAt? s i = none) : scan? s depth i = some (s, []) := by
  rw [scan?]
  split
  · rfl
  · next hsign => exact absurd (h.symm.trans hsign) (by simp)

theorem scan?_of_sign (h : signAt? s i = some c) (hc : ¬ (depth = 0 ∧ isAsciiBlank c = true)) :
    scan? s depth i = scan? s (depthAfter depth c) (i + 1) := by
  rw [scan?]
  split
  · next hsign => exact absurd (h.symm.trans hsign) (by simp)
  · next hsign =>
    obtain rfl := Option.some.inj (h.symm.trans hsign)
    rw [if_neg hc]

/-- Bytes beyond ASCII are passed over. -/
theorem scan?_skip {n : Nat} (h : ∀ k < n, ∃ x ∈ signAt? s (i + k), 128 ≤ x.toNat) :
    scan? s depth i = scan? s depth (i + n) := by
  induction n with
  | zero => rfl
  | succ n ih =>
    obtain ⟨x, hx, hle⟩ := h n (Nat.lt_succ_self n)
    rw [ih fun k hk => h k (Nat.lt_succ_of_lt hk), scan?_of_sign hx (by simp [isAsciiBlank_of_le hle]),
      depthAfter_of_le hle, Nat.add_assoc]

/-- The scan passes a character of the type. -/
theorem scan?_step (hc : ¬ (depth = 0 ∧ isAsciiBlank c = true)) :
    scan? (p ++ c :: r) depth (bytes p).length = scan? (p ++ c :: r) (depthAfter depth c) (bytes (p ++ [c])).length := by
  by_cases hascii : c.toNat < 128
  · have hsign : signAt? (p ++ c :: r) (bytes p).length = some c := (signAt?_eq_some_iff hascii).mpr rfl
    obtain ⟨b, hbytes, -⟩ := utf8EncodeChar_of_ascii hascii
    rw [scan?_of_sign hsign hc]
    simp [hbytes]
  · have hle := Nat.not_lt.mp hascii
    rw [depthAfter_of_le hle, scan?_skip (n := (String.utf8EncodeChar c).length)]
    · simp
    · exact fun k hk => ⟨_, signAt?_append_cons hk, le_toNat_of_mem_utf8EncodeChar hle _ (List.getElem_mem hk)⟩

/-- At a blank outside of brackets the scan stops, or goes on behind all blanks that stand there. -/
theorem scan?_blank (hc : isAsciiBlank c = true) :
    scan? (p ++ c :: r) 0 (bytes p).length =
      if joins (lastNonblank? p) (firstNonblank? r) then
        scan? (p ++ c :: r) 0 (bytes (p ++ (c :: r).takeWhile isBlank)).length
      else some (p, r.trimStart) := by
  have hblank := isBlank_of_isAsciiBlank hc
  have hsign : signAt? (p ++ c :: r) (bytes p).length = some c := (signAt?_eq_some_iff (ascii_of_isAsciiBlank hc)).mpr rfl
  have hcut : (c :: r).takeWhile isBlank ++ trimStart (c :: r) = c :: r := List.takeWhile_append_dropWhile
  have htrim : trimStart (c :: r) = r.trimStart := List.dropWhile_cons_of_pos hblank
  rw [htrim] at hcut
  have hlength : (bytes p).length + ((bytes (c :: r)).length - (bytes r.trimStart).length) =
      (bytes (p ++ (c :: r).takeWhile isBlank)).length := by
    have hsum := congrArg (fun t => (bytes t).length) hcut
    simp only [bytes_append, List.length_append] at hsum ⊢
    omega
  have hjoins : joins (lastSign? p.trimEnd) (signAt? (p ++ c :: r) (bytes (p ++ (c :: r).takeWhile isBlank)).length) =
      joins (lastNonblank? p) (firstNonblank? r) := by
    refine joins_congr (fun z hz => ?_) fun z hz => ?_
    · rw [lastSign?_eq_some_iff hz, getLast?_trimEnd]
    · have hs : p ++ c :: r = (p ++ (c :: r).takeWhile isBlank) ++ r.trimStart := by
        rw [List.append_assoc, hcut]
      rw [hs, signAt?_eq_some_iff hz, head?_trimStart]
  have hnext : (bytes p).length < (bytes (p ++ (c :: r).takeWhile isBlank)).length := by
    have hpos : 0 < (String.utf8EncodeChar c).length := List.length_pos_iff.mpr String.utf8EncodeChar_ne_nil
    rw [List.takeWhile_cons_of_pos hblank, bytes_append, bytes_cons, List.length_append, List.length_append]
    omega
  rw [scan?]
  split
  · next hnone => exact absurd (hsign.symm.trans hnone) (by simp)
  · next hsome =>
    obtain rfl := Option.some.inj (hsign.symm.trans hsome)
    rw [if_pos ⟨rfl, hc⟩, cutAt?_append]
    simp only [htrim, hlength, hjoins, if_pos hnext]

/-- A type goes on behind blanks if it is joined across them. -/
theorem splitFrom_joined (hw : ∀ c ∈ w, isBlank c = true) (hjoins : joins before (firstNonblank? r) = true) :
    splitFrom 0 before (w ++ r) = (w ++ (splitFrom 0 before r).1, (splitFrom 0 before r).2) := by
  induction w with
  | nil => rfl
  | cons c w ih =>
    obtain ⟨hc, hw⟩ := List.forall_mem_cons.mp hw
    rw [List.cons_append, splitFrom, head?_trimStart, firstNonblank?_blank_append hw, hjoins, if_neg (by simp),
      depthAfter_of_isBlank hc, if_pos hc, ih hw]
    rfl

/-- The scan gets to the end from every place to which it can come. -/
theorem scan?_eq (p r : Text) :
    scan? (p ++ r) (depthOf p) (bytes p).length =
      some (p ++ (splitFrom (depthOf p) (lastNonblank? p) r).1, (splitFrom (depthOf p) (lastNonblank? p) r).2) := by
  induction hn : r.length using Nat.strong_induction_on generalizing p r with
  | h n ih =>
    cases r with
    | nil =>
      have hnone : signAt? (p ++ []) (bytes p).length = none := by simp [signAt?]
      rw [scan?_of_none hnone, splitFrom]
    | cons c r =>
      by_cases hblank : depthOf p = 0 ∧ isAsciiBlank c = true
      · obtain ⟨hdepth, hc⟩ := hblank
        rw [hdepth, scan?_blank hc]
        cases hjoins : joins (lastNonblank? p) (firstNonblank? r) with
        | true =>
          -- The scan is back at work behind the blanks, where the type goes on.
          have htrim : trimStart (c :: r) = trimStart r := List.dropWhile_cons_of_pos (isBlank_of_isAsciiBlank hc)
          have hcut : (c :: r).takeWhile isBlank ++ trimStart r = c :: r := htrim ▸ List.takeWhile_append_dropWhile
          have hw : ∀ x ∈ (c :: r).takeWhile isBlank, isBlank x = true := fun x hx => List.mem_takeWhile_imp hx
          have hlt : (trimStart r).length < n := by
            rw [← hn]
            exact Nat.lt_succ_of_le (List.dropWhile_suffix _).length_le
          have hrest := ih _ hlt (p ++ (c :: r).takeWhile isBlank) (trimStart r) rfl
          generalize (c :: r).takeWhile isBlank = w at hcut hw hrest ⊢
          rw [depthOf_append_blank hw, lastNonblank?_append_blank hw, hdepth, List.append_assoc, hcut] at hrest
          rw [← firstNonblank?_trimStart] at hjoins
          rw [if_pos rfl, hrest, ← hcut, splitFrom_joined hw hjoins, List.append_assoc]
        | false =>
          rw [if_neg (by simp), splitFrom, head?_trimStart, hjoins, if_pos ⟨rfl, hc, rfl⟩, List.append_nil]
      · have hstop : ¬ (depthOf p = 0 ∧ isAsciiBlank c = true ∧ (!joins (lastNonblank? p) (trimStart r).head?) = true) :=
          fun h => hblank ⟨h.1, h.2.1⟩
        have hr : r.length < n := by
          rw [← hn]
          exact Nat.lt_succ_self _
        have hrest := ih r.length hr (p ++ [c]) r rfl
        rw [scan?_step hblank, splitFrom, if_neg hstop, ← depthOf_concat, ← lastNonblank?_concat, List.append_cons, hrest,
          List.append_assoc]
        rfl

/-- A text is split in the only way in which it can be divided into a type, a gap and what follows it, and all of it is
    the type if it cannot be divided. A scan over its bytes does the same, without any cut inside of a character. -/
theorem split_isOnlyDivision (s t d : Text) :
    (split s = (t, d) ↔ IsDivided s t d ∨ (∀ t d, ¬ IsDivided s t d) ∧ t = s.trimStart ∧ d = []) ∧
      scan? s.trimStart 0 0 = some (split s) :=
  ⟨split_eq_iff, scan?_eq [] s.trimStart⟩

/-- Outside of brackets a no-break space does not end a type, and a bar behind blanks goes on with it. -/
example : split "  fun(a: string): A\u00A0 | nil\t the result".toList =
    ("fun(a: string): A\u00A0 | nil".toList, "the result".toList) := by decide +kernel

end TypeExpr
end PluginManual
