import Mathlib.Order.Bounds.Basic
import PluginManual.Proofs.Splice

/-! Where a region is found, and why none is. The answer of a search is told by the indices of the lines that match
    the two markers: which of them is the first that opens the region, whether there are more, and which is the least
    one behind it that closes the region. The ends of lines do not count. -/

namespace PluginManual

/-! ### Indices of lines -/

namespace Region

variable {p opens closes : Text → Bool} {m : Multiplicity} {lines lines' as bs : List Text} {r : Region} {i j n : Nat}

/-- The indices of the lines that satisfy a condition, in ascending order. -/
def places (p : Text → Bool) (lines : List Text) : List Nat :=
  (List.range lines.length).filter fun i => lines[i]?.any p

theorem mem_places : i ∈ places p lines ↔ ∃ line, lines[i]? = some line ∧ p line = true := by
  rw [places, List.mem_filter, List.mem_range, Option.any_eq_true]
  constructor
  · rintro ⟨-, line, hline, hp⟩
    exact ⟨line, hline, hp⟩
  · rintro ⟨line, hline, hp⟩
    exact ⟨(List.getElem?_eq_some_iff.mp hline).1, line, hline, hp⟩

theorem pairwise_places : (places p lines).Pairwise (· < ·) := List.pairwise_lt_range.filter _

theorem indicesFrom_eq (before as : List Text) : indicesFrom p before.length as =
    (List.range' before.length as.length).filter fun i => (before ++ as)[i]?.any p := by
  induction as generalizing before with
  | nil => rfl
  | cons a as ih =>
    have hhere : (before ++ a :: as)[before.length]? = some a := by simp
    have hconcat : before ++ a :: as = before ++ [a] ++ as := by simp
    have ih := ih (before ++ [a])
    rw [List.length_append, List.length_singleton, ← hconcat] at ih
    rw [indicesFrom, List.length_cons, List.range'_succ, List.filter_cons, hhere, ih]
    rfl

theorem indices_eq_places : indices p lines = places p lines := by
  rw [places, List.range_eq_range']
  exact indicesFrom_eq [] lines

theorem indicesFrom_append (p : Text → Bool) (n : Nat) (as bs : List Text) :
    indicesFrom p n (as ++ bs) = indicesFrom p n as ++ indicesFrom p (n + as.length) bs := by
  induction as generalizing n with
  | nil => rfl
  | cons a as ih =>
    have hlength : n + 1 + as.length = n + (a :: as).length := by
      rw [List.length_cons]
      omega
    rw [List.cons_append, indicesFrom, indicesFrom, ih, hlength]
    split <;> rfl

theorem bounds_of_mem_indicesFrom (h : j ∈ indicesFrom p n as) : n ≤ j ∧ j < n + as.length := by
  induction as generalizing n with
  | nil => cases h
  | cons a as ih =>
    rw [List.length_cons]
    rw [indicesFrom] at h
    split at h
    · rcases List.mem_cons.mp h with rfl | h
      · omega
      · have := ih h
        omega
    · have := ih h
      omega

/-- The indices behind an index are those of the lines behind it. -/
theorem indicesFrom_drop (h : i < lines.length) :
    indicesFrom p (i + 1) (lines.drop (i + 1)) = (places p lines).filter (i < ·) := by
  have hcut := indicesFrom_append p 0 (lines.take (i + 1)) (lines.drop (i + 1))
  have hlength : (lines.take (i + 1)).length = i + 1 := List.length_take_of_le h
  rw [List.take_append_drop, hlength, Nat.zero_add] at hcut
  have hbefore : (indicesFrom p 0 (lines.take (i + 1))).filter (i < ·) = [] := by
    rw [List.filter_eq_nil_iff]
    intro j hj
    have := bounds_of_mem_indicesFrom hj
    simp only [decide_eq_true_eq]
    omega
  have hbehind : (indicesFrom p (i + 1) (lines.drop (i + 1))).filter (i < ·) = indicesFrom p (i + 1) (lines.drop (i + 1)) := by
    rw [List.filter_eq_self]
    intro j hj
    have := bounds_of_mem_indicesFrom hj
    simp only [decide_eq_true_eq]
    omega
  rw [← indices_eq_places, indices, hcut, List.filter_append, hbefore, hbehind, List.nil_append]

/-! ### Answers -/

/-- Several lines open the region where one only may. -/
def IsAmbiguous (m : Multiplicity) (found : List Nat) : Prop := m = .unique ∧ 2 ≤ found.length

/-- A search goes by the indices of the lines that open the region and of those that close it. -/
theorem locate_eq (opens closes : Text → Bool) (m : Multiplicity) (lines : List Text) :
    locate opens closes m lines =
      match places opens lines with
      | [] => .error (.missing .opening)
      | i :: more =>
        if m = .unique ∧ more ≠ [] then .error (.ambiguous ((i :: more).map (· + 1)))
        else
          match (places closes lines).filter (i < ·) with
          | [] => .error (.missing .closing)
          | j :: _ => .ok ⟨i, j⟩ := by
  rw [locate, indices_eq_places]
  cases h : places opens lines with
  | nil => rfl
  | cons i more =>
    obtain ⟨line, hline, -⟩ := mem_places.mp (h ▸ List.mem_cons_self : i ∈ places opens lines)
    dsimp only
    have hdrop : indicesFrom closes (i + 1) (lines.drop (i + 1)) = (places closes lines).filter (i < ·) :=
      indicesFrom_drop (List.getElem?_eq_some_iff.mp hline).1
    generalize indicesFrom closes (i + 1) (lines.drop (i + 1)) = behind at hdrop
    subst hdrop
    rfl

theorem isAmbiguous_cons_iff {more : List Nat} : IsAmbiguous m (i :: more) ↔ m = .unique ∧ more ≠ [] := by
  rw [IsAmbiguous, List.length_cons, ← List.length_pos_iff]
  exact and_congr_right fun _ => by omega

theorem locate_eq_missing_opening_iff :
    locate opens closes m lines = .error (.missing .opening) ↔ places opens lines = [] := by
  rw [locate_eq]
  cases places opens lines with
  | nil => simp
  | cons i more =>
    dsimp only
    split
    · simp
    · split <;> simp

theorem locate_eq_ambiguous_iff {ns : List Nat} : locate opens closes m lines = .error (.ambiguous ns) ↔
    IsAmbiguous m (places opens lines) ∧ ns = (places opens lines).map (· + 1) := by
  rw [locate_eq]
  cases places opens lines with
  | nil => simp [IsAmbiguous]
  | cons i more =>
    rw [isAmbiguous_cons_iff]
    dsimp only
    split
    · next hmany => simp [hmany, eq_comm]
    · next hone => split <;> simp [hone]

theorem locate_eq_missing_closing_iff : locate opens closes m lines = .error (.missing .closing) ↔
    ¬ IsAmbiguous m (places opens lines) ∧ ∃ i, (places opens lines).head? = some i ∧ ∀ j ∈ places closes lines, ¬ i < j := by
  rw [locate_eq]
  cases places opens lines with
  | nil => simp
  | cons i more =>
    rw [isAmbiguous_cons_iff, List.head?_cons]
    dsimp only
    split
    · next hmany => simp [hmany]
    · next hone =>
      split
      · next hnil =>
        rw [List.filter_eq_nil_iff] at hnil
        simpa [hone] using hnil
      · next j _ hcons =>
        have hj : j ∈ (places closes lines).filter (i < ·) := hcons ▸ List.mem_cons_self
        simp only [List.mem_filter, decide_eq_true_eq] at hj
        simpa [hone] using ⟨j, hj⟩

/-- The first member of an ascending list is the least one. -/
theorem head?_eq_some_iff_isLeast {l : List Nat} (h : l.Pairwise (· < ·)) : l.head? = some j ↔ IsLeast {x | x ∈ l} j := by
  cases l with
  | nil => simp [IsLeast]
  | cons k l =>
    rw [List.pairwise_cons] at h
    have hk : IsLeast {x | x ∈ k :: l} k := by
      refine ⟨List.mem_cons_self, fun x hx => ?_⟩
      rcases List.mem_cons.mp hx with rfl | hx
      · exact Nat.le_refl _
      · exact (h.1 x hx).le
    rw [List.head?_cons, Option.some.injEq]
    constructor
    · rintro rfl
      exact hk
    · exact hk.unique

theorem locate_eq_ok_iff_isLeast : locate opens closes m lines = .ok r ↔
    ¬ IsAmbiguous m (places opens lines) ∧ (places opens lines).head? = some r.opening ∧
      IsLeast {j | j ∈ places closes lines ∧ r.opening < j} r.closing := by
  rw [locate_eq]
  cases places opens lines with
  | nil => simp
  | cons i more =>
    rw [isAmbiguous_cons_iff, List.head?_cons, Option.some.injEq]
    dsimp only
    split
    · next hmany => simp [hmany]
    · next hone =>
      have hleast : ∀ j, ((places closes lines).filter (i < ·)).head? = some j ↔
          IsLeast {j | j ∈ places closes lines ∧ i < j} j := by
        intro j
        rw [head?_eq_some_iff_isLeast (pairwise_places.filter _)]
        simp only [List.mem_filter, decide_eq_true_eq]
      obtain ⟨opening, closing⟩ := r
      dsimp only
      split
      · next hnil =>
        rw [hnil] at hleast
        simp only [reduceCtorEq, false_iff, not_and]
        rintro - rfl
        exact fun h => absurd ((hleast _).mpr h) (by simp)
      · next j _ hcons =>
        rw [hcons] at hleast
        simp only [List.head?_cons, Option.some.injEq] at hleast
        rw [Except.ok.injEq, Region.mk.injEq, hleast]
        constructor
        · rintro ⟨rfl, h⟩
          exact ⟨hone, rfl, h⟩
        · rintro ⟨-, rfl, h⟩
          exact ⟨rfl, h⟩

/-! ### Ends of lines -/

theorem indicesFrom_map {α β : Type} (p : β → Bool) (f : α → β) (n : Nat) (as : List α) :
    indicesFrom p n (as.map f) = indicesFrom (p ∘ f) n as := by
  induction as generalizing n with
  | nil => rfl
  | cons a as ih =>
    rw [List.map_cons, indicesFrom, indicesFrom, ih]
    rfl

/-- A search sees of the lines only what opens the region and what closes it. -/
theorem locate_map {f : Text → Text} (hopens : opens ∘ f = opens) (hcloses : closes ∘ f = closes) (lines : List Text) :
    locate opens closes m (lines.map f) = locate opens closes m lines := by
  simp only [locate, indices, ← List.map_drop, indicesFrom_map, hopens, hcloses]

end Region

namespace Text

/-- The line with a carriage return before its line feed, unless it has one already. -/
def withReturn (line : Text) : Text :=
  if line.getLast? = some '\n' ∧ '\r' ∉ line then line.dropLast ++ "\r\n" else line

/-- The text with a carriage return before the line feed of each line that has none. -/
def withReturns (s : Text) : Text := (s.lines.map withReturn).flatten

theorem dropTerminator_append_feed (s : Text) :
    dropTerminator (s ++ ['\n']) = if s.getLast? = some '\r' then s.dropLast else s := by
  simp [dropTerminator]

theorem dropTerminator_withReturn (line : Text) : dropTerminator (withReturn line) = dropTerminator line := by
  rw [withReturn]
  split
  · next h =>
    obtain ⟨s, rfl⟩ := List.getLast?_eq_some_iff.mp h.1
    have hcut : s ++ "\r\n".toList = s ++ ['\r'] ++ ['\n'] := by simp
    have hreturn : s.getLast? ≠ some '\r' := fun hlast => h.2 (by simp [List.mem_of_getLast? hlast])
    rw [List.dropLast_concat, hcut, dropTerminator_append_feed, dropTerminator_append_feed, if_neg hreturn]
    simp
  · rfl

theorem dropTerminator_terminate (line : Text) : dropTerminator (terminate line) = dropTerminator line := by
  rw [terminate]
  split
  · rfl
  · next h => rw [dropTerminator_append_feed, dropTerminator, if_neg h]

theorem isWhole_withReturn {line : Text} (h : IsWhole line) : IsWhole (withReturn line) := by
  obtain ⟨s, hs, rfl⟩ := h
  rw [withReturn]
  split
  · rw [List.dropLast_concat]
    exact ⟨s ++ ['\r'], by simp [hs], by simp⟩
  · exact isWhole_append hs

theorem areLines_map_withReturn {ls : List Text} (h : AreLines ls) : AreLines (ls.map withReturn) := by
  induction ls with
  | nil => exact h
  | cons l ls ih =>
    rw [List.map_cons, areLines_cons_iff]
    rcases areLines_cons_iff.mp h with ⟨hl, hls⟩ | ⟨rfl, hne, hmem⟩
    · exact .inl ⟨isWhole_withReturn hl, ih hls⟩
    · have hlast : withReturn l = l := if_neg fun hfeed => hmem (List.mem_of_getLast? hfeed.1)
      exact .inr ⟨rfl, hlast.symm ▸ hne, hlast.symm ▸ hmem⟩

/-- The lines of the text with carriage returns are those of the text, each with its own. -/
theorem lines_withReturns (s : Text) : lines (withReturns s) = (lines s).map withReturn :=
  areLines_map_withReturn (areLines_lines s)

end Text

namespace Document
open Region

variable {d : Document} {opening closing : Marker} {m : Multiplicity} {fault : RegionFault}

theorem isAt_comp {f : Text → Text} (hf : ∀ line, (f line).dropTerminator = line.dropTerminator) (k : Marker) :
    k.isAt ∘ f = k.isAt := by
  funext line
  rw [Function.comp_apply, Marker.isAt, Marker.isAt, hf]

theorem locate_map {f : Text → Text} (hf : ∀ line, (f line).dropTerminator = line.dropTerminator) (p : Path)
    (lines : List Text) : locate ⟨p, lines.map f⟩ opening closing m = locate ⟨p, lines⟩ opening closing m := by
  rw [locate, locate, Region.locate_map (isAt_comp hf opening) (isAt_comp hf closing)]
  rfl

theorem explain_inj {fault' : RegionFault} :
    d.explain opening closing fault = d.explain opening closing fault' ↔ fault = fault' := by
  constructor
  · intro h
    rcases fault with (_ | _) | ns <;> rcases fault' with (_ | _) | ns' <;> cases h <;> rfl
  · rintro rfl
    rfl

theorem locate_eq_error_iff (fault : RegionFault) : d.locate opening closing m = .error (d.explain opening closing fault) ↔
    Region.locate opening.isAt closing.isAt m d.lines = .error fault := by
  rw [locate]
  cases Region.locate opening.isAt closing.isAt m d.lines with
  | ok r => constructor <;> intro h <;> cases h
  | error fault' =>
    show Except.error (d.explain opening closing fault') = _ ↔ _
    rw [Except.error.injEq, Except.error.injEq, explain_inj]

/-- The indices of the lines that a marker matches, in ascending order. -/
def matching (d : Document) (k : Marker) : List Nat := places k.isAt d.lines

/-- What a search for a region answers. -/
structure IsLocated (d : Document) (opening closing : Marker) (m : Multiplicity) (answer : Except DocumentError Region) :
    Prop where
  missingOpening_iff : answer = .error (.markerNotFound d.path .opening opening.source) ↔ d.matching opening = []
  ambiguous_iff : ∀ ns, answer = .error (.ambiguousRegion d.path opening.source ns) ↔
    IsAmbiguous m (d.matching opening) ∧ ns = (d.matching opening).map (· + 1)
  missingClosing_iff : answer = .error (.markerNotFound d.path .closing closing.source) ↔
    ¬ IsAmbiguous m (d.matching opening) ∧
      ∃ i, (d.matching opening).head? = some i ∧ ∀ j ∈ d.matching closing, ¬ i < j
  found_iff : ∀ r, answer = .ok r ↔ ¬ IsAmbiguous m (d.matching opening) ∧
    (d.matching opening).head? = some r.opening ∧ IsLeast {j | j ∈ d.matching closing ∧ r.opening < j} r.closing
  within : ∀ r, answer = .ok r → r.opening < r.closing ∧ r.closing < d.lines.length
  inside : ∀ r, answer = .ok r → ∀ line ∈ r.inside d.lines, closing.isAt line = false
  /-- The lines before the region may be any others that do not open it. -/
  before : ∀ r, answer = .ok r → ∀ front : List Text, front.length = r.opening →
    (∀ line ∈ front, opening.isAt line = false) → locate ⟨d.path, front ++ d.lines.drop r.opening⟩ opening closing m = answer
  /-- So may the ends of the lines be, in the text of the document. -/
  withReturns : Text.AreLines d.lines → (ofText d.path d.text.withReturns).locate opening closing m = answer
  withoutFeed : Text.AreLines d.lines → ∀ s, d.text = s ++ ['\n'] → s ≠ [] → s.getLast? ≠ some '\n' →
    (ofText d.path s).locate opening closing m = answer

theorem locate_isLocated (d : Document) (opening closing : Marker) (m : Multiplicity) :
    d.IsLocated opening closing m (d.locate opening closing m) where
  missingOpening_iff := (locate_eq_error_iff (.missing .opening)).trans locate_eq_missing_opening_iff
  ambiguous_iff ns := (locate_eq_error_iff (.ambiguous ns)).trans locate_eq_ambiguous_iff
  missingClosing_iff := (locate_eq_error_iff (.missing .closing)).trans locate_eq_missing_closing_iff
  found_iff _ := locate_eq_ok_iff.trans locate_eq_ok_iff_isLeast
  within r h := by
    obtain ⟨-, -, ⟨hmem, hlt⟩, -⟩ := locate_eq_ok_iff_isLeast.mp (locate_eq_ok_iff.mp h)
    obtain ⟨line, hline, -⟩ := mem_places.mp hmem
    exact ⟨hlt, (List.getElem?_eq_some_iff.mp hline).1⟩
  inside r h := by
    obtain ⟨e, hlines, rfl, hfound⟩ := Enclosure.locate_eq_ok_iff.mp (locate_eq_ok_iff.mp h)
    rw [← hlines, Enclosure.inside_region]
    exact hfound.inside
  before r h front hlength hfront := by
    obtain ⟨e, hlines, rfl, hfound⟩ := Enclosure.locate_eq_ok_iff.mp (locate_eq_ok_iff.mp h)
    have hdrop : d.lines.drop e.region.opening = e.opening :: (e.inside ++ e.closing :: e.after) := by
      rw [← hlines]
      exact List.drop_left' rfl
    have hfound' : Enclosure.Found opening.isAt closing.isAt m { e with before := front } :=
      ⟨hfront, hfound.opening, hfound.inside, hfound.closing, hfound.single⟩
    have hregion : Enclosure.region { e with before := front } = e.region := by
      rw [Enclosure.region, hlength]
      rfl
    rw [h, hdrop, locate_eq_ok_iff, ← hregion]
    exact Enclosure.found_iff.mp hfound'
  withReturns hlines := by
    have hreturns : ofText d.path d.text.withReturns = ⟨d.path, d.lines.map Text.withReturn⟩ := by
      rw [ofText, Text.lines_withReturns, text, hlines]
    rw [hreturns, locate_map Text.dropTerminator_withReturn]
  withoutFeed hlines s htext hne hlast := by
    have hterminate : s.lines.map Text.terminate = d.lines := by
      rw [map_terminate_lines hne, Text.terminate, if_neg hlast, ← htext, text, hlines]
    calc (ofText d.path s).locate opening closing m
        = locate ⟨d.path, s.lines.map Text.terminate⟩ opening closing m :=
          (locate_map Text.dropTerminator_terminate d.path s.lines).symm
      _ = d.locate opening closing m := by rw [hterminate]

example : (ofText ⟨"a.md"⟩ "<\n>\r\n<\n").locate (.exactly "<") (.exactly "|") .unique =
    .error (.ambiguousRegion ⟨"a.md"⟩ "^<$" [1, 3]) := by rfl

end Document
end PluginManual
