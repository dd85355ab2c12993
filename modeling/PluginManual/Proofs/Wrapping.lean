import PluginManual.Proofs.Heads
import PluginManual.Proofs.Listings
import PluginManual.Proofs.Locality

/-! Definitions whose parameters stand on several lines. The lines up to the closing parenthesis are joined with
    blanks, which leaves the tokens between the parentheses as they are; so the layout of the parameters does not
    change what is read of them. The scan reads the joined lines once more and finds nothing on them. -/

namespace PluginManual

/-! ### Lines -/

namespace Text

variable {front s p : Text} {c : Char}

theorem lines_front_append (hfront : '\n' ∉ front) (hs : s ≠ []) :
    lines (front ++ s) = (lines s).modifyHead (front ++ ·) := by
  induction s using lines_induction with
  | nil => exact absurd rfl hs
  | last s _ hmem =>
    have hboth : '\n' ∉ front ++ s := by simp [hfront, hmem]
    rw [lines_of_not_mem (by simp [hs]) hboth, lines_of_not_mem hs hmem]
    rfl
  | append line t hline _ =>
    obtain ⟨l, hl, rfl⟩ := hline
    have hboth : '\n' ∉ front ++ l := by simp [hfront, hl]
    have hcut : front ++ (l ++ ['\n'] ++ t) = front ++ l ++ '\n' :: t := by simp
    rw [hcut, lines_append_feed hboth, lines_append_of_isWhole (isWhole_append hl), List.append_assoc]
    rfl

/-- Only blanks at the end are no part of a bare line. -/
theorem exists_bareLine_append (line : Text) : ∃ w, line = bareLine line ++ w ∧ ∀ c ∈ w, PluginManual.isBlank c = true := by
  obtain ⟨r, rfl⟩ : ∃ r : Text, line = r.reverse := ⟨line.reverse, by simp⟩
  rw [bareLine, List.reverse_reverse]
  split
  · exact ⟨"\r\n".toList, by simp, isBlank_iff.mp (by decide)⟩
  · exact ⟨"\n".toList, by simp, isBlank_iff.mp (by decide)⟩
  · exact ⟨[], by simp, by simp⟩

theorem bareLine_subset (line : Text) : bareLine line ⊆ line := by
  obtain ⟨w, hline, -⟩ := exists_bareLine_append line
  conv_rhs => rw [hline]
  exact List.subset_append_left _ _

/-- From a character on, a line goes on as it does if it begins there. -/
theorem bareLine_append_cons (hc : c ≠ '\n' ∧ c ≠ '\r') (s : Text) : ∃ l w : Text, s = l ++ w ∧
    (∀ c ∈ w, PluginManual.isBlank c = true) ∧ ∀ front, bareLine (front ++ c :: s) = front ++ c :: l := by
  obtain ⟨r, rfl⟩ : ∃ r : Text, s = r.reverse := ⟨s.reverse, by simp⟩
  have hreverse : ∀ front : Text, (front ++ c :: r.reverse).reverse = r ++ c :: front.reverse := by simp
  simp only [bareLine, hreverse]
  by_cases hfeed : r.head? = some '\n'
  · obtain ⟨r, rfl⟩ := List.head?_eq_some_iff.mp hfeed
    by_cases hreturn : r.head? = some '\r'
    · obtain ⟨r, rfl⟩ := List.head?_eq_some_iff.mp hreturn
      exact ⟨r.reverse, "\r\n".toList, by simp, isBlank_iff.mp (by decide), by simp⟩
    · refine ⟨r.reverse, "\n".toList, by simp, isBlank_iff.mp (by decide), fun front => ?_⟩
      cases r with
      | nil => simp [hc.2]
      | cons d r =>
        have hd : d ≠ '\r' := by simpa using hreturn
        simp [hd]
  · refine ⟨r.reverse, [], by simp, by simp, fun front => ?_⟩
    cases r with
    | nil => simp [hc.1]
    | cons d r =>
      have hd : d ≠ '\n' := by simpa using hfeed
      simp [hd]

theorem bareLines_append_cons (hc : c ≠ '\n' ∧ c ≠ '\r') (s : Text) : ∃ l : Text, ∀ front, '\n' ∉ front →
    bareLines (front ++ c :: s) = (front ++ c :: l) :: (bareLines (c :: s)).tail := by
  obtain ⟨l, ls, hlines⟩ : ∃ l ls, lines (c :: s) = (c :: l) :: ls := by
    rw [lines, if_neg hc.1]
    split <;> exact ⟨_, _, rfl⟩
  obtain ⟨l', -, -, -, hl⟩ := bareLine_append_cons hc l
  refine ⟨l', fun front hfront => ?_⟩
  rw [bareLines, bareLines, lines_front_append hfront (by simp), hlines]
  exact congrArg (· :: _) (hl front)

theorem bareLines_append_of_isWhole {line : Text} (h : IsWhole line) (t : Text) :
    bareLines (line ++ t) = bareLine line :: bareLines t := by
  rw [bareLines, lines_append_of_isWhole h, List.map_cons, bareLines]

theorem tokens_trimStart (s : Text) : tokens s.trimStart = tokens s := by
  obtain ⟨a, hs, ha, -⟩ := trimStart_eq_iff.mp (rfl : s.trimStart = _)
  conv_rhs => rw [hs]
  rw [tokens_blank_append ha]

theorem tokens_bareLine (line : Text) : tokens (bareLine line) = tokens line := by
  obtain ⟨w, hline, hw⟩ := exists_bareLine_append line
  conv_rhs => rw [hline]
  rw [tokens_append_of_blank hw]

end Text

open Text

variable {arg inner head u : Text} {args : List Text} {c : Char}

/-! ### Parameters -/

/-- The name of a parameter, or the dots for any number of them. -/
def IsParam (arg : Text) : Prop := DocLine.isIdentifier arg = true ∨ arg = "...".toList

instance (arg : Text) : Decidable (IsParam arg) := inferInstanceAs (Decidable (_ ∨ _))

theorem IsParam.char (h : IsParam arg) : ∀ c ∈ arg, c.isAlphanum = true ∨ c = '_' ∨ c = '.' := by
  rcases h with h | rfl
  · exact fun c hc => (DocLine.char_of_isIdentifier h c hc).imp_right .inl
  · exact fun c hc => .inr (.inr (List.eq_of_mem_replicate (n := 3) hc))

theorem IsParam.isItem (h : IsParam arg) : IsItem arg where
  toIsWord := h.elim DocLine.isWord_of_isIdentifier fun hdots => hdots ▸ by decide
  comma hmem := absurd (h.char _ hmem) (by decide)

/-- A listing of parameters has blanks, commas and the characters of names. -/
theorem IsListing.not_mem (h : IsListing args inner) (hargs : ∀ arg ∈ args, IsParam arg)
    (hc : isBlank c = false ∧ c.isAlphanum = false ∧ c ∉ [',', '_', '.']) : c ∉ inner := by
  obtain ⟨hblank, halnum, hsign⟩ := hc
  simp only [List.mem_cons, List.not_mem_nil, or_false, not_or] at hsign
  intro hmem
  rcases h.char c hmem with hc | hc | ⟨arg, harg, hc⟩
  · simp [hblank] at hc
  · exact hsign.1 hc
  · rcases (hargs arg harg).char c hc with hc | hc | hc
    · simp [halnum] at hc
    · exact hsign.2.1 hc
    · exact hsign.2.2 hc

/-! ### Joining -/

/-- Up to its first closing parenthesis the second text has the tokens of the first one. -/
def ClosesBehind (u s : Text) : Prop := ∃ inner rest, s = inner ++ ')' :: rest ∧ ')' ∉ inner ∧ tokens inner = tokens u

theorem ClosesBehind.append {a l s : Text} (h : ClosesBehind u s) (hl : ')' ∉ l) (htokens : tokens l = tokens a)
    (hc : isBlank c = true) : ClosesBehind (a ++ c :: u) (l ++ ' ' :: s) := by
  obtain ⟨inner, rest, rfl, hinner, hu⟩ := h
  refine ⟨l ++ ' ' :: inner, rest, by simp, by simp [hl, hinner], ?_⟩
  rw [tokens_append_blank (by decide), tokens_append_blank hc, htokens, hu]

theorem LuaComment.isDoc_of_head? {line : Text} (h : line.trimStart.head? ≠ some '-') : isDoc line = false := by
  rw [isDoc, Option.isSome_eq_false_iff, Option.isNone_iff_eq_none, Option.eq_none_iff_forall_ne_some]
  intro rest hrest
  rw [docText?, List.isPrefixOf?_eq_some_iff_append_eq] at hrest
  exact h (hrest ▸ rfl)

namespace LuaDefinition

variable {d : LuaDefinition} {indent : Text}

/-- The lines that follow a definition are joined as far as a closing parenthesis, with their tokens before it. -/
theorem continuation_bareLines (hu : ')' ∉ u) (after : Text) : ∃ s,
    wrapped.continuation (bareLines (u ++ ')' :: after)) = ' ' :: s ∧ ClosesBehind u s := by
  obtain ⟨l, hlines⟩ := bareLines_append_cons (c := ')') (by decide) after
  have hlast : ∀ s : Text, '\n' ∉ s → ')' ∉ s → ∃ t,
      wrapped.continuation (bareLines (s ++ ')' :: after)) = ' ' :: t ∧ ClosesBehind s t := by
    intro s hs hopen
    have hmem : ')' ∈ s ++ ')' :: l := by simp
    refine ⟨s.trimStart ++ ')' :: l.trimEnd, ?_, _, _, rfl, fun h => hopen (dropWhile_subset s h), tokens_trimStart s⟩
    rw [hlines s hs, wrapped.continuation, if_pos hmem, trim_append_cons (by decide), List.append_nil]
  -- By the lines before the parenthesis: each but the last one is joined without its blanks, and the joining goes on.
  induction u using lines_induction with
  | nil => exact hlast [] (by simp) hu
  | last s _ hs => exact hlast s hs hu
  | append line t hline ih =>
    rw [List.mem_append, not_or] at hu
    obtain ⟨s, hjoined, hs⟩ := ih hu.2
    have hopen : ')' ∉ bareLine line := fun h => hu.1 (bareLine_subset line h)
    refine ⟨(bareLine line).trim ++ ' ' :: s, ?_, ?_⟩
    · rw [List.append_assoc, bareLines_append_of_isWhole hline, wrapped.continuation, if_neg hopen, hjoined]
      rfl
    · obtain ⟨a, -, rfl⟩ := hline
      have htokens : tokens (bareLine (a ++ ['\n'])).trim = tokens a := by
        rw [tokens_trim, tokens_bareLine, tokens_append_of_blank (isBlank_iff.mp (by decide))]
      rw [List.append_assoc]
      exact hs.append (fun h => hopen (trim_subset _ h)) htokens (by decide)

theorem trimStart_of_isHead (hindent : ∀ c ∈ indent, isSpaceOrTab c = true) (hhead : IsHead d head) (s : Text) :
    (indent ++ (head ++ s)).trimStart = head ++ s := by
  obtain ⟨c, t, rfl, hc⟩ := hhead.exists_cons
  exact trimStart_eq_iff.mpr ⟨indent, rfl, fun c hc => isBlank_of_isSpaceOrTab (hindent c hc), avoids_cons.mpr hc⟩

theorem isDoc_of_isHead (hindent : ∀ c ∈ indent, isSpaceOrTab c = true) (hhead : IsHead d head) (s : Text) :
    LuaComment.isDoc (indent ++ (head ++ s)) = false := by
  refine LuaComment.isDoc_of_head? ?_
  have hhyphen : '-' ∉ head := hhead.not_mem (by decide)
  rw [trimStart_of_isHead hindent hhead]
  obtain ⟨c, t, rfl, -⟩ := hhead.exists_cons
  simpa using ne_of_mem_of_not_mem List.mem_cons_self hhyphen

/-- The lines of a definition are joined as far as its closing parenthesis, with the tokens before it. -/
theorem wrapped_bareLines (hindent : ∀ c ∈ indent, isSpaceOrTab c = true) (hhead : IsHead d head) (hu : ')' ∉ u)
    (after : Text) : ∃ first following s, bareLines (indent ++ (head ++ '(' :: (u ++ ')' :: after))) = first :: following ∧
      LuaComment.isDoc first = false ∧ wrapped first following = head ++ '(' :: s ∧ ClosesBehind u s := by
  have hfeed : '\n' ∉ indent ++ head := by
    have hindent : '\n' ∉ indent := fun h => absurd (hindent _ h) (by decide)
    simp [hindent, hhead.not_mem (c := '\n') (by decide)]
  have hparen : ')' ∉ head := hhead.not_mem (by decide)
  by_cases hmem : '\n' ∈ u
  · -- The first line ends between the parentheses, and the others continue it.
    obtain ⟨a, b, rfl, ha⟩ := List.eq_append_cons_of_mem hmem
    rw [List.mem_append, List.mem_cons, not_or, not_or] at hu
    obtain ⟨l, w, hl, hw, hline⟩ := bareLine_append_cons (c := '(') (by decide) (a ++ ['\n'])
    obtain ⟨s, hjoined, hs⟩ := continuation_bareLines hu.2.2 after
    have hopen : ')' ∉ l := fun h => by
      have hmem : ')' ∈ a ++ ['\n'] := hl ▸ List.mem_append_left w h
      simp [hu.1] at hmem
    have htokens : tokens l = tokens a := by
      rw [← tokens_append_of_blank hw, ← hl]
      exact tokens_append_of_blank (isBlank_iff.mp (by decide)) a
    have hwhole : IsWhole (indent ++ head ++ '(' :: (a ++ ['\n'])) :=
      ⟨indent ++ head ++ '(' :: a, by simpa [ha] using hfeed, by simp⟩
    have hcut : indent ++ (head ++ '(' :: (a ++ '\n' :: b ++ ')' :: after)) =
        indent ++ head ++ '(' :: (a ++ ['\n']) ++ (b ++ ')' :: after) := by simp
    refine ⟨indent ++ (head ++ '(' :: l), bareLines (b ++ ')' :: after), l ++ ' ' :: s, ?_,
      isDoc_of_isHead hindent hhead _, ?_, hs.append hopen htokens (by decide)⟩
    · rw [hcut, bareLines_append_of_isWhole hwhole, hline, List.append_assoc]
    · rw [wrapped, trimStart_of_isHead hindent hhead, if_pos (by simp [hparen, hopen]), hjoined]
      simp
  · obtain ⟨l, hlines⟩ := bareLines_append_cons (c := ')') (by decide) after
    have hcut : ∀ t, indent ++ (head ++ '(' :: (u ++ ')' :: t)) = indent ++ head ++ '(' :: u ++ ')' :: t := by simp
    refine ⟨indent ++ (head ++ '(' :: (u ++ ')' :: l)), (bareLines (')' :: after)).tail, u ++ ')' :: l, ?_,
      isDoc_of_isHead hindent hhead _, ?_, u, l, rfl, hu, rfl⟩
    · rw [hcut, hlines _ (by simpa [hmem] using hfeed), ← hcut]
    · rw [wrapped, trimStart_of_isHead hindent hhead, if_neg (by simp)]

end LuaDefinition

/-! ### Scanning -/

namespace LuaComment

variable {v : Text} {ls rest : List Text}

theorem scan_of_not_isDoc (h : ∀ l ∈ ls, isDoc l = false) (n : Nat) (rest : List Text) :
    scan n [] (ls ++ rest) = scan (n + ls.length) [] rest := by
  induction ls generalizing n with
  | nil => rfl
  | cons l ls ih =>
    obtain ⟨hl, hls⟩ := List.forall_mem_cons.mp h
    have hnumber : n + 1 + ls.length = n + (ls.length + 1) := by omega
    rw [List.cons_append, scan_cons_of_not_isDoc hl, if_pos rfl, List.nil_append, ih hls, List.length_cons, hnumber]

/-- The comments of lines that are further down are further down, too. -/
theorem scan_down (n k : Nat) (begun : List DocLine) (ls : List Text) :
    scan (n + k) begun ls = (scan n begun ls).map (·.down k) := by
  induction ls generalizing n begun with
  | nil =>
    rw [scan, scan]
    split <;> rfl
  | cons l ls ih =>
    have hnumber : n + k + 1 = n + 1 + k := by omega
    by_cases hl : isDoc l = true
    · obtain ⟨s, hs, -⟩ := docLine?_of_isDoc hl
      rw [scan_cons_of_isDoc hs, scan_cons_of_isDoc hs, hnumber, ih]
    · have hl := Bool.not_eq_true _ ▸ hl
      rw [scan_cons_of_not_isDoc hl, scan_cons_of_not_isDoc hl, hnumber, ih, List.map_append]
      split <;> rfl

theorem filterMap_scan_down (n k : Nat) (begun : List DocLine) (ls : List Text) :
    (scan (n + k) begun ls).filterMap function? = ((scan n begun ls).filterMap function?).map (·.down k) := by
  rw [scan_down, List.filterMap_map, List.map_filterMap]
  exact List.filterMap_congr fun c _ => function?_down c

/-- Without a hyphen before the parenthesis no line up to it belongs to documentation. -/
theorem exists_lines_of_not_mem (hv : '-' ∉ v) (after : Text) : ∃ ls : List Text,
    bareLines (v ++ ')' :: after) = ls ++ (bareLines (')' :: after)).tail ∧ ls.length = v.count '\n' + 1 ∧
      ∀ l ∈ ls, isDoc l = false := by
  obtain ⟨l, hlines⟩ := bareLines_append_cons (c := ')') (by decide) after
  have hlast : ∀ s : Text, '\n' ∉ s → '-' ∉ s → ∃ ls : List Text,
      bareLines (s ++ ')' :: after) = ls ++ (bareLines (')' :: after)).tail ∧ ls.length = s.count '\n' + 1 ∧
        ∀ l ∈ ls, isDoc l = false := by
    intro s hs hhyphen
    refine ⟨[s ++ ')' :: l], hlines s hs, by simp [List.count_eq_zero.mpr hs], fun line hline => isDoc_of_head? ?_⟩
    rw [List.mem_singleton.mp hline, trimStart_append_cons (by decide), List.head?_append]
    cases hhead : s.trimStart.head? with
    | none => simp
    | some c => simpa using ne_of_mem_of_not_mem (dropWhile_subset s (List.mem_of_mem_head? hhead)) hhyphen
  induction v using lines_induction with
  | nil => exact hlast [] (by simp) hv
  | last s _ hs => exact hlast s hs hv
  | append line t hline ih =>
    rw [List.mem_append, not_or] at hv
    obtain ⟨ls, hls, hlength, hdoc⟩ := ih hv.2
    refine ⟨bareLine line :: ls, ?_, ?_, List.forall_mem_cons.mpr ⟨isDoc_of_head? fun hhead => ?_, hdoc⟩⟩
    · rw [List.append_assoc, bareLines_append_of_isWhole hline, hls, List.cons_append]
    · obtain ⟨s, hs, rfl⟩ := hline
      simp [hlength, List.count_eq_zero.mpr hs, Nat.add_comm]
    · exact hv.1 (bareLine_subset line (dropWhile_subset _ (List.mem_of_mem_head? hhead)))

end LuaComment

namespace LuaSource
open LuaComment

variable {as bs : List Text} {line : Text}

/-- The functions of some lines have the numbers of these lines. -/
theorem line_of_mem_filterMap {lines : List Text} {m n : Nat} {f : FunctionDoc}
    (h : f ∈ (List.range' m n).filterMap fun i => (commentAt lines i).bind function?) : m < f.line ∧ f.line ≤ m + n := by
  obtain ⟨i, hi, hf⟩ := List.mem_filterMap.mp h
  have hrange := List.mem_range'_1.mp hi
  have hline := line_of_commentAt hf
  omega

/-- The functions of a source are those before a line, the one that is defined on it, and those of the lines below,
    which are found as if nothing stood before them if the line is no documentation. -/
theorem functions_append_cons (hdoc : isDoc line = false) (as bs : List Text) : ∃ early late : List FunctionDoc,
    (ofLines (as ++ line :: bs)).functions =
      early ++ (((commentAt (as ++ line :: bs) as.length).bind function?).toList ++ late) ∧
    (∀ f ∈ early, f.line ≤ as.length) ∧ (∀ f ∈ late, as.length + 1 < f.line) ∧
      late = (scan (as.length + 2) [] bs).filterMap function? := by
  have hlate := filterMap_scan (as ++ [line]) bs
  rw [List.rtakeWhile_concat_neg _ _ _ (by simp [hdoc]), List.length_append, List.length_singleton, List.append_assoc,
    List.singleton_append] at hlate
  have hrange : List.range' 0 (as.length + (bs.length + 1)) =
      List.range' 0 as.length ++ as.length :: List.range' (as.length + 1) bs.length := by
    rw [← List.range'_append_1, Nat.zero_add, List.range'_succ]
  refine ⟨(List.range' 0 as.length).filterMap fun i => (commentAt (as ++ line :: bs) i).bind function?, _, ?_,
    fun f hf => ?_, fun f hf => ?_, hlate.symm⟩
  · rw [functions_ofLines, List.range_eq_range', List.length_append, List.length_cons, hrange, List.filterMap_append,
      List.filterMap_cons]
    cases (commentAt (as ++ line :: bs) as.length).bind function? <;> rfl
  · have := (line_of_mem_filterMap hf).2
    omega
  · have := (line_of_mem_filterMap hf).1
    omega

theorem filter_functions (hdoc : isDoc line = false) (as bs : List Text) :
    (ofLines (as ++ line :: bs)).functions.filter (·.line = as.length + 1) =
      ((commentAt (as ++ line :: bs) as.length).bind function?).toList ∧
    (ofLines (as ++ line :: bs)).functions.filter (as.length + 1 < ·.line) =
      (scan (as.length + 2) [] bs).filterMap function? := by
  obtain ⟨early, late, hfunctions, hearly, hlate, rfl⟩ := functions_append_cons hdoc as bs
  have hhere : ∀ f ∈ ((commentAt (as ++ line :: bs) as.length).bind function?).toList, f.line = as.length + 1 :=
    fun f hf => line_of_commentAt (Option.mem_toList.mp hf)
  have hnone : ∀ {p : FunctionDoc → Bool} {fs : List FunctionDoc}, (∀ f ∈ fs, p f = false) → fs.filter p = [] := fun h =>
    List.filter_eq_nil_iff.mpr fun f hf => by simp [h f hf]
  have hall : ∀ {p : FunctionDoc → Bool} {fs : List FunctionDoc}, (∀ f ∈ fs, p f = true) → fs.filter p = fs :=
    List.filter_eq_self.mpr
  rw [hfunctions, List.filter_append, List.filter_append, List.filter_append, List.filter_append]
  constructor
  · rw [hnone fun f hf => decide_eq_false (Nat.ne_of_lt (Nat.lt_succ_of_le (hearly f hf))),
      hall fun f hf => decide_eq_true (hhere f hf), hnone fun f hf => decide_eq_false (Nat.ne_of_gt (hlate f hf)),
      List.nil_append, List.append_nil]
  · rw [hnone fun f hf => decide_eq_false (Nat.not_lt_of_le (Nat.le_succ_of_le (hearly f hf))),
      hnone fun f hf => decide_eq_false (Nat.not_lt_of_le (Nat.le_of_eq (hhere f hf))),
      hall fun f hf => decide_eq_true (hlate f hf), List.nil_append, List.nil_append]

end LuaSource

/-! ### Signatures -/

/-- A definition but for what its parentheses enclose: the source before it, how it is indented, the head of the
    definition, and the source behind its closing parenthesis. -/
structure Signature where
  before : Text
  indent : Text
  head : Text
  after : Text

namespace Signature
open LuaComment LuaDefinition

variable {p : Signature} {d : LuaDefinition}

/-- The source with a text between the parentheses. -/
def toText (p : Signature) (inner : Text) : Text :=
  p.before ++ (p.indent ++ (p.head ++ '(' :: (inner ++ ')' :: p.after)))

/-- The number of the line where the definition begins. -/
def line (p : Signature) : Nat := p.before.bareLines.length + 1

/-- The documentation right before the definition. -/
def run (p : Signature) : List Text := p.before.bareLines.rtakeWhile isDoc

structure IsOf (p : Signature) (d : LuaDefinition) : Prop where
  ends : p.before.getLast? = some '\n'
  documented : p.run ≠ []
  indent : ∀ c ∈ p.indent, isSpaceOrTab c = true
  head : IsHead d p.head

/-- The function with the documentation of the signature, if that does not hide it. -/
def function? (p : Signature) (d : LuaDefinition) : Option FunctionDoc :=
  DocBlock.document? (block p.run) { d.function with line := p.line }

theorem bareLines_toText (h : p.IsOf d) (u : Text) : bareLines (p.toText u) =
    p.before.bareLines ++ bareLines (p.indent ++ (p.head ++ '(' :: (u ++ ')' :: p.after))) := by
  rw [toText, bareLines, lines_append (.inr h.ends), List.map_append, bareLines, bareLines]

/-- Only the tokens before the first closing parenthesis matter for the function. -/
theorem functions_at_line (h : p.IsOf d) (hu : ')' ∉ u) : ∃ inner, tokens inner = tokens u ∧
    (LuaSource.ofText (p.toText u)).functions.filter (·.line = p.line) =
      (p.function? { d with args := argNames inner }).toList := by
  obtain ⟨first, following, s, hlines, hdoc, hjoined, inner, rest, rfl, hinner, htokens⟩ :=
    wrapped_bareLines h.indent h.head hu p.after
  refine ⟨inner, htokens, ?_⟩
  have hline : (p.before.bareLines ++ first :: following)[p.before.bareLines.length]? = some first := by simp
  have hrun : runBefore (p.before.bareLines ++ first :: following) p.before.bareLines.length = p.run := by
    simp [runBefore, run]
  have hfollowing : (p.before.bareLines ++ first :: following).drop (p.before.bareLines.length + 1) = following := by simp
  have hfilter := (LuaSource.filter_functions hdoc p.before.bareLines following).1
  rw [commentAt_eq hline, hrun, if_pos ⟨hdoc, h.documented⟩, hfollowing, hjoined, ← hlines, ← bareLines_toText h] at hfilter
  refine hfilter.trans (congrArg Option.toList ?_)
  show (ofText? (p.head ++ '(' :: (inner ++ ')' :: rest))).bind _ = _
  rw [ofText?_of_isHead h.head hinner]
  rfl

/-- The functions below the definition are found from behind its closing parenthesis on. -/
theorem functions_below_line (h : p.IsOf d) (hu : '-' ∉ u) :
    (LuaSource.ofText (p.toText u)).functions.filter (p.line < ·.line) =
      ((scan (p.line + 1) [] (bareLines (')' :: p.after)).tail).filterMap LuaComment.function?).map (·.down (u.count '\n')) := by
  have hindent : ∀ {c : Char}, isSpaceOrTab c = false → c ∉ p.indent := by
    intro c hc hmem
    rw [h.indent c hmem] at hc
    cases hc
  have hhyphen : '-' ∉ p.indent ++ (p.head ++ '(' :: u) := by
    simp [hindent (c := '-') (by decide), h.head.not_mem (c := '-') (by decide), hu]
  have hcount : (p.indent ++ (p.head ++ '(' :: u)).count '\n' = u.count '\n' := by
    simp [List.count_eq_zero.mpr (hindent (c := '\n') (by decide)),
      List.count_eq_zero.mpr (h.head.not_mem (c := '\n') (by decide))]
  obtain ⟨ls, hlines, hlength, hdoc⟩ := exists_lines_of_not_mem hhyphen p.after
  -- Those behind the first line have been joined to it, and the scan passes over them.
  obtain ⟨first, joined, rfl⟩ := List.exists_cons_of_length_eq_add_one hlength
  obtain ⟨hfirst, hjoined⟩ := List.forall_mem_cons.mp hdoc
  have hcut : p.indent ++ (p.head ++ '(' :: u) ++ ')' :: p.after = p.indent ++ (p.head ++ '(' :: (u ++ ')' :: p.after)) := by
    simp
  rw [hcut] at hlines
  have hfilter := (LuaSource.filter_functions hfirst p.before.bareLines (joined ++ (bareLines (')' :: p.after)).tail)).2
  rw [← List.cons_append, ← hlines, ← bareLines_toText h, scan_of_not_isDoc hjoined, filterMap_scan_down] at hfilter
  have hnumber : joined.length = u.count '\n' := by
    rw [hcount, List.length_cons] at hlength
    omega
  rw [← hnumber]
  exact hfilter

/-- However the parameters are laid out, the function is the same. -/
theorem functions_at_line_of_isListing (h : p.IsOf d) (hparams : ∀ arg ∈ d.args, IsParam arg) (hinner : IsListing d.args inner) :
    (LuaSource.ofText (p.toText inner)).functions.filter (·.line = p.line) = (p.function? d).toList := by
  have hitems : ∀ arg ∈ d.args, IsItem arg := fun arg harg => (hparams arg harg).isItem
  obtain ⟨u, htokens, hfunctions⟩ := functions_at_line h (hinner.not_mem hparams (c := ')') (by decide))
  have hargs : argNames u = d.args :=
    argNames_of_isListing (isListing_of_tokens hitems (htokens.trans (hinner.tokens_eq hitems))) hitems
  rw [hfunctions, hargs]

/-- A signature over any number of lines documents the function that it documents on one line, and the functions
    below it are those below the one line, moved down by the lines that were added. -/
theorem functions_of_isListing (h : p.IsOf d) (hparams : ∀ arg ∈ d.args, IsParam arg) (hinner : IsListing d.args inner) :
    let oneLine := LuaSource.ofText (p.toText (join ", " d.args))
    let wrapped := LuaSource.ofText (p.toText inner)
    wrapped.functions.filter (·.line = p.line) = (p.function? d).toList ∧
    oneLine.functions.filter (·.line = p.line) = (p.function? d).toList ∧
    wrapped.functions.filter (p.line < ·.line) =
      (oneLine.functions.filter (p.line < ·.line)).map (·.down (inner.count '\n')) := by
  have hone : (join ", " d.args).count '\n' = 0 := by
    refine List.count_eq_zero.mpr fun hmem => ?_
    rcases mem_of_mem_join hmem with hmem | ⟨arg, harg, hmem⟩
    · exact absurd hmem (by decide)
    · exact absurd ((hparams arg harg).char _ hmem) (by decide)
  have hlisting := isListing_join d.args
  intro oneLine wrapped
  refine ⟨functions_at_line_of_isListing h hparams hinner, functions_at_line_of_isListing h hparams hlisting, ?_⟩
  rw [functions_below_line h (hinner.not_mem hparams (by decide)), functions_below_line h (hlisting.not_mem hparams (by decide)),
    hone]
  simp [FunctionDoc.down]

/-- A method over five lines that end with a carriage return, one of them empty, and a function below it. -/
theorem functions_of_isListing_of_method :
    let p : Signature := ⟨"--- Adds.\n---@param b integer The second.\n", "  ", "function M:add ",
      "\nend\n\n--- More.\nfunction M.more() end\n"⟩
    let d : LuaDefinition := ⟨"add", some "M".toList, true, ["a", "b", "..."]⟩
    let inner : Text := "\r\n  a,\r\n\r\n  b\t, ...\r\n"
    let wrapped := LuaSource.ofText (p.toText inner)
    let oneLine := LuaSource.ofText (p.toText (join ", " d.args))
    p.IsOf d ∧ (∀ arg ∈ d.args, IsParam arg) ∧ IsListing d.args inner ∧
      wrapped.functions.filter (·.line = p.line) = oneLine.functions.filter (·.line = p.line) ∧
      wrapped.functions.filter (p.line < ·.line) = (oneLine.functions.filter (p.line < ·.line)).map (·.down 4) ∧
      wrapped.functions.map (·.line) = [3, 11] ∧ oneLine.functions.map (·.line) = [3, 7] ∧
      wrapped.functions.flatMap (·.params) = [⟨"a", "any", []⟩, ⟨"b", "integer", "The second."⟩, ⟨"...", "any", []⟩] := by
  intro p d inner wrapped oneLine
  have hof : p.IsOf d := by
    refine ⟨rfl, by decide +kernel, List.all_eq_true.mp (by decide), ?_⟩
    have htarget : IsTarget (some "M".toList) true "add".toList "M:add".toList :=
      .method ⟨⟨'M', rfl, by decide⟩, List.all_eq_true.mp (by decide)⟩ (by decide)
    have hhead : IsHead d ("function".toList ++ (" ".toList ++ ("M:add".toList ++ " ".toList))) :=
      .function (by decide) htarget (List.all_eq_true.mp (by decide))
    exact hhead
  have hparams : ∀ arg ∈ d.args, IsParam arg := by decide
  have hlisting : IsListing d.args inner :=
    isListing_of_tokens (fun arg harg => (hparams arg harg).isItem) (by decide +kernel)
  obtain ⟨hwrapped, hone, hbelow⟩ := functions_of_isListing hof hparams hlisting
  exact ⟨hof, hparams, hlisting, hwrapped.trans hone.symm, hbelow, by decide +kernel, by decide +kernel, by decide +kernel⟩

end Signature
end PluginManual
