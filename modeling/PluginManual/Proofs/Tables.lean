import Mathlib.Data.List.Forall2
import PluginManual.Proofs.Rendering

/-! Tables that are read back. The lines of a table are of one length, and the bars of a line that no backslash stands
    before part it into its cells. The text of a cell is found in it if its bars were escaped; of the name of a
    parameter or a field they are not, so it is found only if it has none. -/

namespace PluginManual
open Text

namespace Table

variable {s t u x : Text} {e : Bool} {w : Nat} {ws : List Nat} {row header : List Text} {rows : List (List Text)}

/-! ### Reading a line -/

/-- The pieces between the bars that no backslash stands right before. One stands before the text if `escaped`. -/
def splitBars (escaped : Bool) : Text → List Text
  | [] => [[]]
  | c :: s =>
    if c = '|' ∧ ¬ escaped then [] :: splitBars false s else (splitBars (c = '\\') s).modifyHead (c :: ·)

/-- The text without the backslashes that stand right before bars. -/
def unescape : Text → Text
  | '\\' :: '|' :: s => '|' :: unescape s
  | c :: s => c :: unescape s
  | [] => []

/-- The cells of a line: what stands between its first bar and its last one. -/
def cells (line : Text) : List Text := ((splitBars false line).tail.dropLast).map fun piece => unescape piece.trim

theorem splitBars_cons_of_ne {c : Char} (hc : c ≠ '|') (e : Bool) (s : Text) :
    splitBars e (c :: s) = (splitBars (c = '\\') s).modifyHead (c :: ·) := if_neg fun h => hc h.1

theorem splitBars_ne_nil (e : Bool) (s : Text) : splitBars e s ≠ [] := by
  induction s generalizing e with
  | nil => exact List.cons_ne_nil _ _
  | cons c s ih =>
    rw [splitBars]
    split
    · exact List.cons_ne_nil _ _
    · simpa using ih (c = '\\')

theorem length_splitBars_cons : (splitBars e (c :: s)).length =
    if c = '|' ∧ ¬ e then (splitBars false s).length + 1 else (splitBars (c = '\\') s).length := by
  rw [splitBars]
  split <;> simp

theorem splitBars_of_length (h : (splitBars e s).length = 1) : splitBars e s = [s] := by
  induction s generalizing e with
  | nil => rfl
  | cons c s ih =>
    rw [length_splitBars_cons] at h
    rw [splitBars]
    split at h
    · exact absurd (List.length_eq_zero_iff.mp (by omega)) (splitBars_ne_nil false s)
    · next hc => rw [if_neg hc, ih h, List.modifyHead_cons]

/-- A bar behind a space parts what comes before it from what comes after it. -/
theorem splitBars_append (e : Bool) (u t : Text) :
    splitBars e (u ++ ' ' :: '|' :: t) = splitBars e (u ++ [' ']) ++ splitBars false t := by
  induction u generalizing e with
  | nil => rfl
  | cons c u ih =>
    rw [List.cons_append, List.cons_append, splitBars, splitBars]
    split
    · rw [ih, List.cons_append]
    · rw [ih]
      cases hpieces : splitBars (c = '\\') (u ++ [' ']) with
      | nil => exact absurd hpieces (splitBars_ne_nil _ _)
      | cons piece pieces => rfl

theorem length_splitBars_spaces (e : Bool) (s : Text) (n : Nat) :
    (splitBars e (s ++ spaces n)).length = (splitBars e s).length := by
  induction s generalizing e with
  | nil =>
    rw [List.nil_append]
    induction n generalizing e with
    | zero => rfl
    | succ n ih =>
      rw [spaces, List.replicate_succ, splitBars_cons_of_ne (by decide), List.length_modifyHead]
      exact ih _
  | cons c s ih => rw [List.cons_append, length_splitBars_cons, length_splitBars_cons, ih, ih]

/-! ### Cells -/

theorem escape_cons (c : Char) (s : Text) : escape (c :: s) = (if c = '|' then ['\\', '|'] else [c]) ++ escape s := rfl

theorem escape_of_notMem (h : '|' ∉ s) : escape s = s := by
  induction s with
  | nil => rfl
  | cons c s ih =>
    rw [List.mem_cons, not_or] at h
    rw [escape_cons, if_neg (Ne.symm h.1), ih h.2, List.singleton_append]

theorem escape_append (s t : Text) : escape (s ++ t) = escape s ++ escape t := List.flatMap_append

theorem length_splitBars_escape (e : Bool) (s : Text) : (splitBars e (escape s)).length = 1 := by
  induction s generalizing e with
  | nil => rfl
  | cons c s ih =>
    rw [escape_cons]
    split
    · -- The backslash takes the bar.
      rw [List.cons_append, List.singleton_append, length_splitBars_cons, if_neg (by simp), length_splitBars_cons,
        if_neg (by simp), ih]
    · next hc => rw [List.singleton_append, length_splitBars_cons, if_neg fun h => hc h.1, ih]

theorem unescape_cons {c : Char} (h : c = '\\' → s.head? ≠ some '|') : unescape (c :: s) = c :: unescape s := by
  rw [unescape]
  rintro s' rfl rfl
  exact h rfl rfl

theorem head?_escape (s : Text) : (escape s).head? ≠ some '|' := by
  cases s with
  | nil => simp [escape, replaceChar]
  | cons c s =>
    rw [escape_cons]
    split
    · simp
    · next hc => simpa using hc

theorem unescape_escape (s : Text) : unescape (escape s) = s := by
  induction s with
  | nil => rfl
  | cons c s ih =>
    rw [escape_cons]
    split
    · next hc =>
      subst hc
      show '|' :: unescape (escape s) = _
      rw [ih]
    · rw [List.singleton_append, unescape_cons fun _ => head?_escape s, ih]

theorem length_unescape_le (s : Text) : (unescape s).length ≤ s.length := by
  induction s using unescape.induct with
  | case1 s ih =>
    rw [unescape, List.length_cons, List.length_cons, List.length_cons]
    omega
  | case2 c s h ih =>
    rw [unescape, List.length_cons, List.length_cons]
    · omega
    · exact h
  | case3 => exact Nat.le_refl 0

/-- A text with bars is parted by one of them, or loses the backslash before one of them. -/
theorem notMem_of_unescape (hpieces : (splitBars e s).length = 1) (hsame : unescape s = s)
    (hfirst : e = true → s.head? ≠ some '|') : '|' ∉ s := by
  induction s using unescape.induct generalizing e with
  | case1 s ih =>
    have hlength := congrArg List.length hsame
    have hle := length_unescape_le s
    rw [unescape, List.length_cons, List.length_cons, List.length_cons] at hlength
    omega
  | case2 c s h ih =>
    have hhead : c = '\\' → s.head? ≠ some '|' := by
      rintro rfl hhead
      obtain ⟨s', rfl⟩ := List.head?_eq_some_iff.mp hhead
      exact h s' rfl rfl
    rw [unescape_cons hhead] at hsame
    rw [length_splitBars_cons] at hpieces
    by_cases hc : c = '|'
    · subst hc
      cases e with
      | true => exact absurd rfl (hfirst rfl)
      | false =>
        rw [if_pos (by simp)] at hpieces
        exact absurd (List.length_eq_zero_iff.mp (by omega)) (splitBars_ne_nil false s)
    · rw [if_neg fun h => hc h.1] at hpieces
      have hmem := ih hpieces (List.cons.inj hsame).2 fun he => hhead (of_decide_eq_true he)
      simp [Ne.symm hc, hmem]
  | case3 => exact List.not_mem_nil

theorem avoids_escape (h : Avoids isBlank s) : Avoids isBlank (escape s) := by
  cases s with
  | nil => exact h
  | cons c s =>
    rw [escape_cons]
    split
    · exact avoids_cons.mpr (by decide)
    · exact avoids_cons.mpr (avoids_cons.mp h)

theorem avoidsLast_escape (h : AvoidsLast isBlank s) : AvoidsLast isBlank (escape s) := by
  obtain rfl | ⟨s, c, rfl⟩ := List.eq_nil_or_concat s
  · exact h
  · rw [List.concat_eq_append] at h ⊢
    have hc : isBlank c = false := h c (by simp)
    rw [escape_append, escape_cons]
    intro d hd
    split at hd
    · obtain rfl : '|' = d := by simpa [escape, replaceChar] using hd
      decide
    · obtain rfl : c = d := by simpa [escape, replaceChar] using hd
      exact hc

theorem trim_escape (s : Text) : (escape s).trim = escape s.trim := by
  have hblank : ∀ {w : Text}, (∀ c ∈ w, isBlank c = true) → escape w = w := fun hw =>
    escape_of_notMem fun hmem => absurd (hw _ hmem) (by decide)
  obtain ⟨a, ha, hablank, hfirst⟩ := trimStart_eq_iff.mp (rfl : s.trimStart = _)
  obtain ⟨b, hb, hbblank, hlast⟩ := dropEndWhile_eq_iff.mp (rfl : s.trim = _)
  have hcut : escape s = a ++ (escape s.trim ++ b) := by
    conv_lhs => rw [ha, hb]
    rw [escape_append, escape_append, hblank hablank, hblank hbblank]
  rw [hcut, trim_blank_append hablank, trim_append_blank hbblank]
  rw [hb] at hfirst
  exact trim_of_avoids (avoids_escape hfirst.left) (avoidsLast_escape hlast)

/-! ### Lines -/

/-- The cells that one cell of a row is read as: with bars in its text there may be several. -/
def cellsOf (cell : Text) : List Text := (splitBars false (' ' :: cell ++ [' '])).map fun piece => unescape piece.trim

/-- Bars frame the cells of a line, with blanks beside them. -/
theorem line_eq (h : row ≠ []) (hlength : ws.length = row.length) :
    line ws row = '|' :: ((List.zipWith padEnd ws row).flatMap (fun cell => ' ' :: cell ++ [' ', '|']) ++ ['\n']) := by
  have hne : List.zipWith padEnd ws row ≠ [] := by
    intro hnil
    have hzip := congrArg List.length hnil
    rw [List.length_zipWith, hlength, Nat.min_self] at hzip
    exact h (List.length_eq_zero_iff.mp hzip)
  have hjoin : ∀ padded : List Text, padded ≠ [] → ' ' :: join " | " padded ++ [' ', '|'] =
      padded.flatMap fun cell => ' ' :: cell ++ [' ', '|'] := by
    intro padded hpadded
    induction padded with
    | nil => exact absurd rfl hpadded
    | cons cell padded ih =>
      cases padded with
      | nil => simp [join]
      | cons next padded =>
        rw [List.flatMap_cons, ← ih (List.cons_ne_nil _ _), join_cons_cons]
        simp
  rw [← hjoin _ hne, line]
  simp

theorem splitBars_flatMap (padded : List Text) (t : Text) :
    splitBars false (padded.flatMap (fun cell => ' ' :: cell ++ [' ', '|']) ++ t) =
      (padded.flatMap fun cell => splitBars false (' ' :: cell ++ [' '])) ++ splitBars false t := by
  induction padded with
  | nil => rfl
  | cons cell padded ih =>
    have hcut := splitBars_append false (' ' :: cell) (padded.flatMap (fun cell => ' ' :: cell ++ [' ', '|']) ++ t)
    rw [ih, ← List.append_assoc] at hcut
    rw [List.flatMap_cons, List.flatMap_cons, List.append_assoc (' ' :: cell ++ [' ', '|']), List.append_assoc (' ' :: cell)]
    exact hcut

theorem cells_line (h : row ≠ []) (hlength : ws.length = row.length) :
    cells (line ws row) = (List.zipWith padEnd ws row).flatMap cellsOf := by
  rw [line_eq h hlength, cells, splitBars, if_pos (by simp), List.tail_cons, splitBars_flatMap]
  have hend : splitBars false ['\n'] = [['\n']] := rfl
  rw [hend, List.dropLast_concat, List.map_flatMap]
  rfl

theorem length_splitBars_padEnd (w : Nat) (x : Text) :
    (splitBars false (' ' :: padEnd w x ++ [' '])).length = (splitBars false x).length := by
  have hspaces : padEnd w x ++ [' '] = x ++ spaces (w - x.length + 1) := by
    rw [padEnd, List.append_assoc, spaces, spaces, List.replicate_succ']
  rw [List.cons_append, hspaces, length_splitBars_cons, if_neg (by decide)]
  exact length_splitBars_spaces false x _

theorem isBlank_of_mem_spaces (n : Nat) : ∀ c ∈ spaces n, isBlank c = true := by
  intro c hc
  rw [List.eq_of_mem_replicate hc]
  rfl

theorem cellsOf_of_length (h : (splitBars false x).length = 1) (w : Nat) : cellsOf (padEnd w x) = [unescape x.trim] := by
  have hspace : ∀ c ∈ [' '], isBlank c = true := isBlank_of_mem_spaces 1
  have htrim : trim (' ' :: padEnd w x ++ [' ']) = x.trim := by
    rw [trim_append_blank hspace, ← List.singleton_append, trim_blank_append hspace, padEnd,
      trim_append_blank (isBlank_of_mem_spaces _)]
  rw [cellsOf, splitBars_of_length ((length_splitBars_padEnd w x).trans h), List.map_singleton, htrim]

theorem cellsOf_escape (w : Nat) (s : Text) : cellsOf (padEnd w (escape s)) = [s.trim] := by
  rw [cellsOf_of_length (length_splitBars_escape false s), trim_escape, unescape_escape]

/-- A text that is not escaped is found in its cell if it has no bar. -/
theorem cellsOf_eq_iff (htrim : x.trim = x) (w : Nat) : cellsOf (padEnd w x) = [x] ↔ '|' ∉ x := by
  constructor
  · intro h
    have hpieces : (splitBars false x).length = 1 := by
      have hlength := congrArg List.length h
      rwa [cellsOf, List.length_map, length_splitBars_padEnd] at hlength
    rw [cellsOf_of_length hpieces, htrim] at h
    exact notMem_of_unescape hpieces (List.singleton_inj.mp h) (by simp)
  · intro h
    have hcell := cellsOf_escape w x
    rwa [escape_of_notMem h, htrim] at hcell

/-- Of a line whose first text alone is not escaped, all other texts are read back. -/
theorem cells_line_cons (hlength : ws.length = row.length) (w : Nat) (x : Text) :
    cells (line (w :: ws) (x :: row.map escape)) = cellsOf (padEnd w x) ++ row.map trim := by
  rw [cells_line (List.cons_ne_nil _ _) (by simp [hlength]), List.zipWith_cons_cons, List.flatMap_cons]
  congr 1
  induction row generalizing ws with
  | nil => simp
  | cons s row ih =>
    cases ws with
    | nil => cases hlength
    | cons v ws =>
      rw [List.map_cons, List.zipWith_cons_cons, List.flatMap_cons, cellsOf_escape, ih (Nat.succ.inj hlength)]
      rfl

/-! ### Widths -/

/-- Each cell of the row has room in its column. -/
def Fits (ws : List Nat) (row : List Text) : Prop := List.Forall₂ (fun w (cell : Text) => cell.length ≤ w) ws row

theorem fits_map_length (row : List Text) : Fits (row.map List.length) row :=
  List.forall₂_map_left_iff.mpr (List.forall₂_same.mpr fun _ _ => Nat.le_refl _)

theorem fits_widen (h : ws.length = row.length) : Fits (widen ws row) row := by
  induction row generalizing ws with
  | nil => rw [widen, List.zipWith_nil_right, Fits, List.forall₂_nil_right_iff]
  | cons cell row ih =>
    cases ws with
    | nil => cases h
    | cons w ws => exact .cons (Nat.le_max_right _ _) (ih (Nat.succ.inj h))

theorem Fits.widen {other : List Text} (h : Fits ws row) (hlength : other.length = ws.length) : Fits (widen ws other) row := by
  induction h generalizing other with
  | nil => exact .nil
  | cons hcell _ ih =>
    cases other with
    | nil => cases hlength
    | cons cell other => exact .cons (hcell.trans (Nat.le_max_left _ _)) (ih (Nat.succ.inj hlength))

theorem length_widen (h : row.length = ws.length) : (widen ws row).length = ws.length := by
  rw [widen, List.length_zipWith, h, Nat.min_self]

theorem Fits.foldl_widen (h : Fits ws row) (hrows : ∀ r ∈ rows, r.length = ws.length) : Fits (rows.foldl Table.widen ws) row := by
  induction rows generalizing ws with
  | nil => exact h
  | cons r rows ih =>
    have hr := hrows r List.mem_cons_self
    exact ih (h.widen hr) fun r' hr' => (hrows r' (List.mem_cons_of_mem r hr')).trans (length_widen hr).symm

theorem fits_foldl_widen (hrows : ∀ r ∈ rows, r.length = ws.length) : ∀ r ∈ rows, Fits (rows.foldl widen ws) r := by
  induction rows generalizing ws with
  | nil => simp
  | cons r rows ih =>
    have hr := hrows r List.mem_cons_self
    have hrest : ∀ r' ∈ rows, r'.length = (widen ws r).length := fun r' hr' =>
      (hrows r' (List.mem_cons_of_mem r hr')).trans (length_widen hr).symm
    exact List.forall_mem_cons.mpr ⟨(fits_widen hr.symm).foldl_widen hrest, ih hrest⟩

/-- The header and all rows have room in the columns. -/
theorem fits_widths (h : ∀ row ∈ rows, row.length = header.length) : ∀ row ∈ header :: rows, Fits (widths header rows) row := by
  have hrows : ∀ row ∈ rows, row.length = (header.map List.length).length := fun row hrow => by
    rw [h row hrow, List.length_map]
  exact List.forall_mem_cons.mpr ⟨(fits_map_length header).foldl_widen hrows, fits_foldl_widen hrows⟩

theorem length_widths (h : ∀ row ∈ rows, row.length = header.length) : (widths header rows).length = header.length :=
  (fits_widths h header List.mem_cons_self).length_eq

theorem Fits.map_length_padEnd (h : Fits ws row) : (List.zipWith padEnd ws row).map List.length = ws := by
  induction h with
  | nil => rfl
  | cons hcell _ ih => rw [List.zipWith_cons_cons, List.map_cons, ih, length_padEnd, Nat.max_eq_left hcell]

/-- The length of a line goes by the widths of the columns alone. -/
theorem length_line_eq {row' : List Text} (hne : ws ≠ []) (h : Fits ws row) (h' : Fits ws row') :
    (line ws row).length = (line ws row').length := by
  have hlength : ∀ {r : List Text}, Fits ws r → (line ws r).length = (ws.map (· + 3)).sum + 2 := by
    intro r hr
    have hrne : r ≠ [] := List.ne_nil_of_length_pos (hr.length_eq ▸ List.length_pos_of_ne_nil hne)
    have hsum : ((List.zipWith padEnd ws r).map fun cell => (' ' :: cell ++ [' ', '|']).length) = ws.map (· + 3) := by
      conv_rhs => rw [← hr.map_length_padEnd, List.map_map]
      exact List.map_congr_left fun cell _ => by simp
    rw [line_eq hrne hr.length_eq, List.length_cons, List.length_append, List.length_flatMap, hsum]
    rfl
  rw [hlength h, hlength h']

/-! ### Tables -/

/-- A header line, a rule and the lines of a body, all of one length. -/
inductive IsTable (header body : List Text) : List Text → Prop where
  | intro {first rule : Text} (hheader : cells first = header) (haligned : ∀ l ∈ rule :: body, l.length = first.length) :
    IsTable header body (first :: rule :: body)

theorem cells_line_escape (hne : row ≠ []) (hlength : ws.length = row.length) :
    cells (line ws (row.map escape)) = row.map trim := by
  obtain ⟨x, row, rfl⟩ := List.exists_cons_of_ne_nil hne
  cases ws with
  | nil => cases hlength
  | cons w ws =>
    rw [List.map_cons, cells_line_cons (Nat.succ.inj hlength), cellsOf_escape]
    rfl

theorem isTable_lines (hne : header ≠ []) (hescape : header.map escape = header) (htrim : header.map trim = header)
    (hrows : ∀ row ∈ rows, row.length = header.length) :
    IsTable header (rows.map (line (widths header rows))) (lines header rows) := by
  have hfits := fits_widths hrows
  have hheader := hfits header List.mem_cons_self
  have hcells := cells_line_escape hne hheader.length_eq
  rw [hescape, htrim] at hcells
  have hwidths : widths header rows ≠ [] := List.ne_nil_of_length_pos (hheader.length_eq ▸ List.length_pos_of_ne_nil hne)
  refine .intro hcells (List.forall_mem_cons.mpr ⟨length_line_eq hwidths ?_ hheader, fun l hl => ?_⟩)
  · exact List.forall₂_map_right_iff.mpr (List.forall₂_same.mpr fun w _ => List.length_replicate.le)
  · obtain ⟨row, hrow, rfl⟩ := List.mem_map.mp hl
    exact length_line_eq hwidths (hfits row (List.mem_cons_of_mem _ hrow)) hheader

end Table

/-! ### Functions -/

/-- No blanks stand around the names and the descriptions of the parameters and of what is returned. -/
structure FunctionDoc.IsTrimmed (f : FunctionDoc) : Prop where
  params : ∀ p ∈ f.params, p.name.trim = p.name ∧ p.description.trim = p.description
  returns : ∀ r ∈ f.returns, (∀ name ∈ r.name, name.trim = name) ∧ r.description.trim = r.description

/-- No blanks stand around the names and the descriptions of fields. -/
def Catalog.IsTrimmed (c : Catalog) : Prop :=
  ∀ k ∈ c.classes.values, ∀ f ∈ k.fields, f.name.trim = f.name ∧ f.description.trim = f.description

instance (c : Catalog) : Decidable c.IsTrimmed :=
  inferInstanceAs (Decidable (∀ k ∈ c.classes.values, ∀ f ∈ k.fields, f.name.trim = f.name ∧ f.description.trim = f.description))

namespace Reference
open Table

variable {c : Catalog} {f : FunctionDoc} {fs : List FunctionDoc} {ps : List ParamDoc} {rs : List ReturnDoc} {r : ReturnDoc}

/-- The fields of the class that a type refers to. -/
def shownFields (c : Catalog) (type : Text) : List FieldDoc := ((c.classFor? type).map c.fieldsOf).getD []

/-- What the rows of a parameter say: one is for the parameter, and one for each field of its class. -/
def paramCells (c : Catalog) (p : ParamDoc) : List (List Text) :=
  [p.name, code p.type, p.description] ::
    (shownFields c p.type).map fun f => ['>' :: f.name, code f.type, f.description]

/-- What the row of a returned value says: its type, and its name and its description as far as it has them. -/
def returnCells (r : ReturnDoc) : List Text :=
  [code r.type, join [' '] ((r.name.toList ++ [r.description]).filter (· ≠ []))]

/-- The line is read as the row if there is no bar in the name at the beginning of the row. -/
def IsRead (row : List Text) (line : Text) : Prop := cells line = row ↔ ∀ name ∈ row.head?, '|' ∉ name

/-- A table of parameters, if there are any. -/
inductive IsParamTable (c : Catalog) : List ParamDoc → List Text → Prop where
  | none : IsParamTable c [] []
  | some {ps : List ParamDoc} {body table : List Text} (hne : ps ≠ []) (htable : IsTable ["Param", "Type", "Desc"] body table)
    (hrows : List.Forall₂ IsRead (ps.flatMap (paramCells c)) body) : IsParamTable c ps (['\n'] :: table)

/-- A table of returned values, if there are any. Each line of its body is read as its row. -/
inductive IsReturnTable : List ReturnDoc → List Text → Prop where
  | none : IsReturnTable [] []
  | some {rs : List ReturnDoc} {body table : List Text} (hne : rs ≠ []) (htable : IsTable ["Type", "Desc"] body table)
    (hrows : body.map cells = rs.map returnCells) :
    IsReturnTable rs (['\n'] :: "**Returns:**\n" :: ['\n'] :: table)

/-- What the reference says of a function. -/
inductive IsEntry (c : Catalog) (level : Nat) (f : FunctionDoc) : List Text → Prop where
  | intro {params returns : List Text} (hparams : IsParamTable c f.params params) (hreturns : IsReturnTable f.returns returns) :
    IsEntry c level f ((List.replicate (max level 1) '#' ++ ' ' :: f.signature ++ ['\n']) :: ['\n'] ::
      (opening f ++ params ++ returns ++ noteLines f.note ++ deprecatedLines f.deprecated ++ [['\n']]))

theorem typeCell_eq (type : Text) : typeCell type = escape (code type) := by
  rw [typeCell, code, code, escape_append, escape_cons, if_neg (by decide)]
  rfl

theorem trim_code (s : Text) : (code s).trim = code s := by
  have hlast : AvoidsLast isBlank (code s) := fun c hc => by
    rw [code, List.getLast?_concat] at hc
    exact Option.some.inj hc ▸ rfl
  exact trim_of_avoids (avoids_cons.mpr (by decide)) hlast

theorem isRead_line {ws : List Nat} {name description : Text} (hlength : ws.length = 3) (hname : name.trim = name)
    (hdescription : description.trim = description) (type : Text) :
    IsRead [name, code type, description] (line ws [name, typeCell type, escape description]) := by
  obtain ⟨w, ws, rfl⟩ := List.exists_cons_of_length_eq_add_one hlength
  have hcells : cells (line (w :: ws) (name :: [code type, description].map escape)) =
      cellsOf (padEnd w name) ++ [code type, description].map trim := cells_line_cons (Nat.succ.inj hlength) w name
  rw [List.map_cons, List.map_singleton, List.map_cons, List.map_singleton, trim_code, hdescription] at hcells
  rw [IsRead, typeCell_eq, hcells, ← List.singleton_append (x := name), List.append_cancel_right_eq, cellsOf_eq_iff hname]
  simp

theorem paramRows_eq (c : Catalog) (p : ParamDoc) : paramRows c p =
    [p.name, typeCell p.type, escape p.description] ::
      (shownFields c p.type).map fun f => ['>' :: f.name, typeCell f.type, escape f.description] := rfl

theorem length_of_mem_paramRows {row : List Text} {p : ParamDoc} (h : row ∈ paramRows c p) : row.length = 3 := by
  rw [paramRows_eq] at h
  rcases List.mem_cons.mp h with rfl | h
  · rfl
  · obtain ⟨f, -, rfl⟩ := List.mem_map.mp h
    rfl

theorem trim_fieldName {name : Text} (h : name.trim = name) : trim ('>' :: name) = '>' :: name := by
  have hsign : IsWord ['>'] := by decide
  have hlast := (trim_eq_self_iff.mp h).2
  exact trim_of_avoids (hsign.avoids name) (hsign.endsSolid.avoidsLast.append hlast)

/-- The rows of a parameter are read back one by one. -/
theorem forall₂_isRead {ws : List Nat} {p : ParamDoc} (hc : c.IsTrimmed)
    (hp : p.name.trim = p.name ∧ p.description.trim = p.description) (hws : ws.length = 3) :
    List.Forall₂ IsRead (paramCells c p) ((paramRows c p).map (line ws)) := by
  rw [paramCells, paramRows_eq, List.map_cons, List.map_map]
  refine .cons (isRead_line hws hp.1 hp.2 p.type) ?_
  rw [List.forall₂_map_left_iff, List.forall₂_map_right_iff, List.forall₂_same]
  intro f hf
  obtain ⟨k, hk, hf⟩ := Catalog.exists_class_of_mem_fields hf
  obtain ⟨hname, hdescription⟩ := hc k hk f hf
  exact isRead_line hws (trim_fieldName hname) hdescription f.type

theorem isParamTable (hc : c.IsTrimmed) (hps : ∀ p ∈ ps, p.name.trim = p.name ∧ p.description.trim = p.description) :
    IsParamTable c ps (paramLines c ps) := by
  rw [paramLines]
  split
  · next hempty =>
    obtain rfl := List.isEmpty_iff.mp hempty
    exact .none
  · next hempty =>
    have hlength : ∀ row ∈ ps.flatMap (paramRows c), row.length = 3 := by
      intro row hrow
      obtain ⟨p, -, hrow⟩ := List.mem_flatMap.mp hrow
      exact length_of_mem_paramRows hrow
    have hws : (widths ["Param", "Type", "Desc"] (ps.flatMap (paramRows c))).length = 3 := length_widths hlength
    refine .some (mt List.isEmpty_iff.mpr hempty) (isTable_lines (by simp) (by decide) (by decide) hlength) ?_
    generalize widths _ _ = ws at hws
    rw [List.map_flatMap, List.flatMap_def, List.flatMap_def]
    refine List.rel_flatten ?_
    rw [List.forall₂_map_left_iff, List.forall₂_map_right_iff, List.forall₂_same]
    exact fun p hp => forall₂_isRead hc (hps p hp) hws

theorem trim_returnText (hname : ∀ name ∈ r.name, name.trim = name) (hdescription : r.description.trim = r.description) :
    (returnText r).trim = join [' '] ((r.name.toList ++ [r.description]).filter (· ≠ [])) := by
  rw [returnText]
  cases hr : r.name with
  | none =>
    show r.description.trim = _
    rw [hdescription]
    by_cases hd : r.description = [] <;> simp [hd, join]
  | some name =>
    have hname := hname name hr
    show (if r.description.isEmpty then name else name ++ ' ' :: r.description).trim = _
    by_cases hd : r.description = []
    · rw [if_pos (List.isEmpty_iff.mpr hd), hname]
      by_cases hn : name = [] <;> simp [hn, hd, join]
    · rw [if_neg (mt List.isEmpty_iff.mp hd)]
      by_cases hn : name = []
      · -- The blank behind an empty name is trimmed off.
        have hblank : ∀ c ∈ [' '], isBlank c = true := isBlank_of_mem_spaces 1
        rw [hn, List.nil_append, ← List.singleton_append, trim_blank_append hblank, hdescription]
        simp [hd, join]
      · obtain ⟨hfirst, -⟩ := trim_eq_self_iff.mp hname
        obtain ⟨-, hlast⟩ := trim_eq_self_iff.mp hdescription
        have hsolid : EndsSolid r.description :=
          ⟨_, List.getLast?_eq_some_getLast hd, hlast _ (List.getLast?_eq_some_getLast hd)⟩
        obtain ⟨c, n, rfl⟩ := List.exists_cons_of_ne_nil hn
        have htrim : trim (c :: n ++ ' ' :: r.description) = c :: n ++ ' ' :: r.description :=
          trim_of_avoids (avoids_cons.mpr (avoids_cons.mp hfirst)) ((hsolid.append [' ']).append (c :: n)).avoidsLast
        rw [htrim]
        simp [hd, join]

theorem isReturnTable (hrs : ∀ r ∈ rs, (∀ name ∈ r.name, name.trim = name) ∧ r.description.trim = r.description) :
    IsReturnTable rs (returnLines rs) := by
  rw [returnLines]
  split
  · next hempty =>
    obtain rfl := List.isEmpty_iff.mp hempty
    exact .none
  · next hempty =>
    have hlength : ∀ row ∈ rs.map returnRow, row.length = 2 := by
      intro row hrow
      obtain ⟨r, -, rfl⟩ := List.mem_map.mp hrow
      rfl
    have hws : (widths ["Type", "Desc"] (rs.map returnRow)).length = 2 := length_widths hlength
    refine .some (mt List.isEmpty_iff.mpr hempty) (isTable_lines (by simp) (by decide) (by decide) hlength) ?_
    generalize widths _ _ = ws at hws
    rw [List.map_map, List.map_map]
    refine List.map_congr_left fun r hr => ?_
    obtain ⟨hname, hdescription⟩ := hrs r hr
    have hcells : cells (line ws ([code r.type, returnText r].map escape)) = [code r.type, returnText r].map trim :=
      cells_line_escape (by simp) hws
    rw [List.map_cons, List.map_singleton, List.map_cons, List.map_singleton, trim_code,
      trim_returnText hname hdescription, ← typeCell_eq] at hcells
    exact hcells

/-- In the reference of functions the tables are aligned, and their lines are read back but for those with a bar in the
    name of a parameter or a field. -/
theorem lines_isEntry (hc : c.IsTrimmed) (hfs : ∀ f ∈ fs, f.IsTrimmed) (level : Nat) :
    ∃ entries, lines c level fs = entries.flatten ∧ List.Forall₂ (IsEntry c level) fs entries := by
  refine ⟨fs.map (functionLines c level), List.flatMap_def, ?_⟩
  refine List.forall₂_map_right_iff.mpr (List.forall₂_same.mpr fun f hf => ?_)
  exact .intro (isParamTable hc (hfs f hf).params) (isReturnTable (hfs f hf).returns)

/-- Bars and backslashes in types and descriptions, and in the name of one field. -/
theorem lines_isEntry_of_bars :
    let k : ClassDoc :=
      ⟨"Opts", none, [⟨"mode", "\"a\"|\"b\"", "One \\| two."⟩, ⟨"on|off", "boolean", "Which | of them."⟩]⟩
    let c : Catalog := { classes := ⟨[("Opts", k)], by decide⟩ }
    let f : FunctionDoc :=
      { name := "open", params := [⟨"opts", "Opts|nil", "How."⟩], returns := [⟨"integer|nil", some "n", "Or | not."⟩] }
    c.IsTrimmed ∧ (∀ g ∈ [f], g.IsTrimmed) ∧ (paramCells c ⟨"opts", "Opts|nil", "How."⟩).length = 3 ∧
      ∃ entries, lines c 3 [f] = entries.flatten ∧ List.Forall₂ (IsEntry c 3) [f] entries := by
  intro k c f
  have hc : c.IsTrimmed := by decide
  have hf : ∀ g ∈ [f], g.IsTrimmed := fun g hg => List.mem_singleton.mp hg ▸ ⟨by decide, by decide⟩
  exact ⟨hc, hf, by decide +kernel, lines_isEntry hc hf 3⟩

/-- A bar in the name of a field parts its line into four cells under a header of three. -/
theorem cells_ne_of_bar :
    let c : Catalog := { classes := ⟨[("Opts", ⟨"Opts", none, [⟨"on|off", "boolean", "Which."⟩]⟩)], by decide⟩ }
    let p : ParamDoc := ⟨"o", "Opts", []⟩
    let said : List Text := [">on|off", "\x60boolean\x60", "Which."]
    ∃ header row : Text, (lines c 3 [{ name := "f", params := [p] }])[4]? = some header ∧
      (lines c 3 [{ name := "f", params := [p] }])[7]? = some row ∧ (paramCells c p)[1]? = some said ∧
        cells header = ["Param", "Type", "Desc"] ∧ cells row = [">on", "off", "\x60boolean\x60", "Which."] ∧
          cells row ≠ said :=
  ⟨_, _, rfl, rfl, by decide +kernel, by decide +kernel, by decide +kernel, by decide +kernel⟩

end Reference
end PluginManual
