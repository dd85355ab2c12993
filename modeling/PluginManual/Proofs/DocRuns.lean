import Mathlib.Data.List.DropRight
import PluginManual.Lua.Source

/-! What a source says, line by line. The comments that the scan finds are the longest runs of lines of
    documentation, and the function after a comment is the one that is defined on the next line. So what is read
    off a source can be told without the scan: the types of every run, and one function for each line that
    defines one right after a run. -/

namespace PluginManual

/-! ### Lines of functions -/

namespace DocBlock

/-- No line of a comment counts for the number of the line of the function. -/
theorem read_withLine (r : Reading) (n : Nat) (l : DocLine) :
    read { r with function.line := n } l = { read r l with function.line := n } := by
  cases l with
  | text s =>
    rw [read, read]
    split
    · rfl
    · split <;> rfl
  | _ => rfl

theorem foldl_read_withLine (r : Reading) (n : Nat) (ls : List DocLine) :
    ls.foldl read { r with function.line := n } = { ls.foldl read r with function.line := n } := by
  induction ls generalizing r with
  | nil => rfl
  | cons l ls ih => rw [List.foldl_cons, List.foldl_cons, read_withLine, ih]

theorem document?_withLine (ls : List DocLine) (f : FunctionDoc) (n : Nat) :
    document? ls { f with line := n } = (document? ls f).map fun g => { g with line := n } := by
  rw [document?, document?]
  split
  · rfl
  · have hfold := foldl_read_withLine { function := f } n ls
    dsimp only at hfold ⊢
    rw [hfold]
    rfl

theorem line_of_document? {ls : List DocLine} {f g : FunctionDoc} (h : document? ls f = some g) : g.line = f.line := by
  have hline := document?_withLine ls f f.line
  rw [h, Option.map_some] at hline
  have hg := Option.some.inj hline
  rw [hg]

end DocBlock

/-! ### Runs -/

namespace LuaComment

/-- Does the line belong to documentation? -/
def isDoc (line : Text) : Bool := (docText? line).isSome

def docLine? (line : Text) : Option DocLine := (docText? line).map DocLine.ofText

/-- What the lines of documentation among some lines say. -/
def block (run : List Text) : List DocLine := run.filterMap docLine?

/-- The longest runs of lines of documentation. There are empty ones, too, where other lines stand together. -/
def docRuns (lines : List Text) : List (List Text) := lines.splitOnP (!isDoc ·)

/-- The lines of documentation that end right before a line. -/
def runBefore (lines : List Text) (i : Nat) : List Text := (lines.take i).rtakeWhile isDoc

variable {lines run : List Text} {line : Text} {n i : Nat} {begun : List DocLine}

theorem docLine?_of_isDoc (h : isDoc line = true) : ∃ s, docText? line = some s ∧ docLine? line = some (DocLine.ofText s) := by
  obtain ⟨s, hs⟩ := Option.isSome_iff_exists.mp h
  exact ⟨s, hs, by rw [docLine?, hs]; rfl⟩

theorem docText?_of_not_isDoc (h : isDoc line = false) : docText? line = none := by simpa [isDoc] using h

theorem block_eq_nil_iff (h : ∀ l ∈ run, isDoc l = true) : block run = [] ↔ run = [] := by
  cases run with
  | nil => simp [block]
  | cons line run =>
    obtain ⟨s, -, hline⟩ := docLine?_of_isDoc (h line List.mem_cons_self)
    simp [block, hline]

theorem runBefore_succ {prev : Text} (h : lines[i]? = some prev) :
    runBefore lines (i + 1) = if isDoc prev = true then runBefore lines i ++ [prev] else [] := by
  rw [runBefore, List.take_add_one, h, Option.toList_some, List.rtakeWhile_concat]
  rfl

theorem scan_cons_of_isDoc {s : Text} (h : docText? line = some s) :
    scan n begun (line :: lines) = scan (n + 1) (begun ++ [DocLine.ofText s]) lines := by
  rw [scan, h]

theorem scan_cons_of_not_isDoc (h : isDoc line = false) :
    scan n begun (line :: lines) =
      (if begun = [] then [] else [⟨begun, some (n, LuaDefinition.wrapped line lines)⟩]) ++ scan (n + 1) [] lines := by
  rw [scan, docText?_of_not_isDoc h]
  by_cases hbegun : begun = [] <;> simp [hbegun]

theorem docRuns_cons_of_isDoc (h : isDoc line = true) :
    docRuns (line :: lines) = (docRuns lines).modifyHead (line :: ·) := by
  rw [docRuns, List.splitOnP_cons_eq_if_modifyHead, if_neg (by simp [h])]
  rfl

theorem docRuns_cons_of_not_isDoc (h : isDoc line = false) : docRuns (line :: lines) = [] :: docRuns lines := by
  rw [docRuns, List.splitOnP_cons_eq_if_modifyHead, if_pos (by simp [h])]
  rfl

/-- What is read off the lines of each comment is read off those of each run. -/
theorem flatMap_scan {β : Type} {g : List DocLine → List β} (hg : g [] = []) :
    (scan n begun lines).flatMap (fun c => g c.lines) =
      (((docRuns lines).map block).modifyHead (begun ++ ·)).flatMap g := by
  induction lines generalizing n begun with
  | nil =>
    by_cases hbegun : begun = [] <;> simp [scan, docRuns, block, hbegun, hg]
  | cons line lines ih =>
    by_cases hline : isDoc line = true
    · obtain ⟨s, hs, hl⟩ := docLine?_of_isDoc hline
      obtain ⟨first, rest, hruns⟩ := List.exists_cons_of_ne_nil (List.splitOnP_ne_nil (!isDoc ·) lines)
      replace hruns : docRuns lines = first :: rest := hruns
      rw [scan_cons_of_isDoc hs, ih, docRuns_cons_of_isDoc hline, hruns]
      simp [block, hl]
    · have hline := Bool.not_eq_true _ ▸ hline
      rw [scan_cons_of_not_isDoc hline, List.flatMap_append, ih, docRuns_cons_of_not_isDoc hline]
      by_cases hbegun : begun = [] <;> cases docRuns lines <;> simp [block, hbegun, hg]

/-! ### Comments by lines -/

/-- A line that is no documentation comes right after one that is. -/
structure IsSubject (lines : List Text) (i : Nat) (line : Text) : Prop where
  here : lines[i]? = some line
  notDoc : isDoc line = false
  after : ∃ j prev, i = j + 1 ∧ lines[j]? = some prev ∧ isDoc prev = true

theorem runBefore_ne_nil_iff (h : i ≤ lines.length) :
    runBefore lines i ≠ [] ↔ ∃ j prev, i = j + 1 ∧ lines[j]? = some prev ∧ isDoc prev = true := by
  cases i with
  | zero => simp [runBefore]
  | succ j =>
    have hj : lines[j]? = some lines[j] := List.getElem?_eq_getElem h
    rw [runBefore_succ hj]
    simp [hj]

/-- The comment that a line follows, with the definition that begins on the line. -/
def commentAt (lines : List Text) (i : Nat) : Option LuaComment := do
  let line ← lines[i]?
  guard (isDoc line = false ∧ runBefore lines i ≠ [])
  return ⟨block (runBefore lines i), some (i + 1, LuaDefinition.wrapped line (lines.drop (i + 1)))⟩

theorem commentAt_eq (h : lines[i]? = some line) :
    commentAt lines i = if isDoc line = false ∧ runBefore lines i ≠ [] then
      some ⟨block (runBefore lines i), some (i + 1, LuaDefinition.wrapped line (lines.drop (i + 1)))⟩ else none := by
  rw [commentAt, h]
  show Option.bind (guard _) _ = _
  by_cases hc : isDoc line = false ∧ runBefore lines i ≠ [] <;> simp [hc, guard]

theorem commentAt_eq_some_iff {c : LuaComment} :
    commentAt lines i = some c ↔ ∃ line, IsSubject lines i line ∧
      c = ⟨block (runBefore lines i), some (i + 1, LuaDefinition.wrapped line (lines.drop (i + 1)))⟩ := by
  cases h : lines[i]? with
  | none =>
    rw [commentAt, h]
    constructor
    · intro hc
      cases hc
    · rintro ⟨line, hline, -⟩
      rw [hline.here] at h
      cases h
  | some line =>
    have hrun := runBefore_ne_nil_iff (List.getElem?_eq_some_iff.mp h).1.le
    rw [commentAt_eq h, Option.ite_none_right_eq_some]
    constructor
    · rintro ⟨⟨hdoc, hne⟩, hc⟩
      cases hc
      exact ⟨line, ⟨h, hdoc, hrun.mp hne⟩, rfl⟩
    · rintro ⟨line', hline, rfl⟩
      obtain rfl : line = line' := Option.some.inj (h.symm.trans hline.here)
      exact ⟨⟨hline.notDoc, hrun.mpr hline.after⟩, rfl⟩

theorem commentAt_bind_eq_some_iff {f : FunctionDoc} :
    (commentAt lines i).bind function? = some f ↔ ∃ line, ∃ d : LuaDefinition, IsSubject lines i line ∧
      LuaDefinition.ofText? (LuaDefinition.wrapped line (lines.drop (i + 1))) = some d ∧
      DocBlock.document? (block (runBefore lines i)) { d.function with line := i + 1 } = some f := by
  rw [Option.bind_eq_some_iff]
  constructor
  · rintro ⟨c, hc, hf⟩
    obtain ⟨line, hline, rfl⟩ := commentAt_eq_some_iff.mp hc
    obtain ⟨d, hd, hdoc⟩ := Option.bind_eq_some_iff.mp hf
    exact ⟨line, d, hline, hd, hdoc⟩
  · rintro ⟨line, d, hline, hd, hdoc⟩
    exact ⟨_, commentAt_eq_some_iff.mpr ⟨line, hline, rfl⟩, Option.bind_eq_some_iff.mpr ⟨d, hd, hdoc⟩⟩

theorem line_of_commentAt {f : FunctionDoc} (h : (commentAt lines i).bind function? = some f) : f.line = i + 1 := by
  obtain ⟨line, d, -, -, hdoc⟩ := commentAt_bind_eq_some_iff.mp h
  exact DocBlock.line_of_document? hdoc

/-- The scan finds the functions of the lines that follow a comment, one after the other. -/
theorem filterMap_scan (before lines : List Text) :
    (scan (before.length + 1) (block (before.rtakeWhile isDoc)) lines).filterMap function? =
      (List.range' before.length lines.length).filterMap fun i => (commentAt (before ++ lines) i).bind function? := by
  induction lines generalizing before with
  | nil =>
    rw [scan]
    split <;> rfl
  | cons line lines ih =>
    have hline : (before ++ line :: lines)[before.length]? = some line := by simp
    have hrun : runBefore (before ++ line :: lines) before.length = before.rtakeWhile isDoc := by simp [runBefore]
    have hdrop : (before ++ line :: lines).drop (before.length + 1) = lines := by simp
    have hconcat : before ++ line :: lines = before ++ [line] ++ lines := by simp
    have ih := ih (before ++ [line])
    rw [List.length_append, List.length_singleton, ← hconcat] at ih
    rw [List.length_cons, List.range'_succ, List.filterMap_cons, commentAt_eq hline, hrun, hdrop, ← ih]
    by_cases hdoc : isDoc line = true
    · obtain ⟨s, hs, hl⟩ := docLine?_of_isDoc hdoc
      rw [scan_cons_of_isDoc hs, List.rtakeWhile_concat_pos _ _ _ hdoc]
      simp [block, hl, hdoc]
    · have hdoc := Bool.not_eq_true _ ▸ hdoc
      rw [scan_cons_of_not_isDoc hdoc, List.rtakeWhile_concat_neg _ _ _ (by simp [hdoc]), List.filterMap_append]
      have hnil := block_eq_nil_iff (fun l hl => List.mem_rtakeWhile_imp (p := isDoc) (l := before) hl)
      by_cases hempty : before.rtakeWhile isDoc = []
      · simp [hdoc, hempty, block]
      · simp only [hdoc, hempty, hnil, List.filterMap_cons, List.filterMap_nil, ne_eq, not_false_eq_true, and_self, if_true,
          if_false, Option.bind_some]
        split <;> rfl

end LuaComment

/-! ### Sources -/

namespace LuaSource
open LuaComment

variable {lines : List Text}

/-- What the lines of a source document. -/
def ofLines (lines : List Text) : LuaSource := ofComments (scan 1 [] lines)

theorem functions_ofLines : (ofLines lines).functions =
    (List.range lines.length).filterMap fun i => (commentAt lines i).bind function? := by
  rw [List.range_eq_range']
  exact filterMap_scan [] lines

theorem flatMap_comments {β : Type} {g : List DocLine → List β} (hg : g [] = []) :
    (scan 1 [] lines).flatMap (fun c => g c.lines) = (docRuns lines).flatMap fun run => g (block run) := by
  rw [flatMap_scan hg]
  cases docRuns lines <;> simp [List.flatMap_map]

theorem classes_ofLines : (ofLines lines).classes = (docRuns lines).flatMap fun run => DocBlock.classes (block run) :=
  flatMap_comments rfl

theorem aliases_ofLines : (ofLines lines).aliases = (docRuns lines).flatMap fun run => DocBlock.aliases (block run) :=
  flatMap_comments rfl

end LuaSource
end PluginManual
