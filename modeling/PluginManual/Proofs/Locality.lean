import PluginManual.Proofs.DocRuns
import PluginManual.Proofs.Lines

/-! Two sources with an empty line between them. Each documents what it documents on its own: the empty line
    ends a run of documentation as the end of the text does, and a list of parameters that the first source opens
    and closes does not go on in the second one. -/

namespace PluginManual

/-! ### Lines -/

namespace Text

theorem bareLines_append_feed {a : Text} (h : a = [] ∨ a.getLast? = some '\n') (b : Text) :
    bareLines (a ++ '\n' :: b) = a.bareLines ++ [] :: b.bareLines := by
  rw [bareLines, lines_append h, List.map_append]
  rfl

theorem mem_trimStart_iff {c : Char} (hc : PluginManual.isBlank c = false) {s : Text} : c ∈ s.trimStart ↔ c ∈ s := by
  induction s with
  | nil => rfl
  | cons d s ih =>
    rw [trimStart, List.dropWhile_cons]
    split
    · next hd =>
      have hne : c ≠ d := by
        rintro rfl
        simp [hc] at hd
      rw [List.mem_cons, or_iff_right hne]
      exact ih
    · rfl

end Text

/-! ### Definitions -/

namespace LuaDefinition

variable {line : Text} {as bs : List Text}

theorem continuation_append (h : ∃ l ∈ as, ')' ∈ l) : wrapped.continuation (as ++ bs) = wrapped.continuation as := by
  induction as with
  | nil => simp at h
  | cons l as ih =>
    rw [List.cons_append, wrapped.continuation, wrapped.continuation]
    by_cases hl : ')' ∈ l
    · rw [if_pos hl, if_pos hl]
    · rw [if_neg hl, if_neg hl, ih (by simpa [hl] using h)]

/-- What follows a list of parameters does not belong to the definition. -/
theorem wrapped_append (h : '(' ∈ line → ')' ∉ line → ∃ l ∈ as, ')' ∈ l) : wrapped line (as ++ bs) = wrapped line as := by
  simp only [wrapped, Text.mem_trimStart_iff (c := '(') rfl, Text.mem_trimStart_iff (c := ')') rfl]
  split
  · next hopen => rw [continuation_append (h hopen.1 hopen.2)]
  · rfl

end LuaDefinition

/-! ### Comments -/

/-- The function with its line moved down by `n` lines. -/
def FunctionDoc.down (n : Nat) (f : FunctionDoc) : FunctionDoc := { f with line := f.line + n }

namespace LuaComment
open LuaDefinition (wrapped)

variable {as bs : List Text} {i j n : Nat}

def down (n : Nat) (c : LuaComment) : LuaComment := { c with subject := c.subject.map fun (k, text) => (k + n, text) }

theorem function?_down (c : LuaComment) : function? (c.down n) = (function? c).map (·.down n) := by
  obtain ⟨ls, subject⟩ := c
  cases subject with
  | none => rfl
  | some s =>
    show (LuaDefinition.ofText? s.2).bind _ = Option.map _ ((LuaDefinition.ofText? s.2).bind _)
    cases LuaDefinition.ofText? s.2 with
    | none => rfl
    | some d =>
      show DocBlock.document? ls { d.function with line := s.1 + n } =
        (DocBlock.document? ls { d.function with line := s.1 }).map (·.down n)
      have hline := DocBlock.document?_withLine ls { d.function with line := s.1 } (s.1 + n)
      rw [hline]
      refine Option.map_congr fun f hf => ?_
      rw [FunctionDoc.down, DocBlock.line_of_document? hf]

theorem isDoc_nil : isDoc [] = false := rfl

theorem runBefore_append_left (h : i ≤ as.length) : runBefore (as ++ bs) i = runBefore as i := by
  rw [runBefore, List.take_append_of_le_length h, runBefore]

theorem rtakeWhile_append_nil_cons : (as ++ [] :: bs).rtakeWhile isDoc = bs.rtakeWhile isDoc := by
  induction bs using List.reverseRecOn with
  | nil => exact List.rtakeWhile_concat_neg isDoc as [] (by simp [isDoc_nil])
  | append_singleton bs line ih =>
    rw [← List.cons_append, ← List.append_assoc, List.rtakeWhile_concat, List.rtakeWhile_concat, ih]

theorem runBefore_append_right : runBefore (as ++ [] :: bs) (as.length + (j + 1)) = runBefore bs j := by
  rw [runBefore, List.take_length_add_append, List.take_succ_cons, rtakeWhile_append_nil_cons, runBefore]

theorem docRuns_append : docRuns (as ++ [] :: bs) = docRuns as ++ docRuns bs :=
  List.splitOnP_append_cons _ _ (by simp [isDoc_nil])

/-- Each list of parameters that a line of the source opens after a comment and does not close is closed on a
    later line. -/
def IsClosed (lines : List Text) : Prop :=
  ∀ i line, IsSubject lines i line → '(' ∈ line → ')' ∉ line → ∃ l ∈ lines.drop (i + 1), ')' ∈ l

theorem isClosed_iff : IsClosed as ↔ ∀ i (h : i < as.length), isDoc as[i] = false → runBefore as i ≠ [] →
    '(' ∈ as[i] → ')' ∉ as[i] → ∃ l ∈ as.drop (i + 1), ')' ∈ l := by
  constructor
  · intro hclosed i h hdoc hrun
    exact hclosed i as[i] ⟨List.getElem?_eq_getElem h, hdoc, (runBefore_ne_nil_iff h.le).mp hrun⟩
  · rintro hclosed i line ⟨hline, hdoc, hafter⟩
    obtain ⟨h, rfl⟩ := List.getElem?_eq_some_iff.mp hline
    exact hclosed i h hdoc ((runBefore_ne_nil_iff h.le).mpr hafter)

instance : Decidable (IsClosed as) := decidable_of_iff _ isClosed_iff.symm

theorem commentAt_append_left (hclosed : IsClosed as) (h : i < as.length) : commentAt (as ++ bs) i = commentAt as i := by
  have hline : as[i]? = some as[i] := List.getElem?_eq_getElem h
  have hline' : (as ++ bs)[i]? = some as[i] := by rw [List.getElem?_append_left h, hline]
  rw [commentAt_eq hline, commentAt_eq hline', runBefore_append_left h.le, List.drop_append_of_le_length h]
  split
  · next hsubject =>
    have hafter := (runBefore_ne_nil_iff h.le).mp hsubject.2
    rw [LuaDefinition.wrapped_append (hclosed i as[i] ⟨hline, hsubject.1, hafter⟩)]
  · rfl

/-- Nothing is defined on an empty line. -/
theorem commentAt_append_nil : (commentAt (as ++ [] :: bs) as.length).bind function? = none := by
  have hline : (as ++ [] :: bs)[as.length]? = some [] := by simp
  rw [commentAt_eq hline]
  split <;> rfl

theorem commentAt_append_right :
    commentAt (as ++ [] :: bs) (as.length + (j + 1)) = (commentAt bs j).map (·.down (as.length + 1)) := by
  have hget : (as ++ [] :: bs)[as.length + (j + 1)]? = bs[j]? := by
    rw [List.getElem?_append_right (by omega), Nat.add_sub_cancel_left, List.getElem?_cons_succ]
  cases hline : bs[j]? with
  | none => rw [commentAt, commentAt, hget, hline]; rfl
  | some line =>
    have hdrop : (as ++ [] :: bs).drop (as.length + (j + 1) + 1) = bs.drop (j + 1) := by
      rw [Nat.add_assoc, List.drop_length_add_append, List.drop_succ_cons]
    rw [commentAt_eq (hget.trans hline), commentAt_eq hline, runBefore_append_right, hdrop]
    split
    · have hnumber : as.length + (j + 1) + 1 = j + 1 + (as.length + 1) := by omega
      rw [hnumber]
      rfl
    · rfl

end LuaComment

/-! ### Sources -/

namespace LuaSource
open LuaComment

/-- What two sources document, the second one `n` lines further down. -/
def beside (n : Nat) (r s : LuaSource) : LuaSource where
  functions := r.functions ++ s.functions.map (·.down n)
  classes := r.classes ++ s.classes
  aliases := r.aliases ++ s.aliases

variable {as : List Text}

theorem functions_append (hclosed : IsClosed as) (bs : List Text) : (ofLines (as ++ [] :: bs)).functions =
    (ofLines as).functions ++ (ofLines bs).functions.map (·.down (as.length + 1)) := by
  have hleft : (List.range as.length).filterMap (fun i => (commentAt (as ++ [] :: bs) i).bind function?) =
      (ofLines as).functions := by
    rw [functions_ofLines]
    refine List.filterMap_congr fun i hi => ?_
    rw [commentAt_append_left hclosed (List.mem_range.mp hi)]
  have hright : (List.range bs.length).filterMap (fun j => (commentAt (as ++ [] :: bs) (as.length + (j + 1))).bind function?) =
      (ofLines bs).functions.map (·.down (as.length + 1)) := by
    rw [functions_ofLines, List.map_filterMap]
    refine List.filterMap_congr fun j _ => ?_
    rw [commentAt_append_right]
    cases commentAt bs j with
    | none => rfl
    | some c => exact function?_down c
  rw [functions_ofLines, List.length_append, List.range_add, List.filterMap_append, hleft, List.filterMap_map, List.length_cons,
    List.range_succ_eq_map, List.filterMap_cons, List.filterMap_map]
  have hnil : ((fun i => (commentAt (as ++ [] :: bs) i).bind function?) ∘ fun x => as.length + x) 0 = none := commentAt_append_nil
  rw [hnil]
  exact congrArg _ hright

theorem ofLines_append (hclosed : IsClosed as) (bs : List Text) :
    ofLines (as ++ [] :: bs) = beside (as.length + 1) (ofLines as) (ofLines bs) := by
  have hclasses : (ofLines (as ++ [] :: bs)).classes = (ofLines as).classes ++ (ofLines bs).classes := by
    simp only [classes_ofLines, docRuns_append, List.flatMap_append]
  have haliases : (ofLines (as ++ [] :: bs)).aliases = (ofLines as).aliases ++ (ofLines bs).aliases := by
    simp only [aliases_ofLines, docRuns_append, List.flatMap_append]
  rw [beside, ← functions_append hclosed, ← hclasses, ← haliases]

theorem ofText_append {a : Text} (hends : a = [] ∨ a.getLast? = some '\n') (hclosed : IsClosed a.bareLines) (b : Text) :
    ofText (a ++ '\n' :: b) = beside (a.bareLines.length + 1) (ofText a) (ofText b) := by
  have happend := ofLines_append hclosed b.bareLines
  rw [← Text.bareLines_append_feed hends] at happend
  exact happend

/-- A list of parameters over two lines and a run of documentation that is still open at the end. -/
theorem ofText_append_of_open_run :
    let a : Text := "--- One.\nfunction f(\n  p)\n---@class A\n"
    let b : Text := "--- Two.\nfunction g() end\n"
    a.getLast? = some '\n' ∧ IsClosed a.bareLines ∧ ofText (a ++ '\n' :: b) = beside 5 (ofText a) (ofText b) ∧
      (ofText (a ++ '\n' :: b)).functions.map (·.line) = [2, 7] := by
  intro a b
  have hlast : a.getLast? = some '\n' := rfl
  have hclosed : IsClosed a.bareLines := by decide +kernel
  exact ⟨hlast, hclosed, ofText_append (.inr hlast) hclosed b, by decide +kernel⟩

end LuaSource
end PluginManual
