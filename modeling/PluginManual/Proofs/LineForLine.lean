import PluginManual.Proofs.HelpLines
import PluginManual.Proofs.Merging
import PluginManual.Proofs.Splice

/-! Lines that are written and read back one for one. The references of the functions of a catalog are such lines, in
    Markdown and in the help file. Behind each function comes one empty line, which in the help file may follow the empty
    lines that a note ends with. -/

namespace PluginManual
open Text

/-! ### Lines of a text -/

/-- The lines are put into a document one for one, and they are the lines of their text. -/
structure AreStored (ls : List Text) : Prop where
  whole : ∀ l ∈ ls, IsWhole l
  replaced : ∀ (d d' : Document) (opening closing : Marker) (m : Multiplicity) (r : Region),
    d.replace opening closing ls m = .ok (r, d') → r.inside d'.lines = ls
  reread : lines ls.flatten = ls

theorem areStored_of_isWhole {ls : List Text} (h : ∀ l ∈ ls, IsWhole l) : AreStored ls where
  whole := h
  replaced := by
    intro d d' opening closing m r hreplace
    obtain ⟨e, -, -, rfl, rfl⟩ := Document.replace_eq_ok_iff.mp hreplace
    rw [Enclosure.inside_region, Enclosure.fill_inside, Region.normalLines_of_isWhole h]
  reread := lines_flatten h

/-! ### The last line -/

/-- The last line, if there is one, is not empty. -/
def EndsFull (ls : List Text) : Prop := ls.getLast? ≠ some ['\n']

instance (ls : List Text) : Decidable (EndsFull ls) := inferInstanceAs (Decidable (_ ≠ _))

variable {as bs : List Text}

theorem endsFull_of_forall (h : ∀ l ∈ as, l ≠ ['\n']) : EndsFull as := fun hlast =>
  h _ (List.mem_of_getLast? hlast) rfl

theorem EndsFull.append (ha : EndsFull as) (hb : EndsFull bs) : EndsFull (as ++ bs) := by
  rw [EndsFull, List.getLast?_append]
  cases hlast : bs.getLast? with
  | none => exact ha
  | some l =>
    rw [Option.some_or, ← hlast]
    exact hb

theorem EndsFull.append_left (hb : EndsFull bs) (hne : bs ≠ []) (as : List Text) : EndsFull (as ++ bs) := by
  rw [EndsFull, List.getLast?_append, List.getLast?_eq_some_getLast hne, Option.some_or,
    ← List.getLast?_eq_some_getLast hne]
  exact hb

/-- Only an empty text makes an empty line. -/
theorem append_feed_ne {s : Text} (h : s ≠ []) : s ++ ['\n'] ≠ ['\n'] := fun heq =>
  h (List.append_left_eq_self.mp heq)

/-- The summary does not end with a blank line. -/
def FunctionDoc.IsTidy (f : FunctionDoc) : Prop := ∀ l ∈ f.summary.getLast?, l.isBlank = false

theorem FunctionDoc.IsTidy.ne_nil {f : FunctionDoc} (h : f.IsTidy) : ∀ l ∈ f.summary.getLast?, l ≠ [] := by
  rintro l hl rfl
  exact Bool.noConfusion (h [] hl)

/-! ### Functions in Markdown -/

namespace Reference

variable {f : FunctionDoc}

theorem endsFull_opening (hf : f.IsTidy) : EndsFull (opening f) := by
  have hopening : ∃ s : Text, opening f =
      if f.summary.isEmpty then [code s ++ ['\n']] else (code s ++ " \\\n") :: f.summary.map (· ++ ['\n']) := by
    rw [opening]
    cases f.returnTypes <;> exact ⟨_, rfl⟩
  obtain ⟨s, hopening⟩ := hopening
  rw [hopening]
  split
  · exact endsFull_of_forall fun l hl => List.mem_singleton.mp hl ▸ append_feed_ne (List.cons_ne_nil _ _)
  · next hne =>
    have hmap : EndsFull (f.summary.map (· ++ ['\n'])) := by
      rw [EndsFull, List.getLast?_map]
      intro hlast
      obtain ⟨l, hl, heq⟩ := Option.map_eq_some_iff.mp hlast
      exact append_feed_ne (hf.ne_nil l hl) heq
    exact hmap.append_left (by simpa using hne) [_]

theorem endsFull_table (header : List Text) (rows : List (List Text)) : EndsFull (Table.lines header rows) := by
  have hline : ∀ ws row, Table.line ws row ≠ ['\n'] := fun ws row h => by
    have hhead := congrArg List.head? h
    simp [Table.line] at hhead
  refine endsFull_of_forall fun l hl => ?_
  rcases List.mem_cons.mp hl with rfl | hl
  · exact hline _ _
  rcases List.mem_cons.mp hl with rfl | hl
  · exact hline _ _
  · obtain ⟨row, -, rfl⟩ := List.mem_map.mp hl
    exact hline _ _

theorem endsFull_paramLines (c : Catalog) (ps : List ParamDoc) : EndsFull (paramLines c ps) := by
  rw [paramLines]
  split
  · exact endsFull_of_forall (by simp)
  · exact (endsFull_table _ _).append_left (List.cons_ne_nil _ _) [['\n']]

theorem endsFull_returnLines (rs : List ReturnDoc) : EndsFull (returnLines rs) := by
  rw [returnLines]
  split
  · exact endsFull_of_forall (by simp)
  · exact (endsFull_table _ _).append_left (List.cons_ne_nil _ _) [['\n'], "**Returns:**\n", ['\n']]

theorem endsFull_noteLines (note : Option Text) : EndsFull (noteLines note) := by
  cases note with
  | none => exact endsFull_of_forall (by simp [noteLines])
  | some note =>
    have hend : EndsFull ["</pre>\n".toList] := by decide
    exact hend.append_left (List.cons_ne_nil _ _) (['\n'] :: "**Note:**\n" :: "<pre>\n" :: note.bareLines.map (· ++ ['\n']))

theorem endsFull_deprecatedLines (deprecated : Option Text) : EndsFull (deprecatedLines deprecated) := by
  cases deprecated with
  | none => exact endsFull_of_forall (by simp [deprecatedLines])
  | some reason =>
    rw [deprecatedLines, EndsFull, List.getLast?_cons_cons, List.getLast?_singleton]
    intro hlast
    have hhead := congrArg List.head? (Option.some.inj hlast)
    split at hhead <;> simp at hhead

theorem functionLines_eq_append (c : Catalog) (level : Nat) (hf : f.IsTidy) :
    ∃ body, functionLines c level f = body ++ [['\n']] ∧ body ≠ [] ∧ EndsFull body := by
  have hparts := (((endsFull_opening hf).append (endsFull_paramLines c f.params)).append
    (endsFull_returnLines f.returns)).append (endsFull_noteLines f.note)
  have hopening : opening f ≠ [] := by
    rw [opening]
    split <;> exact List.cons_ne_nil _ _
  -- Before these parts come the heading and an empty line.
  have hbody := (hparts.append (endsFull_deprecatedLines f.deprecated)).append_left (by simp [hopening])
    [List.replicate (max level 1) '#' ++ ' ' :: f.signature ++ ['\n'], ['\n']]
  exact ⟨_, rfl, List.cons_ne_nil _ _, hbody⟩

theorem lines_eq_append (c : Catalog) (level : Nat) {fs : List FunctionDoc} (hfs : ∀ f ∈ fs, f.IsTidy) (hne : fs ≠ []) :
    ∃ body, lines c level fs = body ++ [['\n']] ∧ EndsFull body := by
  obtain rfl | ⟨init, f, rfl⟩ := List.eq_nil_or_concat fs
  · exact absurd rfl hne
  obtain ⟨body, hlines, hnil, hbody⟩ := functionLines_eq_append c level (hfs f (by simp))
  refine ⟨lines c level init ++ body, ?_, hbody.append_left hnil _⟩
  rw [lines, List.concat_eq_append, List.flatMap_append, List.flatMap_singleton, hlines, lines, List.append_assoc]

end Reference

/-! ### Functions in the help file -/

namespace Help

variable {f : FunctionDoc}

theorem endsFull_tagged {left : Text} (hleft : left ≠ []) (tag : Text) : EndsFull (tagged left tag) := by
  rw [tagged]
  split
  · exact endsFull_of_forall fun l hl => List.mem_singleton.mp hl ▸ append_feed_ne (by simp [hleft])
  · have hlast : EndsFull [left ++ ['\n']] :=
      endsFull_of_forall fun l hl => List.mem_singleton.mp hl ▸ append_feed_ne hleft
    exact hlast.append_left (List.cons_ne_nil _ _) [padStart width tag ++ ['\n']]

theorem functionTitle_ne_nil (f : FunctionDoc) : functionTitle f ≠ [] := by
  rw [functionTitle]
  split <;> simp

theorem endsFull_summaryLines (hf : f.IsTidy) : EndsFull (summaryLines f.summary) := by
  rw [summaryLines, EndsFull, List.getLast?_map]
  intro hlast
  obtain ⟨l, hl, heq⟩ := Option.map_eq_some_iff.mp hlast
  have hne := hf.ne_nil l hl
  rw [if_neg (mt List.isEmpty_iff.mp hne)] at heq
  exact append_feed_ne (by simp [hne]) heq

theorem endsFull_deprecatedLines (deprecated : Option Text) : EndsFull (deprecatedLines deprecated) := by
  cases deprecated with
  | none => exact endsFull_of_forall (by simp [deprecatedLines])
  | some reason =>
    rw [deprecatedLines, EndsFull, List.getLast?_cons_cons, List.getLast?_singleton]
    intro hlast
    have hhead := congrArg List.head? (Option.some.inj hlast)
    split at hhead <;> simp at hhead

theorem entryLine_ne (margin : Nat) (name type description : Text) : entryLine margin name type description ≠ ['\n'] := by
  intro h
  have hmem : '\x60' ∈ entryLine margin name type description := by simp [entryLine]
  rw [h] at hmem
  exact absurd hmem (by decide)

theorem endsFull_paramLines (c : Catalog) (ps : List ParamDoc) : EndsFull (paramLines c ps) := by
  rw [paramLines]
  split
  · exact endsFull_of_forall (by simp)
  have hhead : EndsFull [['\n'], "    Parameters:\n".toList] := by decide
  refine hhead.append (endsFull_of_forall fun l hl => ?_)
  obtain ⟨block, hblock, hl⟩ := List.mem_flatten.mp hl
  obtain ⟨name, -, p, -, rfl⟩ := exists_of_mem_zipWith hblock
  rcases List.mem_cons.mp hl with rfl | hl
  · exact entryLine_ne _ _ _ _
  · obtain ⟨name, -, v, -, rfl⟩ := exists_of_mem_zipWith hl
    exact entryLine_ne _ _ _ _

theorem endsFull_returnLines (rs : List ReturnDoc) : EndsFull (returnLines rs) := by
  rw [returnLines]
  split
  · exact endsFull_of_forall (by simp)
  have hhead : EndsFull [['\n'], "    Returns:\n".toList] := by decide
  refine hhead.append (endsFull_of_forall fun l hl => ?_)
  obtain ⟨r, -, rfl⟩ := List.mem_map.mp hl
  exact append_feed_ne (List.cons_ne_nil _ _)

/-- The note, if there is one, ends with a blank line. -/
def NoteEndsBlank (note : Option Text) : Prop := ∃ s ∈ note, ∃ l ∈ (bareLines s).getLast?, Text.isBlank l = true

theorem getLast?_append_noteLines (ha : EndsFull as) (note : Option Text) :
    (as ++ noteLines note).getLast? = some ['\n'] ↔ NoteEndsBlank note := by
  cases note with
  | none => exact iff_of_false (by rw [noteLines, List.append_nil]; exact ha) (by simp [NoteEndsBlank])
  | some s =>
    have hlines : as ++ noteLines (some s) = as ++ [['\n'], "    Note:\n".toList] ++
        (bareLines s).map fun line => if Text.isBlank line then ['\n'] else spaces 6 ++ line ++ ['\n'] := by
      simp [noteLines]
    have hends : NoteEndsBlank (some s) ↔ ∃ l ∈ (bareLines s).getLast?, Text.isBlank l = true := by simp [NoteEndsBlank]
    rw [hlines, List.getLast?_append, List.getLast?_map, hends]
    cases (bareLines s).getLast? with
    | none =>
      have hhead : EndsFull [['\n'], "    Note:\n".toList] := by decide
      exact iff_of_false (hhead.append_left (List.cons_ne_nil _ _) as) (by simp)
    | some l =>
      have hline : (if Text.isBlank l then ['\n'] else spaces 6 ++ l ++ ['\n']) = ['\n'] ↔ Text.isBlank l = true := by
        split
        · next h => exact iff_of_true rfl h
        · next h => exact iff_of_false (append_feed_ne (by simp [spaces])) h
      simpa using hline

theorem functionLines_eq_append (c : Catalog) (plugin : Text) (hf : f.IsTidy) :
    ∃ body, functionLines c plugin f = body ++ [['\n']] ∧ (body.getLast? = some ['\n'] ↔ NoteEndsBlank f.note) := by
  have hparts := (((endsFull_tagged (functionTitle_ne_nil f) (tagDefinition (functionTag plugin f))).append
    (endsFull_summaryLines hf)).append (endsFull_deprecatedLines f.deprecated)).append (endsFull_paramLines c f.params)
  exact ⟨_, rfl, getLast?_append_noteLines (hparts.append (endsFull_returnLines f.returns)) f.note⟩

end Help

/-! ### Functions of a catalog -/

theorem DocBlock.isTidy_of_document? {block : List DocLine} {f g : FunctionDoc} (h : document? block f = some g) :
    g.IsTidy := by
  rw [document?] at h
  split at h
  · cases h
  · cases h
    intro l hl
    rw [dropBlankEnd, List.getLast?_reverse] at hl
    have hhead := List.head?_dropWhile_not Text.isBlank (block.foldl read { function := f }).function.summary.reverse
    rw [hl] at hhead
    exact hhead

theorem LuaSource.isTidy_of_mem_functions {s : Text} : ∀ f ∈ (ofText s).functions, f.IsTidy := by
  intro f hf
  obtain ⟨c, -, hf⟩ := List.mem_filterMap.mp hf
  obtain ⟨⟨n, text⟩, -, hf⟩ := Option.bind_eq_some_iff.mp hf
  obtain ⟨d, -, hf⟩ := Option.bind_eq_some_iff.mp hf
  exact DocBlock.isTidy_of_document? hf

namespace Catalog
open Disk

variable {c c' : Catalog} {d d' : Disk} {by' : Caller} {root : Path} {fs : List FunctionDoc}

/-- The functions that are added with a source are those that it documents. -/
theorem mem_files_of_addFiles {files : List SourceFile} (h : (c.addFiles files).on by' d = (.ok c', d')) :
    ∀ fs ∈ c'.files.values, fs ∈ c.files.values ∨ ∃ s, fs = (LuaSource.ofText s).functions := by
  induction files generalizing c d with
  | nil =>
    cases h
    exact fun fs hfs => .inl hfs
  | cons f files ih =>
    obtain ⟨s, d₁, -, hrest⟩ := Action.on_bind_eq_ok.mp h
    intro fs hfs
    rcases ih hrest fs hfs with hfs | hfs
    · rw [addSource_eq] at hfs
      exact (Dictionary.mem_values_insert hfs).imp_right fun h => ⟨s, h⟩
    · exact .inr hfs

theorem isTidy_of_ofDirectory (h : (ofDirectory root).on by' d = (.ok c, d)) :
    ∀ fs ∈ c.files.values, ∀ f ∈ fs, f.IsTidy := by
  obtain ⟨-, files, -, hadd⟩ := ofDirectory_eq_ok_iff.mp h
  intro fs hfs f hf
  rcases mem_files_of_addFiles hadd fs hfs with hfs | ⟨s, rfl⟩
  · cases hfs
  · exact LuaSource.isTidy_of_mem_functions f hf

/-- How functions are rendered. -/
structure AreRendered (c : Catalog) (fs : List FunctionDoc) : Prop where
  markdown : ∀ level, AreStored (Reference.lines c level fs)
  help : ∀ plugin, OneLine plugin → AreStored (Help.referenceLines c plugin fs)
  /-- One empty line comes behind each function. -/
  markdownBlock : ∀ level, ∀ f ∈ fs, ∃ body, Reference.functionLines c level f = body ++ [['\n']] ∧ EndsFull body
  /-- In the help file it may come behind another one, but only of a note. -/
  helpBlock : ∀ plugin, ∀ f ∈ fs, ∃ body, Help.functionLines c plugin f = body ++ [['\n']] ∧
    (body.getLast? = some ['\n'] ↔ Help.NoteEndsBlank f.note)
  /-- Without its last line the reference lacks one empty line. -/
  dropLast : ∀ level, fs ≠ [] → Reference.lines c level fs = (Reference.lines c level fs).dropLast ++ [['\n']] ∧
    EndsFull (Reference.lines c level fs).dropLast

/-- The functions of every file of a catalog are rendered line for line. -/
theorem areRendered_of_ofDirectory (h : (ofDirectory root).on by' d = (.ok c, d)) :
    ∀ fs ∈ c.files.values, AreRendered c fs := by
  intro fs hfs
  have hone := isOneLine_ofDirectory h
  have htidy := isTidy_of_ofDirectory h fs hfs
  refine ⟨fun level => ?_, fun plugin hplugin => ?_, fun level f hf => ?_, fun plugin f hf => ?_, fun level hne => ?_⟩
  · exact areStored_of_isWhole (Reference.isWhole_of_mem_lines hone level (hone.files fs hfs))
  · exact areStored_of_isWhole (Help.isWhole_of_mem_referenceLines hone (hone.files fs hfs) hplugin)
  · obtain ⟨body, hlines, -, hbody⟩ := Reference.functionLines_eq_append c level (htidy f hf)
    exact ⟨body, hlines, hbody⟩
  · exact Help.functionLines_eq_append c plugin (htidy f hf)
  · obtain ⟨body, hlines, hbody⟩ := Reference.lines_eq_append c level htidy hne
    rw [hlines, List.dropLast_concat]
    exact ⟨rfl, hbody⟩

/-- A list of parameters over several lines, a field that is inherited and found by another name, and a note that ends
    with blank lines. -/
theorem areRendered_of_ofDirectory_of_note :
    let text : Text := "---@class Base\n---@field key string|nil The key.\n---@class Opts: Base\n---@alias O Opts|nil\n\n" ++
      "--- Opens it.\n---@param opts O\n---@note First.\n---\n---\nfunction M.open(\n  opts\n) end\n"
    let d : Disk := ⟨[(["lua".toList], .dir), (["lua".toList, "m.lua".toList], .file (.text text))]⟩
    let f : FunctionDoc :=
      { name := "open", table := some "M", params := [⟨"opts", "O", []⟩], summary := ["Opens it."],
        note := some "First.\n\n".toList, line := 11 }
    let c : Catalog :=
      { files := ⟨[("m.lua", [f])], by decide⟩, aliases := ⟨[("O", "Opts|nil")], by decide⟩
        classes := ⟨[("Base", ⟨"Base", none, [⟨"key", "string|nil", "The key."⟩]⟩), ("Opts", ⟨"Opts", some "Base", []⟩)],
          by decide⟩ }
    (ofDirectory ⟨"/lua".toList⟩).on ⟨[], 1⟩ d = (.ok c, d) ∧ Help.NoteEndsBlank f.note ∧
      ∀ fs ∈ c.files.values, AreRendered c fs := by
  intro text d f c
  have h : (ofDirectory ⟨"/lua".toList⟩).on ⟨[], 1⟩ d = (.ok c, d) :=
    (onlyLooks_ofDirectory _).readsOnly.on_of_value? (by decide +kernel)
  exact ⟨h, ⟨_, rfl, [], rfl, rfl⟩, areRendered_of_ofDirectory h⟩

end Catalog
end PluginManual
