import PluginManual.Proofs.Reading

/-! What a line of documentation says of the function after it: a parameter, a returned value, a note or free text. A
    line with a tag is read by what follows the tag, and all other lines are free text. -/

namespace PluginManual
open LuaComment

/-- A line of documentation with a tag. -/
def isTagged (line : Text) : Bool := (docText? line).any fun s => s.trim.head? = some '@'

/-- The text of a line of documentation without a tag. One blank at its beginning is dropped, and all at its end. -/
def freeText? (line : Text) : Option Text := do
  let s ← docText? line
  if s.trim.head? = some '@' then none else some (Text.trimEnd (DocLine.without " " s))

def paramLine? (line : Text) : Option ParamDoc := (tagBody? "param" line).bind DocLine.param?

/-- A returned value. One without a type is none. -/
def returnLine? (line : Text) : Option ReturnDoc := (tagBody? "return" line).bind DocLine.returns?

def noteLine? (line : Text) : Option Text := tagBody? "note" line

namespace DocLine

def asText? : DocLine → Option Text
  | text s => some s
  | _ => none

def asParam? : DocLine → Option ParamDoc
  | param p => some p
  | _ => none

def asReturn? : DocLine → Option ReturnDoc
  | returns r => some r
  | _ => none

def asNote? : DocLine → Option Text
  | note s => some s
  | _ => none

theorem asText?_ofTag (s : Text) : (ofTag s).asText? = none := by
  rw [view_ofTag asText? rfl]
  simp only [asText?, Option.bind_fun_none, ite_self]

theorem asParam?_ofTag (s : Text) :
    (ofTag s).asParam? = if s.splitWord.1 = "param" then param? s.splitWord.2 else none := by
  rw [view_ofTag asParam? rfl]
  simp only [asParam?, Option.bind_fun_some, Option.bind_fun_none, ite_self]

theorem asReturn?_ofTag (s : Text) :
    (ofTag s).asReturn? = if s.splitWord.1 = "return" then returns? s.splitWord.2 else none := by
  rw [view_ofTag asReturn? rfl]
  simp only [asReturn?, Option.bind_fun_some, Option.bind_fun_none, ite_self]
  rw [ite_tag (by rintro htag; rw [htag]; decide)]

theorem asNote?_ofTag (s : Text) : (ofTag s).asNote? = if s.splitWord.1 = "note" then some s.splitWord.2 else none := by
  rw [view_ofTag asNote? rfl]
  simp only [asNote?, Option.bind_fun_none, ite_self]
  iterate 2 rw [ite_tag (by rintro htag; rw [htag]; decide)]

end DocLine

/-! ### Lines -/

variable {line s : Text}

theorem paramLine?_eq (line : Text) : paramLine? line = (docLine? line).bind DocLine.asParam? :=
  tagBody?_bind (fun _ => rfl) DocLine.asParam?_ofTag line

theorem returnLine?_eq (line : Text) : returnLine? line = (docLine? line).bind DocLine.asReturn? :=
  tagBody?_bind (fun _ => rfl) DocLine.asReturn?_ofTag line

theorem noteLine?_eq (line : Text) : noteLine? line = (docLine? line).bind DocLine.asNote? := by
  have hbind : (tagBody? "note" line).bind some = (docLine? line).bind DocLine.asNote? :=
    tagBody?_bind (fun _ => rfl) DocLine.asNote?_ofTag line
  rwa [Option.bind_fun_some] at hbind

theorem freeText?_eq (line : Text) : freeText? line = (docLine? line).bind DocLine.asText? := by
  cases hs : docText? line with
  | none =>
    rw [freeText?, docLine?, hs]
    rfl
  | some s =>
    rw [docLine?_of_docText? hs, Option.bind_some, freeText?, hs, DocLine.ofText]
    show (if s.trim.head? = some '@' then none else some _) = _
    cases htrim : s.trim with
    | nil => rfl
    | cons c t =>
      by_cases hc : c = '@'
      · subst hc
        rw [List.head?_cons, if_pos rfl]
        exact (DocLine.asText?_ofTag t).symm
      · rw [List.head?_cons, if_neg (by simpa using hc)]
        split
        · next h => exact absurd (List.cons.inj h).1 hc
        · rfl

/-- The lines without a tag are those of free text. -/
theorem isTagged_iff (h : isDoc line = true) : isTagged line = true ↔ freeText? line = none := by
  obtain ⟨s, hs, -⟩ := docLine?_of_isDoc h
  rw [isTagged, freeText?, hs]
  show _ = true ↔ (if s.trim.head? = some '@' then none else _) = _
  simp

/-! ### Blocks -/

theorem filterMap_block {α : Type} {view : DocLine → Option α} {see : Text → Option α}
    (hsee : ∀ line, see line = (docLine? line).bind view) (run : List Text) :
    (block run).filterMap view = run.filterMap see := by
  rw [block, List.filterMap_filterMap]
  exact List.filterMap_congr fun line _ => (hsee line).symm

/-- A function that is not hidden is what the whole block says of it, without the blank lines at the end of its summary. -/
theorem DocBlock.eq_of_document? {ls : List DocLine} {f g : FunctionDoc} (h : document? ls f = some g) :
    let read := (ls.foldl read { function := f }).function
    g = { read with summary := dropBlankEnd read.summary } := by
  rw [document?] at h
  split at h
  · cases h
  · exact (Option.some.inj h).symm

end PluginManual
