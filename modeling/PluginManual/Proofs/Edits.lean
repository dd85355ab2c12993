import PluginManual.Proofs.Sections

/-! A document that is edited call by call. Whatever the calls put in, and whether or not they succeed, the
    lines of the document stay the lines of its text; so a document that is saved is loaded as it was. -/

namespace PluginManual
namespace Text

/-! ### Lines one by one -/

theorem isWhole_iff {line : Text} : IsWhole line ↔ '\n' ∉ line.dropLast ∧ line.getLast? = some '\n' := by
  constructor
  · rintro ⟨s, hs, rfl⟩
    simpa using hs
  · rintro ⟨hs, hlast⟩
    obtain ⟨s, rfl⟩ := List.getLast?_eq_some_iff.mp hlast
    exact isWhole_append (by simpa using hs)

/-- A list is that of the lines of a text exactly if no line is empty, line feeds stand at the end of lines
    only, and all lines but the last end with one. -/
theorem areLines_iff {ls : List Text} :
    AreLines ls ↔ ∀ i line, ls[i]? = some line →
      line ≠ [] ∧ '\n' ∉ line.dropLast ∧ (i + 1 < ls.length → line.getLast? = some '\n') := by
  induction ls with
  | nil => simp [AreLines]
  | cons l ls ih =>
    rw [areLines_cons_iff]
    constructor
    · rintro (⟨hl, hls⟩ | ⟨rfl, hne, hmem⟩) i line hi
      · cases i with
        | zero =>
          obtain rfl : l = line := by simpa using hi
          obtain ⟨hdrop, hlast⟩ := isWhole_iff.mp hl
          refine ⟨?_, hdrop, fun _ => hlast⟩
          rintro rfl
          cases hlast
        | succ i =>
          obtain ⟨hne, hdrop, hlast⟩ := ih.mp hls i line hi
          exact ⟨hne, hdrop, fun hlt => hlast (by simpa using hlt)⟩
      · cases i with
        | zero =>
          obtain rfl : l = line := by simpa using hi
          exact ⟨hne, fun hc => hmem ((List.dropLast_prefix l).subset hc), fun hlt => by simp at hlt⟩
        | succ i => simp at hi
    · intro h
      obtain ⟨hne, hdrop, hlast⟩ := h 0 l rfl
      cases ls with
      | nil =>
        by_cases hfeed : l.getLast? = some '\n'
        · exact .inl ⟨isWhole_iff.mpr ⟨hdrop, hfeed⟩, rfl⟩
        · refine .inr ⟨rfl, hne, fun hmem => ?_⟩
          -- A line feed in the line can only be its last character.
          rw [← List.dropLast_concat_getLast hne, List.mem_append, List.mem_singleton] at hmem
          rcases hmem with hmem | hmem
          · exact hdrop hmem
          · exact hfeed (by rw [List.getLast?_eq_some_getLast hne, hmem])
      | cons k ls =>
        refine .inl ⟨isWhole_iff.mpr ⟨hdrop, hlast (by simp)⟩, ih.mpr fun i line hi => ?_⟩
        obtain ⟨hne, hdrop, hlast⟩ := h (i + 1) line hi
        exact ⟨hne, hdrop, fun hlt => hlast (by simpa using hlt)⟩

end Text

namespace Document
open Files

/-! ### Edits -/

/-- A call that replaces the lines between two markers. -/
structure Edit where
  opening : Marker
  closing : Marker
  new : List Text
  multiplicity : Multiplicity

/-- What a call comes to, and the document as it then stands: a call that fails leaves it as it was. -/
def edit (doc : Document) (e : Edit) : Except DocumentError Region × Document :=
  match doc.replace e.opening e.closing e.new e.multiplicity with
  | .ok (r, doc') => (.ok r, doc')
  | .error fault => (.error fault, doc)

def edits (doc : Document) (es : List Edit) : Document := es.foldl (fun doc e => (doc.edit e).2) doc

variable {doc doc' : Document} {e : Edit} {opening closing : Marker} {m : Multiplicity} {new : List Text}
  {r : Region} {fault : DocumentError}

/-- A replacement fails where there is no region to replace, and for the same reason. -/
theorem replace_eq_error_iff :
    doc.replace opening closing new m = .error fault ↔ doc.locate opening closing m = .error fault := by
  rw [replace, locate, Region.replace]
  cases Region.locate opening.isAt closing.isAt m doc.lines with
  | ok r => constructor <;> intro h <;> cases h
  | error f =>
    show Except.error (doc.explain opening closing f) = _ ↔ Except.error (doc.explain opening closing f) = _
    rw [Except.error.injEq, Except.error.injEq]

theorem edit_cases (doc : Document) (e : Edit) :
    (∃ r doc', doc.replace e.opening e.closing e.new e.multiplicity = .ok (r, doc') ∧ doc.edit e = (.ok r, doc')) ∨
      ∃ fault, doc.locate e.opening e.closing e.multiplicity = .error fault ∧ doc.edit e = (.error fault, doc) := by
  rw [edit]
  cases h : doc.replace e.opening e.closing e.new e.multiplicity with
  | ok result => exact .inl ⟨result.1, result.2, rfl, rfl⟩
  | error fault => exact .inr ⟨fault, replace_eq_error_iff.mp h, rfl⟩

theorem replace_keeps (h : doc.replace opening closing new m = .ok (r, doc')) :
    doc'.path = doc.path ∧ (Text.AreLines doc.lines → Text.AreLines doc'.lines) := by
  obtain ⟨e, hl, -, -, rfl⟩ := replace_eq_ok_iff.mp h
  exact ⟨rfl, fun hlines => areLines_fill (hl ▸ hlines) Region.isWhole_of_mem_normalLines⟩

theorem edit_keeps (doc : Document) (e : Edit) :
    (doc.edit e).2.path = doc.path ∧ (Text.AreLines doc.lines → Text.AreLines (doc.edit e).2.lines) := by
  rcases edit_cases doc e with ⟨r, doc', hreplace, hedit⟩ | ⟨fault, -, hedit⟩
  · rw [hedit]
    exact replace_keeps hreplace
  · rw [hedit]
    exact ⟨rfl, id⟩

theorem edits_keeps (doc : Document) (es : List Edit) :
    (doc.edits es).path = doc.path ∧ (Text.AreLines doc.lines → Text.AreLines (doc.edits es).lines) := by
  induction es generalizing doc with
  | nil => exact ⟨rfl, id⟩
  | cons e es ih =>
    obtain ⟨hpath, hlines⟩ := edit_keeps doc e
    obtain ⟨hpath', hlines'⟩ := ih (doc.edit e).2
    exact ⟨hpath'.trans hpath, fun h => hlines' (hlines h)⟩

/-- What is saved is loaded again, by whoever works in the same directory. -/
theorem load_of_save {by' by'' : Caller} {d d' : Disk} {changed : Bool} (hlines : Text.AreLines doc.lines)
    (hby : by''.workDir = by'.workDir) (h : doc.save.on by' d = (.ok changed, d')) :
    (load doc.path).on by'' d' = (.ok doc, d') := by
  have hread := writeIfChanged_read (Action.on_mapError_eq_ok.mp h)
  exact load_eq_ok_iff.mpr ⟨rfl, rfl, (HasLines.of_read hlines hread).again hby⟩

/-- What is to hold of a document at any time. -/
structure IsFaithful (doc : Document) : Prop where
  /-- The lines are those of the text. -/
  lines : doc.text.lines = doc.lines
  /-- That is, no line is empty, line feeds stand at the end of lines only, and all lines but the last end
      with one. -/
  line : ∀ i line, doc.lines[i]? = some line →
    line ≠ [] ∧ '\n' ∉ line.dropLast ∧ (i + 1 < doc.lines.length → line.getLast? = some '\n')
  /-- A call fails if the region is not found, and then leaves the document as it is. -/
  fails : ∀ e fault, (doc.edit e).1 = .error fault →
    doc.locate e.opening e.closing e.multiplicity = .error fault ∧ (doc.edit e).2 = doc
  loads : ∀ by' by'' d d' changed, by''.workDir = by'.workDir → doc.save.on by' d = (.ok changed, d') →
    (load doc.path).on by'' d' = (.ok doc, d')

theorem isFaithful_of_areLines (h : Text.AreLines doc.lines) : IsFaithful doc where
  lines := h
  line := Text.areLines_iff.mp h
  fails e fault hfault := by
    rcases edit_cases doc e with ⟨r, doc', -, hedit⟩ | ⟨fault', hlocate, hedit⟩
    · rw [hedit] at hfault
      cases hfault
    · rw [hedit] at hfault ⊢
      cases hfault
      exact ⟨hlocate, rfl⟩
  loads _ _ _ _ _ hby hsave := load_of_save h hby hsave

/-- A document made of a text holds the text, and stays faithful whatever is done to it. -/
theorem edits_isFaithful (p : Path) (s : Text) (es : List Edit) :
    (ofText p s).text = s ∧ ((ofText p s).edits es).path = p ∧ ((ofText p s).edits es).IsFaithful := by
  obtain ⟨hpath, hlines⟩ := edits_keeps (ofText p s) es
  exact ⟨Text.flatten_lines s, hpath, isFaithful_of_areLines (hlines (Text.areLines_lines s))⟩

end Document
end PluginManual
