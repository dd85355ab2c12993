import PluginManual.Help.File
import PluginManual.Help.Reference
import PluginManual.Proofs.Rendering

/-! The lines of a help file. The reference of functions in it consists of whole lines, as the one in Markdown does. -/

namespace PluginManual
open Text

/-- The texts in the title of the function have no line feed. -/
structure FunctionDoc.HasOneLineTitle (f : FunctionDoc) : Prop where
  name : OneLine f.name
  params : ∀ p ∈ f.params, OneLine p.name
  returns : ∀ r ∈ f.returns, OneLine r.type

theorem FunctionDoc.IsOneLine.title {f : FunctionDoc} (h : f.IsOneLine) : f.HasOneLineTitle :=
  ⟨h.name, fun p hp => (h.params p hp).name, fun r hr => (h.returns r hr).type⟩

namespace Help

variable {c : Catalog} {f : FunctionDoc} {plugin : Text}

/-! ### Tags at the right margin -/

/-- The lines are a text and a tag that ends at the right margin: one line as wide as the file if there is room for
    both with a space between them, and else two, the tag first. -/
inductive IsAligned (left tag : Text) : List Text → Prop where
  | beside (n : Nat) (hfits : left.length + tag.length < width) (hn : 0 < n)
    (hwidth : (left ++ spaces n ++ tag).length = width) : IsAligned left tag [left ++ spaces n ++ tag ++ ['\n']]
  /-- A tag that is too long begins at the left margin. -/
  | above (n : Nat) (hlong : width ≤ left.length + tag.length) (hwidth : (spaces n ++ tag).length = max width tag.length) :
    IsAligned left tag [spaces n ++ tag ++ ['\n'], left ++ ['\n']]

variable {left tag : Text} {block : List Text}

theorem isAligned_tagged (left tag : Text) : IsAligned left tag (tagged left tag) := by
  rw [tagged]
  split
  · next h =>
    refine .beside _ h (by omega) ?_
    rw [List.length_append, List.length_append, length_spaces]
    omega
  · next h =>
    refine .above (width - tag.length) (by omega) ?_
    rw [List.length_append, length_spaces]
    omega

/-- The boundary: the texts have 79 characters together, then 80, and then the tag has 81. -/
example : [tagged "Use" (spaces 76), tagged "Uses" (spaces 76), tagged [] (spaces 81)].map (·.map List.length) =
    [[81], [81, 5], [82, 1]] := by decide +kernel

/-- No other lines are so. -/
theorem isAligned_iff : IsAligned left tag block ↔ block = tagged left tag := by
  constructor
  · intro h
    cases h with
    | beside n hfits hn hwidth =>
      rw [List.length_append, List.length_append, length_spaces] at hwidth
      rw [tagged, if_pos hfits, show n = width - (left.length + tag.length) by omega]
    | above n hlong hwidth =>
      rw [List.length_append, length_spaces] at hwidth
      rw [tagged, if_neg (Nat.not_lt.mpr hlong), padStart, show n = width - tag.length by omega]
  · rintro rfl
    exact isAligned_tagged left tag

/-! ### Whole lines -/

theorem oneLine_tagDefinition (h : OneLine tag) : OneLine (tagDefinition tag) := by simp [tagDefinition, h]

theorem IsAligned.isWhole (h : IsAligned left tag block) (hleft : OneLine left) (htag : OneLine tag) :
    ∀ l ∈ block, IsWhole l := by
  cases h with
  | beside n =>
    refine List.forall_mem_singleton.mpr (isWhole_append ?_)
    exact oneLine_append.mpr ⟨oneLine_append.mpr ⟨hleft, oneLine_spaces n⟩, htag⟩
  | above n =>
    refine List.forall_mem_cons.mpr ⟨isWhole_append ?_, List.forall_mem_singleton.mpr (isWhole_append hleft)⟩
    exact oneLine_append.mpr ⟨oneLine_spaces n, htag⟩

theorem oneLine_placeholder {name : Text} (h : OneLine name) : OneLine (placeholder name) := by simp [placeholder, h]

theorem oneLine_functionTitle (h : f.HasOneLineTitle) : OneLine (functionTitle f) := by
  have hparams : OneLine (join ", " (f.params.map fun p => placeholder p.name)) := by
    refine oneLine_join (by decide) fun s hs => ?_
    obtain ⟨p, hp, rfl⟩ := List.mem_map.mp hs
    exact oneLine_placeholder (h.params p hp)
  have hcall : OneLine (f.name ++ '(' :: join ", " (f.params.map fun p => placeholder p.name) ++ [')']) :=
    oneLine_append.mpr ⟨oneLine_append.mpr ⟨h.name, oneLine_cons.mpr ⟨by decide, hparams⟩⟩, by decide⟩
  rw [functionTitle]
  cases ht : f.returnTypes with
  | none => exact hcall
  | some types =>
    exact oneLine_append.mpr ⟨oneLine_append.mpr ⟨hcall, by decide⟩, Reference.oneLine_returnTypes h.returns types ht⟩

theorem oneLine_functionTag (hplugin : OneLine plugin) (hname : OneLine f.name) : OneLine (functionTag plugin f) :=
  oneLine_append.mpr ⟨hplugin, oneLine_cons.mpr ⟨by decide, hname⟩⟩

theorem isWhole_entryLine {name type description : Text} (margin : Nat) (hname : OneLine name) (htype : OneLine type)
    (hdescription : OneLine description) : IsWhole (entryLine margin name type description) := by
  refine isWhole_append (oneLine_append.mpr ⟨?_, ?_⟩)
  · simp [hname, htype, oneLine_spaces]
  · split
    · exact oneLine_nil
    · exact oneLine_cons.mpr ⟨by decide, hdescription⟩

theorem oneLine_of_mem_placeholders {names : List Text} (h : ∀ name ∈ names, OneLine name) :
    ∀ s ∈ placeholders names, OneLine s := by
  intro s hs
  obtain ⟨name, hname, rfl⟩ := List.mem_map.mp hs
  exact oneLine_padEnd (oneLine_placeholder (h name hname)) _

theorem isWhole_of_mem_summaryLines {summary : List Text} (h : ∀ s ∈ summary, OneLine s) :
    ∀ l ∈ summaryLines summary, IsWhole l := by
  intro l hl
  obtain ⟨s, hs, rfl⟩ := List.mem_map.mp hl
  split
  · exact isWhole_feed
  · exact isWhole_append (oneLine_append.mpr ⟨oneLine_spaces 4, h s hs⟩)

theorem isWhole_of_mem_deprecatedLines {deprecated : Option Text} (h : ∀ s ∈ deprecated, OneLine s) :
    ∀ l ∈ deprecatedLines deprecated, IsWhole l := by
  intro l hl
  cases deprecated with
  | none => cases hl
  | some reason =>
    rcases List.mem_cons.mp hl with rfl | hl
    · exact isWhole_feed
    · rw [List.mem_singleton.mp hl]
      split
      · exact isWhole_append (s := "    Deprecated") (by decide)
      · exact isWhole_append (oneLine_append.mpr ⟨by decide, h reason rfl⟩)

theorem isWhole_of_mem_fieldLines (hc : c.IsOneLine) (type : Text) : ∀ l ∈ fieldLines c type, IsWhole l := by
  intro l hl
  obtain ⟨name, hname, v, hv, rfl⟩ := exists_of_mem_zipWith hl
  have hfields := hc.fields type
  refine isWhole_entryLine 10 (oneLine_of_mem_placeholders (fun s hs => ?_) name hname) (hfields v hv).type
    (hfields v hv).description
  obtain ⟨v, hv, rfl⟩ := List.mem_map.mp hs
  exact (hfields v hv).name

theorem isWhole_of_mem_paramLines (hc : c.IsOneLine) {ps : List ParamDoc} (hps : ∀ p ∈ ps, p.IsOneLine) :
    ∀ l ∈ paramLines c ps, IsWhole l := by
  intro l hl
  rw [paramLines] at hl
  split at hl
  · cases hl
  rcases List.mem_cons.mp hl with rfl | hl
  · exact isWhole_feed
  rcases List.mem_cons.mp hl with rfl | hl
  · exact isWhole_append (s := "    Parameters:") (by decide)
  obtain ⟨block, hblock, hl⟩ := List.mem_flatten.mp hl
  obtain ⟨name, hname, p, hp, rfl⟩ := exists_of_mem_zipWith hblock
  have hname : OneLine name := by
    refine oneLine_of_mem_placeholders (fun s hs => ?_) name hname
    obtain ⟨p, hp, rfl⟩ := List.mem_map.mp hs
    exact (hps p hp).name
  rcases List.mem_cons.mp hl with rfl | hl
  · exact isWhole_entryLine 6 hname (hps p hp).type (hps p hp).description
  · exact isWhole_of_mem_fieldLines hc p.type l hl

theorem isWhole_returnLine {r : ReturnDoc} (h : r.IsOneLine) : IsWhole (returnLine r) := by
  refine isWhole_append (oneLine_append.mpr ⟨oneLine_spaces 6, oneLine_join (by decide) fun s hs => ?_⟩)
  rcases List.mem_append.mp hs with hs | hs
  · rcases List.mem_cons.mp hs with rfl | hs
    · simp [h.type]
    · exact h.name s (Option.mem_toList.mp hs)
  · split at hs
    · cases hs
    · exact List.mem_singleton.mp hs ▸ h.description

theorem isWhole_of_mem_returnLines {rs : List ReturnDoc} (hrs : ∀ r ∈ rs, r.IsOneLine) :
    ∀ l ∈ returnLines rs, IsWhole l := by
  intro l hl
  rw [returnLines] at hl
  split at hl
  · cases hl
  rcases List.mem_cons.mp hl with rfl | hl
  · exact isWhole_feed
  rcases List.mem_cons.mp hl with rfl | hl
  · exact isWhole_append (s := "    Returns:") (by decide)
  · obtain ⟨r, hr, rfl⟩ := List.mem_map.mp hl
    exact isWhole_returnLine (hrs r hr)

theorem isWhole_of_mem_noteLines (note : Option Text) : ∀ l ∈ noteLines note, IsWhole l := by
  intro l hl
  cases note with
  | none => cases hl
  | some note =>
    rcases List.mem_cons.mp hl with rfl | hl
    · exact isWhole_feed
    rcases List.mem_cons.mp hl with rfl | hl
    · exact isWhole_append (s := "    Note:") (by decide)
    obtain ⟨s, hs, rfl⟩ := List.mem_map.mp hl
    split
    · exact isWhole_feed
    · exact isWhole_append (oneLine_append.mpr ⟨oneLine_spaces 6, oneLine_of_mem_bareLines s hs⟩)

theorem isWhole_of_mem_functionLines (hc : c.IsOneLine) (hf : f.IsOneLine) (hplugin : OneLine plugin) :
    ∀ l ∈ functionLines c plugin f, IsWhole l := by
  intro l hl
  simp only [functionLines, List.mem_append] at hl
  rcases hl with (((((hl | hl) | hl) | hl) | hl) | hl) | hl
  · have htag := oneLine_tagDefinition (oneLine_functionTag hplugin hf.name)
    exact (isAligned_tagged _ _).isWhole (oneLine_functionTitle hf.title) htag l hl
  · exact isWhole_of_mem_summaryLines hf.summary l hl
  · exact isWhole_of_mem_deprecatedLines hf.deprecated l hl
  · exact isWhole_of_mem_paramLines hc hf.params l hl
  · exact isWhole_of_mem_returnLines hf.returns l hl
  · exact isWhole_of_mem_noteLines f.note l hl
  · exact List.mem_singleton.mp hl ▸ isWhole_feed

theorem isWhole_of_mem_referenceLines (hc : c.IsOneLine) {fs : List FunctionDoc} (hfs : ∀ f ∈ fs, f.IsOneLine)
    (hplugin : OneLine plugin) : ∀ l ∈ referenceLines c plugin fs, IsWhole l := by
  intro l hl
  rcases List.mem_cons.mp hl with rfl | hl
  · exact isWhole_feed
  · obtain ⟨f, hf, hl⟩ := List.mem_flatMap.mp hl
    exact isWhole_of_mem_functionLines hc (hfs f hf) hplugin l hl

end Help

/-! ### Sections -/

namespace HelpFile
open Help

variable {h : HelpFile} {s : HelpSection}

/-- The body of a section stands behind the heading of the section. -/
theorem lines_eq_append (hs : s ∈ h.sections) :
    ∃ front back, h.lines = front ++ tagged s.name.upper (tagDefinition s.tag) ++ (s.body ++ back) := by
  obtain ⟨before, after, hsections⟩ := List.append_of_mem hs
  refine ⟨h.header ++ [rule '-'] ++ tagged "CONTENTS" (tagDefinition (h.plugin ++ "-contents")) ++ [['\n']] ++
    contentsEntries 1 h.sections ++ [['\n']] ++ before.flatMap sectionLines ++ [rule '-'],
    ['\n'] :: after.flatMap sectionLines ++ [rule '=', "vim:tw=80:ts=2:ft=help:norl:syntax=help:\n".toList], ?_⟩
  have hbodies : h.sections.flatMap sectionLines =
      before.flatMap sectionLines ++ (sectionLines s ++ after.flatMap sectionLines) := by
    rw [hsections, List.flatMap_append, List.flatMap_cons]
  rw [lines, hbodies, sectionLines]
  simp only [List.append_assoc, List.cons_append, List.nil_append]

end HelpFile
end PluginManual
