import PluginManual.Proofs.HelpLines
import PluginManual.Update
import Mathlib.Data.List.Nodup

/-! The tags of a help file. The heading of a function defines a tag that is made of the name of the plugin and that of
    the function; the table that holds the function is no part of it. -/

namespace PluginManual

namespace Help

variable {f : FunctionDoc} {plugin title tag line : Text} {lines : List Text}

/-! ### Places of tags -/

/-- The line defines the tag: it stands between blanks, or where the line begins. -/
def Defines (tag line : Text) : Prop :=
  ∃ left right, line = left ++ tagDefinition tag ++ right ∧ (∀ c ∈ left.getLast?, c = ' ') ∧
    ∃ c ∈ right.head?, isBlank c = true

/-- The lines begin with a title and a tag, with the tag at the right margin. -/
inductive HasHeading (title tag : Text) : List Text → Prop where
  | beside (n : Nat) (rest : List Text) (hn : 0 < n) (hwidth : title.length + n + tag.length = width) :
      HasHeading title tag ((title ++ Text.spaces n ++ tag ++ ['\n']) :: rest)
  /-- The two do not fit into one line. -/
  | above (n : Nat) (rest : List Text) (hn : n + tag.length = max width tag.length)
      (hlong : width ≤ title.length + tag.length) :
      HasHeading title tag ((Text.spaces n ++ tag ++ ['\n']) :: (title ++ ['\n']) :: rest)

theorem IsAligned.hasHeading {block : List Text} (h : IsAligned title tag block) (rest : List Text) :
    HasHeading title tag (block ++ rest) := by
  cases h with
  | beside n hfits hn hwidth => exact .beside n rest hn (by simpa [Nat.add_assoc] using hwidth)
  | above n hlong hwidth => exact .above n rest (by simpa using hwidth) hlong

theorem hasHeading_tagged (title tag : Text) (rest : List Text) : HasHeading title tag (tagged title tag ++ rest) :=
  (isAligned_tagged title tag).hasHeading rest

theorem getLast?_append_spaces (left : Text) (n : Nat) (hn : 0 < n) : (left ++ Text.spaces n).getLast? = some ' ' := by
  obtain ⟨n, rfl⟩ := Nat.exists_eq_succ_of_ne_zero hn.ne'
  rw [Text.spaces, List.replicate_succ', ← List.append_assoc, List.getLast?_concat]

theorem defines_of_left (left : Text) (hleft : ∀ c ∈ left.getLast?, c = ' ') :
    Defines tag (left ++ tagDefinition tag ++ ['\n']) := ⟨left, ['\n'], rfl, hleft, '\n', rfl, by decide⟩

theorem HasHeading.defines (h : HasHeading title (tagDefinition tag) lines) : ∃ line ∈ lines.take 1, Defines tag line := by
  cases h with
  | beside n rest hn =>
    refine ⟨_, List.mem_singleton_self _, defines_of_left _ ?_⟩
    simp [getLast?_append_spaces title n hn]
  | above n rest =>
    refine ⟨_, List.mem_singleton_self _, defines_of_left _ fun c hc => ?_⟩
    exact List.eq_of_mem_replicate (List.mem_of_mem_getLast? hc)

theorem exists_defines_tagged (title tag : Text) : ∃ line ∈ tagged title (tagDefinition tag), Defines tag line := by
  obtain ⟨line, hline, h⟩ := (hasHeading_tagged title (tagDefinition tag) []).defines
  exact ⟨line, by simpa using List.mem_of_mem_take hline, h⟩

/-! ### Tags of functions -/

/-- Each function has lines of its own, the tag in the first of them. -/
theorem exists_blocks (c : Catalog) (plugin : Text) (fs : List FunctionDoc) :
    ∃ blocks, referenceLines c plugin fs = ['\n'] :: blocks.flatten ∧
      List.Forall₂ (fun f block => HasHeading (functionTitle f) (tagDefinition (functionTag plugin f)) block) fs blocks := by
  refine ⟨fs.map (functionLines c plugin), rfl, ?_⟩
  rw [List.forall₂_map_right_iff, List.forall₂_same]
  intro f _
  simp only [functionLines, List.append_assoc]
  exact hasHeading_tagged _ _ _

theorem exists_defines_functionTag (c : Catalog) (plugin : Text) {fs : List FunctionDoc} (hf : f ∈ fs) :
    ∃ line ∈ referenceLines c plugin fs, Defines (functionTag plugin f) line := by
  obtain ⟨line, hline, h⟩ := exists_defines_tagged (functionTitle f) (functionTag plugin f)
  refine ⟨line, List.mem_cons_of_mem _ (List.mem_flatMap.mpr ⟨f, hf, ?_⟩), h⟩
  simp only [functionLines, List.mem_append]
  tauto

theorem nodup_tags_iff (plugin : Text) (fs : List FunctionDoc) :
    (fs.map fun f => tagDefinition (functionTag plugin f)).Nodup ↔ (fs.map (·.name)).Nodup := by
  have hinj : Function.Injective fun name : Text => tagDefinition (plugin ++ '.' :: name) := by
    intro a b h
    simpa [tagDefinition] using h
  rw [← List.nodup_map_iff hinj (l := fs.map (·.name)), List.map_map]
  rfl

end Help

/-! ### Tags of the file -/

namespace HelpFile
open Help

variable {h : HelpFile} {line : Text}

def nameTags (h : HelpFile) : List Text := [h.plugin.capitalize, h.plugin, h.plugin ++ ".nvim"]

/-- The tags besides those in the bodies of the sections. -/
def frameTags (h : HelpFile) : List Text :=
  h.fileName :: h.nameTags ++ (h.plugin ++ "-contents") :: h.sections.map (·.tag)

theorem mem_lines_of_header (hl : line ∈ h.header) : line ∈ h.lines := by
  simp only [lines, List.mem_append]
  tauto

theorem mem_lines_of_contents (hl : line ∈ tagged "CONTENTS" (tagDefinition (h.plugin ++ "-contents"))) :
    line ∈ h.lines := by
  simp only [lines, List.mem_append]
  tauto

/-- The second line of the file defines three tags. -/
theorem defines_nameTags (h : HelpFile) {tag : Text} (htag : tag ∈ h.nameTags) : ∃ line ∈ h.header, Defines tag line := by
  have hends : ∀ left : Text, ∀ c ∈ (left ++ [' ']).getLast?, c = ' ' := by simp
  refine ⟨_, List.mem_cons_of_mem _ (List.mem_singleton_self _), ?_⟩
  simp only [nameTags, List.mem_cons, List.not_mem_nil, or_false] at htag
  rcases htag with rfl | rfl | rfl
  · exact ⟨[], ' ' :: (tagDefinition h.plugin ++ ' ' :: tagDefinition (h.plugin ++ ".nvim") ++ ['\n']),
      by simp [Text.join], by simp, ' ', rfl, by decide⟩
  · exact ⟨tagDefinition h.plugin.capitalize ++ [' '], ' ' :: tagDefinition (h.plugin ++ ".nvim") ++ ['\n'],
      by simp [Text.join], hends _, ' ', rfl, by decide⟩
  · exact ⟨tagDefinition h.plugin.capitalize ++ ' ' :: tagDefinition h.plugin ++ [' '], ['\n'],
      by simp [Text.join], hends _, '\n', rfl, by decide⟩

theorem exists_defines (h : HelpFile) {tag : Text} (htag : tag ∈ h.frameTags) : ∃ line ∈ h.lines, Defines tag line := by
  rw [frameTags, List.mem_append, List.mem_cons, List.mem_cons, List.mem_map] at htag
  rcases htag with (rfl | hname) | rfl | ⟨s, hs, rfl⟩
  · exact ⟨_, mem_lines_of_header List.mem_cons_self, defines_of_left [] (by simp)⟩
  · obtain ⟨line, hline, hdefines⟩ := h.defines_nameTags hname
    exact ⟨line, mem_lines_of_header hline, hdefines⟩
  · obtain ⟨line, hline, hdefines⟩ := exists_defines_tagged "CONTENTS" (h.plugin ++ "-contents")
    exact ⟨line, mem_lines_of_contents hline, hdefines⟩
  · obtain ⟨line, hline, hdefines⟩ := exists_defines_tagged s.name.upper s.tag
    obtain ⟨front, back, hlines⟩ := lines_eq_append hs
    exact ⟨line, hlines ▸ List.mem_append_left _ (List.mem_append_right _ hline), hdefines⟩

theorem body_infix_lines {s : HelpSection} (hs : s ∈ h.sections) : s.body <:+: h.lines := by
  obtain ⟨front, back, hlines⟩ := lines_eq_append hs
  exact ⟨front ++ tagged s.name.upper (tagDefinition s.tag), back, by rw [hlines, List.append_assoc]⟩

end HelpFile

namespace Update
open Help

/-- Which tags the help file defines for its functions. -/
structure AreTagged (s : Settings) (fs : List FunctionDoc) (reference : List Text) (h : HelpFile) : Prop where
  within : reference <:+: h.lines
  headings : ∃ blocks, reference = ['\n'] :: blocks.flatten ∧
    List.Forall₂ (fun f block => HasHeading (functionTitle f) (tagDefinition (functionTag s.plugin f)) block) fs blocks
  defined : ∀ f ∈ fs, ∃ line ∈ reference, Defines (functionTag s.plugin f) line
  /-- They differ as the names of the functions do. -/
  distinct : (fs.map fun f => tagDefinition (functionTag s.plugin f)).Nodup ↔ (fs.map (·.name)).Nodup
  frame : ∀ tag ∈ h.frameTags, ∃ line ∈ h.lines, Defines tag line
  clash : ∀ f ∈ fs, functionTag s.plugin f ∈ h.frameTags ↔
    f.name = "nvim".toList ∨ functionTag s.plugin f = s.helpFileName ∨ functionTag s.plugin f = s.plugin.capitalize

theorem functionTag_mem_frameTags_iff (s : Settings) (defaults : List Text) (c : Catalog) (fs : List FunctionDoc)
    (f : FunctionDoc) : functionTag s.plugin f ∈ (helpFile s defaults c fs).frameTags ↔
      f.name = "nvim".toList ∨ functionTag s.plugin f = s.helpFileName ∨ functionTag s.plugin f = s.plugin.capitalize := by
  have hplugin : functionTag s.plugin f ≠ s.plugin := by simp [functionTag]
  have hnvim : functionTag s.plugin f = s.plugin ++ ".nvim" ↔ f.name = "nvim".toList := by simp [functionTag]
  have hdash : ∀ rest : Text, functionTag s.plugin f ≠ s.plugin ++ '-' :: rest := by simp [functionTag]
  have htags : (helpFile s defaults c fs).frameTags = [s.helpFileName, s.plugin.capitalize, s.plugin, s.plugin ++ ".nvim",
      s.plugin ++ '-' :: "contents".toList, s.plugin ++ '-' :: "options".toList, s.plugin ++ '-' :: "api".toList] := rfl
  rw [htags]
  simp only [List.mem_cons, List.not_mem_nil, or_false, hplugin, hnvim, hdash, false_or]
  tauto

/-- The tags of functions differ as their names do, and few names make one of the other tags of the file. -/
theorem areTagged_helpFile (s : Settings) (defaults : List Text) (c : Catalog) (fs : List FunctionDoc) :
    AreTagged s fs (referenceLines c s.plugin fs) (helpFile s defaults c fs) where
  within := HelpFile.body_infix_lines (h := helpFile s defaults c fs) (List.mem_cons_of_mem _ (List.mem_singleton_self _))
  headings := exists_blocks c s.plugin fs
  defined := fun _ hf => exists_defines_functionTag c s.plugin hf
  distinct := nodup_tags_iff s.plugin fs
  frame := fun _ => HelpFile.exists_defines _
  clash := fun f _ => functionTag_mem_frameTags_iff s defaults c fs f

/-- Functions of the same name in two tables of one source have the same tag. -/
theorem not_nodup_tags_of_tables :
    let text : Text := "--- A.\nfunction M.open()\nend\n--- B.\nfunction Display.open()\nend\n"
    let fs := (LuaSource.ofText text).functions
    let heading : Text := "open()" ++ Text.spaces 66 ++ "*x.open*\n"
    fs.map (·.id) = ["M.open".toList, "Display.open".toList] ∧
      referenceLines {} "x" fs = [['\n'], heading, "    A.\n", ['\n'], heading, "    B.\n", ['\n']] ∧
      ¬ (fs.map fun f => tagDefinition (functionTag "x" f)).Nodup := by
  decide +kernel

end Update
end PluginManual
