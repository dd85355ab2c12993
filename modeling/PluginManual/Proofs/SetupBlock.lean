import PluginManual.Proofs.GeneratedStep
import PluginManual.Proofs.HelpLines
import PluginManual.Proofs.HelpStep

/-! The lines of Lua that set the plugin up. The readme file and the help file show the same ones. The help file moves
    them away from the first column, where it would take any of them for the end of the block, and leaves the blank ones
    as they are; so the lines can be told from those that are shown. -/

namespace PluginManual
open Text

/-! ### Blocks of code in a help file -/

namespace Help

variable {line : Text} {lines ls : List Text} {n : Nat}

/-- The line begins in the first column. -/
def IsFlush (line : Text) : Bool := line.head?.any (!PluginManual.isBlank ·)

/-- The lines of the first block of Lua: those behind the line that opens it, up to one that begins in the first
    column. -/
def codeBlock (lines : List Text) : List Text :=
  ((lines.dropWhile (· ≠ ">lua\n".toList)).drop 1).takeWhile (!IsFlush ·)

/-- Moves the lines back to the left. Blank lines stay as they are. -/
def unindent (lines : List Text) (n : Nat) : List Text :=
  lines.map fun line => if line.isBlank then line else line.drop n

theorem isBlank_spaces_append (n : Nat) (line : Text) : Text.isBlank (spaces n ++ line) = line.isBlank := by
  rw [Text.isBlank, List.all_append, show (spaces n).all PluginManual.isBlank = true from
    List.all_eq_true.mpr fun c hc => List.eq_of_mem_replicate hc ▸ rfl]
  rfl

theorem unindent_indent (lines : List Text) (n : Nat) : unindent (indent lines n) n = lines := by
  rw [unindent, indent, List.map_map]
  refine List.map_id'' (fun line => ?_) lines
  show (if Text.isBlank (if line.isBlank then line else _) then _ else _) = line
  cases h : line.isBlank with
  | true => simp [h]
  | false => simp [h, isBlank_spaces_append]

theorem isFlush_of_isBlank (h : line.isBlank = true) : IsFlush line = false := by
  cases line with
  | nil => rfl
  | cons c s =>
    have hc := isBlank_iff.mp h c List.mem_cons_self
    simp [IsFlush, hc]

theorem head?_of_mem_indent (h : line ∈ indent lines (n + 1)) (hblank : line.isBlank = false) : line.head? = some ' ' := by
  obtain ⟨s, -, rfl⟩ := List.mem_map.mp h
  split at hblank
  · next hs => rw [hs] at hblank; cases hblank
  · next hs => rw [if_neg hs]; rfl

theorem isFlush_of_mem_indent (h : line ∈ indent lines (n + 1)) : IsFlush line = false := by
  cases hblank : line.isBlank with
  | true => exact isFlush_of_isBlank hblank
  | false =>
    rw [IsFlush, head?_of_mem_indent h hblank]
    rfl

/-- A block ends where its lines end, whatever comes behind it. -/
theorem codeBlock_indent (lines after : List Text) (n : Nat) :
    codeBlock (['\n'] :: ">lua\n" :: (indent lines (n + 1) ++ "<\n".toList :: after)) = indent lines (n + 1) := by
  have hblock : codeBlock (['\n'] :: ">lua\n" :: (indent lines (n + 1) ++ "<\n".toList :: after)) =
      (indent lines (n + 1) ++ "<\n".toList :: after).takeWhile (!IsFlush ·) := rfl
  rw [hblock, List.takeWhile_append_of_pos fun l hl => by rw [isFlush_of_mem_indent hl]; rfl]
  exact List.append_nil _

theorem isWhole_of_mem_indent (h : ∀ l ∈ lines, IsWhole l) : ∀ l ∈ indent lines n, IsWhole l := by
  intro l hl
  obtain ⟨s, hs, rfl⟩ := List.mem_map.mp hl
  split
  · exact h s hs
  · obtain ⟨t, ht, rfl⟩ := h s hs
    rw [← List.append_assoc]
    exact isWhole_append (oneLine_append.mpr ⟨oneLine_spaces n, ht⟩)

/-! ### Lines of a help file -/

theorem getLast?_flatten_tagged (left tag : Text) : (tagged left tag).flatten.getLast? = some '\n' := by
  rw [tagged]
  split
  · simp
  · rw [List.flatten_cons, List.flatten_singleton, ← List.append_assoc, List.getLast?_concat]

theorem getLast?_flatten_append (as : List Text) {bs : List Text} (h : bs.flatten.getLast? = some '\n') :
    (as ++ bs).flatten.getLast? = some '\n' := by
  rw [List.flatten_append, List.getLast?_append, h, Option.some_or]

end Help

namespace HelpFile
open Help

variable {h : HelpFile} {s : HelpSection}

/-- If a section of a help file consists of whole lines, they are lines of its text. -/
theorem lines_flatten_eq (hs : s ∈ h.sections) (hbody : ∀ l ∈ s.body, IsWhole l) :
    ∃ before after, Text.lines h.lines.flatten = before ++ s.body ++ after := by
  obtain ⟨front, back, hlines⟩ := lines_eq_append hs
  have hfront := getLast?_flatten_append front (getLast?_flatten_tagged s.name.upper (tagDefinition s.tag))
  have hback : (s.body ++ back).flatten = s.body.flatten ++ back.flatten := List.flatten_append
  rw [hlines, List.flatten_append, Text.lines_append (.inr hfront), hback, lines_flatten_append hbody, ← List.append_assoc]
  exact ⟨_, _, rfl⟩

end HelpFile

/-! ### The setup -/

namespace Update
open Disk Files Help

variable {s : Settings} {by' : Caller} {d d' : Disk} {ls : List Text} {o : Outcome}

/-- The readme file and the help file are given the same code. -/
structure IsShown (s : Settings) (ls code shown : List Text) : Prop where
  readme : optionsLines s ls = "\x60\x60\x60lua\n".toList :: code ++ ["\x60\x60\x60\n".toList, ['\n']]
  help : (optionsSection s ls).body = ['\n'] :: ">lua\n" :: shown ++ ["<\n".toList]
  count : shown.length = code.length
  line : ∀ (i : Nat) (l : Text), code[i]? = some l → shown[i]? = some (if l.isBlank then l else spaces 4 ++ l)
  whole : ∀ l ∈ shown, IsWhole l
  /-- None of the lines ends the block. -/
  margin : ∀ l ∈ shown, l.isBlank = false → l.head? = some ' '
  block : ∀ after, codeBlock ((optionsSection s ls).body ++ after) = shown
  unindented : unindent shown 4 = code

theorem isWhole_of_mem_setupLines (hls : ∀ l ∈ ls, IsWhole l) (hplugin : OneLine s.plugin) :
    ∀ l ∈ setupLines s.plugin ls, IsWhole l := fun l hl =>
  (isWhole_optionsLines_iff hls).mpr hplugin l (List.mem_cons_of_mem _ (List.mem_append_left _ hl))

theorem isShown_setupLines (hls : ∀ l ∈ ls, IsWhole l) (hplugin : OneLine s.plugin) :
    IsShown s ls (setupLines s.plugin ls) (indent (setupLines s.plugin ls) 4) where
  readme := rfl
  help := rfl
  count := List.length_map _
  line := by
    intro i l hl
    rw [indent, List.getElem?_map, hl]
    rfl
  whole := isWhole_of_mem_indent (isWhole_of_mem_setupLines hls hplugin)
  margin := fun l hl => head?_of_mem_indent hl
  block := fun after => by
    have hbody : (optionsSection s ls).body ++ after =
        ['\n'] :: ">lua\n" :: (indent (setupLines s.plugin ls) 4 ++ ["<\n".toList] ++ after) := rfl
    rw [hbody, List.append_assoc, List.singleton_append, codeBlock_indent]
  unindented := unindent_indent _ 4

/-- What the step puts into the readme file. -/
theorem hasLines_of_options (hls : (defaultOptions s).on by' d = (.ok ls, d)) (hplugin : OneLine s.plugin)
    (h : (runStep s .options).on by' d = (.ok o, d')) :
    ∃ before after, HasLines by' s.readme (before ++ optionsLines s ls ++ after) d' := by
  obtain ⟨changed, hperform, -⟩ := runStep_eq_ok_iff.mp h
  obtain ⟨new, e, hnew, -, hrefilled⟩ := @ReadmePart.perform_isRefilled s .options by' d d' changed hperform
  obtain ⟨ls', hls', rfl⟩ := ReadmePart.generate_options_eq_ok_iff.mp hnew
  rw [hls] at hls'
  cases hls'
  have hafter := hrefilled.after
  rw [Region.normalLines_of_isWhole ((isWhole_optionsLines_iff (isWhole_of_mem_defaultOptions hls)).mpr hplugin)] at hafter
  refine ⟨e.before ++ [e.opening], e.closing :: e.after, ?_⟩
  simpa [Enclosure.lines] using hafter

/-- What the step writes into the help file. -/
theorem hasLines_of_help (hls : (defaultOptions s).on by' d = (.ok ls, d)) (hplugin : OneLine s.plugin)
    (h : (runStep s .help).on by' d = (.ok o, d')) :
    ∃ before after, HasLines by' s.helpFile (before ++ (optionsSection s ls).body ++ after) d' := by
  obtain ⟨changed, hperform, -⟩ := runStep_eq_ok_iff.mp h
  obtain ⟨c, fs, ls', -, hls', hwrite⟩ := perform_help_eq_ok_iff.mp hperform
  rw [hls] at hls'
  cases hls'
  have hshown := isShown_setupLines (isWhole_of_mem_defaultOptions hls) hplugin
  have hbody : ∀ l ∈ (optionsSection s ls).body, IsWhole l := by
    intro l hl
    rw [hshown.help, List.mem_append, List.mem_cons, List.mem_cons, List.mem_singleton] at hl
    rcases hl with (rfl | rfl | hl) | rfl
    · exact isWhole_feed
    · exact isWhole_append (s := ">lua") (by decide)
    · exact hshown.whole l hl
    · exact isWhole_append (s := "<") (by decide)
  obtain ⟨before, after, hlines⟩ := HelpFile.lines_flatten_eq (h := helpFile s ls c fs) List.mem_cons_self hbody
  exact ⟨before, after, _, writeIfChanged_read hwrite, hlines⟩

/-- The default options are shown in the readme file and in the help file by the same lines of Lua. -/
theorem exists_isShown (hls : (defaultOptions s).on by' d = (.ok ls, d)) (hplugin : OneLine s.plugin) :
    ∃ code shown, IsShown s ls code shown ∧
      (∀ o d', (runStep s .options).on by' d = (.ok o, d') →
        ∃ before after, HasLines by' s.readme (before ++ optionsLines s ls ++ after) d') ∧
      ∀ o d', (runStep s .help).on by' d = (.ok o, d') →
        ∃ before after, HasLines by' s.helpFile (before ++ (optionsSection s ls).body ++ after) d' :=
  ⟨_, _, isShown_setupLines (isWhole_of_mem_defaultOptions hls) hplugin, fun _ _ => hasLines_of_options hls hplugin,
    fun _ _ => hasLines_of_help hls hplugin⟩

/-- A blank line that is not empty, a line that ends with a carriage return, and one that looks like the end of the
    block. -/
theorem exists_isShown_of_sign :
    let s := Settings.forPlugin ⟨"."⟩ "x"
    let by' : Caller := ⟨[], 7⟩
    let d : Disk :=
      ⟨[(["README.md".toList], .file (.text "<!-- OPTIONS -->\n<!-- /OPTIONS -->\n")), (["lua".toList], .dir),
        (["lua".toList, "x".toList], .dir),
        (["lua".toList, "x".toList, "config.lua".toList], .file (.text
          "local default_config = \x7b\n  a = [[\r\n<\n]],\n \t\n\x7d\n"))]⟩
    let ls : List Text := ["  a = [[\r\n", "<\n", "]],\n", " \t\n"]
    (defaultOptions s).on by' d = (.ok ls, d) ∧ OneLine s.plugin ∧ ∃ code shown, IsShown s ls code shown ∧
      (∀ o d', (runStep s .options).on by' d = (.ok o, d') →
        ∃ before after, HasLines by' s.readme (before ++ optionsLines s ls ++ after) d') ∧
      ∀ o d', (runStep s .help).on by' d = (.ok o, d') →
        ∃ before after, HasLines by' s.helpFile (before ++ (optionsSection s ls).body ++ after) d' := by
  intro s by' d ls
  have hls : (defaultOptions s).on by' d = (.ok ls, d) :=
    (ReadmePart.readsOnly_defaultOptions s).on_of_value? (by decide +kernel)
  have hplugin : OneLine s.plugin := by decide
  exact ⟨hls, hplugin, exists_isShown hls hplugin⟩

end Update
end PluginManual
