import PluginManual.Proofs.Frames

/-! The steps that keep the reference and the default options in the readme file. What they put in can be
    read back, and a second run changes nothing, exactly if none of the new lines is taken for a marker of
    the part. Nothing sees to that: a line of a doc comment or of the default options can be such a line. -/

namespace PluginManual
open Disk Files Text

/-! ### Generated lines -/

namespace Update

variable {s : Settings} {by' : Caller} {d d' : Disk} {c : Catalog} {fs : List FunctionDoc} {ls : List Text}

theorem isWhole_of_mem_apiLines (h : (reference s).on by' d = (.ok (c, fs), d)) :
    ∀ l ∈ apiLines s c fs, IsWhole l := by
  obtain ⟨hc, hfs⟩ := reference_eq_ok_iff.mp h
  have hone := Catalog.isOneLine_ofDirectory hc
  intro l hl
  rcases List.mem_cons.mp hl with rfl | hl
  · exact isWhole_feed
  · exact Reference.isWhole_of_mem_lines hone _ (hone.functions? hfs) l ((List.dropLast_prefix _).subset hl)

/-- Only the name of the plugin can break the lines of the default options. -/
theorem isWhole_optionsLines_iff (hls : ∀ l ∈ ls, IsWhole l) :
    (∀ l ∈ optionsLines s ls, IsWhole l) ↔ OneLine s.plugin := by
  have hset : ("require(\"" ++ s.plugin ++ "\").setup(\x7b\n" : Text) =
      ("require(\"" ++ s.plugin ++ "\").setup(\x7b") ++ ['\n'] := by
    simp
  have hfirst : IsWhole ("require(\"" ++ s.plugin ++ "\").setup(\x7b\n" : Text) ↔ OneLine s.plugin := by
    rw [hset, isWhole_append_feed_iff]
    show OneLine _ ↔ _
    simp
  constructor
  · intro h
    exact hfirst.mp (h _ (by simp [optionsLines, setupLines]))
  · intro hplugin l hl
    simp only [optionsLines, setupLines, List.mem_cons, List.mem_append, List.not_mem_nil, or_false] at hl
    rcases hl with rfl | (rfl | hl | rfl) | rfl | rfl
    · exact ⟨"\x60\x60\x60lua".toList, by decide, rfl⟩
    · exact hfirst.mpr hplugin
    · exact hls l hl
    · exact ⟨"\x7d)".toList, by decide, rfl⟩
    · exact ⟨"\x60\x60\x60".toList, by decide, rfl⟩
    · exact isWhole_feed

theorem subset_optionsLines (s : Settings) (ls : List Text) : ls ⊆ optionsLines s ls := by
  intro l hl
  simp [optionsLines, setupLines, hl]

end Update

namespace ReadmePart
open Update

variable {s : Settings} {part : ReadmePart} {by' : Caller} {d d' : Disk} {new : List Text} {o : Outcome}

theorem generate_api_eq_ok_iff :
    (api.generate s).on by' d = (.ok new, d) ↔
      ∃ c fs, (reference s).on by' d = (.ok (c, fs), d) ∧ new = apiLines s c fs := by
  rw [generate, (readsOnly_reference s).on_bind_eq_ok]
  constructor
  · rintro ⟨⟨c, fs⟩, hc, hret⟩
    cases hret
    exact ⟨c, fs, hc, rfl⟩
  · rintro ⟨c, fs, hc, rfl⟩
    exact ⟨(c, fs), hc, rfl⟩

theorem generate_options_eq_ok_iff :
    (options.generate s).on by' d = (.ok new, d) ↔
      ∃ ls, (defaultOptions s).on by' d = (.ok ls, d) ∧ new = optionsLines s ls := by
  rw [generate, (readsOnly_defaultOptions s).on_bind_eq_ok]
  constructor
  · rintro ⟨ls, hls, hret⟩
    cases hret
    exact ⟨ls, hls, rfl⟩
  · rintro ⟨ls, hls, rfl⟩
    exact ⟨ls, hls, rfl⟩

theorem isWhole_iff_of_generate (hpart : part ≠ .contents) (hnew : (part.generate s).on by' d = (.ok new, d)) :
    (∀ l ∈ new, IsWhole l) ↔ (part = .options → OneLine s.plugin) := by
  cases part with
  | api =>
    obtain ⟨c, fs, hc, rfl⟩ := generate_api_eq_ok_iff.mp hnew
    exact iff_of_true (isWhole_of_mem_apiLines hc) (by simp)
  | options =>
    obtain ⟨ls, hls, rfl⟩ := generate_options_eq_ok_iff.mp hnew
    rw [isWhole_optionsLines_iff (isWhole_of_mem_defaultOptions hls)]
    simp
  | contents => exact absurd rfl hpart

/-- What the steps generate does not depend on a file apart. -/
theorem generate_of_isRefilled {p : Path} {ls : List Text} {e : Enclosure} {changed : Bool} (hpart : part ≠ .contents)
    (hp : s.IsApart by' p) (hconfig : place by' s.configFile ≠ place by' (partPath by'.id p)) (htree : d.IsTree)
    (htree' : d'.IsTree) (h : Document.IsRefilled by' p ls e changed d d')
    (hnew : (part.generate s).on by' d = (.ok new, d)) : (part.generate s).on by' d' = (.ok new, d') := by
  cases part with
  | api =>
    obtain ⟨c, fs, hc, rfl⟩ := generate_api_eq_ok_iff.mp hnew
    exact generate_api_eq_ok_iff.mpr ⟨c, fs, reference_of_isRefilled hp htree htree' h hc, rfl⟩
  | options =>
    obtain ⟨ls, hls, rfl⟩ := generate_options_eq_ok_iff.mp hnew
    exact generate_options_eq_ok_iff.mpr ⟨ls, defaultOptions_of_isRefilled hp hconfig h hls, rfl⟩
  | contents => exact absurd rfl hpart

/-! ### The steps -/

theorem read_refilled_iff {e : Enclosure} {changed : Bool} (hpart : part ≠ .contents)
    (hnew : (part.generate s).on by' d = (.ok new, d)) (f : e.Found part.opens part.closes .unique)
    (h : Document.IsRefilled by' s.readme new e changed d d') :
    (part.read s).on by' d' = (.ok new, d') ↔
      (part = .options → OneLine s.plugin) ∧ ∀ l ∈ new, part.closes l = false := by
  rw [← isWhole_iff_of_generate hpart hnew, read_eq_ok_iff]
  constructor
  · rintro ⟨-, e', hlines', hin, f'⟩
    have hwhole : ∀ l ∈ new, IsWhole l := hin ▸ Enclosure.isWhole_of_mem_inside hlines'.areLines
    exact ⟨hwhole, hin ▸ f'.inside⟩
  · rintro ⟨hwhole, hclose⟩
    have hafter := h.after
    rw [Region.normalLines_of_isWhole hwhole] at hafter
    exact ⟨rfl, _, hafter, rfl, f.first.fill_iff.mpr ⟨hclose, fun hm => by cases hm⟩⟩

theorem same_refilled_iff {e : Enclosure} {changed : Bool} (hpart : part ≠ .contents)
    (hnew : (part.generate s).on by' d = (.ok new, d)) (f : e.Found part.opens part.closes .unique)
    (h : Document.IsRefilled by' s.readme new e changed d d') (htree : d.IsTree) (htree' : d'.IsTree)
    (hp : s.IsApart by' s.readme) (hconfig : place by' s.configFile ≠ place by' (partPath by'.id s.readme))
    {by'' : Caller} (hby : by''.workDir = by'.workDir) :
    (runStep s part.step).on by'' d' = (.ok ⟨part.step, s.readme, false⟩, d') ↔
      ∀ l ∈ Region.normalLines new, part.opens l = false ∧ part.closes l = false := by
  have hnew' := (readsOnly_generate s part).on_again hby
    (generate_of_isRefilled hpart hp hconfig htree htree' h hnew)
  rw [← target_step s part, runStep_same_iff, perform_filled_iff f (h.after.again hby) hnew',
    f.fill_iff]
  constructor
  · rintro ⟨hclose, hopen⟩ l hl
    exact ⟨hopen rfl l hl, hclose l hl⟩
  · intro hmark
    exact ⟨fun l hl => (hmark l hl).2, fun _ l hl => (hmark l hl).1⟩

/-- What a step that puts in the lines `new` makes of a disk. -/
structure IsGenerated (by' : Caller) (s : Settings) (part : ReadmePart) (new : List Text) (d d' : Disk) : Prop where
  generated : (part.generate s).on by' d = (.ok new, d)
  /-- The lines are read back exactly if none of them closes the part, and if the name of the plugin breaks
      none of those with the default options. -/
  read_iff : (part.read s).on by' d' = (.ok new, d') ↔
    (part = .options → OneLine s.plugin) ∧ ∀ l ∈ new, part.closes l = false
  /-- A second run, whoever starts it there, changes nothing exactly if none of the lines opens or closes the
      part, provided that the readme file is not among the files that the step reads. -/
  same_iff : d.IsTree → s.IsApart by' s.readme →
    place by' s.configFile ≠ place by' (partPath by'.id s.readme) → ∀ by'' : Caller, by''.workDir = by'.workDir →
      ((runStep s part.step).on by'' d' = (.ok ⟨part.step, s.readme, false⟩, d') ↔
        ∀ l ∈ Region.normalLines new, part.opens l = false ∧ part.closes l = false)

theorem runStep_isGenerated (hpart : part ≠ .contents) (h : (runStep s part.step).on by' d = (.ok o, d')) :
    ∃ new, IsGenerated by' s part new d d' := by
  obtain ⟨changed, hperform, -⟩ := runStep_eq_ok_iff.mp h
  obtain ⟨new, e, hnew, f, hrefilled⟩ := perform_isRefilled hperform
  refine ⟨new, hnew, read_refilled_iff hpart hnew f hrefilled, fun htree hp hconfig by'' hby => ?_⟩
  exact same_refilled_iff hpart hnew f hrefilled htree (htree.on h) hp hconfig hby

/-- There are no default options. -/
theorem runStep_isGenerated_of_no_options :
    let s := Settings.forPlugin ⟨"."⟩ "x"
    let by' : Caller := ⟨[], 7⟩
    let d : Disk :=
      ⟨[(["README.md".toList], .file (.text "<!-- OPTIONS -->\n<!-- /OPTIONS -->\n")), (["lua".toList], .dir),
        (["lua".toList, "x".toList], .dir),
        (["lua".toList, "x".toList, "config.lua".toList], .file (.text "local default_config = \x7b\n\x7d\n"))]⟩
    ∃ d', (runStep s .options).on by' d = (.ok ⟨.options, s.readme, true⟩, d') ∧
      ∃ new, IsGenerated by' s options new d d' := by
  intro s by' d
  obtain ⟨d', h⟩ := @Action.exists_on_of_value? _ _ by' d (runStep s .options) ⟨.options, s.readme, true⟩
    (by decide +kernel)
  exact ⟨d', h, @runStep_isGenerated s options by' d d' _ (by decide) h⟩

/-- A string among the default options has the line that closes them. So less is read back than was put in,
    and each run puts in more. -/
theorem not_same_of_marker_in_options :
    let s := Settings.forPlugin ⟨"."⟩ "x"
    let by' : Caller := ⟨[], 7⟩
    let d : Disk :=
      ⟨[(["README.md".toList], .file (.text "<!-- OPTIONS -->\n<!-- /OPTIONS -->\n")), (["lua".toList], .dir),
        (["lua".toList, "x".toList], .dir),
        (["lua".toList, "x".toList, "config.lua".toList], .file (.text
          "local default_config = \x7b\n  banner = [[\n<!-- /OPTIONS -->\n]],\n\x7d\n"))]⟩
    ∃ o d' new, (runStep s .options).on by' d = (.ok o, d') ∧ (options.generate s).on by' d = (.ok new, d) ∧
      (options.read s).on by' d' ≠ (.ok new, d') ∧
      (runStep s .options).on by' d' ≠ (.ok ⟨.options, s.readme, false⟩, d') := by
  intro s by' d
  obtain ⟨d', h⟩ := @Action.exists_on_of_value? _ _ by' d (runStep s .options) ⟨.options, s.readme, true⟩
    (by decide +kernel)
  obtain ⟨changed, hperform, -⟩ := runStep_eq_ok_iff.mp h
  obtain ⟨new, e, hnew, f, hrefilled⟩ := @perform_isRefilled s options by' d d' changed hperform
  obtain ⟨ls, hls, rfl⟩ := generate_options_eq_ok_iff.mp hnew
  -- The line within the string is copied with the others.
  have hmem : "<!-- /OPTIONS -->\n".toList ∈ ls := by
    have hvalue : (defaultOptions s).value? by' d =
        some ["  banner = [[\n".toList, "<!-- /OPTIONS -->\n".toList, "]],\n".toList] := by
      decide +kernel
    rw [Action.value?, hls] at hvalue
    rw [Option.some.inj hvalue]
    decide
  have hmem := subset_optionsLines s ls hmem
  have hcloses : options.closes "<!-- /OPTIONS -->\n".toList = true := by decide +kernel
  refine ⟨_, d', _, h, hnew, fun hread => ?_, fun hsame => ?_⟩
  · have hclose := ((read_refilled_iff (by decide) hnew f hrefilled).mp hread).2 _ hmem
    rw [hcloses] at hclose
    cases hclose
  · have htree : d.IsTree := by decide +kernel
    have hmark := (same_refilled_iff (by decide) hnew f hrefilled htree (htree.on h)
      (Settings.isApart_forPlugin by' _ (by decide)) (Settings.config_ne_partPath by' _ _ _) rfl).mp hsame
    rw [Region.normalLines_of_isWhole ((isWhole_iff_of_generate (by decide) hnew).mpr fun _ => by decide)] at hmark
    have hclose := (hmark _ hmem).2
    rw [hcloses] at hclose
    cases hclose

end ReadmePart
end PluginManual
