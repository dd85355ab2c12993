import PluginManual.Proofs.Parts

/-! The step that keeps the table of contents. It reads the headings of the whole readme file, the lines of
    the old table among them; so the table is that of the file as it then stands exactly if the old lines
    made no difference. They make none if there is no heading and no fence among them, and the lines of a
    table are of that kind: a second run settles what the first may have left. -/

namespace PluginManual
open Disk Files

namespace Update

variable {s : Settings} {by' : Caller} {d d' : Disk} {o : Outcome} {e : Enclosure} {new : List Text}

/-! ### Lines of the table -/

theorem contentsLines_congr {ls ls' : List Text}
    (h : Contents.ofLines ls s.tocMaxLevel true = Contents.ofLines ls' s.tocMaxLevel true) :
    contentsLines s ls = contentsLines s ls' := by
  rw [contentsLines, contentsLines, h]

theorem contentsLines_inj {ls ls' : List Text} :
    contentsLines s ls = contentsLines s ls' ↔
      Contents.ofLines ls s.tocMaxLevel true = Contents.ofLines ls' s.tocMaxLevel true := by
  constructor
  · intro h
    have h := (List.cons.inj h).2
    exact List.append_cancel_right h
  · exact contentsLines_congr

/-- What holds of the blank line and of the lines of tables holds of all lines that the step generates. -/
theorem forall_mem_contentsLines {P : Text → Prop} (hfeed : P ['\n']) {ls : List Text}
    (htable : ∀ l ∈ Contents.ofLines ls s.tocMaxLevel true, P l) : ∀ l ∈ contentsLines s ls, P l := by
  intro l hl
  rcases List.mem_cons.mp hl with rfl | hl
  · exact hfeed
  · rcases List.mem_append.mp hl with hl | hl
    · exact htable l hl
    · exact List.mem_singleton.mp hl ▸ hfeed

theorem isInert_of_mem_contentsLines {ls : List Text} : ∀ l ∈ contentsLines s ls, Heading.IsInert l :=
  forall_mem_contentsLines Heading.isInert_feed Contents.isInert_of_mem_ofLines

theorem isWhole_of_mem_contentsLines {ls : List Text} : ∀ l ∈ contentsLines s ls, Text.IsWhole l :=
  forall_mem_contentsLines Text.isWhole_feed Contents.isWhole_of_mem_ofLines

theorem head?_entry_ne (base : Nat) (h : Heading) : (Contents.entry base h).head? ≠ some '<' := by
  cases hn : 2 * (h.level - base) with
  | zero => simp [Contents.entry, hn, Text.spaces]
  | succ n => simp [Contents.entry, hn, Text.spaces, List.replicate_succ]

theorem isProse_of_mem_contentsLines {ls : List Text} : ∀ l ∈ contentsLines s ls, ReadmePart.IsProse l := by
  refine forall_mem_contentsLines (ReadmePart.isProse_of_head? (by simp)) fun l hl => ?_
  obtain ⟨base, k, -, rfl⟩ := Contents.mem_ofLines hl
  exact ReadmePart.isProse_of_head? (head?_entry_ne base k)

theorem normalLines_contentsLines (s : Settings) (ls : List Text) :
    Region.normalLines (contentsLines s ls) = contentsLines s ls :=
  Region.normalLines_of_isWhole isWhole_of_mem_contentsLines

/-! ### The lines of the old table -/

/-- The table of contents of some lines is the same with and without those inside the enclosure. -/
def IgnoresInside (s : Settings) (e : Enclosure) : Prop :=
  Contents.ofLines e.lines s.tocMaxLevel true = Contents.ofLines (e.fill []).lines s.tocMaxLevel true

instance (s : Settings) (e : Enclosure) : Decidable (IgnoresInside s e) :=
  inferInstanceAs (Decidable (Contents.ofLines e.lines s.tocMaxLevel true = _))

theorem ignoresInside_of_isInert (h : ∀ l ∈ e.inside, Heading.IsInert l) : IgnoresInside s e := by
  have hfull : e.lines = (e.before ++ [e.opening]) ++ (e.inside ++ e.closing :: e.after) := by
    simp [Enclosure.lines]
  have hempty : (e.fill []).lines = (e.before ++ [e.opening]) ++ e.closing :: e.after := by
    simp [Enclosure.lines]
  rw [IgnoresInside, hfull, hempty]
  exact Contents.ofLines_insert h _ _ _ _

theorem contentsLines_fill (h : ∀ l ∈ new, Heading.IsInert l) :
    contentsLines s (e.fill new).lines = contentsLines s (e.fill []).lines :=
  contentsLines_congr (ignoresInside_of_isInert (e := e.fill new) h)

/-- With the new table in, the table is the same exactly if the old lines made no difference. -/
theorem contentsLines_settled_iff :
    contentsLines s e.lines = contentsLines s (e.fill (contentsLines s e.lines)).lines ↔ IgnoresInside s e := by
  rw [contentsLines_fill isInert_of_mem_contentsLines]
  exact contentsLines_inj

end Update

/-! ### The step -/

namespace ReadmePart
open Update

variable {s : Settings} {by' : Caller} {d d' : Disk} {o : Outcome} {e : Enclosure} {new : List Text}

theorem generate_contents_eq_ok_iff :
    (contents.generate s).on by' d = (.ok new, d') ↔
      d' = d ∧ ∃ ls, HasLines by' s.readme ls d ∧ new = contentsLines s ls := by
  constructor
  · intro h
    obtain ⟨doc, d₁, hdoc, hret⟩ := Action.on_bind_eq_ok.mp h
    cases hret
    obtain ⟨rfl, -, hlines⟩ := Document.load_eq_ok_iff.mp (Action.on_mapError_eq_ok.mp hdoc)
    exact ⟨rfl, _, hlines, rfl⟩
  · rintro ⟨rfl, ls, hlines, rfl⟩
    refine Action.on_bind_eq_ok.mpr ⟨⟨s.readme, ls⟩, d', Action.on_mapError_eq_ok.mpr ?_, rfl⟩
    exact Document.load_eq_ok_iff.mpr ⟨rfl, rfl, hlines⟩

/-- The step puts in the table of the file as it was. -/
theorem contents_isRefilled (h : (runStep s .contents).on by' d = (.ok o, d')) :
    ∃ e : Enclosure, HasLines by' s.readme e.lines d ∧ e.Found contents.opens contents.closes .unique ∧
      HasLines by' s.readme (e.fill (contentsLines s e.lines)).lines d' ∧
      (e.fill (contentsLines s e.lines)).Found contents.opens contents.closes .unique := by
  obtain ⟨changed, hperform, -⟩ := runStep_eq_ok_iff.mp h
  obtain ⟨new, e, hnew, f, hrefilled⟩ := @perform_isRefilled s contents by' d d' changed hperform
  obtain ⟨-, ls, hls, rfl⟩ := generate_contents_eq_ok_iff.mp hnew
  obtain rfl := hls.unique hrefilled.before
  have hafter := hrefilled.after
  rw [normalLines_contentsLines] at hafter
  refine ⟨e, hrefilled.before, f, hafter, f.fill_iff.mpr ⟨fun l hl => ?_, fun _ l hl => ?_⟩⟩
  · exact (isProse_of_mem_contentsLines l hl contents).2
  · exact (isProse_of_mem_contentsLines l hl contents).1

/-- The step changes nothing exactly if the lines inside are the table of the file. -/
theorem contents_same_iff (f : e.Found contents.opens contents.closes .unique)
    (hlines : HasLines by' s.readme e.lines d) :
    (runStep s .contents).on by' d = (.ok ⟨.contents, s.readme, false⟩, d) ↔ e.inside = contentsLines s e.lines := by
  refine Iff.trans runStep_same_iff (Iff.trans (@perform_same_iff s contents by' d) ?_)
  constructor
  · rintro ⟨new, e', hnew, hlines', f', hin⟩
    obtain ⟨-, ls, hls, rfl⟩ := generate_contents_eq_ok_iff.mp hnew
    obtain rfl := hls.unique hlines
    obtain rfl := f'.eq f (hlines'.unique hlines)
    rw [hin, normalLines_contentsLines]
  · intro hin
    refine ⟨_, e, generate_contents_eq_ok_iff.mpr ⟨rfl, _, hlines, rfl⟩, hlines, f, ?_⟩
    rw [normalLines_contentsLines, hin]

/-- What the step makes of a disk where the readme file has the lines of `e`, `ls` being its lines after that. -/
structure IsTabled (by' : Caller) (s : Settings) (e : Enclosure) (ls : List Text) (d d' : Disk) : Prop where
  before : HasLines by' s.readme e.lines d
  found : e.Found contents.opens contents.closes .unique
  after : HasLines by' s.readme ls d'
  lines : ls = (e.fill (contentsLines s e.lines)).lines
  /-- The table is that of the file as it then stands exactly if the old lines inside made no difference. -/
  table_iff : (contents.read s).on by' d' = (.ok (contentsLines s ls), d') ↔ IgnoresInside s e
  /-- So it is with a second run, whoever starts it there, that changes nothing. -/
  same_iff : ∀ by'' : Caller, by''.workDir = by'.workDir →
    ((runStep s .contents).on by'' d' = (.ok ⟨.contents, s.readme, false⟩, d') ↔ IgnoresInside s e)

theorem runStep_contents_isTabled (h : (runStep s .contents).on by' d = (.ok o, d')) :
    ∃ e ls, IsTabled by' s e ls d d' := by
  obtain ⟨e, hbefore, f, hafter, g⟩ := contents_isRefilled h
  refine ⟨e, _, hbefore, f, hafter, rfl, ?_, fun by'' hby => ?_⟩
  · rw [read_eq_ok_iff_of_found g.first hafter]
    exact contentsLines_settled_iff
  · rw [contents_same_iff g (hafter.again hby)]
    exact contentsLines_settled_iff

/-- There was nothing inside. -/
theorem runStep_contents_isTabled_of_empty :
    let s := Settings.forPlugin ⟨"."⟩ "x"
    let by' : Caller := ⟨[], 7⟩
    let d : Disk := ⟨[(["README.md".toList], .file (.text "# X\n<!-- TOC -->\n<!-- /TOC -->\n## Use\n"))]⟩
    ∃ d', (runStep s .contents).on by' d = (.ok ⟨.contents, s.readme, true⟩, d') ∧
      ∃ e ls, IsTabled by' s e ls d d' := by
  intro s by' d
  obtain ⟨d', h⟩ := @Action.exists_on_of_value? _ _ by' d (runStep s .contents) ⟨.contents, s.readme, true⟩
    (by decide +kernel)
  exact ⟨d', h, runStep_contents_isTabled h⟩

/-- A heading inside the old table gets into the new one, though it is gone then; the next run drops it. -/
theorem contents_not_same_of_heading_inside :
    let s := Settings.forPlugin ⟨"."⟩ "x"
    let by' : Caller := ⟨[], 7⟩
    let d : Disk := ⟨[(["README.md".toList], .file (.text "<!-- TOC -->\n## Old\n<!-- /TOC -->\n"))]⟩
    ∃ o d' ls, (runStep s .contents).on by' d = (.ok o, d') ∧ HasLines by' s.readme ls d' ∧
      (contents.read s).on by' d' ≠ (.ok (contentsLines s ls), d') ∧
      (runStep s .contents).on by' d' ≠ (.ok ⟨.contents, s.readme, false⟩, d') := by
  intro s by' d
  obtain ⟨d', h⟩ := @Action.exists_on_of_value? _ _ by' d (runStep s .contents) ⟨.contents, s.readme, true⟩
    (by decide +kernel)
  obtain ⟨e, hbefore, f, hafter, g⟩ := contents_isRefilled h
  let old : Enclosure := ⟨[], "<!-- TOC -->\n", ["## Old\n"], "<!-- /TOC -->\n", []⟩
  have hlines : HasLines by' s.readme old.lines d := ⟨_, rfl, by decide⟩
  have hfound : old.Found contents.opens contents.closes .unique := by decide +kernel
  obtain rfl := f.eq hfound (hbefore.unique hlines)
  -- With the old heading the table has an entry, without it none.
  have hchanges : ¬IgnoresInside s old := by decide +kernel
  refine ⟨_, d', _, h, hafter, fun hread => hchanges ?_, fun hsame => hchanges ?_⟩
  · exact contentsLines_settled_iff.mp ((read_eq_ok_iff_of_found g.first hafter).mp hread)
  · exact contentsLines_settled_iff.mp ((contents_same_iff g hafter).mp hsame)

/-- A second run leaves nothing to a third one. -/
theorem contents_same_of_twice {o' : Outcome} {d'' : Disk} (h : (runStep s .contents).on by' d = (.ok o, d'))
    (h' : (runStep s .contents).on by' d' = (.ok o', d'')) :
    (runStep s .contents).on by' d'' = (.ok ⟨.contents, s.readme, false⟩, d'') := by
  obtain ⟨e, -, -, hafter, g⟩ := contents_isRefilled h
  obtain ⟨e', hbefore', f', hafter', g'⟩ := contents_isRefilled h'
  obtain rfl := g.eq f' (hafter.unique hbefore')
  exact (contents_same_iff g' hafter').mpr
    (contentsLines_settled_iff.mpr (ignoresInside_of_isInert isInert_of_mem_contentsLines))

end ReadmePart
end PluginManual
