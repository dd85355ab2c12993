import PluginManual.Proofs.Attempts
import PluginManual.Proofs.TableStep

/-! How the table of contents comes to rest. Its lines can stand anywhere in a text, in fenced code or outside,
    without effect on the headings. So the first success of the step leaves lines that make no difference, and
    the second the table of the file as it then stands; from then on there is nothing to do, whatever goes wrong
    in between. -/

namespace PluginManual
open Disk Files

namespace Heading
open Text

variable {line : Text} {ls : List Text}

/-! ### Lines that are passed over -/

/-- The lines can stand anywhere in a text: its headings are the same with their anchors, and the fence that is
    open before the lines is open after them. -/
structure IsPassedOver (ls : List Text) : Prop where
  headings : ∀ before after, ofLines (before ++ ls ++ after) = ofLines (before ++ after)
  fence : ∀ state, fenceAfter state ls = state

theorem isPassedOver_of_isInert (h : ∀ l ∈ ls, IsInert l) : IsPassedOver ls where
  headings before after := by rw [List.append_assoc, ofLines_insert h]
  fence := fenceAfter_of_isInert h

/-- Of single lines, the inert ones only are passed over. -/
theorem isPassedOver_singleton_iff : IsPassedOver [line] ↔ IsInert line := by
  constructor
  · intro h
    have hfence : fence? (withoutEnd line) = none := by
      have hstate := h.fence none
      cases hf : fence? (withoutEnd line) with
      | none => rfl
      | some f => simp [fenceAfter, fenceAfterLine, hf, openAfter] at hstate
    have hnone : outline none [line] = [] := by
      have hheadings := congrArg (List.map fun k => (k.level, k.text)) (h.headings [] [])
      rwa [List.append_nil, map_found_ofLines, map_found_ofLines] at hheadings
    refine ⟨hfence, ?_⟩
    rw [outline_cons] at hnone
    simpa [headingIn, hfence, outline] using hnone
  · intro h
    exact isPassedOver_of_isInert (by simpa using h)

/-- A line without any of the signs that make headings and fences is inert. -/
theorem isInert_of_not_mem (hhash : '#' ∉ line) (hgrave : '\x60' ∉ line) (htilde : '~' ∉ line) : IsInert line := by
  have hhead : ∀ rest, withoutIndent? (withoutEnd line) = some rest → ∀ c ∈ rest.head?, c ∈ line := by
    intro rest hrest c hc
    obtain ⟨n, -, hline, -⟩ := withoutIndent?_eq_some_iff.mp hrest
    refine dropEndWhile_subset _ _ (show c ∈ withoutEnd line from ?_)
    rw [hline]
    exact List.mem_append_right _ (List.mem_of_mem_head? hc)
  rw [IsInert, fence?, parse?]
  cases hrest : withoutIndent? (withoutEnd line) with
  | none => exact ⟨rfl, rfl⟩
  | some rest =>
    cases rest with
    | nil => exact ⟨rfl, rfl⟩
    | cons c rest =>
      have hc : c ∈ line := hhead _ hrest c rfl
      have hne : ∀ {sign}, sign ∉ line → c ≠ sign := fun h heq => h (heq ▸ hc)
      simp [hne hhash, hne hgrave, hne htilde, guard]

theorem isInert_of_isBlank (h : line.isBlank = true) : IsInert line := by
  have hne : ∀ {sign : Char}, PluginManual.isBlank sign = false → sign ∉ line := by
    intro sign hsign hmem
    rw [List.all_eq_true.mp h sign hmem] at hsign
    cases hsign
  exact isInert_of_not_mem (hne (by decide)) (hne (by decide)) (hne (by decide))

end Heading

/-- The lines of a table of contents are passed over, whatever it is a table of, and so are blank lines around
    them. -/
theorem Contents.isPassedOver_ofLines (lines : List Text) (maxLevel : Nat) (skipTitle : Bool) {above below : List Text}
    (habove : ∀ l ∈ above, l.isBlank = true) (hbelow : ∀ l ∈ below, l.isBlank = true) :
    Heading.IsPassedOver (above ++ Contents.ofLines lines maxLevel skipTitle ++ below) := by
  refine Heading.isPassedOver_of_isInert fun l hl => ?_
  rcases List.mem_append.mp hl with hl | hl
  · rcases List.mem_append.mp hl with hl | hl
    · exact Heading.isInert_of_isBlank (habove l hl)
    · exact Contents.isInert_of_mem_ofLines l hl
  · exact Heading.isInert_of_isBlank (hbelow l hl)

/-! ### The step -/

namespace Update

variable {s : Settings} {by' by'' : Caller} {d d' : Disk} {e e' : Enclosure} {mishaps : Mishaps}
  {rs : List (Except UpdateError Outcome)}

/-- The readme file has the lines of the enclosure, which the markers of the table cut out. -/
structure HoldsTable (by' : Caller) (s : Settings) (e : Enclosure) (d : Disk) : Prop where
  lines : HasLines by' s.readme e.lines d
  found : e.Found ReadmePart.contents.opens ReadmePart.contents.closes .unique

theorem HoldsTable.unique (h : HoldsTable by' s e d) (h' : HoldsTable by' s e' d) : e = e' :=
  h.found.eq h'.found (h.lines.unique h'.lines)

theorem HoldsTable.again (hby : by''.workDir = by'.workDir) (h : HoldsTable by' s e d) : HoldsTable by'' s e d :=
  ⟨h.lines.again hby, h.found⟩

theorem HoldsTable.read (h : HoldsTable by' s e d) : d.read by' s.readme = .ok (.text e.lines.flatten) := h.lines.read

/-- The lines inside are what the step would put there. -/
def IsCurrent (s : Settings) (e : Enclosure) : Prop := e.inside = contentsLines s e.lines

/-- Where the old lines inside make no difference, the new ones are the table of the file as it then stands. -/
theorem isCurrent_fill (h : ∀ l ∈ e.inside, Heading.IsInert l) : IsCurrent s (e.fill (contentsLines s e.lines)) :=
  contentsLines_settled_iff.mpr (ignoresInside_of_isInert h)

theorem IsCurrent.fill_eq (h : IsCurrent s e) : e.fill (contentsLines s e.lines) = e := by rw [← h, Enclosure.fill_self]

theorem generate_contents_attempt {new : List Text}
    (h : (ReadmePart.contents.generate s).CanEnd mishaps by' d (.ok new) d') :
    d' = d ∧ ∃ ls, HasLines by' s.readme ls d ∧ new = contentsLines s ls := by
  rcases Action.canEnd_bind h with ⟨doc, d₁, hdoc, hend⟩ | ⟨_, -, hr⟩
  · obtain ⟨hr, rfl⟩ := Session.canEnd_done_iff.mp hend
    cases hr
    obtain ⟨x, hx, hxdoc⟩ := Action.canEnd_mapError hdoc
    obtain ⟨rfl, ⟨text, rfl, hread⟩ | ⟨_, rfl⟩⟩ := Document.load_canEnd hx
    · cases hxdoc
      exact ⟨rfl, _, ⟨text, hread, rfl⟩, rfl⟩
    · cases hxdoc
  · cases hr

theorem perform_contents_attempt {r : Except UpdateError Bool} (h : (perform s .contents).CanEnd mishaps by' d r d') :
    (∃ changed e, r = .ok changed ∧ HoldsTable by' s e d ∧ HoldsTable by' s (e.fill (contentsLines s e.lines)) d') ∨
      ∃ fault, r = .error fault ∧ Spares by' (partPath by'.id s.readme) d d' := by
  rw [show perform s .contents = _ from ReadmePart.perform_step s .contents] at h
  rcases Action.canEnd_bind h with ⟨new, d₁, hnew, hend⟩ | ⟨fault, hfault, rfl⟩
  · obtain ⟨rfl, ls, hls, rfl⟩ := generate_contents_attempt hnew
    obtain ⟨x, hx, rfl⟩ := Action.canEnd_mapError hend
    rcases Document.replaceSection_attempt ReadmePart.contents.marker_opening ReadmePart.contents.marker_closing hx with
      ⟨changed, e, rfl, hlines, f, hafter⟩ | ⟨fault, rfl, hspares⟩
    · obtain rfl := hls.unique hlines
      rw [normalLines_contentsLines] at hafter
      have hprose := @isProse_of_mem_contentsLines s e.lines
      refine .inl ⟨changed, e, rfl, ⟨hlines, f⟩, hafter, f.fill_iff.mpr ⟨fun l hl => ?_, fun _ l hl => ?_⟩⟩
      · exact (hprose l hl .contents).2
      · exact (hprose l hl .contents).1
    · exact .inr ⟨_, rfl, hspares⟩
  · obtain rfl := Session.OnlyLooks.canEnd (ReadmePart.onlyLooks_generate s .contents) hfault
    exact .inr ⟨fault, rfl, .refl _ _ _⟩

/-- Whatever goes wrong, an attempt puts in the table of the file as it was, or it fails and leaves the file. -/
theorem contents_attempt {r : Except UpdateError Outcome} (hby : by''.workDir = by'.workDir)
    (h : (runStep s .contents).CanEnd mishaps by'' d r d') :
    (∃ o e, r = .ok o ∧ HoldsTable by' s e d ∧ HoldsTable by' s (e.fill (contentsLines s e.lines)) d') ∨
      ∃ fault, r = .error fault ∧ ∀ e, HoldsTable by' s e d → HoldsTable by' s e d' := by
  rcases Action.canEnd_bind h with ⟨changed, d₁, hperform, hend⟩ | ⟨fault, hperform, rfl⟩
  · obtain ⟨rfl, rfl⟩ := Session.canEnd_done_iff.mp hend
    rcases perform_contents_attempt hperform with ⟨_, e, -, hbefore, hafter⟩ | ⟨_, hr, -⟩
    · exact .inl ⟨_, e, rfl, hbefore.again hby.symm, hafter.again hby.symm⟩
    · cases hr
  · rcases perform_contents_attempt hperform with ⟨_, _, hr, -⟩ | ⟨_, -, hspares⟩
    · cases hr
    · refine .inr ⟨fault, rfl, fun e he => ?_⟩
      have hlines := hspares.hasLines (place_partPath_ne _ _ _).symm (he.lines.again hby)
      exact ⟨hlines.again hby.symm, he.found⟩

/-! ### Attempts -/

/-- A table that is current stays, whatever comes of the attempts. -/
theorem Attempts.holdsTable (h : Attempts by' s .contents rs d d') (hcurrent : IsCurrent s e)
    (he : HoldsTable by' s e d) : HoldsTable by' s e d' := by
  induction h with
  | nil => exact he
  | cons hby hstep _ ih =>
    refine ih ?_
    rcases contents_attempt hby hstep with ⟨_, e', -, hbefore, hafter⟩ | ⟨_, -, hkept⟩
    · obtain rfl := he.unique hbefore
      rwa [hcurrent.fill_eq] at hafter
    · exact hkept e he

/-- Where the lines inside make no difference, one success makes the table current. -/
theorem Attempts.isCurrent_of_isInert (h : Attempts by' s .contents rs d d') (hinert : ∀ l ∈ e.inside, Heading.IsInert l)
    (he : HoldsTable by' s e d) (hn : 1 ≤ successes rs) : ∃ e', HoldsTable by' s e' d' ∧ IsCurrent s e' := by
  induction h with
  | nil => cases hn
  | cons hby hstep hrest ih =>
    rcases contents_attempt hby hstep with ⟨o, e', rfl, hbefore, hafter⟩ | ⟨fault, rfl, hkept⟩
    · obtain rfl := he.unique hbefore
      exact ⟨_, hrest.holdsTable (isCurrent_fill hinert) hafter, isCurrent_fill hinert⟩
    · exact ih (hkept e he) (by simpa using hn)

/-- Two successes make the table current, whatever there was: the first leaves lines that make no difference. -/
theorem Attempts.isCurrent (h : Attempts by' s .contents rs d d') (hn : 2 ≤ successes rs) :
    ∃ e, HoldsTable by' s e d' ∧ IsCurrent s e := by
  induction h with
  | nil => cases hn
  | cons hby hstep hrest ih =>
    rcases contents_attempt hby hstep with ⟨o, e, rfl, -, hafter⟩ | ⟨fault, rfl, -⟩
    · exact hrest.isCurrent_of_isInert isInert_of_mem_contentsLines hafter (by simpa using hn)
    · exact ih (by simpa using hn)

/-- There is nothing to do for the step, whoever takes it in the directory, and no attempt changes the readme file,
    whatever goes wrong. -/
structure IsAtRest (by' : Caller) (s : Settings) (d : Disk) : Prop where
  same : ∀ by'' : Caller, by''.workDir = by'.workDir →
    (runStep s .contents).on by'' d = (.ok ⟨.contents, s.readme, false⟩, d)
  kept : ∀ rs d', Attempts by' s .contents rs d d' → d'.read by' s.readme = d.read by' s.readme

theorem HoldsTable.isAtRest (h : HoldsTable by' s e d) (hcurrent : IsCurrent s e) : IsAtRest by' s d where
  same _ hby := (ReadmePart.contents_same_iff h.found (h.lines.again hby)).mpr hcurrent
  kept _ _ hmore := (hmore.holdsTable hcurrent h).read.trans h.read.symm

/-- Tables of contents are passed over wherever they stand; so after its second success the step is at rest. -/
theorem contents_settles :
    (∀ (lines : List Text) (maxLevel : Nat) (skipTitle : Bool) (above below : List Text),
        (∀ l ∈ above, l.isBlank = true) → (∀ l ∈ below, l.isBlank = true) →
        Heading.IsPassedOver (above ++ Contents.ofLines lines maxLevel skipTitle ++ below)) ∧
      ∀ by' s rs d d', Attempts by' s .contents rs d d' → 2 ≤ successes rs → IsAtRest by' s d' := by
  refine ⟨fun lines maxLevel skipTitle _ _ => Contents.isPassedOver_ofLines lines maxLevel skipTitle, ?_⟩
  intro by' s rs d d' h hn
  obtain ⟨e, he, hcurrent⟩ := h.isCurrent hn
  exact he.isAtRest hcurrent

theorem contents_refused (by' : Caller) (s : Settings) (d : Disk) (e : OsError) :
    (runStep s .contents).CanEnd .any by' d (.error (.document (.file (.refused s.readme e)))) d :=
  .ask (.refused trivial rfl) (.done _ _)

/-- The old table opens a fence and does not close it. So the first table is empty, and the second has an entry; in
    between a call is refused. -/
theorem contents_settles_of_open_fence :
    let s := Settings.forPlugin ⟨"."⟩ "x"
    let by' : Caller := ⟨[], 7⟩
    let d : Disk := ⟨[(["README.md".toList], .file (.text "# X\n<!-- TOC -->\n\x60\x60\x60\n<!-- /TOC -->\n## Use\n"))]⟩
    let o : Outcome := ⟨.contents, s.readme, true⟩
    let rs := [.ok o, .error (.document (.file (.refused s.readme .busy))), .ok o]
    (∃ d', Attempts by' s .contents rs d d' ∧ 2 ≤ successes rs ∧ IsAtRest by' s d') ∧
      Heading.IsPassedOver ([[' ', '\n']] ++ Contents.ofLines ["## Use\n"] 3 true ++ [['\n']]) := by
  intro s by' d o rs
  obtain ⟨d', h⟩ := @Action.exists_on_of_value? _ _ by' d
    (do let o ← runStep s .contents; let o' ← runStep s .contents; pure (o, o')) (o, o) (by decide +kernel)
  obtain ⟨o₁, d₁, h₁, h⟩ := Action.on_bind_eq_ok.mp h
  obtain ⟨o₂, d₂, h₂, h⟩ := Action.on_bind_eq_ok.mp h
  cases h
  have hattempts : Attempts by' s .contents rs d d' :=
    .cons rfl (Action.canEnd_of_on h₁) (.cons rfl (contents_refused by' s d₁ .busy)
      (.cons rfl (Action.canEnd_of_on h₂) (.nil d')))
  have hn : 2 ≤ successes rs := by decide
  refine ⟨⟨d', hattempts, hn, contents_settles.2 by' s rs d d' hattempts hn⟩, ?_⟩
  exact contents_settles.1 ["## Use\n"] 3 true [[' ', '\n']] [['\n']] (by decide) (by decide)

end Update
end PluginManual
