import PluginManual.Proofs.Beside
import PluginManual.Proofs.GeneratedStep
import PluginManual.Proofs.HelpStep
import PluginManual.Proofs.TableStep

/-! The steps one after the other. The parts of the readme file stay apart while one step after the other
    fills them. A plugin is up to date when each part holds what its step would put in; then no step
    changes the readme file. -/

namespace PluginManual
open Disk Files

namespace Update

variable {s : Settings} {by' by'' : Caller} {d d' d₁ d₂ d₃ : Disk} {os : List Outcome} {step : UpdateStep}
  {steps : List UpdateStep} {ls : List Text} {fam : ReadmePart → Enclosure} {part : ReadmePart} {c : Catalog}
  {fs : List FunctionDoc} {opts : List Text} {changed : Bool}

/-! ### Runs -/

theorem runSteps_cons_eq_ok_iff :
    (runSteps s (step :: steps)).on by' d = (.ok os, d') ↔
      ∃ changed d₁ rest, (perform s step).on by' d = (.ok changed, d₁) ∧
        (runSteps s steps).on by' d₁ = (.ok rest, d') ∧ os = ⟨step, target s step, changed⟩ :: rest := by
  constructor
  · intro h
    obtain ⟨o, d₁, ho, h⟩ := Action.on_bind_eq_ok.mp h
    obtain ⟨changed, hperform, rfl⟩ := runStep_eq_ok_iff.mp (Action.on_mapError_eq_ok.mp ho)
    obtain ⟨rest, d₂, hrest, hret⟩ := Action.on_bind_eq_ok.mp h
    cases hret
    exact ⟨changed, d₁, rest, hperform, hrest, rfl⟩
  · rintro ⟨changed, d₁, rest, hperform, hrest, rfl⟩
    refine Action.on_bind_eq_ok.mpr ⟨⟨step, target s step, changed⟩, d₁, ?_, ?_⟩
    · exact Action.on_mapError_eq_ok.mpr (runStep_eq_ok_iff.mpr ⟨changed, hperform, rfl⟩)
    · exact Action.on_bind_eq_ok.mpr ⟨rest, d', hrest, rfl⟩

/-- If no step changes anything, a run changes nothing. -/
theorem runSteps_same (h : ∀ step ∈ steps, (perform s step).on by' d = (.ok false, d)) :
    (runSteps s steps).on by' d = (.ok (steps.map fun step => ⟨step, target s step, false⟩), d) := by
  induction steps with
  | nil => rfl
  | cons step steps ih =>
    refine runSteps_cons_eq_ok_iff.mpr ⟨false, d, _, h step List.mem_cons_self, ih fun st hst => ?_, rfl⟩
    exact h st (List.mem_cons_of_mem _ hst)

theorem run_eq_ok_iff :
    (run s).on by' d = (.ok os, d') ↔ ∃ d₁ d₂ d₃ c₁ c₂ c₃ c₄,
      (perform s .api).on by' d = (.ok c₁, d₁) ∧ (perform s .options).on by' d₁ = (.ok c₂, d₂) ∧
      (perform s .contents).on by' d₂ = (.ok c₃, d₃) ∧ (perform s .help).on by' d₃ = (.ok c₄, d') ∧
      os = [⟨.api, s.readme, c₁⟩, ⟨.options, s.readme, c₂⟩, ⟨.contents, s.readme, c₃⟩, ⟨.help, s.helpFile, c₄⟩] := by
  constructor
  · intro h
    obtain ⟨c₁, d₁, os₁, h₁, hoptions, rfl⟩ := runSteps_cons_eq_ok_iff.mp h
    obtain ⟨c₂, d₂, os₂, h₂, hcontents, rfl⟩ := runSteps_cons_eq_ok_iff.mp hoptions
    obtain ⟨c₃, d₃, os₃, h₃, hhelp, rfl⟩ := runSteps_cons_eq_ok_iff.mp hcontents
    obtain ⟨c₄, d₄, os₄, h₄, hnil, rfl⟩ := runSteps_cons_eq_ok_iff.mp hhelp
    cases hnil
    exact ⟨d₁, d₂, d₃, c₁, c₂, c₃, c₄, h₁, h₂, h₃, h₄, rfl⟩
  · rintro ⟨d₁, d₂, d₃, c₁, c₂, c₃, c₄, h₁, h₂, h₃, h₄, rfl⟩
    have hnil : (runSteps s []).on by' d' = (.ok [], d') := rfl
    have hhelp := runSteps_cons_eq_ok_iff.mpr ⟨c₄, d', [], h₄, hnil, rfl⟩
    have hcontents := runSteps_cons_eq_ok_iff.mpr ⟨c₃, d₃, _, h₃, hhelp, rfl⟩
    have hoptions := runSteps_cons_eq_ok_iff.mpr ⟨c₂, d₂, _, h₂, hcontents, rfl⟩
    exact runSteps_cons_eq_ok_iff.mpr ⟨c₁, d₁, _, h₁, hoptions, rfl⟩

/-! ### One step on the parts -/

/-- The readme file has the given lines, with all parts among them. -/
def HasParts (by' : Caller) (s : Settings) (ls : List Text) (fam : ReadmePart → Enclosure) (d : Disk) : Prop :=
  HasLines by' s.readme ls d ∧ Enclosure.AreApart ReadmePart.opens ReadmePart.closes ls fam

theorem HasParts.again (h : HasParts by' s ls fam d) (hby : by''.workDir = by'.workDir) : HasParts by'' s ls fam d :=
  ⟨h.1.again hby, h.2⟩

/-- A step whose new lines are no markers fills its own part and leaves the lines of the others. -/
theorem HasParts.perform (h : HasParts by' s ls fam d) (hperform : (perform s part.step).on by' d = (.ok changed, d'))
    (hprose : ∀ new, (part.generate s).on by' d = (.ok new, d) →
      ∀ l ∈ Region.normalLines new, ReadmePart.IsProse l) :
    ∃ new fam', (part.generate s).on by' d = (.ok new, d) ∧
      Document.IsRefilled by' s.readme new (fam part) changed d d' ∧
      HasParts by' s ((fam part).fill (Region.normalLines new)).lines fam' d' ∧
      (fam' part).inside = Region.normalLines new ∧
      ∀ other, other ≠ part → (fam' other).inside = (fam other).inside := by
  obtain ⟨hlines, hfam⟩ := h
  obtain ⟨new, e, hnew, f, hrefilled⟩ := part.perform_isRefilled hperform
  -- The cut that the step finds is that of the family.
  obtain rfl := f.eq (hfam.found part) ((hrefilled.before.unique hlines).trans (hfam.lines part).symm)
  obtain ⟨fam', hfam', hin, hothers⟩ := hfam.fill part (hprose new hnew)
  exact ⟨new, fam', hnew, hrefilled, ⟨hrefilled.after, hfam'⟩, hin, hothers⟩

/-- A part with the lines that its step generates is left as it is. -/
theorem HasParts.perform_same {new : List Text} (h : HasParts by' s ls fam d)
    (hnew : (part.generate s).on by' d = (.ok new, d))
    (hin : (fam part).inside = Region.normalLines new) : (Update.perform s part.step).on by' d = (.ok false, d) :=
  ReadmePart.perform_same_iff.mpr ⟨new, fam part, hnew, by rw [h.2.lines part]; exact h.1, h.2.found part, hin⟩

/-! ### Parts up to date -/

/-- The lines that go into a part of the readme file with the lines `ls`. -/
def partLines (s : Settings) (c : Catalog) (fs : List FunctionDoc) (opts ls : List Text) : ReadmePart → List Text
  | .api => apiLines s c fs
  | .options => optionsLines s opts
  | .contents => contentsLines s ls

/-- All steps would find the readme file as they leave it. -/
structure IsUpToDate (by' : Caller) (s : Settings) (c : Catalog) (fs : List FunctionDoc) (opts ls : List Text)
    (fam : ReadmePart → Enclosure) (d : Disk) : Prop where
  parts : HasParts by' s ls fam d
  reference : (reference s).on by' d = (.ok (c, fs), d)
  options : (defaultOptions s).on by' d = (.ok opts, d)
  inside : ∀ part, (fam part).inside = Region.normalLines (partLines s c fs opts ls part)

theorem IsUpToDate.generate (h : IsUpToDate by' s c fs opts ls fam d) (part : ReadmePart) :
    (part.generate s).on by' d = (.ok (partLines s c fs opts ls part), d) := by
  cases part with
  | api => exact ReadmePart.generate_api_eq_ok_iff.mpr ⟨c, fs, h.reference, rfl⟩
  | options => exact ReadmePart.generate_options_eq_ok_iff.mpr ⟨opts, h.options, rfl⟩
  | contents => exact ReadmePart.generate_contents_eq_ok_iff.mpr ⟨rfl, ls, h.parts.1, rfl⟩

theorem IsUpToDate.perform_same (h : IsUpToDate by' s c fs opts ls fam d) (part : ReadmePart) :
    (perform s part.step).on by' d = (.ok false, d) := h.parts.perform_same (h.generate part) (h.inside part)

theorem IsUpToDate.run_unchanged (h : IsUpToDate by' s c fs opts ls fam d)
    (hread : d.read by' s.helpFile = .ok (.text (helpFile s opts c fs).lines.flatten)) :
    (run s).on by' d = (.ok (UpdateStep.all.map fun step => ⟨step, target s step, false⟩), d) := by
  refine runSteps_same fun step _ => ?_
  cases step with
  | api => exact h.perform_same .api
  | options => exact h.perform_same .options
  | contents => exact h.perform_same .contents
  | help => exact perform_help_eq_ok_iff.mpr ⟨c, fs, opts, h.reference, h.options, writeIfChanged_same hread⟩

theorem IsUpToDate.again (h : IsUpToDate by' s c fs opts ls fam d) (hby : by''.workDir = by'.workDir) :
    IsUpToDate by'' s c fs opts ls fam d where
  parts := h.parts.again hby
  reference := (ReadmePart.readsOnly_reference s).on_again hby h.reference
  options := (ReadmePart.readsOnly_defaultOptions s).on_again hby h.options
  inside := h.inside

end Update
end PluginManual
