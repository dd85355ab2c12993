import PluginManual.Proofs.AllOrNothing
import PluginManual.Proofs.Parts
import PluginManual.Proofs.Writers

/-! Steps that fail. All that can fail in a step comes before the one file that it writes takes its place, or is
    undone; so a step that fails changes no file, and a run that fails has done what the steps before the one
    that failed have done. Directories that a step has made stay, whether or not it succeeds. -/

namespace PluginManual
open Disk Files

/-! ### Files that stay -/

namespace Disk

variable {mishaps mishaps' : Mishaps} {d d' : Disk} {by' : Caller}

/-- What is in the files is the same, and so is which files there are. -/
def HasSameFiles (d d' : Disk) : Prop := ∀ l, d'.content? l = d.content? l

theorem content?_congr {l : Location} (h : d'.get? l = d.get? l) : d'.content? l = d.content? l := by
  rw [content?, content?, h]

/-- Where a directory is made, there was no file before. -/
theorem hasSameFiles_of_makeDir {p : Path} (h : d.makeDir by' p = .ok d') : d.HasSameFiles d' := by
  obtain ⟨hnone, hdir, hagree⟩ := get?_of_makeDir h
  intro l
  by_cases hl : l = place by' p
  · rw [hl, content?_eq_none_iff.mpr (.inl hnone), content?_eq_none_iff.mpr (.inr hdir)]
  · exact content?_congr (hagree.get?_of_ne hl)

theorem CanAnswer.mono {c : Call} {x : c.Answer} (hm : ∀ c e, mishaps c e → mishaps' c e)
    (h : d.CanAnswer mishaps by' c x d') : d.CanAnswer mishaps' by' c x d' := by
  cases h with
  | answered => exact .answered c
  | refused h hx => exact .refused (hm _ _ h) hx
  | brokenOff h hpart hd => exact .brokenOff (hm _ _ h) hpart hd

theorem CanAnswer.looks {c : Call} {x : c.Answer} (hc : c.looks = true) (h : d.CanAnswer mishaps by' c x d') : d' = d := by
  cases h with
  | answered => exact answer_leaves hc by' d
  | refused _ _ => rfl
  | brokenOff _ _ _ => cases hc

end Disk

namespace Session

variable {α : Type} {mishaps mishaps' : Mishaps} {d d' : Disk} {by' : Caller} {s : Session α} {a : α}

theorem CanEnd.mono (hm : ∀ c e, mishaps c e → mishaps' c e) (h : s.CanEnd mishaps by' d a d') :
    s.CanEnd mishaps' by' d a d' := by
  induction h with
  | done a d => exact .done a d
  | ask hx _ ih => exact .ask (hx.mono hm) ih

theorem OnlyLooks.canEnd (h : s.OnlyLooks) (hend : s.CanEnd mishaps by' d a d') : d' = d := by
  induction hend with
  | done => rfl
  | ask hx _ ih =>
    cases h with
    | ask hc h => rw [ih (h _), hx.looks hc]

theorem OnlyMakes.canEnd {paths : List Path} (h : s.OnlyMakes paths) (hend : s.CanEnd mishaps by' d a d') :
    d.HasSameFiles d' := by
  induction hend with
  | done => exact fun _ => rfl
  | ask hx _ ih =>
    intro l
    cases h with
    | makeDir _ h =>
      rw [ih (h _) l]
      rcases hx.makeDir with ⟨-, hmade⟩ | ⟨_, -, rfl, -⟩
      · exact hasSameFiles_of_makeDir hmade l
      · rfl
    | isDir h =>
      rw [ih (h _) l]
      obtain rfl := hx.isDir
      rfl

end Session

namespace Action

variable {ε α β : Type} {mishaps : Mishaps} {d d' : Disk} {by' : Caller}

/-- A part that only looks at the disk leaves it to the rest, or fails and has done nothing. -/
theorem OnlyLooks.canEnd_bind {a : Action ε α} (ha : a.OnlyLooks) {f : α → Action ε β} {r : Except ε β}
    (h : (a >>= f).CanEnd mishaps by' d r d') :
    (∃ x, (f x).CanEnd mishaps by' d r d') ∨ ∃ e, a.CanEnd mishaps by' d (.error e) d ∧ r = .error e ∧ d' = d := by
  rcases Action.canEnd_bind h with ⟨x, d₁, hx, hend⟩ | ⟨e, he, hr⟩
  · obtain rfl := Session.OnlyLooks.canEnd ha hx
    exact .inl ⟨x, hend⟩
  · obtain rfl := Session.OnlyLooks.canEnd ha he
    exact .inr ⟨e, he, hr, rfl⟩

/-- What is done with a result that has come cannot fail. -/
theorem canEnd_error_of_return {a : Action ε α} {f : α → β} {e : ε}
    (h : (a >>= fun x => pure (f x)).CanEnd mishaps by' d (.error e) d') : a.CanEnd mishaps by' d (.error e) d' := by
  rcases Action.canEnd_bind h with ⟨x, d₁, -, hend⟩ | ⟨e', he, hr⟩
  · cases (Session.canEnd_done_iff.mp hend).1
  · cases hr
    exact he

end Action

/-! ### Keeping a file -/

namespace Files

variable {d d' : Disk} {by' : Caller} {p : Path}

/-- The file at a path has been kept: no other file has changed, and it is told whether this one has. It may
    have been missing before. -/
structure IsKept (by' : Caller) (p : Path) (changed : Bool) (d d' : Disk) : Prop where
  others : ∀ l, l ≠ place by' p → d'.content? l = d.content? l
  before : d.read by' p = .error .noEntry ∨ ∃ c, d.read by' p = .ok c
  after : ∃ s, d'.read by' p = .ok (.text s)
  /-- A file was missing if its path led nowhere. Without a directory `new` the path `new/../x.txt` does so, even
      where there is a file `x.txt`: then the change is told even if that file stays as it is. -/
  changed_iff : changed = true ↔ d.read by' p = .error .noEntry ∨ ∃ c, d.read by' p = .ok c ∧ d'.read by' p ≠ .ok c

/-- A write changes no file but its own, and none if it fails. -/
theorem writeAtomic_canEnd_files {c : Content} {r : Except FileError Unit}
    (hpart : d.content? (place by' (partPath by'.id p)) = none) (h : (writeAtomic p c).CanEnd .mild by' d r d') :
    (r = .ok () ∧ d'.read by' p = .ok c ∧ ∀ l, l ≠ place by' p → d'.content? l = d.content? l) ∨
      ∃ e, r = .error e ∧ d.HasSameFiles d' := by
  rw [Action.CanEnd, run_writeAtomic] at h
  obtain ⟨made, d₁, hmade, h⟩ := Session.canEnd_bind_iff.mp h
  have hsame := (onlyMakes_makeDirs _).canEnd hmade
  rcases made with e | ⟨⟩
  · obtain ⟨rfl, rfl⟩ := Session.canEnd_done_iff.mp h
    exact .inr ⟨_, rfl, hsame⟩
  · obtain ⟨id, d₂, hid, hrest⟩ := Session.canEnd_ask_iff.mp h
    obtain ⟨rfl, rfl⟩ := hid.callerId
    have hpart₂ : d₂.content? (place by' (partPath by'.id p)) = none := (hsame _).trans hpart
    rcases r with e | ⟨⟩
    · exact .inr ⟨e, rfl, fun l => (content?_congr (undoes_creating hpart₂ e d' hrest l)).trans (hsame l)⟩
    · have hput := isPut_of_creating hrest
      exact .inl ⟨rfl, hput.read, fun l hl => (content?_congr (hput.get?_eq_of_none hpart₂ hl)).trans (hsame l)⟩

theorem writeIfChanged_canEnd_files {s : Text} {r : Except FileError Bool}
    (hpart : d.content? (place by' (partPath by'.id p)) = none) (h : (writeIfChanged p s).CanEnd .mild by' d r d') :
    (∃ changed, r = .ok changed ∧ IsKept by' p changed d d') ∨ ∃ e, r = .error e ∧ d.HasSameFiles d' := by
  rcases writeIfChanged_comes h with ⟨hheld, rfl, rfl⟩ | ⟨hwhy, x, hwrite, rfl⟩ | ⟨e, rfl, rfl⟩
  · exact .inl ⟨false, rfl, fun _ _ => rfl, .inr ⟨_, hheld⟩, ⟨s, hheld⟩, by simp [hheld]⟩
  · have hbefore : d.read by' p = .error .noEntry ∨ ∃ c, d.read by' p = .ok c ∧ c ≠ .text s := by
      rcases hwhy with hnone | hother | hmishap
      · exact .inl hnone
      · exact .inr hother
      · exact absurd rfl hmishap.1
    rcases writeAtomic_canEnd_files hpart hwrite with ⟨rfl, hafter, hothers⟩ | ⟨e, rfl, hsame⟩
    · refine .inl ⟨true, rfl, hothers, hbefore.imp_right fun ⟨c, hc, _⟩ => ⟨c, hc⟩, ⟨s, hafter⟩, ?_⟩
      rw [hafter]
      simpa [eq_comm] using hbefore
    · exact .inr ⟨e, rfl, hsame⟩
  · exact .inr ⟨e, rfl, fun _ => rfl⟩

end Files

theorem Document.IsReplacement.isKept {by' : Caller} {p : Path} {o c : Text} {new : List Text} {m : Multiplicity}
    {d d' : Disk} {changed : Bool} (h : IsReplacement by' p o c new m d (.ok changed) d') :
    IsKept by' p changed d d' := by
  obtain ⟨-, -, s, -, doc, -, -, hread, -, hafter, hchanged, hothers⟩ := h
  refine ⟨fun l hl => content?_congr (hothers l hl), .inr ⟨_, hread⟩, ⟨_, hafter⟩, ?_⟩
  rw [hchanged, hread, hafter]
  simp

namespace Update

variable {mishaps : Mishaps} {s : Settings} {by' : Caller} {d d' d₁ : Disk} {step : UpdateStep} {e : UpdateError}
  {os os' : List Outcome}

/-! ### Errors -/

theorem cause_of_mapError {ε α : Type} {a : Action ε α} {f : ε → UpdateError} (hf : ∀ x, (f x).cause = f x)
    (h : (a.mapError f).CanEnd mishaps by' d (.error e) d') : e.cause = e := by
  obtain ⟨x, -, hx⟩ := Action.canEnd_mapError h
  rcases x with x | a <;> cases hx
  exact hf x

theorem cause_of_reference (h : (reference s).CanEnd mishaps by' d (.error e) d') : e.cause = e := by
  rcases Action.canEnd_bind h with ⟨c, d₁, -, hend⟩ | ⟨e', he, hr⟩
  · split at hend
    · cases (Session.canEnd_done_iff.mp hend).1
    · cases (Session.canEnd_done_iff.mp hend).1
      rfl
  · cases hr
    exact cause_of_mapError (fun _ => rfl) he

theorem cause_of_defaultOptions (h : (defaultOptions s).CanEnd mishaps by' d (.error e) d') : e.cause = e :=
  cause_of_mapError (fun x => by cases x <;> rfl) h

theorem cause_of_generate {part : ReadmePart} (h : (part.generate s).CanEnd mishaps by' d (.error e) d') :
    e.cause = e := by
  cases part with
  | api => exact cause_of_reference (Action.canEnd_error_of_return h)
  | options => exact cause_of_defaultOptions (Action.canEnd_error_of_return h)
  | contents => exact cause_of_mapError (fun _ => rfl) (Action.canEnd_error_of_return h)

/-! ### Steps -/

/-- What comes of a step. If it succeeds, it has kept the one file that it names; if it fails, it has changed no
    file, and the error is not that of a run. -/
def IsStep (by' : Caller) (s : Settings) (step : UpdateStep) (d : Disk) : Except UpdateError Outcome → Disk → Prop
  | .ok o, d' => o.step = step ∧ o.path = target s step ∧ IsKept by' o.path o.changed d d'
  | .error e, d' => e.cause = e ∧ d.HasSameFiles d'

theorem perform_step_canEnd {part : ReadmePart} {r : Except UpdateError Bool}
    (hpart : d.content? (place by' (partPath by'.id s.readme)) = none)
    (h : (perform s part.step).CanEnd .mild by' d r d') :
    (∃ changed, r = .ok changed ∧ (∃ c, d.read by' s.readme = .ok c) ∧ IsKept by' s.readme changed d d') ∨
      ∃ e, r = .error e ∧ e.cause = e ∧ d.HasSameFiles d' := by
  rw [ReadmePart.perform_step] at h
  rcases (ReadmePart.onlyLooks_generate s part).canEnd_bind h with ⟨new, hend⟩ | ⟨e, he, rfl, rfl⟩
  · obtain ⟨x, hx, rfl⟩ := Action.canEnd_mapError hend
    have hreplaced := Document.replaceSection_canEnd hpart hx
    rcases x with fault | changed
    · exact .inr ⟨_, rfl, rfl, fun l => content?_congr (hreplaced.2 l)⟩
    · obtain ⟨-, -, text, -, -, -, -, hread, -⟩ := id hreplaced
      exact .inl ⟨changed, rfl, ⟨_, hread⟩, hreplaced.isKept⟩
  · exact .inr ⟨e, rfl, cause_of_generate he, fun _ => rfl⟩

theorem perform_help_canEnd {r : Except UpdateError Bool}
    (hpart : d.content? (place by' (partPath by'.id s.helpFile)) = none)
    (h : (perform s .help).CanEnd .mild by' d r d') :
    (∃ changed, r = .ok changed ∧ IsKept by' s.helpFile changed d d') ∨
      ∃ e, r = .error e ∧ e.cause = e ∧ d.HasSameFiles d' := by
  rcases (ReadmePart.onlyLooks_reference s).canEnd_bind h with ⟨⟨c, fs⟩, h⟩ | ⟨e, he, rfl, rfl⟩
  · rcases (ReadmePart.onlyLooks_defaultOptions s).canEnd_bind h with ⟨ls, h⟩ | ⟨e, he, rfl, rfl⟩
    · obtain ⟨x, hx, rfl⟩ := Action.canEnd_mapError h
      rcases writeIfChanged_canEnd_files hpart hx with ⟨changed, rfl, hkept⟩ | ⟨fault, rfl, hsame⟩
      · exact .inl ⟨changed, rfl, hkept⟩
      · exact .inr ⟨_, rfl, rfl, hsame⟩
    · exact .inr ⟨e, rfl, cause_of_defaultOptions he, fun _ => rfl⟩
  · exact .inr ⟨e, rfl, cause_of_reference he, fun _ => rfl⟩

/-- No file has the name that the part of a file to be written will have. -/
def HasNoParts (by' : Caller) (s : Settings) (d : Disk) : Prop :=
  ∀ step, d.content? (place by' (partPath by'.id (target s step))) = none

theorem exists_part (h : step ≠ .help) : ∃ part : ReadmePart, part.step = step := by
  cases step with
  | api => exact ⟨.api, rfl⟩
  | options => exact ⟨.options, rfl⟩
  | contents => exact ⟨.contents, rfl⟩
  | help => exact absurd rfl h

theorem runStep_isStep {r : Except UpdateError Outcome} (hparts : HasNoParts by' s d)
    (h : (runStep s step).CanEnd .mild by' d r d') : IsStep by' s step d r d' := by
  have hperform : ∀ {r d'}, (perform s step).CanEnd .mild by' d r d' →
      (∃ changed, r = .ok changed ∧ IsKept by' (target s step) changed d d') ∨
        ∃ e, r = .error e ∧ e.cause = e ∧ d.HasSameFiles d' := by
    intro r d' h
    have hpart := hparts step
    rcases eq_or_ne step .help with rfl | hne
    · exact perform_help_canEnd hpart h
    · obtain ⟨part, rfl⟩ := exists_part hne
      rw [ReadmePart.target_step] at hpart ⊢
      exact (perform_step_canEnd hpart h).imp_left fun ⟨changed, hr, _, hkept⟩ => ⟨changed, hr, hkept⟩
  rcases Action.canEnd_bind h with ⟨changed, d₁, hchanged, hend⟩ | ⟨e, he, rfl⟩
  · obtain ⟨rfl, rfl⟩ := Session.canEnd_done_iff.mp hend
    rcases hperform hchanged with ⟨changed', hr, hkept⟩ | ⟨e, hr, -, -⟩ <;> cases hr
    exact ⟨rfl, rfl, hkept⟩
  · rcases hperform he with ⟨changed, hr, -⟩ | ⟨e', hr, hcause, hsame⟩ <;> cases hr
    exact ⟨hcause, hsame⟩

/-- A step that keeps the readme file makes no part of any file, as the readme file was there before. -/
theorem HasNoParts.of_runStep {o : Outcome} (hparts : HasNoParts by' s d) (hstep : step ≠ .help)
    (h : (runStep s step).CanEnd .mild by' d (.ok o) d') : HasNoParts by' s d' := by
  obtain ⟨part, rfl⟩ := exists_part hstep
  have hpart := hparts part.step
  rw [ReadmePart.target_step] at hpart
  rcases Action.canEnd_bind h with ⟨changed, d₁, hchanged, hend⟩ | ⟨e, -, hr⟩
  · obtain ⟨-, rfl⟩ := Session.canEnd_done_iff.mp hend
    rcases perform_step_canEnd hpart hchanged with ⟨_, _, ⟨c, hread⟩, hkept⟩ | ⟨e, hr, -, -⟩
    · intro other
      have hne : place by' (partPath by'.id (target s other)) ≠ place by' s.readme := by
        intro heq
        have hnone := hparts other
        rw [heq, content?_eq_some_iff.mpr (read_eq_ok_iff.mp hread).2] at hnone
        cases hnone
      exact (hkept.others _ hne).trans (hparts other)
    · cases hr
  · cases hr

/-! ### Runs -/

/-- The steps succeed, taken one by one. -/
inductive Succeed (mishaps : Mishaps) (by' : Caller) (s : Settings) :
    List UpdateStep → Disk → List Outcome → Disk → Prop where
  | nil (d : Disk) : Succeed mishaps by' s [] d [] d
  | cons {step : UpdateStep} {rest : List UpdateStep} {d d₁ d' : Disk} {o : Outcome} {os : List Outcome}
    (h : (runStep s step).CanEnd mishaps by' d (.ok o) d₁) (hrest : Succeed mishaps by' s rest d₁ os d') :
    Succeed mishaps by' s (step :: rest) d (o :: os) d'

/-- A run comes to its end, or to a step that fails after those before it have succeeded. -/
theorem runSteps_canEnd {steps : List UpdateStep} {r : Except UpdateError (List Outcome)}
    (h : (runSteps s steps).CanEnd mishaps by' d r d') :
    (∃ os, r = .ok os ∧ Succeed mishaps by' s steps d os d') ∨
      ∃ before step after os d₁ e, steps = before ++ step :: after ∧ Succeed mishaps by' s before d os d₁ ∧
        (runStep s step).CanEnd mishaps by' d₁ (.error e) d' ∧ r = .error (.step step e) := by
  induction steps generalizing d r with
  | nil =>
    obtain ⟨rfl, rfl⟩ := Session.canEnd_done_iff.mp h
    exact .inl ⟨[], rfl, .nil _⟩
  | cons step rest ih =>
    rcases Action.canEnd_bind h with ⟨o, d₁, ho, h⟩ | ⟨e, he, rfl⟩
    · obtain ⟨x, hx, hok⟩ := Action.canEnd_mapError ho
      rcases x with e | o' <;> cases hok
      rcases Action.canEnd_bind h with ⟨os, d₂, hos, hend⟩ | ⟨e, he, rfl⟩
      · obtain ⟨rfl, rfl⟩ := Session.canEnd_done_iff.mp hend
        rcases ih hos with ⟨os', hr, hrest⟩ | ⟨_, _, _, _, _, _, -, -, -, hr⟩ <;> cases hr
        exact .inl ⟨_, rfl, .cons hx hrest⟩
      · rcases ih he with ⟨_, hr, -⟩ | ⟨before, k, after, os, d₂, e', rfl, hbefore, hk, hr⟩ <;> cases hr
        exact .inr ⟨step :: before, k, after, _, d₂, e', rfl, .cons hx hbefore, hk, rfl⟩
    · obtain ⟨x, hx, herror⟩ := Action.canEnd_mapError he
      rcases x with e' | o' <;> cases herror
      exact .inr ⟨[], step, rest, [], d, e', rfl, .nil d, hx, rfl⟩

theorem Succeed.hasNoParts {steps : List UpdateStep} (h : Succeed .mild by' s steps d os d')
    (hsteps : .help ∉ steps) (hparts : HasNoParts by' s d) : HasNoParts by' s d' := by
  induction h with
  | nil => exact hparts
  | cons hstep _ ih =>
    obtain ⟨hne, hrest⟩ := List.ne_and_not_mem_of_not_mem_cons hsteps
    exact ih hrest (hparts.of_runStep hne.symm hstep)

theorem Succeed.mono {mishaps' : Mishaps} {steps : List UpdateStep} (hm : ∀ c e, mishaps c e → mishaps' c e)
    (h : Succeed mishaps by' s steps d os d') : Succeed mishaps' by' s steps d os d' := by
  induction h with
  | nil => exact .nil _
  | cons hstep _ ih => exact .cons (hstep.mono hm) ih

/-- A run has stopped at a step. The steps before it have succeeded, one by one; the step itself has failed with
    the error that is the cause of that of the run, and has left the files as they were. -/
def StopsAt (mishaps : Mishaps) (by' : Caller) (s : Settings) (k : UpdateStep) (d : Disk) (e : UpdateError)
    (d' : Disk) : Prop :=
  ∃ os d₁ e', Succeed mishaps by' s (UpdateStep.all.takeWhile (· ≠ k)) d os d₁ ∧
    (runStep s k).CanEnd mishaps by' d₁ (.error e') d' ∧ d₁.HasSameFiles d' ∧ e = .step k e' ∧ e.cause = e'

theorem eq_takeWhile_of_all {before after : List UpdateStep} (h : UpdateStep.all = before ++ step :: after) :
    before = UpdateStep.all.takeWhile (· ≠ step) := by
  have hnodup : (before ++ step :: after).Nodup := h ▸ by decide
  have hbefore : ∀ k ∈ before, decide (k ≠ step) = true := fun k hk =>
    decide_eq_true ((List.nodup_append.mp hnodup).2.2 k hk step List.mem_cons_self)
  rw [h, List.takeWhile_append_of_pos hbefore]
  simp

theorem run_stopsAt (hm : ∀ c e, mishaps c e → Mishaps.mild c e) (hparts : HasNoParts by' s d)
    (h : (run s).CanEnd mishaps by' d (.error e) d') : ∃! k, StopsAt mishaps by' s k d e d' := by
  rcases runSteps_canEnd h with ⟨os, hr, -⟩ | ⟨before, k, after, os, d₁, e', hall, hbefore, hk, hr⟩
  · cases hr
  · cases hr
    obtain rfl := eq_takeWhile_of_all hall
    have hhelp : .help ∉ UpdateStep.all.takeWhile (· ≠ k) := by cases k <;> decide
    obtain ⟨hcause, hsame⟩ := runStep_isStep ((hbefore.mono hm).hasNoParts hhelp hparts) (hk.mono hm)
    refine ⟨k, ⟨os, d₁, e', hbefore, hk, hsame, rfl, hcause⟩, ?_⟩
    rintro k' ⟨_, _, _, _, _, _, he, _⟩
    cases he
    rfl

/-- A step that fails changes no file, and one that succeeds no other file than it names; so a run that fails
    leaves the files as the steps before the one that failed have left them. Any call may be refused, but two things
    are taken not to happen (`Mishaps.mild`): that what is there is reported missing, which would make the step write it
    anew, and that the part cannot be removed, which would leave it behind. Whether a file was missing before goes by
    its path, as `IsKept` says: without a directory `new` the path `new/../x.txt` counts as missing although `x.txt` is
    there. -/
theorem run_isFailFast (hm : ∀ c e, mishaps c e → Mishaps.mild c e) (hparts : HasNoParts by' s d) :
    (∀ step r d', (runStep s step).CanEnd mishaps by' d r d' → IsStep by' s step d r d') ∧
      ∀ e d', (run s).CanEnd mishaps by' d (.error e) d' → ∃! k, StopsAt mishaps by' s k d e d' :=
  ⟨fun _ _ _ h => runStep_isStep hparts (h.mono hm), fun _ _ h => run_stopsAt hm hparts h⟩

/-- The first step writes the readme file, and the second finds no file with default options. -/
theorem run_isFailFast_of_no_options :
    let s := Settings.forPlugin ⟨"."⟩ "x"
    let by' : Caller := ⟨[], 7⟩
    let d : Disk := ⟨[(["README.md".toList], .file (.text "<!-- API -->\n<!-- /API -->\n")), (["lua".toList], .dir),
      (["lua".toList, "x".toList], .dir), (["lua".toList, "x".toList, "init.lua".toList], .file (.text []))]⟩
    let e : UpdateError := .step .options (.document (.file (.refused ⟨"./lua/x/config.lua"⟩ .noEntry)))
    (∀ c e, Mishaps.mild c e → Mishaps.mild c e) ∧ HasNoParts by' s d ∧ ∃ d', (run s).on by' d = (.error e, d') ∧
      d'.content? ["README.md".toList] = some (.text "<!-- API -->\n\n<!-- /API -->\n") ∧
      ∃! k, StopsAt .mild by' s k d e d' := by
  intro s by' d e
  have hparts : HasNoParts by' s d := by
    intro step
    cases step <;> decide +kernel
  have herror : ((run s).on by' d).1 = .error e := by decide +kernel
  have hreadme : ((run s).on by' d).2.content? ["README.md".toList] =
      some (.text "<!-- API -->\n\n<!-- /API -->\n") := by decide +kernel
  generalize hrun : (run s).on by' d = r at herror hreadme
  obtain ⟨r, d'⟩ := r
  obtain rfl : r = .error e := herror
  exact ⟨fun _ _ h => h, hparts, d', rfl, hreadme,
    (run_isFailFast (fun _ _ h => h) hparts).2 _ _ (Action.canEnd_of_on hrun)⟩

end Update
end PluginManual
