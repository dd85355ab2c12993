import PluginManual.Proofs.FailFast
import PluginManual.Proofs.Frames

/-! Steps that are taken again and again, by any callers in one directory, with anything going wrong on the way.
    An attempt that fails may have touched its part and made directories, but nothing else: what could be read
    before, but for the part, is read as before. -/

namespace PluginManual
open Disk Files

namespace Files

variable {mishaps : Mishaps} {d d₁ d₂ d' : Disk} {by' : Caller} {p q part : Path} {c : Content} {e : FileError}
  {r : Except FileError Unit} {ls : List Text}

/-! ### What a failure spares -/

/-- All files have stayed but perhaps the part, and no directory has gone. -/
structure Spares (by' : Caller) (part : Path) (d d' : Disk) : Prop where
  files : ∀ l, l ≠ place by' part → d'.content? l = d.content? l
  dirs : ∀ l, d.get? l = some .dir → d'.get? l = some .dir

theorem Spares.refl (by' : Caller) (part : Path) (d : Disk) : Spares by' part d d := ⟨fun _ _ => rfl, fun _ => id⟩

theorem Spares.trans (h : Spares by' part d d₁) (h' : Spares by' part d₁ d₂) : Spares by' part d d₂ :=
  ⟨fun l hl => (h'.files l hl).trans (h.files l hl), fun l hl => h'.dirs l (h.dirs l hl)⟩

theorem spares_of_agree (h : AgreeOff [place by' part] d d') (hpart : d.get? (place by' part) ≠ some .dir) :
    Spares by' part d d' :=
  ⟨fun _ hl => content?_congr (h.get?_of_ne hl), h.dirs hpart⟩

theorem Spares.hasLines (h : Spares by' part d d') (hq : place by' q ≠ place by' part)
    (hlines : HasLines by' q ls d) : HasLines by' q ls d' := by
  obtain ⟨s, hfile⟩ := hlines.file
  have hcontent := (h.files _ hq).trans (content?_eq_some_iff.mpr hfile)
  exact hlines.of_dirs h.dirs ((content?_eq_some_iff.mp hcontent).trans hfile.symm)

/-! ### Writing -/

theorem spares_of_onlyMakes {α : Type} {s : Session α} {paths : List Path} {a : α} (h : s.OnlyMakes paths)
    (hend : s.CanEnd mishaps by' d a d') : Spares by' part d d' := by
  refine ⟨fun l _ => h.canEnd hend l, ?_⟩
  induction hend with
  | done => exact fun _ => id
  | ask hx _ ih =>
    intro l hl
    cases h with
    | makeDir _ h =>
      rcases hx.makeDir with ⟨-, hmade⟩ | ⟨_, -, rfl, -⟩
      · obtain ⟨hnone, -, hagree⟩ := get?_of_makeDir hmade
        exact ih (h _) l (hagree.dirs (by simp [hnone]) l hl)
      · exact ih (h _) l hl
    | isDir h =>
      obtain rfl := hx.isDir
      exact ih (h _) l hl

/-- Where the program fails, it has done nothing but to the part. -/
def SparesOnError (mishaps : Mishaps) (by' : Caller) (part : Path) (s : Session (Except FileError Unit)) : Prop :=
  ∀ d e d', s.CanEnd mishaps by' d (.error e) d' → Spares by' part d d'

theorem sparesOnError_removing (part : Path) (e : FileError) : SparesOnError mishaps by' part (removing part e) := by
  intro d e' d' hend
  obtain ⟨-, x, hx⟩ := canEnd_removing hend
  rcases hx.remove with ⟨-, hremove⟩ | ⟨_, -, rfl, -⟩
  · obtain ⟨hdir, -, hagree⟩ := get?_of_remove hremove
    exact spares_of_agree hagree hdir
  · exact .refl _ _ _

theorem SparesOnError.orRemove {next : Session (Except FileError Unit)} (h : SparesOnError mishaps by' part next)
    (fault : OsError → FileError) (x : Except OsError Unit) :
    SparesOnError mishaps by' part (orRemove part fault next x) := by
  cases x with
  | error e => exact sparesOnError_removing part _
  | ok => exact h

theorem sparesOnError_moving (p part : Path) : SparesOnError mishaps by' part (moving p part) := by
  intro d e d' hend
  obtain ⟨x, d₁, hx, hrest⟩ := Session.canEnd_ask_iff.mp hend
  rcases hx.rename with ⟨rfl, -⟩ | ⟨e', rfl, rfl, -⟩
  · cases (Session.canEnd_done_iff.mp hrest).1
  · exact sparesOnError_removing part _ _ _ _ hrest

theorem SparesOnError.keeping {next : Session (Except FileError Unit)} (h : SparesOnError mishaps by' part next)
    (u : Upkeep) (p : Path) : SparesOnError mishaps by' part (keeping u p part next) := by
  intro d e d' hend
  obtain ⟨x, d₁, hx, hrest⟩ := Session.canEnd_ask_iff.mp hend
  obtain rfl := hx.upkeep
  exact h.orRemove _ x _ _ _ hrest

theorem sparesOnError_syncing (p part : Path) : SparesOnError mishaps by' part (syncing p part) :=
  ((sparesOnError_moving p part).keeping .unlock p).keeping .sync p

theorem sparesOnError_filling (p part : Path) (c : Content) : SparesOnError mishaps by' part (filling p part c) := by
  intro d e d' hend
  obtain ⟨x, d₁, hx, hrest⟩ := Session.canEnd_ask_iff.mp hend
  have hwritten : ∀ {c'}, d.write by' part c' = .ok d₁ → Spares by' part d d₁ := by
    intro c' hwrite
    obtain ⟨⟨c₀, hfile⟩, -, hagree⟩ := get?_of_write hwrite
    exact spares_of_agree hagree (by simp [hfile])
  have hfilled : Spares by' part d d₁ := by
    rcases hx.write with (⟨-, hwrite⟩ | ⟨-, -, rfl, -⟩) | ⟨-, c', -, hwrite⟩
    · exact hwritten hwrite
    · exact .refl _ _ _
    · exact hwritten hwrite
  exact hfilled.trans ((sparesOnError_syncing p part).orRemove _ x _ _ _ hrest)

theorem sparesOnError_creating (p part : Path) (c : Content) : SparesOnError mishaps by' part (creating p part c) := by
  intro d e d' hend
  obtain ⟨x, d₁, hx, hrest⟩ := Session.canEnd_ask_iff.mp hend
  have hcreated : Spares by' part d d₁ := by
    rcases hx.create with ⟨-, hcreate⟩ | ⟨-, -, rfl, -⟩
    · obtain ⟨hdir, -, hagree⟩ := get?_of_create hcreate
      exact spares_of_agree hagree hdir
    · exact .refl _ _ _
  exact hcreated.trans (((sparesOnError_filling p part c).keeping .lock p).orRemove _ x _ _ _ hrest)

/-- Whatever goes wrong, the file holds the content in the end, or it is spared. -/
theorem writeAtomic_attempt (h : (writeAtomic p c).CanEnd mishaps by' d r d') :
    (r = .ok () ∧ d'.read by' p = .ok c) ∨ ∃ e, r = .error e ∧ Spares by' (partPath by'.id p) d d' := by
  rw [Action.CanEnd, run_writeAtomic] at h
  obtain ⟨made, d₁, hmade, h⟩ := Session.canEnd_bind_iff.mp h
  have hgrown : Spares by' (partPath by'.id p) d d₁ := spares_of_onlyMakes (onlyMakes_makeDirs _) hmade
  rcases made with e | ⟨⟩
  · obtain ⟨rfl, rfl⟩ := Session.canEnd_done_iff.mp h
    exact .inr ⟨_, rfl, hgrown⟩
  · obtain ⟨id, d₂, hid, hrest⟩ := Session.canEnd_ask_iff.mp h
    obtain ⟨rfl, rfl⟩ := hid.callerId
    rcases r with e | ⟨⟩
    · exact .inr ⟨e, rfl, hgrown.trans (sparesOnError_creating p _ c _ _ _ hrest)⟩
    · exact .inl ⟨rfl, (isPut_of_creating hrest).read⟩

theorem writeIfChanged_attempt {s : Text} {r : Except FileError Bool}
    (h : (writeIfChanged p s).CanEnd mishaps by' d r d') :
    (∃ changed, r = .ok changed ∧ d'.read by' p = .ok (.text s)) ∨
      ∃ e, r = .error e ∧ Spares by' (partPath by'.id p) d d' := by
  rcases writeIfChanged_comes h with ⟨hheld, rfl, rfl⟩ | ⟨-, x, hwrite, rfl⟩ | ⟨e, rfl, rfl⟩
  · exact .inl ⟨false, rfl, hheld⟩
  · rcases writeAtomic_attempt hwrite with ⟨rfl, hread⟩ | ⟨e, rfl, hspares⟩
    · exact .inl ⟨true, rfl, hread⟩
    · exact .inr ⟨e, rfl, hspares⟩
  · exact .inr ⟨e, rfl, .refl _ _ _⟩

end Files

/-! ### Replacing -/

namespace Document

variable {mishaps : Mishaps} {d d' : Disk} {by' : Caller} {p : Path} {o c : Text} {m : Multiplicity}
  {opening closing : Marker} {new : List Text} {r : Except DocumentError Bool}

/-- Whatever goes wrong, an enclosure of the file has been filled anew, or the file is spared. -/
theorem replaceSection_attempt (ho : marker o = .ok opening) (hc : marker c = .ok closing)
    (h : (replaceSection p o c new m).CanEnd mishaps by' d r d') :
    (∃ changed, ∃ e : Enclosure, r = .ok changed ∧ HasLines by' p e.lines d ∧ e.Found opening.isAt closing.isAt m ∧
        HasLines by' p (e.fill (Region.normalLines new)).lines d') ∨
      ∃ fault, r = .error fault ∧ Spares by' (partPath by'.id p) d d' := by
  rw [replaceSection, ho, hc] at h
  rcases Action.canEnd_result_bind h with ⟨_, ⟨⟩, h⟩ | ⟨_, hr, -⟩
  · rcases Action.canEnd_result_bind h with ⟨_, ⟨⟩, h⟩ | ⟨_, hr, -⟩
    · rcases load_bind_canEnd h with ⟨s, hread, h⟩ | ⟨e, rfl, rfl⟩
      · rcases Action.canEnd_result_bind h with ⟨⟨region, doc⟩, hreplace, hsave⟩ | ⟨e, -, rfl, rfl⟩
        · obtain ⟨e, he, f, -, rfl⟩ := replace_eq_ok_iff.mp hreplace
          have hlines : HasLines by' p e.lines d := ⟨s, hread, he.symm⟩
          obtain ⟨x, hx, rfl⟩ := Action.canEnd_mapError hsave
          rcases writeIfChanged_attempt hx with ⟨changed, rfl, hread'⟩ | ⟨fault, rfl, hspares⟩
          · have hnew : Text.AreLines (e.fill (Region.normalLines new)).lines :=
              areLines_fill hlines.areLines Region.isWhole_of_mem_normalLines
            exact .inl ⟨changed, e, rfl, hlines, f, .of_read hnew hread'⟩
          · exact .inr ⟨_, rfl, hspares⟩
        · exact .inr ⟨e, rfl, .refl _ _ _⟩
      · exact .inr ⟨_, rfl, .refl _ _ _⟩
    · cases hr
  · cases hr

end Document

/-! ### Attempts -/

namespace Update

/-- Callers in one directory take a step one after the other, whatever goes wrong; this is what came of it each
    time. -/
inductive Attempts (by' : Caller) (s : Settings) (step : UpdateStep) :
    List (Except UpdateError Outcome) → Disk → Disk → Prop where
  | nil (d : Disk) : Attempts by' s step [] d d
  | cons {by'' : Caller} {r : Except UpdateError Outcome} {rs : List (Except UpdateError Outcome)} {d d₁ d' : Disk}
    (hby : by''.workDir = by'.workDir) (h : (runStep s step).CanEnd .any by'' d r d₁)
    (hrest : Attempts by' s step rs d₁ d') : Attempts by' s step (r :: rs) d d'

def successes (rs : List (Except UpdateError Outcome)) : Nat := rs.countP (·.isOk)

variable {rs : List (Except UpdateError Outcome)}

@[simp] theorem successes_error (e : UpdateError) : successes (.error e :: rs) = successes rs := by
  simp [successes, Except.isOk, Except.toBool]

@[simp] theorem successes_ok (o : Outcome) : successes (.ok o :: rs) = successes rs + 1 := by
  simp [successes, Except.isOk, Except.toBool]

end Update
end PluginManual
