import PluginManual.Proofs.Outline
import PluginManual.Proofs.Rendering
import PluginManual.Proofs.Sections
import PluginManual.Update

/-! The three steps that keep the readme file. They are one step with parameters: it generates the lines of
    a part and puts them between the two marker lines of the part. -/

namespace PluginManual
open Disk Files

inductive ReadmePart where
  | api
  | options
  | contents
deriving DecidableEq, Repr

namespace ReadmePart

/-! ### Markers -/

def step : ReadmePart → UpdateStep
  | api => .api
  | options => .options
  | contents => .contents

def opening : ReadmePart → Text
  | api => "<!-- API -->"
  | options => "<!-- OPTIONS -->"
  | contents => "<!-- TOC -->"

def closing : ReadmePart → Text
  | api => "<!-- /API -->"
  | options => "<!-- /OPTIONS -->"
  | contents => "<!-- /TOC -->"

def openingPattern : ReadmePart → Text
  | api => Update.apiOpening
  | options => Update.optionsOpening
  | contents => Update.contentsOpening

def closingPattern : ReadmePart → Text
  | api => Update.apiClosing
  | options => Update.optionsClosing
  | contents => Update.contentsClosing

theorem marker_opening (part : ReadmePart) :
    Document.marker part.openingPattern = .ok (.exactly part.opening) := by
  cases part <;> rfl

theorem marker_closing (part : ReadmePart) :
    Document.marker part.closingPattern = .ok (.exactly part.closing) := by
  cases part <;> rfl

abbrev opens (part : ReadmePart) : Text → Bool := (Marker.exactly part.opening).isAt

abbrev closes (part : ReadmePart) : Text → Bool := (Marker.exactly part.closing).isAt

/-- The line is none of the marker lines of all parts. -/
def IsProse (line : Text) : Prop := ∀ part : ReadmePart, part.opens line = false ∧ part.closes line = false

theorem dropTerminator_prefix (line : Text) : line.dropTerminator <+: line := by
  have cut : ∀ (t : Text) (c : Char), (if t.getLast? = some c then t.dropLast else t) <+: t := by
    intro t c
    split
    · exact List.dropLast_prefix t
    · exact List.prefix_rfl
  rw [Text.dropTerminator]
  exact (cut _ '\r').trans (cut line '\n')

/-- A line that does not begin like a comment is not a marker line. -/
theorem isProse_of_head? {line : Text} (h : line.head? ≠ some '<') : IsProse line := by
  have hne : ∀ t : Text, t.head? = some '<' → line.dropTerminator ≠ t := by
    rintro t ht rfl
    obtain ⟨rest, hrest⟩ := dropTerminator_prefix line
    refine h ?_
    rw [← hrest, List.head?_append, ht, Option.some_or]
  intro part
  rw [Marker.isAt_exactly_eq_false, Marker.isAt_exactly_eq_false]
  cases part <;> exact ⟨hne _ rfl, hne _ rfl⟩

/-! ### Steps -/

/-- The lines that the part is to have. -/
def generate (s : Settings) : ReadmePart → UpdateAction (List Text)
  | api => do
    let (c, fs) ← Update.reference s
    return Update.apiLines s c fs
  | options => return Update.optionsLines s (← Update.defaultOptions s)
  | contents => do
    let readme ← (Document.load s.readme).mapError .document
    return Update.contentsLines s readme.lines

variable {s : Settings} {part : ReadmePart} {by' : Caller} {d d' : Disk} {changed : Bool} {new ls : List Text}
  {e : Enclosure}

theorem perform_step (s : Settings) (part : ReadmePart) :
    Update.perform s part.step = (do
      let new ← part.generate s
      Update.replaceInReadme s part.openingPattern part.closingPattern new) := by
  cases part <;> simp [step, Update.perform, generate, openingPattern, closingPattern, Update.updateApi,
    Update.updateOptions, Update.updateContents]

theorem target_step (s : Settings) (part : ReadmePart) : Update.target s part.step = s.readme := by
  cases part <;> rfl

theorem onlyLooks_load (p : Path) : (Document.load p).OnlyLooks :=
  ((Catalog.onlyLooks_readText p).mapError _).bind fun _ => .pure _

theorem onlyLooks_reference (s : Settings) : (Update.reference s).OnlyLooks := by
  refine ((Catalog.onlyLooks_ofDirectory _).mapError _).bind fun c => ?_
  split
  · exact .pure _
  · exact .throw _

theorem readsOnly_reference (s : Settings) : (Update.reference s).ReadsOnly := (onlyLooks_reference s).readsOnly

theorem onlyLooks_readSection (p : Path) (o c : Text) : (Document.readSection p o c).OnlyLooks := by
  refine .bind (.result _) fun opening => .bind (.result _) fun closing => ?_
  exact .bind (onlyLooks_load p) fun doc => .result _

theorem onlyLooks_defaultOptions (s : Settings) : (Update.defaultOptions s).OnlyLooks :=
  (onlyLooks_readSection _ _ _).mapError _

theorem readsOnly_defaultOptions (s : Settings) : (Update.defaultOptions s).ReadsOnly :=
  (onlyLooks_defaultOptions s).readsOnly

theorem onlyLooks_generate (s : Settings) (part : ReadmePart) : (part.generate s).OnlyLooks := by
  cases part with
  | api => exact (onlyLooks_reference s).bind fun _ => .pure _
  | options => exact (onlyLooks_defaultOptions s).bind fun _ => .pure _
  | contents => exact ((onlyLooks_load _).mapError _).bind fun _ => .pure _

theorem readsOnly_generate (s : Settings) (part : ReadmePart) : (part.generate s).ReadsOnly :=
  (onlyLooks_generate s part).readsOnly

/-- A step that succeeds has found the part and filled it with the lines that it generates. -/
theorem perform_isRefilled (h : (Update.perform s part.step).on by' d = (.ok changed, d')) :
    ∃ new e, (part.generate s).on by' d = (.ok new, d) ∧ e.Found part.opens part.closes .unique ∧
      Document.IsRefilled by' s.readme new e changed d d' := by
  rw [perform_step] at h
  obtain ⟨new, hnew, h⟩ := (readsOnly_generate s part).on_bind_eq_ok.mp h
  obtain ⟨e, f, hrefilled⟩ := Document.replaceSection_isRefilled part.marker_opening part.marker_closing
    (Action.on_mapError_eq_ok.mp h)
  exact ⟨new, e, hnew, f, hrefilled⟩

/-- A step changes nothing exactly if the part has the lines that it generates. -/
theorem perform_same_iff :
    (Update.perform s part.step).on by' d = (.ok false, d) ↔
      ∃ (new : List Text) (e : Enclosure), (part.generate s).on by' d = (.ok new, d) ∧
        HasLines by' s.readme e.lines d ∧ e.Found part.opens part.closes .unique ∧
        e.inside = Region.normalLines new := by
  constructor
  · intro h
    obtain ⟨new, e, hnew, f, hrefilled⟩ := perform_isRefilled h
    exact ⟨new, e, hnew, hrefilled.before, f, (hrefilled.changed_iff.mp rfl).symm⟩
  · rintro ⟨new, e, hnew, hlines, f, hin⟩
    rw [perform_step]
    refine Action.on_bind_eq_ok.mpr ⟨new, d, hnew, Action.on_mapError_eq_ok.mpr ?_⟩
    exact Document.replaceSection_same part.marker_opening part.marker_closing hlines f hin.symm

/-- A step that generates again what it has put in changes nothing exactly if the part is still found. -/
theorem perform_filled_iff (f : e.Found part.opens part.closes .unique)
    (hlines : HasLines by' s.readme (e.fill (Region.normalLines new)).lines d)
    (hnew : (part.generate s).on by' d = (.ok new, d)) :
    (Update.perform s part.step).on by' d = (.ok false, d) ↔
      (e.fill (Region.normalLines new)).Found part.opens part.closes .unique := by
  rw [perform_same_iff]
  constructor
  · rintro ⟨new', e', hnew', hlines', f', hin⟩
    rw [hnew] at hnew'
    cases hnew'
    exact f.fill_of_inside f' (hlines'.unique hlines) hin
  · intro g
    exact ⟨new, _, hnew, hlines, g, rfl⟩

/-! ### Reading -/

/-- The lines of the part as they stand in the readme file. -/
def read (s : Settings) (part : ReadmePart) : Action DocumentError (List Text) :=
  Document.readSection s.readme part.openingPattern part.closingPattern

theorem read_eq_ok_iff :
    (part.read s).on by' d = (.ok ls, d') ↔
      d' = d ∧ ∃ e : Enclosure, HasLines by' s.readme e.lines d ∧ e.inside = ls ∧
        e.Found part.opens part.closes .first :=
  Document.readSection_eq_ok_iff part.marker_opening part.marker_closing

theorem read_eq_ok_iff_of_found (f : e.Found part.opens part.closes .first) (hlines : HasLines by' s.readme e.lines d) :
    (part.read s).on by' d = (.ok ls, d) ↔ e.inside = ls := by
  rw [read_eq_ok_iff]
  constructor
  · rintro ⟨-, e', hlines', rfl, f'⟩
    rw [f'.eq f (hlines'.unique hlines)]
  · intro hin
    exact ⟨rfl, e, hlines, hin, f⟩

end ReadmePart

namespace Update

variable {s : Settings} {step : UpdateStep} {by' : Caller} {d d' : Disk} {o : Outcome}

theorem runStep_eq_ok_iff :
    (runStep s step).on by' d = (.ok o, d') ↔
      ∃ changed, (perform s step).on by' d = (.ok changed, d') ∧ o = ⟨step, target s step, changed⟩ := by
  constructor
  · intro h
    obtain ⟨changed, d₁, hperform, hret⟩ := Action.on_bind_eq_ok.mp h
    cases hret
    exact ⟨changed, hperform, rfl⟩
  · rintro ⟨changed, hperform, rfl⟩
    exact Action.on_bind_eq_ok.mpr ⟨changed, d', hperform, rfl⟩

theorem runStep_same_iff :
    (runStep s step).on by' d = (.ok ⟨step, target s step, false⟩, d) ↔
      (perform s step).on by' d = (.ok false, d) := by
  rw [runStep_eq_ok_iff]
  constructor
  · rintro ⟨changed, h, ho⟩
    cases ho
    exact h
  · intro h
    exact ⟨false, h, rfl⟩

end Update
end PluginManual
