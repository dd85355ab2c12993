import PluginManual.Proofs.Edits
import PluginManual.Proofs.Stages

/-! A replacement in a file is made as a whole or not at all. All that can fail comes before the part takes
    the place of the file, except for the removal of the part, which puts the disk back as it was. -/

namespace PluginManual
open Disk

/-! ### Programs that may fail -/

namespace Action

variable {ε ε' α β : Type} {mishaps : Mishaps} {by' : Caller} {d d' : Disk}

def CanEnd (mishaps : Mishaps) (by' : Caller) (a : Action ε α) (d : Disk) (r : Except ε α) (d' : Disk) : Prop :=
  Session.CanEnd mishaps by' a.run d r d'

theorem canEnd_of_on {a : Action ε α} {r : Except ε α} (h : a.on by' d = (r, d')) : a.CanEnd mishaps by' d r d' := by
  have hrun := Session.canEnd_run mishaps by' a.run d
  rw [show a.run.run by' d = (r, d') from h] at hrun
  exact hrun

theorem canEnd_result {x r : Except ε α} (h : CanEnd mishaps by' (ExceptT.mk (pure x)) d r d') : r = x ∧ d' = d :=
  Session.canEnd_done_iff.mp h

theorem canEnd_mapError {f : ε → ε'} {a : Action ε α} {r : Except ε' α}
    (h : (a.mapError f).CanEnd mishaps by' d r d') : ∃ x, a.CanEnd mishaps by' d x d' ∧ r = x.mapError f := by
  obtain ⟨x, d₁, hx, hr⟩ := Session.canEnd_bind_iff.mp h
  obtain ⟨rfl, rfl⟩ := Session.canEnd_done_iff.mp hr
  exact ⟨x, hx, rfl⟩

theorem canEnd_bind {a : Action ε α} {f : α → Action ε β} {r : Except ε β} (h : (a >>= f).CanEnd mishaps by' d r d') :
    (∃ x d₁, a.CanEnd mishaps by' d (.ok x) d₁ ∧ (f x).CanEnd mishaps by' d₁ r d') ∨
      ∃ e, a.CanEnd mishaps by' d (.error e) d' ∧ r = .error e := by
  obtain ⟨x, d₁, hx, hr⟩ := Session.canEnd_bind_iff.mp h
  cases x with
  | ok x => exact .inl ⟨x, d₁, hx, hr⟩
  | error e =>
    obtain ⟨rfl, rfl⟩ := Session.canEnd_done_iff.mp hr
    exact .inr ⟨e, hx, rfl⟩

theorem canEnd_result_bind {x : Except ε α} {f : α → Action ε β} {r : Except ε β}
    (h : CanEnd mishaps by' (ExceptT.mk (pure x) >>= f) d r d') :
    (∃ y, x = .ok y ∧ (f y).CanEnd mishaps by' d r d') ∨ ∃ e, x = .error e ∧ r = .error e ∧ d' = d := by
  rcases canEnd_bind h with ⟨y, d₁, hy, hend⟩ | ⟨e, he, hr⟩
  · obtain ⟨rfl, rfl⟩ := canEnd_result hy
    exact .inl ⟨y, rfl, hend⟩
  · obtain ⟨rfl, rfl⟩ := canEnd_result he
    exact .inr ⟨e, rfl, hr, rfl⟩

end Action

/-! ### Removing the part -/

namespace Disk

variable {d d' : Disk} {by' : Caller} {p : Path}

theorem Spot.IsNamedBy.spotNamed {s : Spot} (h : s.IsNamedBy d by' p) (e : OsError) :
    d.spotNamed by' p e = .ok s := by
  obtain ⟨front, hway, hwalk⟩ := h.way
  obtain ⟨-, -, hdot, hdots⟩ := Path.isName_iff.mp h.name
  have hslash : s.slash = decide (p.text.getLast? = some '/') := Bool.eq_iff_iff.mpr (by simpa using h.slash)
  have hspot : d.spot by' p = .ok s := by
    rw [spot_of_walk h.path (by rw [hway, List.dropLast_concat]; exact hwalk) h.dir, hway, List.getLast?_concat,
      Option.getD_some, ← hslash]
  rw [spotNamed_of_spot e hspot, if_neg (by simp [Spot.isDots, hdot, hdots]), if_neg (Nat.not_lt.mpr h.short)]

theorem remove_of_isNamedBy {s : Spot} {c : Content} (h : s.IsNamedBy d by' p) (hslash : s.slash = false)
    (hfile : d.get? (place by' p) = some (.file c)) : d.remove by' p = .ok (d.drop (place by' p)) := by
  refine bind_eq_ok.mpr ⟨s, h.spotNamed _, ?_⟩
  rw [h.location_eq, hfile]
  simp only [hslash]
  rfl

end Disk

namespace Files

variable {mishaps : Mishaps} {d d₁ d₂ d' : Disk} {by' : Caller} {p part : Path} {c : Content} {e : FileError}
  {r : Except FileError Unit}

/-- As far as the content has been written: the part is where nothing was, and can be removed. -/
structure IsHeld (by' : Caller) (part : Path) (d d₁ : Disk) : Prop where
  away : ∀ l, l ≠ place by' part → d₁.get? l = d.get? l
  before : d.get? (place by' part) = none
  file : ∃ c, d₁.get? (place by' part) = some (.file c)
  named : ∃ s : Spot, s.IsNamedBy d₁ by' part ∧ s.slash = false

theorem isHeld_of_create (hpart : d.content? (place by' part) = none) (h : d.create by' part = .ok d₁) :
    IsHeld by' part d d₁ := by
  obtain ⟨s, hs, hslash, -⟩ := create_eq_ok h
  obtain ⟨hdir, hfile, hagree⟩ := get?_of_create h
  have hnone := (content?_eq_none_iff.mp hpart).resolve_right hdir
  exact ⟨fun _ => hagree.get?_of_ne, hnone, ⟨_, hfile⟩, s, hs.of_dirs (hagree.dirs hdir), hslash⟩

theorem IsHeld.write (h : IsHeld by' part d d₁) (hwrite : d₁.write by' part c = .ok d₂) : IsHeld by' part d d₂ := by
  obtain ⟨s, hs, hslash⟩ := h.named
  obtain ⟨⟨c₀, hbefore⟩, hfile, hagree⟩ := get?_of_write hwrite
  have hdirs := hagree.dirs (by simp [hbefore])
  exact ⟨fun l hl => (hagree.get?_of_ne hl).trans (h.away l hl), h.before, ⟨c, hfile⟩, s, hs.of_dirs hdirs, hslash⟩

/-- Without its part the disk is as it was before. -/
theorem IsHeld.removing (h : IsHeld by' part d d₁) (hend : (removing part e).CanEnd .mild by' d₁ r d') (l : Location) :
    d'.get? l = d.get? l := by
  obtain ⟨-, x, hx⟩ := canEnd_removing hend
  obtain ⟨s, hs, hslash⟩ := h.named
  obtain ⟨c, hfile⟩ := h.file
  rcases hx.remove with ⟨-, hremove⟩ | ⟨e, -, -, herror | hmishap⟩
  · obtain ⟨-, hnone, hagree⟩ := get?_of_remove hremove
    by_cases hl : l = place by' part
    · rw [hl, hnone, h.before]
    · rw [hagree.get?_of_ne hl, h.away l hl]
  · rw [remove_of_isNamedBy hs hslash hfile] at herror
    cases herror
  · exact absurd rfl (hmishap.2 part)

/-- If there is no part, an attempt to remove it changes nothing. -/
theorem removing_of_none (hpart : d.content? (place by' part) = none)
    (hend : (Files.removing part e).CanEnd mishaps by' d r d') (l : Location) : d'.get? l = d.get? l := by
  obtain ⟨-, x, hx⟩ := canEnd_removing hend
  rcases hx.remove with ⟨-, hremove⟩ | ⟨e, -, rfl, -⟩
  · obtain ⟨hdir, hnone, hagree⟩ := get?_of_remove hremove
    by_cases hl : l = place by' part
    · rw [hl, hnone, (content?_eq_none_iff.mp hpart).resolve_right hdir]
    · exact hagree.get?_of_ne hl
  · rfl

/-! ### Writing -/

/-- Where the rest of the program fails, it puts the disk back as it was. -/
def Undoes (by' : Caller) (d : Disk) (s : Session (Except FileError Unit)) (d₁ : Disk) : Prop :=
  ∀ e d', s.CanEnd .mild by' d₁ (.error e) d' → ∀ l, d'.get? l = d.get? l

theorem IsHeld.undoes {next : Session (Except FileError Unit)} {fault : OsError → FileError} {x : Except OsError Unit}
    (h : IsHeld by' part d d₁) (hnext : Undoes by' d next d₁) : Undoes by' d (orRemove part fault next x) d₁ := by
  intro e d' hend
  cases x with
  | error e => exact h.removing hend
  | ok => exact hnext e d' hend

theorem undoes_moving (h : IsHeld by' part d d₁) : Undoes by' d (moving p part) d₁ := by
  intro e d' hend
  obtain ⟨x, d₂, hx, hrest⟩ := Session.canEnd_ask_iff.mp hend
  rcases hx.rename with ⟨rfl, -⟩ | ⟨e', rfl, rfl, -⟩
  · cases (Session.canEnd_done_iff.mp hrest).1
  · exact h.removing hrest

theorem IsHeld.undoes_keeping {u : Upkeep} {next : Session (Except FileError Unit)} (h : IsHeld by' part d d₁)
    (hnext : Undoes by' d next d₁) : Undoes by' d (keeping u p part next) d₁ := by
  intro e d' hend
  obtain ⟨x, d₂, hx, hrest⟩ := Session.canEnd_ask_iff.mp hend
  obtain rfl := hx.upkeep
  exact h.undoes hnext e d' hrest

theorem undoes_syncing (h : IsHeld by' part d d₁) : Undoes by' d (syncing p part) d₁ :=
  h.undoes_keeping (h.undoes_keeping (undoes_moving h))

theorem undoes_filling (h : IsHeld by' part d d₁) : Undoes by' d (filling p part c) d₁ := by
  intro e d' hend
  obtain ⟨x, d₂, hx, hrest⟩ := Session.canEnd_ask_iff.mp hend
  have hheld : IsHeld by' part d d₂ := by
    rcases hx.write with (⟨-, hwrite⟩ | ⟨-, -, rfl, -⟩) | ⟨-, c', -, hwrite⟩
    · exact h.write hwrite
    · exact h
    · exact h.write hwrite
  exact hheld.undoes (undoes_syncing hheld) e d' hrest

theorem undoes_creating (hpart : d.content? (place by' part) = none) : Undoes by' d (creating p part c) d := by
  intro e d' hend
  obtain ⟨x, d₁, hx, hrest⟩ := Session.canEnd_ask_iff.mp hend
  rcases hx.create with ⟨rfl, hcreate⟩ | ⟨e', rfl, rfl, -⟩
  · have hheld := isHeld_of_create hpart hcreate
    exact hheld.undoes_keeping (undoes_filling hheld) e d' hrest
  · exact removing_of_none hpart hrest

/-- Over a file that is there a write is made as a whole or not at all. -/
theorem writeAtomic_canEnd {l : Location} (hl : d.locate by' p = .ok l)
    (hpart : d.content? (place by' (partPath by'.id p)) = none)
    (h : (writeAtomic p c).CanEnd .mild by' d r d') :
    (r = .ok () ∧ IsPut by' p c d d') ∨ ∃ e, r = .error e ∧ ∀ l, d'.get? l = d.get? l := by
  rw [Action.CanEnd, run_writeAtomic] at h
  obtain ⟨made, d₁, hmade, h⟩ := Session.canEnd_bind_iff.mp h
  obtain rfl := makeDirs_of_locate hl hmade
  cases made with
  | error e =>
    obtain ⟨rfl, rfl⟩ := Session.canEnd_done_iff.mp h
    exact .inr ⟨_, rfl, fun _ => rfl⟩
  | ok =>
    obtain ⟨id, d₂, hid, hrest⟩ := Session.canEnd_ask_iff.mp h
    obtain ⟨rfl, rfl⟩ := hid.callerId
    cases r with
    | ok => exact .inl ⟨rfl, isPut_of_creating hrest⟩
    | error e => exact .inr ⟨e, rfl, undoes_creating hpart e d' hrest⟩

theorem IsPut.get?_eq_of_none {l : Location} (h : IsPut by' p c d d')
    (hpart : d.content? (place by' (partPath by'.id p)) = none) (hl : l ≠ place by' p) : d'.get? l = d.get? l := by
  by_cases heq : l = place by' (partPath by'.id p)
  · rw [heq, h.part, (content?_eq_none_iff.mp hpart).resolve_right h.part_ne]
  · exact h.get?_eq hl heq

/-- A text is not written if the file holds it, nor if the file cannot be read for another reason than that it is
    not there. -/
theorem writeIfChanged_comes {s : Text} {r : Except FileError Bool}
    (h : (writeIfChanged p s).CanEnd mishaps by' d r d') :
    (d.read by' p = .ok (.text s) ∧ r = .ok false ∧ d' = d) ∨
      ((d.read by' p = .error .noEntry ∨ (∃ c, d.read by' p = .ok c ∧ c ≠ .text s) ∨ mishaps (.read p) .noEntry) ∧
        ∃ x, (writeAtomic p (.text s)).CanEnd mishaps by' d x d' ∧ r = x.map fun _ => true) ∨
      ∃ e, r = .error e ∧ d' = d := by
  have hwritten : ∀ {d}, (do writeAtomic p (.text s); pure true : Action FileError Bool).CanEnd mishaps by' d r d' →
      ∃ x, (writeAtomic p (.text s)).CanEnd mishaps by' d x d' ∧ r = x.map fun _ => true := by
    intro d hend
    rcases Action.canEnd_bind hend with ⟨⟨⟩, d₂, hwrite, hend⟩ | ⟨e, hwrite, rfl⟩
    · obtain ⟨rfl, rfl⟩ := Session.canEnd_done_iff.mp hend
      exact ⟨_, hwrite, rfl⟩
    · exact ⟨_, hwrite, rfl⟩
  obtain ⟨x, d₁, hx, h⟩ := Session.canEnd_ask_iff.mp h
  obtain ⟨rfl, hread⟩ := hx.read
  rcases x with e | c
  · have h : Action.CanEnd mishaps by' (if e = .noEntry then do writeAtomic p (.text s); pure true
      else throw (.refused p e)) d₁ r d' := h
    split at h
    · next he =>
      subst he
      refine .inr (.inl ⟨?_, hwritten h⟩)
      rcases hread with hread | ⟨e', he', hmishap⟩
      · exact .inl hread.symm
      · cases he'
        exact .inr (.inr hmishap)
    · obtain ⟨rfl, rfl⟩ := Session.canEnd_done_iff.mp h
      exact .inr (.inr ⟨_, rfl, rfl⟩)
  · have hread : d₁.read by' p = .ok c := by simpa [eq_comm] using hread
    have h : Action.CanEnd mishaps by' (if c = .text s then pure false else do writeAtomic p (.text s); pure true)
      d₁ r d' := h
    split at h
    · next hc =>
      obtain ⟨rfl, rfl⟩ := Session.canEnd_done_iff.mp h
      exact .inl ⟨hc ▸ hread, rfl, rfl⟩
    · next hc => exact .inr (.inl ⟨.inr (.inl ⟨c, hread, hc⟩), hwritten h⟩)

/-- A file that can be read holds the text afterwards, or nothing has been done. -/
theorem writeIfChanged_canEnd {s : Text} {old : Content} {r : Except FileError Bool}
    (hread : d.read by' p = .ok old) (hpart : d.content? (place by' (partPath by'.id p)) = none)
    (h : (writeIfChanged p s).CanEnd .mild by' d r d') :
    (∃ changed, r = .ok changed ∧ (changed = true ↔ old ≠ .text s) ∧ d'.read by' p = .ok (.text s) ∧
        ∀ l, l ≠ place by' p → d'.get? l = d.get? l) ∨
      ∃ e, r = .error e ∧ ∀ l, d'.get? l = d.get? l := by
  rcases writeIfChanged_comes h with ⟨hheld, rfl, rfl⟩ | ⟨hwhy, x, hwrite, rfl⟩ | ⟨e, rfl, rfl⟩
  · rw [hread] at hheld
    cases hheld
    exact .inl ⟨false, rfl, by simp, hread, fun _ _ => rfl⟩
  · have hold : old ≠ .text s := by
      rcases hwhy with hnone | ⟨c, hc, hne⟩ | hmishap
      · rw [hread] at hnone
        cases hnone
      · rw [hread] at hc
        cases hc
        exact hne
      · exact absurd rfl hmishap.1
    have hl := (read_eq_ok_iff.mp hread).1
    rcases writeAtomic_canEnd hl hpart hwrite with ⟨rfl, hput⟩ | ⟨e, rfl, hsame⟩
    · exact .inl ⟨true, rfl, by simp [hold], hput.read, fun l => hput.get?_eq_of_none hpart⟩
    · exact .inr ⟨e, rfl, hsame⟩
  · exact .inr ⟨e, rfl, fun _ => rfl⟩

end Files

namespace Document
open Files

variable {mishaps : Mishaps} {d d₁ d' : Disk} {by' : Caller} {p : Path} {o c : Text} {m : Multiplicity}
  {new : List Text}

/-! ### Reading -/

theorem readText_canEnd {r : Except FileError Text} (h : (readText p).CanEnd mishaps by' d r d') :
    d' = d ∧ ((∃ s, r = .ok s ∧ d.read by' p = .ok (.text s)) ∨ ∃ e, r = .error e) := by
  obtain ⟨x, d₁, hx, h⟩ := Session.canEnd_ask_iff.mp h
  obtain ⟨rfl, hread⟩ := hx.read
  rcases x with e | s | bytes
  · obtain ⟨rfl, rfl⟩ := Session.canEnd_done_iff.mp h
    exact ⟨rfl, .inr ⟨_, rfl⟩⟩
  · obtain ⟨rfl, rfl⟩ := Session.canEnd_done_iff.mp h
    exact ⟨rfl, .inl ⟨s, rfl, by simpa [eq_comm] using hread⟩⟩
  · obtain ⟨rfl, rfl⟩ := Session.canEnd_done_iff.mp h
    exact ⟨rfl, .inr ⟨_, rfl⟩⟩

theorem load_canEnd {r : Except DocumentError Document} (h : (load p).CanEnd mishaps by' d r d') :
    d' = d ∧ ((∃ s, r = .ok (ofText p s) ∧ d.read by' p = .ok (.text s)) ∨ ∃ e, r = .error (.file e)) := by
  rcases Action.canEnd_bind h with ⟨s, d₁, hs, hdoc⟩ | ⟨e, hs, rfl⟩
  · obtain ⟨x, hx, hxs⟩ := Action.canEnd_mapError hs
    obtain ⟨rfl, rfl⟩ := Session.canEnd_done_iff.mp hdoc
    obtain ⟨rfl, ⟨s', rfl, hread⟩ | ⟨e, rfl⟩⟩ := readText_canEnd hx
    · cases hxs
      exact ⟨rfl, .inl ⟨s, rfl, hread⟩⟩
    · cases hxs
  · obtain ⟨x, hx, hxs⟩ := Action.canEnd_mapError hs
    obtain ⟨rfl, ⟨s', rfl, -⟩ | ⟨e', rfl⟩⟩ := readText_canEnd hx
    · cases hxs
    · cases hxs
      exact ⟨rfl, .inr ⟨e', rfl⟩⟩

/-- What starts by loading a document goes on with the text of the file, or fails and has done nothing. -/
theorem load_bind_canEnd {α : Type} {f : Document → Action DocumentError α} {r : Except DocumentError α}
    (h : (load p >>= f).CanEnd mishaps by' d r d') :
    (∃ s, d.read by' p = .ok (.text s) ∧ (f (ofText p s)).CanEnd mishaps by' d r d') ∨
      ∃ e, r = .error (.file e) ∧ d' = d := by
  rcases Action.canEnd_bind h with ⟨doc, d₁, hdoc, hend⟩ | ⟨e, hdoc, hr⟩
  · obtain ⟨rfl, ⟨s, hs, hread⟩ | ⟨e, he⟩⟩ := load_canEnd hdoc
    · cases hs
      exact .inl ⟨s, hread, hend⟩
    · cases he
  · obtain ⟨rfl, ⟨s, hs, -⟩ | ⟨e', he⟩⟩ := load_canEnd hdoc
    · cases hs
    · cases he
      exact .inr ⟨e', hr, rfl⟩

/-- What comes of reading a section of a file. The disk stays as it is, and what is returned is the section
    of the text that the file holds. -/
structure IsReading (by' : Caller) (p : Path) (o c : Text) (d : Disk) (r : Except DocumentError (List Text))
    (d' : Disk) : Prop where
  same : d' = d
  ok : ∀ ls, r = .ok ls → ∃ opening closing s, marker o = .ok opening ∧ marker c = .ok closing ∧
    d.read by' p = .ok (.text s) ∧ (ofText p s).sectionLines opening closing = .ok ls

theorem readSection_canEnd {r : Except DocumentError (List Text)} (h : (readSection p o c).CanEnd mishaps by' d r d') :
    IsReading by' p o c d r d' := by
  rcases Action.canEnd_result_bind h with ⟨opening, ho, h⟩ | ⟨e, -, rfl, rfl⟩
  · rcases Action.canEnd_result_bind h with ⟨closing, hc, h⟩ | ⟨e, -, rfl, rfl⟩
    · rcases load_bind_canEnd h with ⟨s, hread, h⟩ | ⟨e, rfl, rfl⟩
      · obtain ⟨rfl, rfl⟩ := Action.canEnd_result h
        exact ⟨rfl, fun ls hls => ⟨opening, closing, s, ho, hc, hread, hls⟩⟩
      · exact ⟨rfl, by simp⟩
    · exact ⟨rfl, by simp⟩
  · exact ⟨rfl, by simp⟩

/-! ### Replacing -/

inductive IsFault (by' : Caller) (p : Path) (o c : Text) (new : List Text) (m : Multiplicity) (d : Disk) :
    DocumentError → Prop where
  | opening {fault : DocumentError} (ho : marker o = .error fault) : IsFault by' p o c new m d fault
  | closing {fault : DocumentError} {opening : Marker} (ho : marker o = .ok opening)
    (hc : marker c = .error fault) : IsFault by' p o c new m d fault
  | file (e : FileError) : IsFault by' p o c new m d (.file e)
  | region {fault : DocumentError} {opening closing : Marker} {s : Text} (ho : marker o = .ok opening)
    (hc : marker c = .ok closing) (hread : d.read by' p = .ok (.text s))
    (h : (ofText p s).replace opening closing new m = .error fault) : IsFault by' p o c new m d fault

/-- What comes of replacing a section of a file. If it succeeds, the file holds what the replacement makes of
    the text that it held before, and all else is as it was; if it fails, all is. -/
def IsReplacement (by' : Caller) (p : Path) (o c : Text) (new : List Text) (m : Multiplicity) (d : Disk) :
    Except DocumentError Bool → Disk → Prop
  | .ok changed, d' => ∃ opening closing s r doc, marker o = .ok opening ∧ marker c = .ok closing ∧
      d.read by' p = .ok (.text s) ∧ (ofText p s).replace opening closing new m = .ok (r, doc) ∧
      d'.read by' p = .ok (.text doc.text) ∧ (changed = true ↔ doc.text ≠ s) ∧
      ∀ l, l ≠ place by' p → d'.get? l = d.get? l
  | .error fault, d' => IsFault by' p o c new m d fault ∧ ∀ l, d'.get? l = d.get? l

theorem save_canEnd {doc : Document} {s : Text} {r : Except DocumentError Bool}
    (hread : d.read by' doc.path = .ok (.text s))
    (hpart : d.content? (place by' (partPath by'.id doc.path)) = none)
    (h : doc.save.CanEnd .mild by' d r d') :
    (∃ changed, r = .ok changed ∧ (changed = true ↔ doc.text ≠ s) ∧ d'.read by' doc.path = .ok (.text doc.text) ∧
        ∀ l, l ≠ place by' doc.path → d'.get? l = d.get? l) ∨
      ∃ e, r = .error (.file e) ∧ ∀ l, d'.get? l = d.get? l := by
  obtain ⟨x, hx, rfl⟩ := Action.canEnd_mapError h
  rcases writeIfChanged_canEnd hread hpart hx with ⟨changed, rfl, hchanged, hread', hsame⟩ | ⟨e, rfl, hsame⟩
  · exact .inl ⟨changed, rfl, by simpa [eq_comm] using hchanged, hread', hsame⟩
  · exact .inr ⟨e, rfl, hsame⟩

theorem replaceSection_canEnd {r : Except DocumentError Bool}
    (hpart : d.content? (place by' (partPath by'.id p)) = none)
    (h : (replaceSection p o c new m).CanEnd .mild by' d r d') : IsReplacement by' p o c new m d r d' := by
  rcases Action.canEnd_result_bind h with ⟨opening, ho, h⟩ | ⟨e, ho, rfl, rfl⟩
  · rcases Action.canEnd_result_bind h with ⟨closing, hc, h⟩ | ⟨e, hc, rfl, rfl⟩
    · rcases load_bind_canEnd h with ⟨s, hread, h⟩ | ⟨e, rfl, rfl⟩
      · rcases Action.canEnd_result_bind h with ⟨⟨region, doc⟩, hreplace, hsave⟩ | ⟨e, hreplace, rfl, rfl⟩
        · obtain rfl : doc.path = p := (replace_keeps hreplace).1
          rcases save_canEnd hread hpart hsave with ⟨changed, rfl, hchanged, hread', hsame⟩ | ⟨e, rfl, hsame⟩
          · exact ⟨opening, closing, s, region, doc, ho, hc, hread, hreplace, hread', hchanged, hsame⟩
          · exact ⟨.file e, hsame⟩
        · exact ⟨.region ho hc hread hreplace, fun _ => rfl⟩
      · exact ⟨.file e, fun _ => rfl⟩
    · exact ⟨.closing ho hc, fun _ => rfl⟩
  · exact ⟨.opening ho, fun _ => rfl⟩

/-- Where nothing is in the way of the part, a section of a file is replaced as a whole or not at all; and
    reading a section changes nothing, whatever goes wrong. A replacement may have any of its calls refused, those
    that lock and release the part among them, with two exceptions (`Mishaps.mild`): what is there is not reported
    missing, and the removal of the part, which is the cleaning up after a failure, is not refused. -/
theorem replaceSection_isAllOrNothing (hpart : d.content? (place by' (partPath by'.id p)) = none) :
    (∀ new m r d', (replaceSection p o c new m).CanEnd .mild by' d r d' → IsReplacement by' p o c new m d r d') ∧
      ∀ mishaps r d', (readSection p o c).CanEnd mishaps by' d r d' → IsReading by' p o c d r d' :=
  ⟨fun _ _ _ _ h => replaceSection_canEnd hpart h, fun _ _ _ h => readSection_canEnd h⟩

/-- The lines of the file end in a carriage return and a line feed, and the last one does not end. -/
theorem replaceSection_isAllOrNothing_of_crlf :
    let p : Path := ⟨"a.md"⟩
    let by' : Caller := ⟨[], 7⟩
    let d : Disk := ⟨[(["a.md".toList], .file (.text "<!-- A -->\r\nold\r\n<!-- /A -->"))]⟩
    d.content? (place by' (partPath by'.id p)) = none ∧
      ∃ d', (replaceSection p "<!-- A -->$" "<!-- /A -->$" ["new"] .unique).on by' d = (.ok true, d') ∧
        IsReplacement by' p "<!-- A -->$" "<!-- /A -->$" ["new"] .unique d (.ok true) d' := by
  intro p by' d
  have hpart : d.content? (place by' (partPath by'.id p)) = none := by decide +kernel
  obtain ⟨d', h⟩ := @Action.exists_on_of_value? _ _ by' d
    (replaceSection p "<!-- A -->$" "<!-- /A -->$" ["new"] .unique) true (by decide +kernel)
  exact ⟨hpart, d', h, (replaceSection_isAllOrNothing hpart).1 _ _ _ _ (Action.canEnd_of_on h)⟩

end Document
end PluginManual
