import Mathlib.Data.Option.Basic
import PluginManual.Markdown.Contents
import PluginManual.Proofs.Anchors
import PluginManual.Proofs.Lines

/-! The headings of a text, line by line. A line is inert if it is neither a heading nor a fence; inert
    lines can come and go anywhere without any effect on the headings. All lines of a table of contents
    are inert. -/

namespace PluginManual
namespace Heading
open Text

/-! ### Inert lines -/

def fenceAfterLine (state : Option Fence) (line : Text) : Option Fence :=
  match fence? (withoutEnd line) with
  | some f => openAfter state f
  | none => state

def fenceAfter (state : Option Fence) (lines : List Text) : Option Fence := lines.foldl fenceAfterLine state

/-- The heading that a line is, if it is one and no fence is open. -/
def headingIn (state : Option Fence) (line : Text) : Option (Nat × Text) :=
  match fence? (withoutEnd line), state with
  | none, none => parse? (withoutEnd line)
  | _, _ => none

/-- The line is neither a fence nor a heading. -/
def IsInert (line : Text) : Prop := fence? (withoutEnd line) = none ∧ parse? (withoutEnd line) = none

instance (line : Text) : Decidable (IsInert line) :=
  inferInstanceAs (Decidable (fence? (withoutEnd line) = none ∧ parse? (withoutEnd line) = none))

theorem outline_cons (state : Option Fence) (line : Text) (rest : List Text) :
    outline state (line :: rest) = (headingIn state line).toList ++ outline (fenceAfterLine state line) rest := by
  cases hf : fence? (withoutEnd line) <;> cases state <;> simp [outline, headingIn, fenceAfterLine, hf]

theorem outline_append (state : Option Fence) (xs ys : List Text) :
    outline state (xs ++ ys) = outline state xs ++ outline (fenceAfter state xs) ys := by
  induction xs generalizing state with
  | nil => rfl
  | cons line xs ih =>
    rw [List.cons_append, outline_cons, outline_cons, ih, List.append_assoc]
    rfl

theorem IsInert.headingIn {line : Text} (h : IsInert line) (state : Option Fence) :
    headingIn state line = none := by
  cases state <;> simp [Heading.headingIn, h.1, h.2]

theorem IsInert.fenceAfterLine {line : Text} (h : IsInert line) (state : Option Fence) :
    fenceAfterLine state line = state := by
  simp [Heading.fenceAfterLine, h.1]

theorem fenceAfter_of_isInert {lines : List Text} (h : ∀ l ∈ lines, IsInert l) (state : Option Fence) :
    fenceAfter state lines = state := by
  induction lines with
  | nil => rfl
  | cons line lines ih =>
    rw [fenceAfter, List.foldl_cons, (h line List.mem_cons_self).fenceAfterLine]
    exact ih fun l hl => h l (List.mem_cons_of_mem _ hl)

theorem outline_of_isInert {lines : List Text} (h : ∀ l ∈ lines, IsInert l) (state : Option Fence) :
    outline state lines = [] := by
  induction lines with
  | nil => rfl
  | cons line lines ih =>
    have hline := h line List.mem_cons_self
    rw [outline_cons, hline.headingIn, hline.fenceAfterLine]
    exact ih fun l hl => h l (List.mem_cons_of_mem _ hl)

/-- Inert lines in the middle of a text do not change its headings. -/
theorem ofLines_insert {lines : List Text} (h : ∀ l ∈ lines, IsInert l) (before after : List Text) :
    ofLines (before ++ (lines ++ after)) = ofLines (before ++ after) := by
  have houtline : outline none (before ++ (lines ++ after)) = outline none (before ++ after) := by
    rw [outline_append, outline_append none before after, outline_append, outline_of_isInert h,
      fenceAfter_of_isInert h, List.nil_append]
  rw [ofLines, ofLines, houtline]

/-! ### Which lines are inert -/

theorem withoutEnd_append_cons (s t : Text) {c : Char} (hn : c ≠ '\n') (hr : c ≠ '\r') :
    ∃ u, withoutEnd (s ++ c :: t) = s ++ c :: u := by
  refine ⟨withoutEnd t, ?_⟩
  -- Backwards, nothing is dropped beyond `c`.
  have hstop : ∀ u : Text, (u ++ c :: s.reverse).dropWhile (fun d => decide (d = '\n') || decide (d = '\r')) =
      u.dropWhile (fun d => decide (d = '\n') || decide (d = '\r')) ++ c :: s.reverse := by
    intro u
    rw [List.dropWhile_append]
    split
    · next hu =>
      rw [List.isEmpty_iff] at hu
      rw [hu, List.nil_append, List.dropWhile_cons_of_neg (by simp [hn, hr])]
    · rfl
  simp only [withoutEnd, dropEndWhile, List.reverse_append, List.reverse_cons, List.append_assoc,
    List.singleton_append]
  rw [hstop]
  simp

theorem dropWhile_spaces (n : Nat) {rest : Text} (h : Avoids (· = ' ') rest) :
    (spaces n ++ rest).dropWhile (· = ' ') = rest :=
  (run_eq_iff.mpr ⟨rfl, h⟩).2

theorem withoutIndent?_eq_some_iff {line rest : Text} :
    withoutIndent? line = some rest ↔ ∃ n ≤ 3, line = spaces n ++ rest ∧ Avoids (· = ' ') rest := by
  constructor
  · intro h
    rw [withoutIndent?] at h
    split at h
    · next hle =>
      obtain ⟨hline, havoids⟩ := run_eq_iff.mp ⟨rfl, Option.some.inj h⟩
      refine ⟨_, ?_, hline, havoids⟩
      have hlength := congrArg List.length hline
      rw [Option.some.inj h] at hle
      rw [List.length_append, List.length_replicate] at hlength
      omega
    · cases h
  · rintro ⟨n, hn, rfl, havoids⟩
    rw [withoutIndent?, dropWhile_spaces n havoids]
    simpa using hn

theorem withoutIndent?_spaces {n : Nat} {c : Char} (hc : c ≠ ' ') (t : Text) {rest : Text}
    (h : withoutIndent? (spaces n ++ c :: t) = some rest) : rest = c :: t := by
  obtain ⟨m, -, hline, havoids⟩ := withoutIndent?_eq_some_iff.mp h
  rw [← dropWhile_spaces m havoids, ← hline, dropWhile_spaces n (avoids_cons.mpr (by simpa using hc))]

theorem fence?_spaces {n : Nat} {c : Char} (hc : c ∉ [' ', '\x60', '~']) (t : Text) :
    fence? (spaces n ++ c :: t) = none := by
  simp only [List.mem_cons, List.not_mem_nil, or_false, not_or] at hc
  rw [fence?]
  cases hw : withoutIndent? (spaces n ++ c :: t) with
  | none => rfl
  | some rest =>
    obtain rfl := withoutIndent?_spaces hc.1 t hw
    simp [hc, guard]

/-- A line is inert if after its indentation comes none of the signs that make headings and fences. -/
theorem isInert_spaces {n : Nat} {c : Char} (hc : c ∉ [' ', '\n', '\r', '#', '\x60', '~']) (t : Text) :
    IsInert (spaces n ++ c :: t) := by
  simp only [List.mem_cons, List.not_mem_nil, or_false, not_or] at hc
  obtain ⟨hsp, hn, hr, hhash, hgrave, htilde⟩ := hc
  obtain ⟨u, hu⟩ := withoutEnd_append_cons (spaces n) t hn hr
  rw [IsInert, hu]
  refine ⟨fence?_spaces (by simp [hsp, hgrave, htilde]) u, ?_⟩
  rw [parse?]
  cases hw : withoutIndent? (spaces n ++ c :: u) with
  | none => rfl
  | some rest =>
    obtain rfl := withoutIndent?_spaces hsp u hw
    simp [hhash, guard]

theorem isInert_feed : IsInert ['\n'] := by decide

/-! ### Headings -/

theorem withoutClosing_subset (s : Text) : withoutClosing s ⊆ s := by
  unfold withoutClosing
  simp only
  split
  · exact List.nil_subset _
  · next c back hback =>
    split
    · intro d hd
      have hd := dropWhile_subset _ (List.mem_reverse.mp hd)
      exact List.mem_reverse.mp (dropWhile_subset _ hd)
    · exact List.Subset.refl _

theorem oneLine_of_parse? {line text : Text} {level : Nat} (h : parse? line = some (level, text)) :
    OneLine text := by
  unfold parse? at h
  simp only [Option.bind_eq_bind, Option.bind_eq_some_iff, Option.guard_eq_some', Option.pure_def] at h
  obtain ⟨rest, -, -, hrest, -, -, -, -, htext⟩ := h
  obtain ⟨-, rfl⟩ := Prod.mk.inj (Option.some.inj htext)
  simp only [Bool.and_eq_true, decide_eq_true_eq] at hrest
  exact OneLine.of_subset hrest.2 (List.Subset.trans (trim_subset _) (List.Subset.trans
    (withoutClosing_subset _) (List.Subset.trans (dropEndWhile_subset _ _) (dropWhile_subset _))))

theorem oneLine_of_mem_outline {state : Option Fence} {lines : List Text} :
    ∀ h ∈ outline state lines, OneLine h.2 := by
  induction lines generalizing state with
  | nil => simp [outline]
  | cons line lines ih =>
    intro h hh
    rw [outline_cons] at hh
    rcases List.mem_append.mp hh with hh | hh
    · have hh := Option.mem_toList.mp hh
      unfold headingIn at hh
      split at hh
      · exact oneLine_of_parse? hh
      · cases hh
    · exact ih h hh

theorem map_found_ofLines (lines : List Text) :
    (ofLines lines).map (fun h => (h.level, h.text)) = outline none lines := by
  rw [ofLines, List.map_zipWith, ← List.map_uncurry_zip_eq_zipWith]
  exact List.map_fst_zip (by simp)

theorem map_anchor_ofLines (lines : List Text) :
    (ofLines lines).map (·.anchor) = Slugger.anchors {} ((outline none lines).map (·.2)) := by
  rw [ofLines, List.map_zipWith, ← List.map_uncurry_zip_eq_zipWith]
  exact List.map_snd_zip (by simp)

/-- The headings of more lines come after those of the lines before. -/
theorem exists_ofLines_append (lines more : List Text) : ∃ hs, ofLines (lines ++ more) = ofLines lines ++ hs ∧
    hs.map (fun h => (h.level, h.text)) = outline (fenceAfter none lines) more := by
  have hlength : (outline none lines).length = (Slugger.anchors {} ((outline none lines).map (·.2))).length := by simp
  obtain ⟨hs, happend⟩ : ∃ hs, ofLines (lines ++ more) = ofLines lines ++ hs := by
    rw [ofLines, outline_append, List.map_append, Slugger.anchors_append]
    exact ⟨_, List.zipWith_append hlength⟩
  refine ⟨hs, happend, ?_⟩
  have hfound := map_found_ofLines (lines ++ more)
  rw [happend, List.map_append, map_found_ofLines, outline_append] at hfound
  exact List.append_cancel_left hfound

theorem found_of_mem_ofLines {lines : List Text} {h : Heading} (hh : h ∈ ofLines lines) :
    (h.level, h.text) ∈ outline none lines := by
  rw [← map_found_ofLines]
  exact List.mem_map.mpr ⟨h, hh, rfl⟩

theorem anchor_of_mem_ofLines {lines : List Text} {h : Heading} (hh : h ∈ ofLines lines) :
    h.anchor ∈ Slugger.anchors {} ((outline none lines).map (·.2)) := by
  rw [← map_anchor_ofLines]
  exact List.mem_map.mpr ⟨h, hh, rfl⟩

theorem oneLine_of_mem_ofLines {lines : List Text} : ∀ h ∈ ofLines lines, OneLine h.text ∧ OneLine h.anchor :=
  fun _ hh => ⟨oneLine_of_mem_outline _ (found_of_mem_ofLines hh),
    Slugger.oneLine_anchors _ _ _ (anchor_of_mem_ofLines hh)⟩

end Heading

namespace Contents
open Text

/-! ### Tables of contents -/

theorem isWhole_entry {base : Nat} {h : Heading} (htext : OneLine h.text) (hanchor : OneLine h.anchor) :
    IsWhole (entry base h) := by
  refine ⟨spaces (2 * (h.level - base)) ++ "- [" ++ h.text ++ "](#" ++ h.anchor ++ [')'], ?_, by simp [entry]⟩
  have hspaces := oneLine_spaces (2 * (h.level - base))
  show OneLine _
  simp [htext, hanchor, hspaces]

theorem isInert_entry (base : Nat) (h : Heading) : Heading.IsInert (entry base h) := by
  have hentry : entry base h = spaces (2 * (h.level - base)) ++
      '-' :: (" [".toList ++ h.text ++ "](#" ++ h.anchor ++ ")\n") := by
    simp [entry]
  rw [hentry]
  exact Heading.isInert_spaces (by decide) _

theorem mem_ofLines {lines : List Text} {maxLevel : Nat} {skipTitle : Bool} {line : Text}
    (h : line ∈ ofLines lines maxLevel skipTitle) :
    ∃ base, ∃ k ∈ Heading.ofLines lines, line = entry base k := by
  unfold ofLines at h
  simp only at h
  split at h
  · next base _ =>
    obtain ⟨k, hk, rfl⟩ := List.mem_map.mp h
    refine ⟨base, k, ?_, rfl⟩
    have hk := (List.mem_filter.mp hk).1
    split at hk
    · split at hk
      · next hs _ => exact hs ▸ List.mem_cons_of_mem _ hk
      · exact hk
    · cases hk
  · cases h

theorem isWhole_of_mem_ofLines {lines : List Text} {maxLevel : Nat} {skipTitle : Bool} :
    ∀ line ∈ ofLines lines maxLevel skipTitle, IsWhole line := by
  intro line h
  obtain ⟨base, k, hk, rfl⟩ := mem_ofLines h
  obtain ⟨htext, hanchor⟩ := Heading.oneLine_of_mem_ofLines k hk
  exact isWhole_entry htext hanchor

theorem isInert_of_mem_ofLines {lines : List Text} {maxLevel : Nat} {skipTitle : Bool} :
    ∀ line ∈ ofLines lines maxLevel skipTitle, Heading.IsInert line := by
  intro line h
  obtain ⟨base, k, -, rfl⟩ := mem_ofLines h
  exact isInert_entry base k

/-- Inert lines in the middle of a text do not change its table of contents. -/
theorem ofLines_insert {lines : List Text} (h : ∀ l ∈ lines, Heading.IsInert l) (before after : List Text)
    (maxLevel : Nat) (skipTitle : Bool) :
    ofLines (before ++ (lines ++ after)) maxLevel skipTitle = ofLines (before ++ after) maxLevel skipTitle := by
  rw [ofLines, ofLines, Heading.ofLines_insert h]

end Contents
end PluginManual
