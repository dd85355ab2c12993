import PluginManual.Proofs.Outline

/-! What a table of contents links to: the headings down to a level, without the title. The anchor of a heading is
    chosen among those of all headings of the text, and not only of those that are listed; so it belongs to no other
    heading, and it is the same in every table. -/

namespace PluginManual
namespace Contents
open Text

variable {hs : List Heading} {table : List Text} {maxLevel a b : Nat} {skipTitle skip skip' : Bool}

/-! ### The headings listed -/

/-- A heading, with its place in the text, is listed down to a level. The first one is not if it is the title. -/
def IsWanted (maxLevel : Nat) (skipTitle : Bool) (p : Heading × Nat) : Prop :=
  p.1.level ≤ maxLevel ∧ ¬ (skipTitle = true ∧ p.2 = 0 ∧ p.1.level = 1)

instance (maxLevel : Nat) (skipTitle : Bool) : DecidablePred (IsWanted maxLevel skipTitle) := fun p =>
  inferInstanceAs (Decidable (p.1.level ≤ maxLevel ∧ ¬ (skipTitle = true ∧ p.2 = 0 ∧ p.1.level = 1)))

def wanted (maxLevel : Nat) (skipTitle : Bool) (hs : List Heading) : List Heading :=
  (hs.zipIdx.filter (IsWanted maxLevel skipTitle ·)).map (·.1)

/-- None of the headings behind the first is the title. -/
theorem map_filter_isWanted_zipIdx (rest : List Heading) :
    ((rest.zipIdx 1).filter (IsWanted maxLevel skipTitle ·)).map (·.1) = rest.filter (·.level ≤ maxLevel) := by
  have hfilter : (rest.zipIdx 1).filter (IsWanted maxLevel skipTitle ·) =
      (rest.zipIdx 1).filter ((fun k : Heading => decide (k.level ≤ maxLevel)) ∘ Prod.fst) := by
    refine List.filter_congr fun (k, i) hk => decide_eq_decide.mpr ?_
    have hi : i ≠ 0 := Nat.one_le_iff_ne_zero.mp (List.le_snd_of_mem_zipIdx hk)
    simp [IsWanted, hi]
  rw [hfilter, ← List.filter_map, List.zipIdx_map_fst]

theorem listed_eq_wanted (maxLevel : Nat) (skipTitle : Bool) (hs : List Heading) :
    listed maxLevel skipTitle hs = wanted maxLevel skipTitle hs := by
  cases hs with
  | nil => rfl
  | cons h rest =>
    have hlisted : listed maxLevel skipTitle (h :: rest) =
        (if (skipTitle && decide (h.level = 1)) = true then rest else h :: rest).filter (·.level ≤ maxLevel) := rfl
    rw [hlisted, wanted, List.zipIdx_cons, List.filter_cons]
    by_cases htitle : (skipTitle && decide (h.level = 1)) = true
    · have hnot : ¬ IsWanted maxLevel skipTitle (h, 0) := by
        rw [Bool.and_eq_true, decide_eq_true_eq] at htitle
        exact fun hw => hw.2 ⟨htitle.1, rfl, htitle.2⟩
      rw [if_pos htitle, if_neg (by simpa using hnot), Nat.zero_add, map_filter_isWanted_zipIdx]
    · have hiff : IsWanted maxLevel skipTitle (h, 0) ↔ h.level ≤ maxLevel := by
        rw [Bool.and_eq_true, decide_eq_true_eq] at htitle
        exact and_iff_left fun ⟨hskip, _, hlevel⟩ => htitle ⟨hskip, hlevel⟩
      rw [if_neg htitle, List.filter_cons]
      simp only [hiff, decide_eq_true_eq, Nat.zero_add]
      split
      · rw [List.map_cons, map_filter_isWanted_zipIdx]
      · rw [map_filter_isWanted_zipIdx]

/-- Deeper levels and the title come in between the headings that are listed without them. -/
theorem wanted_sublist (hlevel : a ≤ b) (hskip : skip' = true → skip = true) (hs : List Heading) :
    (wanted a skip hs).Sublist (wanted b skip' hs) := by
  refine (List.monotone_filter_right _ fun p hp => ?_).map _
  have hp : IsWanted a skip p := of_decide_eq_true hp
  exact decide_eq_true ⟨Nat.le_trans hp.1 hlevel, fun ⟨hs, htitle⟩ => hp.2 ⟨hskip hs, htitle⟩⟩

/-! ### The lines of a table -/

def link (h : Heading) : Text := "- [" ++ h.text ++ "](#" ++ h.anchor ++ ")\n"

/-- The lines are links to the headings, and those to the headings of the highest level stand at the left. -/
def Links (hs : List Heading) (table : List Text) : Prop :=
  ∃ base, (∀ h ∈ hs, base ≤ h.level) ∧ (hs ≠ [] → ∃ h ∈ hs, h.level = base ∧ link h ∈ table) ∧
    table = hs.map fun h => spaces (2 * (h.level - base)) ++ link h

theorem links_map_entry {base : Nat} (hbase : (hs.map (·.level)).min? = some base) : Links hs (hs.map (entry base)) := by
  obtain ⟨hmem, hle⟩ := List.min?_eq_some_iff.mp hbase
  obtain ⟨k, hk, hlevel⟩ := List.mem_map.mp hmem
  have hentry : ∀ h, entry base h = spaces (2 * (h.level - base)) ++ link h := by
    intro h
    show _ = _ ++ ("- [" ++ h.text ++ "](#" ++ h.anchor ++ ")\n" : Text)
    simp only [entry, List.append_assoc]
  refine ⟨base, fun h hh => hle _ (List.mem_map.mpr ⟨h, hh, rfl⟩), fun _ => ⟨k, hk, hlevel, ?_⟩, ?_⟩
  · refine List.mem_map.mpr ⟨k, hk, ?_⟩
    rw [hentry, hlevel, Nat.sub_self]
    rfl
  · exact List.map_congr_left fun h _ => hentry h

theorem links_ofLines (lines : List Text) (maxLevel : Nat) (skipTitle : Bool) :
    Links (wanted maxLevel skipTitle (Heading.ofLines lines)) (ofLines lines maxLevel skipTitle) := by
  rw [← listed_eq_wanted, ofLines]
  split
  · next base hbase => exact links_map_entry hbase
  · next hnone =>
    have hnil := List.map_eq_nil_iff.mp (List.min?_eq_none_iff.mp hnone)
    rw [hnil]
    exact ⟨0, by simp, fun h => absurd rfl h, rfl⟩

/-- Without their indentation the lines are the links. -/
theorem Links.map_dropWhile (h : Links hs table) : table.map (·.dropWhile (· = ' ')) = hs.map link := by
  obtain ⟨base, -, -, rfl⟩ := h
  rw [List.map_map]
  refine List.map_congr_left fun k _ => ?_
  rw [Function.comp_apply, List.dropWhile_append_of_pos (by simp [spaces])]
  exact List.dropWhile_cons_of_neg (by decide)

theorem count_feed_of_isWhole {line : Text} (h : IsWhole line) : line.count '\n' = 1 := by
  obtain ⟨s, hs, rfl⟩ := h
  rw [List.count_append, List.count_eq_zero_of_not_mem hs]
  rfl

/-! ### Tables of one text -/

/-- The tables, by the level down to which they go and whether they pass over the title, link to the headings: no two
    headings have the same anchor, and a table that lists more has the links of one that lists less among its own. -/
structure AreTables (hs : List Heading) (table : Nat → Bool → List Text) : Prop where
  distinct : (hs.map (·.anchor)).Nodup
  safe : ∀ h ∈ hs, ∀ c ∈ h.anchor, isAlphanumeric c = true ∨ c = '-' ∨ c = '_'
  links : ∀ maxLevel skipTitle, Links (wanted maxLevel skipTitle hs) (table maxLevel skipTitle)
  feed : ∀ maxLevel skipTitle, ∀ line ∈ table maxLevel skipTitle, line.count '\n' = 1
  targets : ∀ a b skip skip', a ≤ b → (skip' = true → skip = true) →
    ((wanted a skip hs).map fun h => (h.text, h.anchor)).Sublist ((wanted b skip' hs).map fun h => (h.text, h.anchor))
  lines : ∀ a b skip skip', a ≤ b → (skip' = true → skip = true) →
    ((table a skip).map (·.dropWhile (· = ' '))).Sublist ((table b skip').map (·.dropWhile (· = ' ')))

theorem areTables_ofLines (lines : List Text) : AreTables (Heading.ofLines lines) (ofLines lines) where
  distinct := by
    rw [Heading.map_anchor_ofLines]
    exact Slugger.nodup_anchors _
  safe h hh c hc := by
    have := Slugger.isSlugChar_of_mem_anchors _ _ _ (Heading.anchor_of_mem_ofLines hh) c hc
    simpa [isSlugChar, or_assoc] using this
  links := links_ofLines lines
  feed _ _ line hline := count_feed_of_isWhole (isWhole_of_mem_ofLines line hline)
  targets a b skip skip' hlevel hskip := (wanted_sublist hlevel hskip _).map _
  lines a b skip skip' hlevel hskip := by
    rw [(links_ofLines lines a skip).map_dropWhile, (links_ofLines lines b skip').map_dropWhile]
    exact (wanted_sublist hlevel hskip _).map _

/-- The number behind the second anchor counts the first heading with the same words, which is not listed. -/
example : ofLines ["# Usage\n".toList, "## Usage\n".toList, "### Usage 1\n".toList] 2 true =
    ["- [Usage](#usage-1)\n".toList] := by decide +kernel

end Contents
end PluginManual
