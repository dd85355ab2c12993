import Mathlib.Data.List.Basic
import Mathlib.Data.List.TakeWhile
import PluginManual.Docs.TypeExpr
import PluginManual.Markdown.Slug
import PluginManual.Markdown.Table

/-! What a cut of a text consists of: characters of the text. So what is read off a line without its
    line feed has no line feed either, and neither has what is composed of such texts. And where a text is cut: at
    a separator, at a kind of character, at the blanks around it and at its words. -/

namespace PluginManual
namespace Text

/-! ### Parts of a text -/

theorem dropWhile_subset {p : Char → Bool} (s : Text) : s.dropWhile p ⊆ s := (List.dropWhile_suffix p).subset

theorem takeWhile_subset {p : Char → Bool} (s : Text) : s.takeWhile p ⊆ s := (List.takeWhile_prefix p).subset

theorem dropEndWhile_subset (p : Char → Bool) (s : Text) : dropEndWhile p s ⊆ s := fun _ hc =>
  List.mem_reverse.mp (dropWhile_subset _ (List.mem_reverse.mp hc))

theorem trim_subset (s : Text) : s.trim ⊆ s :=
  List.Subset.trans (dropEndWhile_subset _ _) (dropWhile_subset _)

theorem splitWord_fst_subset (s : Text) : s.splitWord.1 ⊆ s :=
  List.Subset.trans (takeWhile_subset _) (dropWhile_subset _)

theorem splitWord_snd_subset (s : Text) : s.splitWord.2 ⊆ s :=
  List.Subset.trans (dropWhile_subset _) (List.Subset.trans (dropWhile_subset _) (dropWhile_subset _))

theorem splitOn_subset {sep : Char} {s : Text} : ∀ piece ∈ splitOn sep s, piece ⊆ s := by
  induction s with
  | nil => simp [splitOn]
  | cons c s ih =>
    rw [splitOn]
    split
    · intro piece hp
      rcases List.mem_cons.mp hp with rfl | hp
      · exact List.nil_subset _
      · exact List.subset_cons_of_subset c (ih piece hp)
    · split
      · next hs => exact absurd hs (splitOn_ne_nil sep s)
      · next first rest hs =>
        intro piece hp
        rw [hs] at ih
        rcases List.mem_cons.mp hp with rfl | hp
        · exact List.cons_subset_cons c (ih first List.mem_cons_self)
        · exact List.subset_cons_of_subset c (ih piece (List.mem_cons_of_mem _ hp))

theorem isPrefixOf?_subset {word s rest : Text} (h : word.isPrefixOf? s = some rest) : rest ⊆ s := by
  induction word generalizing s with
  | nil =>
    cases h
    exact List.Subset.refl _
  | cons c word ih =>
    cases s with
    | nil => cases h
    | cons d s =>
      replace h : (if c == d then word.isPrefixOf? s else none) = some rest := h
      split at h
      · exact List.subset_cons_of_subset d (ih h)
      · cases h

/-! ### Cuts at a separator -/

theorem splitOn_of_not_mem {sep : Char} {s : Text} (h : sep ∉ s) : splitOn sep s = [s] := by
  induction s with
  | nil => rfl
  | cons c s ih =>
    obtain ⟨hc, hs⟩ : sep ≠ c ∧ sep ∉ s := by simpa using h
    rw [splitOn, if_neg (Ne.symm hc), ih hs]

theorem join_cons_cons (sep s t : Text) (rest : List Text) :
    join sep (s :: t :: rest) = s ++ sep ++ join sep (t :: rest) := rfl

theorem not_mem_of_mem_splitOn {sep : Char} {s : Text} : ∀ piece ∈ splitOn sep s, sep ∉ piece := by
  induction s with
  | nil => simp [splitOn]
  | cons c s ih =>
    rw [splitOn]
    split
    · intro piece hp
      rcases List.mem_cons.mp hp with rfl | hp
      · simp
      · exact ih piece hp
    · next hc =>
      split
      · next hs => exact absurd hs (splitOn_ne_nil sep s)
      · next first rest hs =>
        rw [hs] at ih
        intro piece hp
        rcases List.mem_cons.mp hp with rfl | hp
        · have := ih first List.mem_cons_self
          simp [this, Ne.symm hc]
        · exact ih piece (List.mem_cons_of_mem _ hp)

theorem splitOn_append_sep (sep : Char) (s t : Text) :
    splitOn sep (s ++ sep :: t) = splitOn sep s ++ splitOn sep t := by
  induction s with
  | nil => simp [splitOn]
  | cons c s ih =>
    rw [List.cons_append, splitOn, splitOn, ih]
    split
    · rfl
    · cases hs : splitOn sep s with
      | nil => exact absurd hs (splitOn_ne_nil sep s)
      | cons first rest => rfl

/-- The last piece ends as the text does. -/
theorem splitOn_concat {sep c : Char} (hc : c ≠ sep) (s : Text) :
    ∃ pieces piece, splitOn sep (s ++ [c]) = pieces ++ [piece ++ [c]] := by
  induction s with
  | nil => exact ⟨[], [], splitOn_of_not_mem (by simpa using Ne.symm hc)⟩
  | cons d s ih =>
    obtain ⟨pieces, piece, h⟩ := ih
    rw [List.cons_append, splitOn, h]
    split
    · exact ⟨[] :: pieces, piece, rfl⟩
    · cases pieces with
      | nil => exact ⟨[], d :: piece, rfl⟩
      | cons first pieces => exact ⟨(d :: first) :: pieces, piece, rfl⟩

theorem splitOn_join {sep : Char} {pieces : List Text} (hne : pieces ≠ []) (h : ∀ piece ∈ pieces, sep ∉ piece) :
    splitOn sep (join [sep] pieces) = pieces := by
  induction pieces with
  | nil => exact absurd rfl hne
  | cons first rest ih =>
    have hfirst := splitOn_of_not_mem (h first List.mem_cons_self)
    cases rest with
    | nil => exact hfirst
    | cons second rest =>
      have hrest := ih (by simp) fun piece hp => h piece (List.mem_cons_of_mem _ hp)
      rw [join_cons_cons, List.append_assoc, List.singleton_append, splitOn_append_sep, hfirst, hrest]
      rfl

theorem splitOnce?_append {sep : Char} {a : Text} (h : sep ∉ a) (b : Text) :
    splitOnce? sep (a ++ sep :: b) = some (a, b) := by
  induction a with
  | nil => simp [splitOnce?]
  | cons c a ih =>
    obtain ⟨hc, ha⟩ : sep ≠ c ∧ sep ∉ a := by simpa using h
    rw [List.cons_append, splitOnce?, if_neg (Ne.symm hc), ih ha]
    rfl

theorem splitOnce?_of_not_mem {sep : Char} {s : Text} (h : sep ∉ s) : splitOnce? sep s = none := by
  induction s with
  | nil => rfl
  | cons c s ih =>
    obtain ⟨hc, hs⟩ : sep ≠ c ∧ sep ∉ s := by simpa using h
    rw [splitOnce?, if_neg (Ne.symm hc), ih hs]
    rfl

/-! ### Cuts at a kind of character -/

section
variable {p : Char → Bool} {s a b : Text}

/-- The text does not begin with a character of the kind. -/
def Avoids (p : Char → Bool) (s : Text) : Prop := ∀ c ∈ s.head?, p c = false

theorem avoids_cons {c : Char} : Avoids p (c :: s) ↔ p c = false := by simp [Avoids]

theorem Avoids.left (h : Avoids p (a ++ b)) : Avoids p a := by
  cases a with
  | nil => simp [Avoids]
  | cons c a => exact h

theorem Avoids.append (ha : Avoids p a) (hb : Avoids p b) : Avoids p (a ++ b) := by
  cases a with
  | nil => exact hb
  | cons c a => exact ha

theorem avoids_dropWhile (p : Char → Bool) (s : Text) : Avoids p (s.dropWhile p) := by
  induction s with
  | nil => simp [Avoids]
  | cons c s ih =>
    rw [List.dropWhile_cons]
    split
    · exact ih
    · next hc => exact avoids_cons.mpr (Bool.not_eq_true _ ▸ hc)

/-- A text is cut where a character is not of the kind for the first time. -/
theorem span_eq_iff : s.takeWhile p = a ∧ s.dropWhile p = b ↔ s = a ++ b ∧ (∀ c ∈ a, p c = true) ∧ Avoids p b := by
  constructor
  · rintro ⟨rfl, rfl⟩
    exact ⟨List.takeWhile_append_dropWhile.symm, fun c hc => List.mem_takeWhile_imp hc, avoids_dropWhile p s⟩
  · rintro ⟨rfl, ha, hb⟩
    rw [List.takeWhile_append_of_pos ha, List.dropWhile_append_of_pos ha]
    cases b with
    | nil => simp
    | cons c b => simp [avoids_cons.mp hb]

/-- A text begins with a run of one character. -/
theorem run_eq_iff {c : Char} {n : Nat} : (s.takeWhile (· = c)).length = n ∧ s.dropWhile (· = c) = b ↔
    s = List.replicate n c ++ b ∧ Avoids (· = c) b := by
  constructor
  · rintro ⟨rfl, rfl⟩
    obtain ⟨hs, hrun, hb⟩ := span_eq_iff.mp ⟨(rfl : s.takeWhile (· = c) = _), rfl⟩
    rw [← List.eq_replicate_of_mem fun d hd => of_decide_eq_true (hrun d hd)]
    exact ⟨hs, hb⟩
  · rintro ⟨rfl, hb⟩
    obtain ⟨hrun, hrest⟩ := span_eq_iff.mpr
      ⟨(rfl : List.replicate n c ++ b = _), fun d hd => decide_eq_true (List.eq_of_mem_replicate hd), hb⟩
    rw [hrun, hrest, List.length_replicate]
    exact ⟨rfl, rfl⟩

theorem trimStart_eq_iff : s.trimStart = b ↔ ∃ a, s = a ++ b ∧ (∀ c ∈ a, PluginManual.isBlank c = true) ∧
    Avoids PluginManual.isBlank b := by
  constructor
  · intro h
    exact ⟨_, span_eq_iff.mp ⟨rfl, h⟩⟩
  · rintro ⟨a, h⟩
    exact (span_eq_iff.mpr h).2

/-- The text does not end with a character of the kind. -/
def AvoidsLast (p : Char → Bool) (s : Text) : Prop := ∀ c ∈ s.getLast?, p c = false

theorem avoidsLast_of_forall (h : ∀ c ∈ s, p c = false) : AvoidsLast p s := fun c hc =>
  h c (List.mem_of_getLast? hc)

theorem AvoidsLast.append (ha : AvoidsLast p a) (hb : AvoidsLast p b) : AvoidsLast p (a ++ b) := by
  intro c hc
  rw [List.getLast?_append, Option.mem_def, Option.or_eq_some_iff] at hc
  rcases hc with hc | ⟨-, hc⟩
  · exact hb c hc
  · exact ha c hc

theorem AvoidsLast.imp {q : Char → Bool} (h : AvoidsLast p s) (hqp : ∀ c, q c = true → p c = true) :
    AvoidsLast q s := by
  intro c hc
  have hp := h c hc
  rw [Bool.eq_false_iff] at hp ⊢
  exact fun hq => hp (hqp c hq)

/-- A text is cut where a character is of another kind for the last time. -/
theorem dropEndWhile_eq_iff : dropEndWhile p s = a ↔ ∃ b, s = a ++ b ∧ (∀ c ∈ b, p c = true) ∧ AvoidsLast p a := by
  have hlast : AvoidsLast p a ↔ Avoids p a.reverse := by rw [AvoidsLast, Avoids, List.head?_reverse]
  rw [dropEndWhile, List.reverse_eq_iff, hlast]
  constructor
  · intro h
    obtain ⟨hs, hb, ha⟩ := span_eq_iff.mp ⟨rfl, h⟩
    refine ⟨(s.reverse.takeWhile p).reverse, ?_, fun c hc => hb c (List.mem_reverse.mp hc), ha⟩
    have hs := congrArg List.reverse hs
    rwa [List.reverse_reverse, List.reverse_append, List.reverse_reverse] at hs
  · rintro ⟨b, rfl, hb, ha⟩
    exact (span_eq_iff.mpr ⟨List.reverse_append, fun c hc => hb c (List.mem_reverse.mp hc), ha⟩).2

theorem avoidsLast_dropEndWhile (p : Char → Bool) (s : Text) : AvoidsLast p (dropEndWhile p s) := by
  obtain ⟨-, -, -, hlast⟩ := dropEndWhile_eq_iff.mp (rfl : dropEndWhile p s = _)
  exact hlast

theorem dropEndWhile_of_avoidsLast (h : AvoidsLast p s) : dropEndWhile p s = s :=
  dropEndWhile_eq_iff.mpr ⟨[], (List.append_nil s).symm, by simp, h⟩

theorem dropEndWhile_append (ha : AvoidsLast p a) (b : Text) : dropEndWhile p (a ++ b) = a ++ dropEndWhile p b := by
  obtain ⟨w, hb, hw, hlast⟩ := dropEndWhile_eq_iff.mp (rfl : dropEndWhile p b = _)
  refine dropEndWhile_eq_iff.mpr ⟨w, ?_, hw, ha.append hlast⟩
  rw [List.append_assoc, ← hb]

theorem dropEndWhile_append_of_forall (hb : ∀ c ∈ b, p c = true) (a : Text) : dropEndWhile p (a ++ b) = dropEndWhile p a := by
  rw [dropEndWhile, List.reverse_append, List.dropWhile_append_of_pos fun c hc => hb c (List.mem_reverse.mp hc)]
  rfl

/-! ### Blanks around a text -/

theorem isBlank_of_isSpaceOrTab {c : Char} (h : isSpaceOrTab c = true) : PluginManual.isBlank c = true :=
  isBlank_of_isAsciiBlank (isAsciiBlank_of_isSpaceOrTab h)

theorem toNat_of_isAlphanum {c : Char} (h : c.isAlphanum = true) :
    ((65 ≤ c.toNat ∧ c.toNat ≤ 90) ∨ (97 ≤ c.toNat ∧ c.toNat ≤ 122)) ∨ (48 ≤ c.toNat ∧ c.toNat ≤ 57) := by
  have hkinds : ((decide ('A'.val ≤ c.val ∧ c.val ≤ 'Z'.val) || (decide ('a'.val ≤ c.val) && decide (c.val ≤ 'z'.val))) ||
      (decide ('0'.val ≤ c.val) && decide (c.val ≤ '9'.val))) = true := h
  simp only [Bool.or_eq_true, Bool.and_eq_true, decide_eq_true_eq] at hkinds
  exact hkinds

theorem not_isBlank_of_isAlphanum {c : Char} (h : c.isAlphanum = true) : PluginManual.isBlank c = false := by
  have hrange := toNat_of_isAlphanum h
  rw [PluginManual.isBlank, Bool.eq_false_iff, ne_eq, CodeRange.covers_iff ascending_blankRanges]
  simp only [blankRanges, CodeRange.single, List.mem_cons, List.not_mem_nil, or_false, exists_eq_or_imp, exists_eq_left]
  omega

theorem isBlank_iff : s.isBlank = true ↔ ∀ c ∈ s, PluginManual.isBlank c = true := List.all_eq_true

theorem trim_eq_nil_iff : s.trim = [] ↔ s.isBlank = true := by
  rw [isBlank_iff, trim, trimEnd, dropEndWhile_eq_iff]
  constructor
  · rintro ⟨b, hb, hblank, -⟩ c hc
    rw [← List.takeWhile_append_dropWhile (p := PluginManual.isBlank) (l := s)] at hc
    rcases List.mem_append.mp hc with hc | hc
    · exact List.mem_takeWhile_imp hc
    · replace hc : c ∈ s.trimStart := hc
      rw [hb] at hc
      exact hblank c hc
  · intro h
    have hnil : s.trimStart = [] := List.dropWhile_eq_nil_iff.mpr h
    exact ⟨[], hnil, by simp, by simp [AvoidsLast]⟩

theorem trim_blank_append (ha : ∀ c ∈ a, PluginManual.isBlank c = true) (s : Text) : (a ++ s).trim = s.trim := by
  rw [trim, trim, trimStart, List.dropWhile_append_of_pos ha]
  rfl

theorem trim_append_blank (hb : ∀ c ∈ b, PluginManual.isBlank c = true) (s : Text) : (s ++ b).trim = s.trim := by
  by_cases hs : s.isBlank = true
  · have hboth : (s ++ b).isBlank = true := by
      rw [isBlank_iff] at hs ⊢
      exact fun c hc => (List.mem_append.mp hc).elim (hs c) (hb c)
    rw [trim_eq_nil_iff.mpr hs, trim_eq_nil_iff.mpr hboth]
  · have hne : (s.dropWhile PluginManual.isBlank).isEmpty = false := by
      rw [List.isEmpty_eq_false_iff]
      exact fun hnil => hs (isBlank_iff.mpr (List.dropWhile_eq_nil_iff.mp hnil))
    rw [trim, trimStart, List.dropWhile_append, hne, if_neg (by simp), trimEnd, dropEndWhile_append_of_forall hb]
    rfl

theorem trim_of_avoids (h : Avoids PluginManual.isBlank s) (hlast : AvoidsLast PluginManual.isBlank s) : s.trim = s := by
  have hstart : s.trimStart = s := trimStart_eq_iff.mpr ⟨[], rfl, by simp, h⟩
  rw [trim, hstart]
  exact dropEndWhile_of_avoidsLast hlast

theorem trim_eq_self_iff : s.trim = s ↔ Avoids PluginManual.isBlank s ∧ AvoidsLast PluginManual.isBlank s := by
  constructor
  · intro h
    obtain ⟨w, hs, -, hfirst⟩ := trimStart_eq_iff.mp (rfl : s.trimStart = _)
    obtain ⟨v, hv, -, hlast⟩ := dropEndWhile_eq_iff.mp h
    -- Nothing was cut off, so there were no blanks at the beginning.
    have hw : w = [] := by
      have hlength := congrArg List.length hs
      rw [hv, List.length_append, List.length_append] at hlength
      exact List.length_eq_zero_iff.mp (by omega)
    rw [hw, List.nil_append] at hs
    exact ⟨hs ▸ hfirst, hlast⟩
  · rintro ⟨hfirst, hlast⟩
    exact trim_of_avoids hfirst hlast

/-- The text ends with a character that is not blank. -/
def EndsSolid (s : Text) : Prop := ∃ c ∈ s.getLast?, PluginManual.isBlank c = false

theorem EndsSolid.append (h : EndsSolid b) (a : Text) : EndsSolid (a ++ b) := by
  obtain ⟨c, hc, hblank⟩ := h
  exact ⟨c, List.mem_getLast?_append_of_mem_getLast? hc, hblank⟩

theorem EndsSolid.avoidsLast (h : EndsSolid s) : AvoidsLast PluginManual.isBlank s := by
  obtain ⟨c, hc, hblank⟩ := h
  intro x hx
  obtain rfl := Option.mem_unique hc hx
  exact hblank

/-- Only blanks behind the text are taken from its end. -/
theorem EndsSolid.trimEnd_append (h : EndsSolid a) (b : Text) : (a ++ b).trimEnd = a ++ b.trimEnd :=
  dropEndWhile_append h.avoidsLast b

/-- Of a text and what is put behind it only the latter is trimmed, if there are no blanks around the former. -/
theorem EndsSolid.trim_append (h : EndsSolid a) (ha : Avoids PluginManual.isBlank (a ++ b)) :
    (a ++ b).trim = a ++ b.trimEnd := by
  rw [trim, trimStart_eq_iff.mpr ⟨[], (List.nil_append _).symm, by simp, ha⟩, h.trimEnd_append]

theorem trimStart_append_cons {c : Char} (hc : PluginManual.isBlank c = false) (a b : Text) :
    trimStart (a ++ c :: b) = trimStart a ++ c :: b := by
  obtain ⟨w, hw, hblank, hfirst⟩ := trimStart_eq_iff.mp (rfl : a.trimStart = _)
  refine trimStart_eq_iff.mpr ⟨w, ?_, hblank, hfirst.append (avoids_cons.mpr hc)⟩
  conv_lhs => rw [hw]
  rw [List.append_assoc]

theorem trim_append_cons {c : Char} (hc : PluginManual.isBlank c = false) (a b : Text) :
    trim (a ++ c :: b) = trimStart a ++ c :: trimEnd b := by
  have hsolid : EndsSolid (trimStart a ++ [c]) := ⟨c, by simp, hc⟩
  rw [trim, trimStart_append_cons hc, ← List.singleton_append, ← List.append_assoc, hsolid.trimEnd_append]
  simp

theorem EndsSolid.getLast?_trim (h : EndsSolid s) : s.trim.getLast? = s.getLast? := by
  obtain ⟨w, hs, hw, -⟩ := trimStart_eq_iff.mp (rfl : s.trimStart = _)
  have hne : s.trimStart ≠ [] := by
    intro hnil
    obtain ⟨c, hc, hblank⟩ := h
    rw [hnil, List.append_nil] at hs
    rw [hw c (hs ▸ List.mem_of_getLast? hc)] at hblank
    cases hblank
  have hlast : s.getLast? = s.trimStart.getLast? := by
    conv_lhs => rw [hs]
    rw [List.getLast?_append, List.getLast?_eq_some_getLast hne, Option.some_or]
  have hend : AvoidsLast PluginManual.isBlank s.trimStart := fun c hc => h.avoidsLast c (hlast ▸ hc)
  rw [trim, trimEnd, dropEndWhile_of_avoidsLast hend, hlast]

/-! ### Words -/

/-- A text without blanks. -/
structure IsWord (s : Text) : Prop where
  ne_nil : s ≠ []
  solid : ∀ c ∈ s, PluginManual.isBlank c = false

theorem isWord_iff : IsWord s ↔ s ≠ [] ∧ (s.all (!PluginManual.isBlank ·)) = true := by
  rw [List.all_eq_true]
  exact ⟨fun h => ⟨h.ne_nil, fun c hc => by simp [h.solid c hc]⟩, fun h => ⟨h.1, fun c hc => by simpa using h.2 c hc⟩⟩

instance (s : Text) : Decidable (IsWord s) := decidable_of_iff _ isWord_iff.symm

theorem IsWord.avoids (h : IsWord a) (b : Text) : Avoids PluginManual.isBlank (a ++ b) := by
  obtain ⟨c, a, rfl⟩ := List.exists_cons_of_ne_nil h.ne_nil
  exact avoids_cons.mpr (h.solid c List.mem_cons_self)

theorem IsWord.endsSolid (h : IsWord a) : EndsSolid a :=
  ⟨_, List.getLast?_eq_some_getLast h.ne_nil, h.solid _ (List.getLast_mem h.ne_nil)⟩

theorem IsWord.trim (h : IsWord a) : Text.trim a = a :=
  trim_of_avoids (List.append_nil a ▸ h.avoids []) h.endsSolid.avoidsLast

/-- A word is split off up to the first blank behind it. -/
theorem splitWord_append {w more : Text} (ha : ∀ c ∈ a, PluginManual.isBlank c = true) (hw : IsWord w)
    (hmore : ∀ c ∈ more.head?, PluginManual.isBlank c = true) : (a ++ (w ++ more)).splitWord = (w, more.trimStart) := by
  have htrim : (a ++ (w ++ more)).trimStart = w ++ more := trimStart_eq_iff.mpr ⟨a, rfl, ha, hw.avoids more⟩
  obtain ⟨htake, hdrop⟩ := span_eq_iff (p := (!PluginManual.isBlank ·)) (s := w ++ more).mpr
    ⟨rfl, fun c hc => by simp [hw.solid c hc], fun c hc => by simp [hmore c hc]⟩
  rw [splitWord, htrim]
  simp only [htake, hdrop]

end

/-! ### Texts without line feed -/

/-- The text has no line feed. -/
def OneLine (s : Text) : Prop := '\n' ∉ s

instance (s : Text) : Decidable (OneLine s) := inferInstanceAs (Decidable ('\n' ∉ s))

theorem OneLine.of_subset {s t : Text} (h : OneLine s) (hts : t ⊆ s) : OneLine t := fun hc => h (hts hc)

@[simp] theorem oneLine_nil : OneLine [] := List.not_mem_nil

@[simp] theorem oneLine_cons {c : Char} {s : Text} : OneLine (c :: s) ↔ c ≠ '\n' ∧ OneLine s := by
  simp [OneLine, eq_comm]

@[simp] theorem oneLine_append {s t : Text} : OneLine (s ++ t) ↔ OneLine s ∧ OneLine t := by
  simp [OneLine]

theorem mem_of_mem_join {sep : Text} {pieces : List Text} {c : Char} (hc : c ∈ join sep pieces) :
    c ∈ sep ∨ ∃ s ∈ pieces, c ∈ s := by
  induction pieces with
  | nil => cases hc
  | cons s rest ih =>
    cases rest with
    | nil => exact .inr ⟨s, List.mem_cons_self, hc⟩
    | cons t rest =>
      rw [join_cons_cons, List.append_assoc] at hc
      rcases List.mem_append.mp hc with hc | hc
      · exact .inr ⟨s, List.mem_cons_self, hc⟩
      rcases List.mem_append.mp hc with hc | hc
      · exact .inl hc
      · exact (ih hc).imp_right fun ⟨u, hu, hc⟩ => ⟨u, List.mem_cons_of_mem s hu, hc⟩

theorem oneLine_join {sep : Text} (hsep : OneLine sep) {pieces : List Text} (h : ∀ s ∈ pieces, OneLine s) :
    OneLine (join sep pieces) := fun hc => (mem_of_mem_join hc).elim hsep fun ⟨s, hs, hc⟩ => h s hs hc

theorem oneLine_replicate {n : Nat} {c : Char} (h : c ≠ '\n') : OneLine (List.replicate n c) := fun hc =>
  h (List.eq_of_mem_replicate hc).symm

theorem oneLine_spaces (n : Nat) : OneLine (spaces n) := oneLine_replicate (by decide)

theorem oneLine_padEnd {s : Text} (h : OneLine s) (width : Nat) : OneLine (padEnd width s) :=
  oneLine_append.mpr ⟨h, oneLine_spaces _⟩

theorem oneLine_replaceChar {c : Char} {by' s : Text} (hby : OneLine by') (h : OneLine s) :
    OneLine (replaceChar c by' s) := by
  intro hc
  obtain ⟨d, hd, hc⟩ := List.mem_flatMap.mp hc
  split at hc
  · exact hby hc
  · exact h (List.mem_singleton.mp hc ▸ hd)

/-! ### Words and anchors -/

theorem mem_of_mem_words {s w : Text} (hw : w ∈ words s) : ∀ c ∈ w, c ∈ s ∧ PluginManual.isBlank c = false := by
  -- The word that is being read has been taken from the text before, and has no blank either.
  suffices go : ∀ s word : Text, (∀ c ∈ word, PluginManual.isBlank c = false) →
      ∀ w ∈ words.go word s, ∀ c ∈ w, (c ∈ word ∨ c ∈ s) ∧ PluginManual.isBlank c = false by
    intro c hc
    obtain ⟨hmem, hblank⟩ := go s [] (by simp) w hw c hc
    exact ⟨hmem.resolve_left (by simp), hblank⟩
  intro s
  induction s with
  | nil =>
    intro word hword w hw c hc
    rw [words.go] at hw
    split at hw
    · cases hw
    · rw [List.mem_singleton.mp hw] at hc
      have hc := List.mem_reverse.mp hc
      exact ⟨.inl hc, hword c hc⟩
  | cons d s ih =>
    have hnext : ∀ w ∈ words.go [] s, ∀ c ∈ w, (c ∈ ([] : Text) ∨ c ∈ s) ∧ PluginManual.isBlank c = false :=
      ih [] (by simp)
    intro word hword w hw c hc
    rw [words.go] at hw
    split at hw
    · have hrest : w ∈ words.go [] s → (c ∈ word ∨ c ∈ d :: s) ∧ PluginManual.isBlank c = false := fun hw => by
        obtain ⟨hmem, hblank⟩ := hnext w hw c hc
        exact ⟨.inr (List.mem_cons_of_mem d (hmem.resolve_left (by simp))), hblank⟩
      split at hw
      · exact hrest hw
      · rcases List.mem_cons.mp hw with rfl | hw
        · have hc := List.mem_reverse.mp hc
          exact ⟨.inl hc, hword c hc⟩
        · exact hrest hw
    · next hd =>
      have hword' : ∀ c ∈ d :: word, PluginManual.isBlank c = false :=
        List.forall_mem_cons.mpr ⟨Bool.not_eq_true _ ▸ hd, hword⟩
      obtain ⟨hmem, hblank⟩ := ih (d :: word) hword' w hw c hc
      refine ⟨?_, hblank⟩
      rcases hmem with hmem | hmem
      · rcases List.mem_cons.mp hmem with rfl | hmem
        · exact .inr List.mem_cons_self
        · exact .inl hmem
      · exact .inr (List.mem_cons_of_mem d hmem)

theorem isSlugChar_of_isDigit {c : Char} (h : c.isDigit = true) : isSlugChar c = true := by
  have hascii : c.toNat < 0x80 := by
    simp only [Char.isDigit, Bool.and_eq_true, decide_eq_true_eq] at h
    exact Nat.lt_of_le_of_lt h.2 (by decide)
  simp [isSlugChar, isAlphanumeric, hascii, Char.isAlphanum, h]

theorem isSlugChar_of_mem_slug {s : Text} : ∀ c ∈ s.slug, isSlugChar c = true := by
  intro c hc
  rcases mem_of_mem_join hc with hc | ⟨w, hw, hc⟩
  · obtain rfl := List.mem_singleton.mp hc
    rfl
  · obtain ⟨hmem, hblank⟩ := mem_of_mem_words hw c hc
    simpa [hblank] using (List.mem_filter.mp hmem).2

end Text

namespace Slugger
open Text

theorem isSlugChar_of_mem_anchor (g : Slugger) (text : Text) : ∀ c ∈ (g.anchor text).1, isSlugChar c = true := by
  intro c hc
  rw [anchor] at hc
  split at hc
  · exact isSlugChar_of_mem_slug c hc
  · rcases List.mem_append.mp hc with hc | hc
    · exact isSlugChar_of_mem_slug c hc
    rcases List.mem_cons.mp hc with rfl | hc
    · rfl
    · exact isSlugChar_of_isDigit (Nat.isDigit_of_mem_toDigits (by decide) (by decide) hc)

/-- Anchors are made of letters, digits, hyphens and underscores. -/
theorem isSlugChar_of_mem_anchors (g : Slugger) (texts : List Text) :
    ∀ a ∈ g.anchors texts, ∀ c ∈ a, isSlugChar c = true := by
  induction texts generalizing g with
  | nil => simp [anchors]
  | cons text rest ih =>
    rw [anchors]
    intro a ha
    rcases List.mem_cons.mp ha with rfl | ha
    · exact isSlugChar_of_mem_anchor g text
    · exact ih _ a ha

theorem oneLine_anchors (g : Slugger) (texts : List Text) : ∀ a ∈ g.anchors texts, OneLine a := fun a ha hc =>
  absurd (isSlugChar_of_mem_anchors g texts a ha _ hc) (by decide)

end Slugger

namespace TypeExpr

/-- The type and the rest are made of characters of the text. -/
theorem splitFrom_subset {depth : Nat} {before : Option Char} {s : Text} :
    (splitFrom depth before s).1 ⊆ s ∧ (splitFrom depth before s).2 ⊆ s := by
  induction s generalizing depth before with
  | nil => exact ⟨List.nil_subset _, List.nil_subset _⟩
  | cons c s ih =>
    rw [splitFrom]
    split
    · exact ⟨List.nil_subset _, List.subset_cons_of_subset c (Text.dropWhile_subset s)⟩
    · exact ⟨List.cons_subset_cons c ih.1, List.subset_cons_of_subset c ih.2⟩

theorem split_subset (s : Text) : (split s).1 ⊆ s ∧ (split s).2 ⊆ s :=
  ⟨List.Subset.trans splitFrom_subset.1 (Text.dropWhile_subset s),
    List.Subset.trans splitFrom_subset.2 (Text.dropWhile_subset s)⟩

end TypeExpr
end PluginManual
