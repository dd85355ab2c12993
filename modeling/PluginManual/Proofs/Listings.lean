import PluginManual.Lua.Definition
import PluginManual.Proofs.Annotations

/-! How a list of parameters is laid out. Its tokens are the commas and the words between them, so that tokens tell
    nothing of the blanks and the lines between them. A text lists names exactly if these are its tokens with commas
    between them, and then they are the names that are read off it. -/

namespace PluginManual
namespace Text

variable {a b s w word : Text} {c : Char} {ws : List Text}

/-! ### Words -/

theorem words_append_blank (hc : PluginManual.isBlank c = true) (a b : Text) : words (a ++ c :: b) = words a ++ words b := by
  suffices go : ∀ word, words.go word (a ++ c :: b) = words.go word a ++ words.go [] b from go []
  induction a with
  | nil =>
    intro word
    simp only [List.nil_append, words.go, if_pos hc]
    split <;> rfl
  | cons d a ih =>
    intro word
    rw [List.cons_append, words.go, words.go]
    split
    · split
      · exact ih []
      · rw [ih [], List.cons_append]
    · exact ih (d :: word)

theorem words_cons_blank (hc : PluginManual.isBlank c = true) (s : Text) : words (c :: s) = words s :=
  words_append_blank hc [] s

theorem words_blank_append (ha : ∀ c ∈ a, PluginManual.isBlank c = true) (s : Text) : words (a ++ s) = words s := by
  induction a with
  | nil => rfl
  | cons c a ih =>
    obtain ⟨hc, ha⟩ := List.forall_mem_cons.mp ha
    rw [List.cons_append, words_cons_blank hc, ih ha]

theorem words_of_blank (ha : ∀ c ∈ a, PluginManual.isBlank c = true) : words a = [] := by
  have hwords := words_blank_append ha []
  rwa [List.append_nil] at hwords

theorem words_append_of_avoids (hw : IsWord w) (hs : ∀ c ∈ s.head?, PluginManual.isBlank c = true) :
    words (w ++ s) = w :: words s := by
  have go : ∀ word : Text, (∀ c ∈ w, PluginManual.isBlank c = false) →
      words.go word (w ++ s) = words.go (w.reverse ++ word) s := by
    clear hw
    induction w with
    | nil => exact fun _ _ => rfl
    | cons c w ih =>
      intro word hsolid
      obtain ⟨hc, hsolid⟩ := List.forall_mem_cons.mp hsolid
      rw [List.cons_append, words.go, if_neg (by simp [hc]), ih _ hsolid]
      simp
  have hne : (w.reverse ++ []).isEmpty = false := by simpa using hw.ne_nil
  rw [words, go [] hw.solid]
  cases s with
  | nil =>
    rw [words.go, hne]
    simp [words, words.go]
  | cons c s =>
    have hc : PluginManual.isBlank c = true := hs c rfl
    rw [words_cons_blank hc, words.go, if_pos hc, hne]
    simp [words]

theorem words_of_isWord (hw : IsWord w) : words w = [w] := by
  have hwords := words_append_of_avoids hw (s := []) (by simp)
  rwa [List.append_nil] at hwords

/-- A text has no word, or it has a first one with blanks before it. -/
theorem words_cases (s : Text) : (words s = [] ∧ ∀ c ∈ s, PluginManual.isBlank c = true) ∨
    ∃ a w rest, s = a ++ (w ++ rest) ∧ (∀ c ∈ a, PluginManual.isBlank c = true) ∧ IsWord w ∧ words s = w :: words rest := by
  obtain ⟨a, hs, ha, hfirst⟩ := trimStart_eq_iff.mp (rfl : s.trimStart = _)
  obtain ⟨hcut, hsolid, hrest⟩ := span_eq_iff (p := (!PluginManual.isBlank ·)).mp ⟨(rfl : s.trimStart.takeWhile _ = _), rfl⟩
  generalize s.trimStart.takeWhile (!PluginManual.isBlank ·) = w at hcut hsolid
  generalize s.trimStart.dropWhile (!PluginManual.isBlank ·) = rest at hcut hrest
  cases w with
  | nil =>
    -- Then nothing is left without the blanks at the beginning.
    have hnil : s.trimStart = [] := by
      cases hstart : s.trimStart with
      | nil => rfl
      | cons c t =>
        rw [hstart] at hfirst hcut
        obtain rfl : c :: t = rest := hcut
        have hblank := avoids_cons.mp hrest
        rw [avoids_cons.mp hfirst] at hblank
        cases hblank
    rw [hnil, List.append_nil] at hs
    rw [hs]
    exact .inl ⟨words_of_blank ha, ha⟩
  | cons c w =>
    have hw : IsWord (c :: w) := ⟨by simp, fun d hd => by simpa using hsolid d hd⟩
    have hrest : ∀ d ∈ rest.head?, PluginManual.isBlank d = true := fun d hd => by simpa using hrest d hd
    refine .inr ⟨a, c :: w, rest, by rw [← hcut, ← hs], ha, hw, ?_⟩
    rw [hs, hcut, words_blank_append ha, words_append_of_avoids hw hrest]

theorem words_eq_nil_iff : words s = [] ↔ ∀ c ∈ s, PluginManual.isBlank c = true := by
  rcases words_cases s with ⟨hnil, hblank⟩ | ⟨a, w, rest, -, -, -, hwords⟩
  · exact iff_of_true hnil hblank
  · refine iff_of_false (by simp [hwords]) fun hblank => ?_
    rw [words_of_blank hblank] at hwords
    cases hwords

theorem words_eq_singleton_iff (hw : IsWord w) : words s = [w] ↔
    ∃ a b, s = a ++ (w ++ b) ∧ (∀ c ∈ a, PluginManual.isBlank c = true) ∧ ∀ c ∈ b, PluginManual.isBlank c = true := by
  constructor
  · intro h
    rcases words_cases s with ⟨hnil, -⟩ | ⟨a, v, rest, hs, ha, -, hwords⟩
    · rw [hnil] at h
      cases h
    · rw [hwords] at h
      obtain ⟨rfl, hrest⟩ := List.cons.inj h
      exact ⟨a, rest, hs, ha, words_eq_nil_iff.mp hrest⟩
  · rintro ⟨a, b, rfl, ha, hb⟩
    rw [words_blank_append ha, words_append_of_avoids hw fun c hc => hb c (List.mem_of_mem_head? hc), words_of_blank hb]

/-- A character that is not blank stands in a word. -/
theorem exists_mem_words (hc : c ∈ s) (hsolid : PluginManual.isBlank c = false) : ∃ w ∈ words s, c ∈ w := by
  obtain ⟨n, hn⟩ : ∃ n, s.length ≤ n := ⟨_, Nat.le_refl _⟩
  induction n generalizing s with
  | zero =>
    rw [List.length_eq_zero_iff.mp (Nat.le_zero.mp hn)] at hc
    cases hc
  | succ n ih =>
    rcases words_cases s with ⟨-, hblank⟩ | ⟨a, w, rest, rfl, ha, hw, hwords⟩
    · rw [hblank c hc] at hsolid
      cases hsolid
    · rw [hwords]
      rcases List.mem_append.mp hc with hc | hc
      · rw [ha c hc] at hsolid
        cases hsolid
      rcases List.mem_append.mp hc with hc | hc
      · exact ⟨w, List.mem_cons_self, hc⟩
      · have hlength : rest.length ≤ n := by
          have hpos := List.length_pos_iff.mpr hw.ne_nil
          rw [List.length_append, List.length_append] at hn
          omega
        obtain ⟨v, hv, hcv⟩ := ih hc hlength
        exact ⟨v, List.mem_cons_of_mem _ hv, hcv⟩

/-! ### Tokens -/

/-- The commas of a text and the words between them. -/
def tokens (s : Text) : List Text := words (replaceChar ',' " , " s)

theorem replaceChar_append (c : Char) (by' a b : Text) :
    replaceChar c by' (a ++ b) = replaceChar c by' a ++ replaceChar c by' b := List.flatMap_append

theorem replaceChar_of_not_mem {by' : Text} (h : c ∉ s) : replaceChar c by' s = s := by
  induction s with
  | nil => rfl
  | cons d s ih =>
    obtain ⟨hd, hs⟩ : c ≠ d ∧ c ∉ s := by simpa using h
    rw [← List.singleton_append, replaceChar_append, ih hs, replaceChar, List.flatMap_singleton, if_neg (Ne.symm hd)]

theorem comma_not_mem_of_blank (ha : ∀ c ∈ a, PluginManual.isBlank c = true) : ',' ∉ a := fun hmem =>
  absurd (ha _ hmem) (by decide)

theorem tokens_append_blank (hc : PluginManual.isBlank c = true) (a b : Text) : tokens (a ++ c :: b) = tokens a ++ tokens b := by
  have hcomma : ',' ∉ [c] := comma_not_mem_of_blank (by simpa using hc)
  rw [tokens, replaceChar_append, ← List.singleton_append, replaceChar_append, replaceChar_of_not_mem hcomma,
    List.singleton_append, words_append_blank hc, tokens, tokens]

theorem tokens_append_comma (a b : Text) : tokens (a ++ ',' :: b) = tokens a ++ ",".toList :: tokens b := by
  have hcomma : replaceChar ',' " , " (',' :: b) = ' ' :: ("," ++ ' ' :: replaceChar ',' " , " b) := rfl
  rw [tokens, replaceChar_append, hcomma, words_append_blank (by decide), words_append_blank (by decide),
    words_of_isWord (w := ",") (by decide), List.singleton_append, tokens, tokens]

theorem tokens_of_not_mem (h : ',' ∉ s) : tokens s = words s := by rw [tokens, replaceChar_of_not_mem h]

theorem tokens_blank_append (ha : ∀ c ∈ a, PluginManual.isBlank c = true) (s : Text) : tokens (a ++ s) = tokens s := by
  rw [tokens, replaceChar_append, replaceChar_of_not_mem (comma_not_mem_of_blank ha), words_blank_append ha, tokens]

theorem tokens_append_of_blank (hb : ∀ c ∈ b, PluginManual.isBlank c = true) (s : Text) : tokens (s ++ b) = tokens s := by
  cases b with
  | nil => rw [List.append_nil]
  | cons c b =>
    obtain ⟨hc, hb⟩ := List.forall_mem_cons.mp hb
    rw [tokens_append_blank hc, tokens_of_not_mem (comma_not_mem_of_blank hb), words_of_blank hb, List.append_nil]

/-- A text is its trimmed text with blanks on both sides. -/
theorem exists_eq_append_trim (s : Text) : ∃ a b, s = a ++ (s.trim ++ b) ∧ (∀ c ∈ a, PluginManual.isBlank c = true) ∧
    ∀ c ∈ b, PluginManual.isBlank c = true := by
  obtain ⟨a, hs, ha, -⟩ := trimStart_eq_iff.mp (rfl : s.trimStart = _)
  obtain ⟨b, htrim, hb, -⟩ := dropEndWhile_eq_iff.mp (rfl : s.trimStart.trimEnd = _)
  exact ⟨a, b, by rw [trim, ← htrim, ← hs], ha, hb⟩

theorem tokens_trim (s : Text) : tokens s.trim = tokens s := by
  obtain ⟨a, b, hs, ha, hb⟩ := exists_eq_append_trim s
  conv_rhs => rw [hs]
  rw [tokens_blank_append ha, tokens_append_of_blank hb]

/-- A character that is neither blank nor a comma stands in two texts with the same tokens or in none of them. -/
theorem mem_of_tokens_eq {t : Text} (htokens : tokens s = tokens t) (hsolid : PluginManual.isBlank c = false) (hcomma : c ≠ ',')
    (hc : c ∈ s) : c ∈ t := by
  have hreplaced : c ∈ replaceChar ',' " , " s := List.mem_flatMap.mpr ⟨c, hc, by simp [hcomma]⟩
  obtain ⟨w, hw, hcw⟩ := exists_mem_words hreplaced hsolid
  have hw : w ∈ tokens t := htokens ▸ hw
  obtain ⟨d, hd, hcd⟩ := List.mem_flatMap.mp (mem_of_mem_words hw c hcw).1
  split at hcd
  · have hsign : c ∈ [' ', ',', ' '] := hcd
    simp only [List.mem_cons, List.not_mem_nil, or_false] at hsign
    rcases hsign with rfl | hsign | rfl
    · cases hsolid
    · exact absurd hsign hcomma
    · cases hsolid
  · exact List.mem_singleton.mp hcd ▸ hd

end Text

/-! ### Lists of names -/

open Text

variable {names : List Text} {s a b name : Text} {c : Char}

/-- The text lists the names, with commas between them and any blanks before and behind each of them. -/
inductive IsListing : List Text → Text → Prop where
  | none {w : Text} (hw : ∀ c ∈ w, isBlank c = true) : IsListing [] w
  | last {a name b : Text} (ha : ∀ c ∈ a, isBlank c = true) (hb : ∀ c ∈ b, isBlank c = true) :
    IsListing [name] (a ++ (name ++ b))
  | more {a name b next s : Text} {names : List Text} (ha : ∀ c ∈ a, isBlank c = true) (hb : ∀ c ∈ b, isBlank c = true)
    (h : IsListing (next :: names) s) : IsListing (name :: next :: names) (a ++ (name ++ (b ++ ',' :: s)))

/-- A name that can be listed: a word without a comma in it. -/
structure IsItem (name : Text) : Prop extends IsWord name where
  comma : ',' ∉ name

theorem IsListing.tokens_eq (h : IsListing names s) (hnames : ∀ name ∈ names, IsItem name) :
    tokens s = names.intersperse ",".toList := by
  have hitem : ∀ {a name b : Text}, (∀ c ∈ a, isBlank c = true) → (∀ c ∈ b, isBlank c = true) → IsItem name →
      tokens (a ++ (name ++ b)) = [name] := by
    intro a name b ha hb hname
    rw [tokens_blank_append ha, tokens_append_of_blank hb, tokens_of_not_mem hname.comma, words_of_isWord hname.toIsWord]
  induction h with
  | none hw => rw [tokens_of_not_mem (comma_not_mem_of_blank hw), words_of_blank hw, List.intersperse_nil]
  | last ha hb => rw [hitem ha hb (hnames _ List.mem_cons_self), List.intersperse_singleton]
  | @more a name b next s names ha hb _ ih =>
    obtain ⟨hname, hnames⟩ := List.forall_mem_cons.mp hnames
    have hcut : a ++ (name ++ (b ++ ',' :: s)) = (a ++ (name ++ b)) ++ ',' :: s := by simp
    rw [hcut, tokens_append_comma, hitem ha hb hname, ih hnames, List.intersperse_cons_cons]
    rfl

theorem isListing_of_tokens (hnames : ∀ name ∈ names, IsItem name) (h : tokens s = names.intersperse ",".toList) :
    IsListing names s := by
  induction names generalizing s with
  | nil =>
    have hcomma : ',' ∉ s := by
      intro hmem
      obtain ⟨a, b, rfl, -⟩ := List.eq_append_cons_of_mem hmem
      rw [tokens_append_comma, List.intersperse_nil] at h
      simp at h
    rw [tokens_of_not_mem hcomma, List.intersperse_nil, words_eq_nil_iff] at h
    exact .none h
  | cons name names ih =>
    obtain ⟨hname, hrest⟩ := List.forall_mem_cons.mp hnames
    have hne : name ≠ ",".toList := fun heq => hname.comma (heq ▸ by decide)
    cases names with
    | nil =>
      have hcomma : ',' ∉ s := by
        intro hmem
        obtain ⟨a, b, rfl, -⟩ := List.eq_append_cons_of_mem hmem
        rw [tokens_append_comma, List.intersperse_singleton] at h
        have hmem : ",".toList ∈ [name] := h ▸ by simp
        exact hne (List.mem_singleton.mp hmem).symm
      rw [tokens_of_not_mem hcomma, List.intersperse_singleton, words_eq_singleton_iff hname.toIsWord] at h
      obtain ⟨a, b, rfl, ha, hb⟩ := h
      exact .last ha hb
    | cons next names =>
      rw [List.intersperse_cons_cons] at h
      have hword : ∀ {w t : Text}, w ∈ words t → ',' ∉ t → w ≠ ",".toList := fun hw ht heq =>
        ht (mem_of_mem_words hw ',' (heq ▸ by decide)).1
      have hmem : ',' ∈ s := by
        by_contra hcomma
        rw [tokens_of_not_mem hcomma] at h
        exact hword (h ▸ List.mem_cons_of_mem _ List.mem_cons_self) hcomma rfl
      obtain ⟨a, b, rfl, ha⟩ := List.eq_append_cons_of_mem hmem
      rw [tokens_append_comma, tokens_of_not_mem ha] at h
      -- Before the first comma there is one word, since no word is a comma.
      rcases hwords : words a with _ | ⟨w, _ | ⟨w', ws⟩⟩
      · rw [hwords] at h
        exact absurd (List.cons.inj h).1.symm hne
      · rw [hwords] at h
        obtain ⟨rfl, htail⟩ := List.cons.inj h
        obtain ⟨x, y, rfl, hx, hy⟩ := (words_eq_singleton_iff hname.toIsWord).mp hwords
        have hlisting := ih hrest (List.cons.inj htail).2
        rw [List.append_assoc, List.append_assoc]
        exact .more hx hy hlisting
      · rw [hwords] at h
        obtain ⟨-, htail⟩ := List.cons.inj h
        exact absurd (List.cons.inj htail).1 (hword (hwords ▸ by simp) ha)

theorem IsListing.char (h : IsListing names s) :
    ∀ c ∈ s, isBlank c = true ∨ c = ',' ∨ ∃ name ∈ names, c ∈ name := by
  have hitem : ∀ {a name b : Text} {c : Char}, (∀ c ∈ a, isBlank c = true) → (∀ c ∈ b, isBlank c = true) →
      c ∈ a ++ (name ++ b) → isBlank c = true ∨ c ∈ name := by
    intro a name b c ha hb hc
    simp only [List.mem_append] at hc
    rcases hc with hc | hc | hc
    · exact .inl (ha c hc)
    · exact .inr hc
    · exact .inl (hb c hc)
  induction h with
  | none hw => exact fun c hc => .inl (hw c hc)
  | last ha hb => exact fun c hc => (hitem ha hb hc).imp_right fun hc => .inr ⟨_, List.mem_cons_self, hc⟩
  | @more a name b next s names ha hb _ ih =>
    intro c hc
    have hcut : a ++ (name ++ (b ++ ',' :: s)) = (a ++ (name ++ b)) ++ ',' :: s := by simp
    rw [hcut] at hc
    rcases List.mem_append.mp hc with hc | hc
    · exact (hitem ha hb hc).imp_right fun hc => .inr ⟨_, List.mem_cons_self, hc⟩
    rcases List.mem_cons.mp hc with rfl | hc
    · exact .inr (.inl rfl)
    · exact (ih c hc).imp_right fun hc => hc.imp_right fun ⟨name, hname, hc⟩ => ⟨name, List.mem_cons_of_mem _ hname, hc⟩

theorem IsListing.blank_append {w : Text} (hw : ∀ c ∈ w, isBlank c = true) (h : IsListing names s) :
    IsListing names (w ++ s) := by
  have happend : ∀ {a : Text}, (∀ c ∈ a, isBlank c = true) → ∀ c ∈ w ++ a, isBlank c = true := fun ha =>
    List.forall_mem_append.mpr ⟨hw, ha⟩
  cases h with
  | none ha => exact .none (happend ha)
  | last ha hb =>
    rw [← List.append_assoc]
    exact .last (happend ha) hb
  | more ha hb h =>
    rw [← List.append_assoc]
    exact .more (happend ha) hb h

/-- Names on one line, as they are usually written. -/
theorem isListing_join (names : List Text) : IsListing names (join ", " names) := by
  have hnil : ∀ c ∈ ([] : Text), isBlank c = true := by simp
  induction names with
  | nil => exact .none hnil
  | cons name names ih =>
    cases names with
    | nil =>
      have hlast : IsListing [name] ([] ++ (name ++ [])) := .last hnil hnil
      rwa [List.nil_append, List.append_nil] at hlast
    | cons next names =>
      have hnext : IsListing (name :: next :: names) ([] ++ (name ++ ([] ++ ',' :: ([' '] ++ join ", " (next :: names))))) :=
        .more hnil hnil (ih.blank_append (isBlank_iff.mp (by decide)))
      rw [join_cons_cons, List.append_assoc]
      exact hnext

namespace LuaDefinition

theorem argNames_append_comma (a b : Text) : argNames (a ++ ',' :: b) = argNames a ++ argNames b := by
  rw [argNames, splitOn_append_sep, List.map_append, List.filter_append, argNames, argNames]

theorem argNames_of_not_mem (h : ',' ∉ s) : argNames s = if s.trim = [] then [] else [s.trim] := by
  rw [argNames, splitOn_of_not_mem h, List.map_singleton]
  cases htrim : s.trim <;> simp

/-- The names that a text lists are those that are read off it. -/
theorem argNames_of_isListing (h : IsListing names s) (hnames : ∀ name ∈ names, IsItem name) : argNames s = names := by
  have hitem : ∀ {a name b : Text}, (∀ c ∈ a, isBlank c = true) → (∀ c ∈ b, isBlank c = true) → IsItem name →
      argNames (a ++ (name ++ b)) = [name] := by
    intro a name b ha hb hname
    have hcomma : ',' ∉ a ++ (name ++ b) := by
      simp [comma_not_mem_of_blank ha, comma_not_mem_of_blank hb, hname.comma]
    rw [argNames_of_not_mem hcomma, trim_blank_append ha, trim_append_blank hb, hname.trim, if_neg hname.ne_nil]
  induction h with
  | none hw => rw [argNames_of_not_mem (comma_not_mem_of_blank hw), if_pos (trim_eq_nil_iff.mpr (isBlank_iff.mpr hw))]
  | last ha hb => exact hitem ha hb (hnames _ List.mem_cons_self)
  | @more a name b next s names ha hb _ ih =>
    obtain ⟨hname, hnames⟩ := List.forall_mem_cons.mp hnames
    have hcut : a ++ (name ++ (b ++ ',' :: s)) = (a ++ (name ++ b)) ++ ',' :: s := by simp
    rw [hcut, argNames_append_comma, hitem ha hb hname, ih hnames, List.singleton_append]

/-- A character that is neither blank nor a comma is in one of the names that are read. -/
theorem exists_mem_argNames (hc : c ∈ s) (hsolid : isBlank c = false) (hcomma : c ≠ ',') : ∃ name ∈ argNames s, c ∈ name := by
  rw [← join_splitOn ',' s] at hc
  rcases mem_of_mem_join hc with hc | ⟨piece, hpiece, hc⟩
  · exact absurd (List.mem_singleton.mp hc) hcomma
  · obtain ⟨a, b, hcut, ha, hb⟩ := exists_eq_append_trim piece
    have htrim : c ∈ piece.trim := by
      rw [hcut] at hc
      rcases List.mem_append.mp hc with hc | hc
      · rw [ha c hc] at hsolid
        cases hsolid
      rcases List.mem_append.mp hc with hc | hc
      · exact hc
      · rw [hb c hc] at hsolid
        cases hsolid
    refine ⟨piece.trim, List.mem_filter.mpr ⟨List.mem_map.mpr ⟨piece, hpiece, rfl⟩, ?_⟩, htrim⟩
    simpa using List.ne_nil_of_mem htrim

end LuaDefinition
end PluginManual
