import Mathlib.Data.List.Forall2
import PluginManual.Proofs.HelpLines

/-! The layout of a help file. Each entry of its table of contents, each heading of a section and each heading of a
    function has its tag at the right margin. As long as names, tags and types have no line feed, they stand so in
    the lines of the file as it is read, whatever its sections hold. -/

namespace PluginManual
open Text

/-! ### Upper case -/

/-- What holds of characters holds of the string that they make up, without taking the string apart. -/
theorem of_ofList {P : Text → Prop} {s : String} (cs : Text) (hs : s = String.ofList cs) (h : P cs) : P s := by
  rw [hs, String.toList_ofList]
  exact h

set_option maxRecDepth 20000 in
/-- No letter has several images with a line feed among them. -/
theorem oneLine_of_mem_upperSpecials : ∀ e ∈ upperSpecials, OneLine e.2 :=
  of_ofList (P := fun s => ∀ e ∈ (entries s).filterMap specialCase?, '\n' ∉ e.2) _ rfl (by decide +kernel)

set_option maxRecDepth 20000 in
/-- No letter is moved to the line feed or below. -/
theorem lt_of_mem_upperShifts : ∀ e ∈ upperShifts, '\n'.toNat < e.first + e.up - e.down :=
  of_ofList (P := fun s => ∀ e ∈ (entries s).filterMap CaseShift.ofText?, '\n'.toNat < e.first + e.up - e.down) _ rfl
    (by decide +kernel)

/-- Where all images of a table lie above a bound, a code point stays or comes to lie above it. -/
theorem CaseShift.apply_eq_or_lt {es : List CaseShift} {bound : Nat} (h : ∀ e ∈ es, bound < e.first + e.up - e.down)
    (n : Nat) : apply es n = n ∨ bound < apply es n := by
  rw [apply]
  split
  · next e he =>
    have hbound := h e (List.mem_of_find?_eq_some he)
    have hcovers := List.find?_some he
    simp only [covers, Bool.and_eq_true, decide_eq_true_eq] at hcovers
    exact .inr (by omega)
  · exact .inl rfl

theorem ofNat_ne_feed {n : Nat} (h : n ≠ '\n'.toNat) : Char.ofNat n ≠ '\n' := by
  intro heq
  by_cases hvalid : n.isValidChar
  · have haux : Char.ofNat n = Char.ofNatAux n hvalid := dif_pos hvalid
    exact h (congrArg Char.toNat (haux.symm.trans heq))
  · have hzero : Char.ofNat n = '\x00' := dif_neg hvalid
    exact absurd (hzero.symm.trans heq) (by decide)

theorem oneLine_upperChar {c : Char} (h : c ≠ '\n') : OneLine (upperChar c) := by
  rw [upperChar]
  cases hlookup : upperSpecials.lookup c.toNat with
  | some image =>
    obtain ⟨before, after, hspecials, -⟩ := List.lookup_eq_some_iff.mp hlookup
    exact oneLine_of_mem_upperSpecials (c.toNat, image) (hspecials ▸ List.mem_append_right _ List.mem_cons_self)
  | none =>
    have hc : c.toNat ≠ '\n'.toNat := fun heq => h (Char.toNat_inj.mp heq)
    have hne : CaseShift.apply upperShifts c.toNat ≠ '\n'.toNat := by
      rcases CaseShift.apply_eq_or_lt lt_of_mem_upperShifts c.toNat with heq | hlt
      · rwa [heq]
      · exact hlt.ne'
    simpa using ofNat_ne_feed hne

theorem oneLine_upper {s : Text} (h : OneLine s) : OneLine s.upper := by
  intro hmem
  obtain ⟨c, hc, hmem⟩ := List.mem_flatMap.mp hmem
  exact oneLine_upperChar (fun heq => h (heq ▸ hc)) hmem

/-! ### Reading back -/

namespace Text

/-- In front of any text, the elements make these lines. -/
def ReadAs (elements ls : List Text) : Prop := ∀ t : Text, lines (elements.flatten ++ t) = ls ++ lines t

variable {elements elements' ls ls' : List Text}

theorem readAs_of_isWhole (h : ∀ l ∈ ls, IsWhole l) : ReadAs ls ls := lines_flatten_append h

/-- Elements that end with a line feed make lines of their own, whatever they are. -/
theorem readAs_of_feed (elements : List Text) :
    ReadAs (elements ++ [['\n']]) (lines (elements ++ [['\n']]).flatten) := fun t => lines_append (.inr (by simp)) t

theorem readAs_feed : ReadAs [['\n']] [['\n']] := readAs_of_isWhole (List.forall_mem_singleton.mpr isWhole_feed)

theorem ReadAs.append (h : ReadAs elements ls) (h' : ReadAs elements' ls') : ReadAs (elements ++ elements') (ls ++ ls') := by
  intro t
  rw [List.flatten_append, List.append_assoc, h, h', List.append_assoc]

theorem readAs_flatten {blocks : List (List Text)} (h : ∀ block ∈ blocks, ∀ l ∈ block, IsWhole l) :
    ReadAs blocks.flatten blocks.flatten := by
  refine readAs_of_isWhole fun l hl => ?_
  obtain ⟨block, hblock, hl⟩ := List.mem_flatten.mp hl
  exact h block hblock l hl

theorem forall₂_readAs {α : Type} {f g : α → List Text} {xs : List α} (h : ∀ x ∈ xs, ReadAs (f x) (g x)) :
    List.Forall₂ ReadAs (xs.map f) (xs.map g) := by
  rwa [List.forall₂_map_left_iff, List.forall₂_map_right_iff, List.forall₂_same]

theorem ReadAs.lines_eq (h : ReadAs elements ls) : lines elements.flatten = ls := by simpa using h []

end Text

/-! ### Blocks -/

namespace Help

theorem oneLine_tagReference {tag : Text} (h : OneLine tag) : OneLine (tagReference tag) := by simp [tagReference, h]

theorem isWhole_rule {mark : Char} (h : mark ≠ '\n') : IsWhole (rule mark) := isWhole_append (oneLine_replicate h)

variable {α : Type} {left tag : α → Text} {xs : List α} {blocks below below' : List (List Text)}

theorem forall₂_isAligned (left tag : α → Text) (xs : List α) :
    List.Forall₂ (fun x => IsAligned (left x) (tag x)) xs (xs.map fun x => tagged (left x) (tag x)) := by
  rw [List.forall₂_map_right_iff, List.forall₂_same]
  exact fun x _ => isAligned_tagged _ _

theorem isWhole_of_forall₂ (h : List.Forall₂ (fun x => IsAligned (left x) (tag x)) xs blocks)
    (hone : ∀ x ∈ xs, OneLine (left x) ∧ OneLine (tag x)) : ∀ block ∈ blocks, ∀ l ∈ block, IsWhole l := by
  induction h with
  | nil => simp
  | cons hblock _ ih =>
    obtain ⟨⟨hleft, htag⟩, hone⟩ := List.forall_mem_cons.mp hone
    exact List.forall_mem_cons.mpr ⟨hblock.isWhole hleft htag, ih hone⟩

/-- Blocks of lines, each with the lines that come below it. -/
def stacked (blocks below : List (List Text)) : List Text := (List.zipWith (· ++ ·) blocks below).flatten

theorem stacked_map (f g : α → List Text) (xs : List α) : stacked (xs.map f) (xs.map g) = xs.flatMap fun x => f x ++ g x := by
  rw [stacked, List.zipWith_map, List.zipWith_self, List.flatMap_def]

theorem readAs_stacked (h : ∀ block ∈ blocks, ∀ l ∈ block, IsWhole l) (hbelow : List.Forall₂ ReadAs below below') :
    ReadAs (stacked blocks below) (stacked blocks below') := by
  induction hbelow generalizing blocks with
  | nil => cases blocks <;> exact fun _ => rfl
  | cons hbody _ ih =>
    cases blocks with
    | nil => exact fun _ => rfl
    | cons block blocks =>
      obtain ⟨hblock, hblocks⟩ := List.forall_mem_cons.mp h
      rw [stacked, stacked, List.zipWith_cons_cons, List.zipWith_cons_cons, List.flatten_cons, List.flatten_cons]
      exact ((readAs_of_isWhole hblock).append hbody).append (ih hblocks)

end Help

/-! ### The file -/

namespace HelpFile
open Help

variable {h : HelpFile}

/-- The lines of a file, put together: what comes before the entries of its table of contents, the entries, and the
    headings of its sections, each with what comes below it. -/
def assembled (front : List Text) (entries headings below : List (List Text)) : List Text :=
  front ++ entries.flatten ++ [['\n']] ++ stacked (headings.map (rule '-' :: ·)) below ++
    [rule '=', "vim:tw=80:ts=2:ft=help:norl:syntax=help:\n".toList]

/-- The file has these blocks of lines for its title, for the entries of its table of contents and for the headings of
    its sections. -/
structure IsLaidOut (h : HelpFile) (title : List Text) (entries headings : List (List Text)) : Prop where
  aligned_title : IsAligned "CONTENTS" (tagDefinition (h.plugin ++ "-contents")) title
  /-- The entries are numbered in the order of the sections, and refer to the tags that the headings define. -/
  aligned_entries : List.Forall₂ (fun (s, n) => IsAligned ("  " ++ ofNat n ++ ". " ++ s.name) (tagReference s.tag))
    (h.sections.zipIdx 1) entries
  aligned_headings : List.Forall₂ (fun s => IsAligned s.name.upper (tagDefinition s.tag)) h.sections headings
  lines : h.lines = assembled (h.header ++ rule '-' :: title ++ [['\n']]) entries headings
    (h.sections.map fun s => s.body ++ [['\n']])
  /-- So it is with the lines of the file as it is read, whatever its bodies hold. -/
  reread : Text.lines h.lines.flatten =
    assembled (Text.lines (h.header ++ rule '-' :: title ++ [['\n']]).flatten) entries headings
      (h.sections.map fun s => Text.lines (s.body ++ [['\n']]).flatten)

theorem contentsEntries_eq (n : Nat) (ss : List HelpSection) :
    contentsEntries n ss = (ss.zipIdx n).flatMap fun (s, i) =>
      tagged ("  " ++ ofNat i ++ ". " ++ s.name) (tagReference s.tag) := by
  induction ss generalizing n with
  | nil => rfl
  | cons s ss ih => rw [contentsEntries, ih, List.zipIdx_cons, List.flatMap_cons]

theorem sectionLines_eq (s : HelpSection) :
    sectionLines s = rule '-' :: tagged s.name.upper (tagDefinition s.tag) ++ (s.body ++ [['\n']]) :=
  List.append_assoc _ _ _

theorem lines_eq_assembled (h : HelpFile) : h.lines = assembled
    (h.header ++ rule '-' :: tagged "CONTENTS" (tagDefinition (h.plugin ++ "-contents")) ++ [['\n']])
    ((h.sections.zipIdx 1).map fun (s, n) => tagged ("  " ++ ofNat n ++ ". " ++ s.name) (tagReference s.tag))
    (h.sections.map fun s => tagged s.name.upper (tagDefinition s.tag)) (h.sections.map fun s => s.body ++ [['\n']]) := by
  rw [assembled, List.map_map, stacked_map, ← List.flatMap_def, HelpFile.lines, contentsEntries_eq, funext sectionLines_eq]
  simp

/-- A file is read as it is put together, if the entries and the headings are whole lines. -/
theorem readAs_assembled {front front' : List Text} {entries headings below below' : List (List Text)}
    (hfront : ReadAs front front') (hentries : ∀ block ∈ entries, ∀ l ∈ block, IsWhole l)
    (hheadings : ∀ block ∈ headings, ∀ l ∈ block, IsWhole l) (hbelow : List.Forall₂ ReadAs below below') :
    ReadAs (assembled front entries headings below) (assembled front' entries headings below') := by
  have hruled : ∀ block ∈ headings.map (rule '-' :: ·), ∀ l ∈ block, IsWhole l :=
    List.forall_mem_map.mpr fun block hblock =>
      List.forall_mem_cons.mpr ⟨isWhole_rule (by decide), hheadings block hblock⟩
  have hend : ∀ l ∈ [rule '=', "vim:tw=80:ts=2:ft=help:norl:syntax=help:\n".toList], IsWhole l := by
    refine List.forall_mem_cons.mpr ⟨isWhole_rule (by decide), List.forall_mem_singleton.mpr ?_⟩
    exact isWhole_append (s := "vim:tw=80:ts=2:ft=help:norl:syntax=help:") (by decide)
  have hentries := (hfront.append (readAs_flatten hentries)).append readAs_feed
  exact (hentries.append (readAs_stacked hruled hbelow)).append (readAs_of_isWhole hend)

/-- A file is laid out so if no name and no tag of a section has a line feed. -/
theorem exists_isLaidOut (hsections : ∀ s ∈ h.sections, OneLine s.name ∧ OneLine s.tag) :
    ∃ title entries headings, IsLaidOut h title entries headings := by
  have hentries := forall₂_isAligned (fun (s, n) => "  " ++ ofNat n ++ ". " ++ s.name) (fun (s, _) => tagReference s.tag)
    (h.sections.zipIdx 1)
  have hheadings := forall₂_isAligned (fun s => s.name.upper) (fun s => tagDefinition s.tag) h.sections
  refine ⟨_, _, _, isAligned_tagged _ _, hentries, hheadings, lines_eq_assembled h, ?_⟩
  rw [lines_eq_assembled h]
  have hbelow := @forall₂_readAs _ _ _ h.sections fun s _ => readAs_of_feed s.body
  refine (readAs_assembled (readAs_of_feed _) (isWhole_of_forall₂ hentries ?_) (isWhole_of_forall₂ hheadings ?_)
    hbelow).lines_eq
  · rintro ⟨s, n⟩ hs
    obtain ⟨hname, htag⟩ := hsections s (List.fst_mem_of_mem_zipIdx hs)
    have hnumber : OneLine (ofNat n) := not_mem_ofNat (by decide) n
    exact ⟨by simp [hname, hnumber], oneLine_tagReference htag⟩
  · exact fun s hs => ⟨oneLine_upper (hsections s hs).1, oneLine_tagDefinition (hsections s hs).2⟩

end HelpFile

/-! ### The reference of functions -/

namespace Help

variable {c : Catalog} {plugin : Text} {fs : List FunctionDoc}

/-- What stands below the heading of a function. -/
def functionDetails (c : Catalog) (f : FunctionDoc) : List Text :=
  summaryLines f.summary ++ deprecatedLines f.deprecated ++ paramLines c f.params ++ returnLines f.returns ++
    noteLines f.note ++ [['\n']]

theorem functionLines_eq (c : Catalog) (plugin : Text) (f : FunctionDoc) :
    functionLines c plugin f = tagged (functionTitle f) (tagDefinition (functionTag plugin f)) ++ functionDetails c f := by
  simp [functionLines, functionDetails]

/-- The reference has these blocks of lines for the headings of the functions. -/
structure IsLaidOut (c : Catalog) (plugin : Text) (fs : List FunctionDoc) (headings : List (List Text)) : Prop where
  aligned : List.Forall₂ (fun f => IsAligned (functionTitle f) (tagDefinition (functionTag plugin f))) fs headings
  lines : referenceLines c plugin fs = ['\n'] :: stacked headings (fs.map (functionDetails c))
  /-- So it is with its lines as they are read, whatever stands below the headings. -/
  reread : Text.lines (referenceLines c plugin fs).flatten =
    ['\n'] :: stacked headings (fs.map fun f => Text.lines (functionDetails c f).flatten)

theorem exists_isLaidOut (c : Catalog) (hplugin : OneLine plugin) (hfs : ∀ f ∈ fs, f.HasOneLineTitle) :
    ∃ headings, IsLaidOut c plugin fs headings := by
  have haligned := forall₂_isAligned functionTitle (fun f => tagDefinition (functionTag plugin f)) fs
  have hlines : referenceLines c plugin fs = ['\n'] :: stacked
      (fs.map fun f => tagged (functionTitle f) (tagDefinition (functionTag plugin f))) (fs.map (functionDetails c)) := by
    rw [referenceLines, funext (functionLines_eq c plugin), stacked_map]
  refine ⟨_, haligned, hlines, ?_⟩
  rw [hlines]
  have hbelow : List.Forall₂ ReadAs (fs.map (functionDetails c)) _ := forall₂_readAs fun f _ => readAs_of_feed _
  refine (readAs_feed.append (readAs_stacked (isWhole_of_forall₂ haligned fun f hf => ?_) hbelow)).lines_eq
  exact ⟨oneLine_functionTitle (hfs f hf), oneLine_tagDefinition (oneLine_functionTag hplugin (hfs f hf).name)⟩

/-- Tags stand at the right margin, for every file and for every list of functions, as long as no name, no tag and no
    type has a line feed. -/
theorem exists_layout (h : HelpFile) (c : Catalog) (plugin : Text) (fs : List FunctionDoc)
    (hsections : ∀ s ∈ h.sections, OneLine s.name ∧ OneLine s.tag) (hplugin : OneLine plugin)
    (hfs : ∀ f ∈ fs, f.HasOneLineTitle) :
    (∃ title entries headings, h.IsLaidOut title entries headings) ∧ ∃ headings, IsLaidOut c plugin fs headings :=
  ⟨HelpFile.exists_isLaidOut hsections, exists_isLaidOut c hplugin hfs⟩

/-- In upper case the names have twice as many letters. With its tag the first has 79 characters then, the second 81. -/
theorem exists_layout_of_sharp_s :
    let h : HelpFile := ⟨"x.txt", "x", [⟨List.replicate 37 'ß', "abc", ["A text that does not end.".toList]⟩,
      ⟨List.replicate 38 'ß', "abc", []⟩]⟩
    let f : FunctionDoc := { name := "open", params := [{ name := "buf", type := "integer" }], returns := [{ type := "nil" }] }
    (∀ s ∈ h.sections, OneLine s.name ∧ OneLine s.tag) ∧ OneLine "x" ∧ (∀ k ∈ [f], k.HasOneLineTitle) ∧
      (∃ title entries headings, h.IsLaidOut title entries headings) ∧ ∃ headings, IsLaidOut {} "x" [f] headings := by
  intro h f
  have hsections : ∀ s ∈ h.sections, OneLine s.name ∧ OneLine s.tag := by decide
  have hplugin : OneLine "x" := by decide
  have hfs : ∀ k ∈ [f], k.HasOneLineTitle := by simpa using ⟨by decide, by decide, by decide⟩
  exact ⟨hsections, hplugin, hfs, exists_layout h {} "x" [f] hsections hplugin hfs⟩

end Help
end PluginManual
