import Mathlib.Data.List.Induction
import PluginManual.Proofs.Tags

/-! Notes and summaries. A note takes up the free text behind it as far as the next tag, and the free text outside of
    notes is the summary. The head of a class is a tag that a note goes on behind, and free text outside of notes that
    comes behind one belongs to the class and to no part of the function. -/

namespace PluginManual
open LuaComment

/-! ### Parts of a note -/

namespace Text

variable {parts : List Text}

/-- The parts of a note, each on a line of its own. The empty ones at the beginning are left out. -/
def joinParts (parts : List Text) : Text := join ['\n'] (parts.dropWhile (· = []))

/-- A note with one more part. -/
def addPart (note part : Text) : Text := (if note = [] then [] else note ++ ['\n']) ++ part

theorem prefix_addPart (note part : Text) : note <+: addPart note part := by
  rw [addPart]
  split
  · next h => exact h ▸ List.nil_prefix
  · exact (List.prefix_append _ _).trans (List.prefix_append _ _)

theorem join_concat (sep : Text) (hne : parts ≠ []) (x : Text) : join sep (parts ++ [x]) = join sep parts ++ sep ++ x := by
  induction parts with
  | nil => exact absurd rfl hne
  | cons p parts ih =>
    cases parts with
    | nil => rfl
    | cons q parts =>
      have ih := ih (List.cons_ne_nil q parts)
      rw [List.cons_append] at ih
      rw [List.cons_append, List.cons_append, join_cons_cons, join_cons_cons, ih]
      simp only [List.append_assoc]

theorem joinParts_eq_nil_iff (parts : List Text) : joinParts parts = [] ↔ parts.dropWhile (· = []) = [] := by
  rw [joinParts]
  cases h : parts.dropWhile (· = []) with
  | nil => exact iff_of_true rfl rfl
  | cons p rest =>
    have hp : p ≠ [] := by
      have hhead := List.head?_dropWhile_not (fun x : Text => decide (x = [])) parts
      simpa [h] using hhead
    cases rest <;> simp [join, hp]

theorem joinParts_concat (parts : List Text) (x : Text) : joinParts (parts ++ [x]) = addPart (joinParts parts) x := by
  have hnil := joinParts_eq_nil_iff parts
  rw [joinParts, List.dropWhile_append, addPart]
  by_cases h : parts.dropWhile (· = []) = []
  · rw [if_pos (List.isEmpty_iff.mpr h), if_pos (hnil.mpr h)]
    by_cases hx : x = [] <;> simp [hx, join]
  · rw [if_neg (mt List.isEmpty_iff.mp h), if_neg (mt hnil.mp h), join_concat _ h]
    rfl

theorem foldl_addPart (parts more : List Text) : more.foldl addPart (joinParts parts) = joinParts (parts ++ more) := by
  induction more generalizing parts with
  | nil => rw [List.foldl_nil, List.append_nil]
  | cons x more ih => rw [List.foldl_cons, ← joinParts_concat, ih, List.append_assoc, List.singleton_append]

theorem foldl_addPart_eq (x : Text) (more : List Text) : more.foldl addPart x = joinParts (x :: more) := by
  have hsingle : joinParts [x] = x := by by_cases hx : x = [] <;> simp [joinParts, hx, join]
  have hfold := foldl_addPart [x] more
  rwa [hsingle] at hfold

theorem prefix_joinParts (parts more : List Text) : joinParts parts <+: joinParts (parts ++ more) := by
  induction more using List.reverseRecOn with
  | nil => exact (List.append_nil parts).symm ▸ List.prefix_rfl
  | append_singleton more x ih =>
    rw [← List.append_assoc, joinParts_concat]
    exact ih.trans (prefix_addPart _ x)

/-- More parts change the note, unless it is empty with them. -/
theorem joinParts_append_eq_iff (parts more : List Text) :
    joinParts (parts ++ more) = joinParts parts ↔ more = [] ∨ joinParts (parts ++ more) = [] := by
  obtain rfl | ⟨more, x, rfl⟩ := List.eq_nil_or_concat more
  · simp
  · have hprefix := prefix_joinParts parts more
    rw [List.concat_eq_append, ← List.append_assoc, joinParts_concat]
    simp only [List.append_eq_nil_iff, List.cons_ne_nil, and_false, false_or]
    constructor
    · intro heq
      by_cases hnil : joinParts (parts ++ more) = []
      · rw [heq]
        exact List.prefix_nil.mp (hnil ▸ hprefix)
      · -- The line break alone makes the note longer.
        have hlength := congrArg List.length heq
        have hle := hprefix.length_le
        simp only [addPart, if_neg hnil, List.length_append, List.length_singleton] at hlength
        omega
    · intro heq
      have hnil : joinParts (parts ++ more) = [] := List.prefix_nil.mp (heq ▸ prefix_addPart _ x)
      rw [heq, eq_comm]
      exact List.prefix_nil.mp (hnil ▸ hprefix)

end Text

/-! ### Notes -/

/-- A tag other than the head of a class. -/
def endsNote (line : Text) : Bool := isTagged line && (classLine? line).isNone

/-- The notes in a run of documentation, each with the lines behind it. -/
def notes (run : List Text) : List (Text × List Text) :=
  run.tails.filterMap fun
    | [] => none
    | line :: rest => (noteLine? line).map (·, rest)

/-- The free text that comes before one of the lines that end a note. -/
def continuation (ends : Text → Bool) (lines : List Text) : List Text :=
  (lines.takeWhile (!ends ·)).filterMap fun line => (freeText? line).map Text.trim

/-- The last note with the free text that continues it. -/
def lastNote? (ends : Text → Bool) (run : List Text) : Option Text :=
  (notes run).getLast?.map fun (s, rest) => Text.joinParts (s :: continuation ends rest)

variable {line s : Text} {run before lines : List Text} {ends : Text → Bool}

theorem isTagged_eq (line : Text) : isTagged line = (docLine? line).any (·.asText?.isNone) := by
  cases hs : docText? line with
  | none =>
    rw [isTagged, docLine?, hs]
    rfl
  | some s =>
    have hdoc : isDoc line = true := Option.isSome_of_eq_some hs
    have hfree := freeText?_eq line
    rw [Bool.eq_iff_iff, isTagged_iff hdoc, hfree, docLine?_of_docText? hs]
    simp

theorem endsNote_eq (line : Text) : endsNote line = (docLine? line).any fun l => l.asText?.isNone && l.asClass?.isNone := by
  rw [endsNote, isTagged_eq, classLine?_eq]
  cases docLine? line <;> rfl

theorem notes_cons : notes (line :: run) = ((noteLine? line).map (·, run)).toList ++ notes run := by
  cases h : noteLine? line <;> simp [notes, List.tails, h]

theorem lastNote?_cons : lastNote? ends (line :: run) =
    (lastNote? ends run).or ((noteLine? line).map fun s => Text.joinParts (s :: continuation ends run)) := by
  rw [lastNote?, notes_cons, List.getLast?_append, lastNote?]
  cases (notes run).getLast? <;> cases noteLine? line <;> rfl

theorem continuation_cons : continuation ends (line :: lines) =
    if ends line then [] else ((freeText? line).map Text.trim).toList ++ continuation ends lines := by
  rw [continuation, List.takeWhile_cons]
  cases ends line with
  | true => rfl
  | false =>
    show List.filterMap _ (line :: lines.takeWhile _) = _
    rw [List.filterMap_cons]
    cases freeText? line <;> rfl

/-- The last tag is a note. -/
def followsNote (ends : Text → Bool) (before : List Text) : Bool := ((before.filter ends).getLast?.bind noteLine?).isSome

def hasClass (before : List Text) : Bool := before.any fun line => (classLine? line).isSome

/-- The free text of a line belongs to the summary. -/
def inSummary (before : List Text) : Bool := !hasClass before && !followsNote isTagged before

/-- The free text of the lines for which the lines before them satisfy a condition. -/
def textsWhere (belongs : List Text → Bool) (before : List Text) : List Text → List Text
  | [] => []
  | line :: rest =>
    (if belongs before then (freeText? line).toList else []) ++ textsWhere belongs (before ++ [line]) rest

theorem followsNote_concat : followsNote ends (before ++ [line]) =
    if ends line then (noteLine? line).isSome else followsNote ends before := by
  rw [followsNote, List.filter_append, List.filter_singleton]
  cases ends line with
  | true => simp
  | false => simp [followsNote]

theorem hasClass_concat : hasClass (before ++ [line]) = (hasClass before || (classLine? line).isSome) := by
  simp [hasClass]

theorem textsWhere_concat {belongs : List Text → Bool} : textsWhere belongs before (run ++ [line]) =
    textsWhere belongs before run ++ (if belongs (before ++ run) then (freeText? line).toList else []) := by
  induction run generalizing before with
  | nil => simp [textsWhere]
  | cons l run ih =>
    rw [List.cons_append, textsWhere, ih, textsWhere]
    simp only [List.append_assoc, List.singleton_append]

/-- The tag that counts is the last one when the heads of classes are left out. -/
theorem followsNote_endsNote (before : List Text) :
    followsNote endsNote before = followsNote isTagged (before.filter fun line => (classLine? line).isNone) := by
  rw [followsNote, followsNote, List.filter_filter]
  rfl

theorem followsNote_of_not_hasClass (h : hasClass before = false) :
    followsNote endsNote before = followsNote isTagged before := by
  rw [followsNote_endsNote, List.filter_eq_self.mpr fun line hline => ?_]
  simpa using List.any_eq_false.mp h line hline

theorem block_concat : block (run ++ [line]) = block run ++ (docLine? line).toList := by
  rw [block, List.filterMap_append]
  cases h : docLine? line <;> simp [block, h]

/-! ### Reading -/

namespace DocBlock

theorem note_read (r : Reading) (l : DocLine) : (read r l).function.note = l.asNote?.or
    (if r.inNote then r.function.note.map fun s => (l.asText?.map Text.trim).toList.foldl Text.addPart s
      else r.function.note) := by
  cases l with
  | text s =>
    rw [read]
    cases r.inNote with
    | true => rfl
    | false => cases r.inClass <;> rfl
  | note s => rfl
  | _ => cases hnote : r.function.note <;> simp [read, hnote, DocLine.asText?, DocLine.asNote?]

theorem inNote_read (r : Reading) (l : DocLine) :
    (read r l).inNote = if l.asText?.isNone && l.asClass?.isNone then l.asNote?.isSome else r.inNote := by
  cases l with
  | text s =>
    rw [read]
    split
    · rfl
    · split <;> rfl
  | _ => rfl

theorem inClass_read (r : Reading) (l : DocLine) : (read r l).inClass = (r.inClass || l.asClass?.isSome) := by
  cases l with
  | text s =>
    rw [read]
    split
    · exact (Bool.or_false _).symm
    · split <;> exact (Bool.or_false _).symm
  | classHead => exact (Bool.or_true _).symm
  | _ => exact (Bool.or_false _).symm

theorem summary_read (r : Reading) (l : DocLine) : (read r l).function.summary =
    r.function.summary ++ if !r.inClass && !r.inNote then l.asText?.toList else [] := by
  cases l with
  | text s =>
    rw [read]
    cases r.inNote <;> cases r.inClass <;> simp [DocLine.asText?]
  | _ => simp [read, DocLine.asText?]

/-- The last note of a run counts. Without one, the run may continue the note that is being read. -/
theorem note_foldl_block (r : Reading) (run : List Text) : ((block run).foldl read r).function.note =
    (lastNote? endsNote run).or
      (if r.inNote then r.function.note.map fun s => (continuation endsNote run).foldl Text.addPart s else r.function.note) := by
  induction run generalizing r with
  | nil =>
    show r.function.note = _
    cases r.inNote <;> cases r.function.note <;> rfl
  | cons line run ih =>
    have hfree := freeText?_eq line
    have hnote := noteLine?_eq line
    have hends := endsNote_eq line
    rw [lastNote?_cons, continuation_cons, Option.or_assoc, block, List.filterMap_cons]
    cases hl : docLine? line with
    | none =>
      rw [hl] at hfree hnote hends
      rw [hfree, hnote, hends]
      exact ih r
    | some l =>
      rw [hl, Option.bind_some] at hfree hnote
      rw [hl, Option.any_some] at hends
      rw [hfree, hnote, hends]
      show ((block run).foldl read (read r l)).function.note = _
      rw [ih, note_read, inNote_read]
      refine congrArg (lastNote? endsNote run).or ?_
      cases l with
      | note s => exact congrArg some (Text.foldl_addPart_eq s _)
      | text s => cases r.inNote <;> cases r.function.note <;> rfl
      | classHead name parent => cases r.inNote <;> cases r.function.note <;> rfl
      | _ => cases r.inNote <;> cases r.function.note <;> rfl

/-- What a run says of a function, before the blank lines at the end of the summary are dropped. -/
def heard (f : FunctionDoc) (run : List Text) : Reading := (block run).foldl read { function := f }

variable {f g : FunctionDoc}

theorem heard_concat : heard f (run ++ [line]) = (docLine? line).elim (heard f run) (read (heard f run)) := by
  rw [heard, block_concat, List.foldl_append]
  cases docLine? line <;> rfl

/-- Free text belongs to a note if a note is the last tag, heads of classes aside, and to a class if there is one. -/
theorem flags_heard (f : FunctionDoc) (run : List Text) :
    (heard f run).inNote = followsNote endsNote run ∧ (heard f run).inClass = hasClass run := by
  induction run using List.reverseRecOn with
  | nil => exact ⟨rfl, rfl⟩
  | append_singleton run line ih =>
    rw [heard_concat, followsNote_concat, hasClass_concat, endsNote_eq, noteLine?_eq, classLine?_eq]
    cases docLine? line with
    | none => simpa using ih
    | some l =>
      show (read _ l).inNote = _ ∧ (read _ l).inClass = _
      rw [inNote_read, inClass_read, ih.1, ih.2]
      exact ⟨rfl, rfl⟩

/-- Free text becomes a part of the note or of the summary, or it is passed over. -/
theorem heard_of_freeText? (f : FunctionDoc) (h : freeText? line = some s) :
    let heardBefore := (heard f before).function
    (heard f (before ++ [line])).function =
      if followsNote endsNote before then { heardBefore with note := heardBefore.note.map (Text.addPart · s.trim) }
      else if hasClass before then heardBefore
      else { heardBefore with summary := heardBefore.summary ++ [s] } := by
  intro heardBefore
  rw [freeText?_eq] at h
  obtain ⟨l, hl, htext⟩ := Option.bind_eq_some_iff.mp h
  obtain rfl : l = .text s := by
    cases l <;> cases htext
    rfl
  obtain ⟨hnote, hclass⟩ := flags_heard f before
  rw [heard_concat, hl, Option.elim_some, read, ← hnote, ← hclass]
  split
  · rfl
  · split <;> rfl

theorem inSummary_eq (before : List Text) : inSummary before = (!hasClass before && !followsNote endsNote before) := by
  rw [inSummary]
  cases h : hasClass before with
  | true => rfl
  | false => rw [followsNote_of_not_hasClass h]

theorem summary_heard (f : FunctionDoc) (run : List Text) :
    (heard f run).function.summary = f.summary ++ textsWhere inSummary [] run := by
  induction run using List.reverseRecOn with
  | nil => exact (List.append_nil _).symm
  | append_singleton run line ih =>
    obtain ⟨hnote, hclass⟩ := flags_heard f run
    rw [heard_concat, textsWhere_concat, List.nil_append, inSummary_eq, freeText?_eq, ← List.append_assoc, ← ih]
    cases docLine? line with
    | none => simp
    | some l =>
      show (read _ l).function.summary = _
      rw [summary_read, hnote, hclass]
      rfl

end DocBlock

/-! ### The tag that does not end a note -/

/-- The lines that a note goes on with behind the head of a class, with this head. -/
def behindClass (lines : List Text) : List Text := (lines.takeWhile (!endsNote ·)).dropWhile (!isTagged ·)

/-- The last note goes on with no free text behind the head of a class. -/
def IsClear (run : List Text) : Prop :=
  ∀ note rest, (notes run).getLast? = some (note, rest) → ∀ line ∈ behindClass rest, freeText? line = none

theorem continuation_endsNote (lines : List Text) : continuation endsNote lines =
    continuation isTagged lines ++ (behindClass lines).filterMap fun line => (freeText? line).map Text.trim := by
  have htake : (lines.takeWhile (!endsNote ·)).takeWhile (!isTagged ·) = lines.takeWhile (!isTagged ·) := by
    rw [List.takeWhile_takeWhile]
    congr 1
    funext line
    rw [endsNote]
    cases isTagged line <;> rfl
  rw [continuation, continuation, ← htake, behindClass, ← List.filterMap_append, List.takeWhile_append_dropWhile]

/-- The last note ends at the next tag of any kind if it is clear, or if nothing at all is in it. -/
theorem lastNote?_eq_iff : lastNote? endsNote run = lastNote? isTagged run ↔ IsClear run ∨ lastNote? endsNote run = some [] := by
  rw [lastNote?, lastNote?, IsClear]
  cases hnote : (notes run).getLast? with
  | none => simp
  | some k =>
    obtain ⟨note, rest⟩ := k
    have hparts := Text.joinParts_append_eq_iff (note :: continuation isTagged rest)
      ((behindClass rest).filterMap fun line => (freeText? line).map Text.trim)
    rw [List.cons_append, ← continuation_endsNote, List.filterMap_eq_nil_iff] at hparts
    simp only [Option.map_some, Option.some_inj, Option.map_eq_none_iff, Prod.mk.injEq] at hparts ⊢
    rw [hparts]
    exact or_congr_left ⟨fun hclear _ _ hk => hk.2 ▸ hclear, fun hclear => hclear note rest ⟨rfl, rfl⟩⟩

/-! ### Functions -/

namespace LuaSource
open DocBlock

/-- The note of a function and its summary, with the lines of documentation right before it. -/
structure IsNoted (run : List Text) (f : FunctionDoc) : Prop where
  note : f.note = lastNote? endsNote run
  note_eq_iff : f.note = lastNote? isTagged run ↔ IsClear run ∨ f.note = some []
  summary : f.summary = dropBlankEnd (textsWhere inSummary [] run)
  /-- Line by line, free text becomes a part of the note or of the summary, or it is passed over. -/
  taken : ∀ g before line s, freeText? line = some s →
    let heardBefore := (heard g before).function
    (heard g (before ++ [line])).function =
      if followsNote endsNote before then { heardBefore with note := heardBefore.note.map (Text.addPart · s.trim) }
      else if hasClass before then heardBefore
      else { heardBefore with summary := heardBefore.summary ++ [s] }
  follows : ∀ before, followsNote endsNote before =
    followsNote isTagged (before.filter fun line => (classLine? line).isNone)

theorem isNoted_of_document? {f g : FunctionDoc} (h : document? (block run) f = some g) (hnote : f.note = none)
    (hsummary : f.summary = []) : IsNoted run g := by
  have hg := eq_of_document? h
  have hread : g.note = lastNote? endsNote run := by
    rw [hg, note_foldl_block]
    simp [hnote]
  refine ⟨hread, hread ▸ lastNote?_eq_iff, ?_, fun g before line s hfree => heard_of_freeText? g hfree,
    followsNote_endsNote⟩
  have hsum := summary_heard f run
  rw [hsummary, List.nil_append] at hsum
  rw [hg, ← hsum]
  rfl

/-- A function has the last note before it, as far as the next tag that is not the head of a class, and a summary of free
    text that belongs to no note and comes before all classes. -/
theorem ofText_isNoted {s : Text} {f : FunctionDoc} (h : f ∈ (ofText s).functions) :
    ∃ i line, IsSubject s.bareLines i line ∧ f.line = i + 1 ∧ IsNoted (runBefore s.bareLines i) f := by
  obtain ⟨i, hi⟩ := mem_functions_ofLines.mp h
  obtain ⟨line, d, hline, -, hdoc⟩ := commentAt_bind_eq_some_iff.mp hi
  exact ⟨i, line, hline, line_of_commentAt hi, isNoted_of_document? hdoc rfl rfl⟩

/-- Two notes, of which the last one counts and goes on behind a class. -/
theorem ofText_isNoted_of_class :
    let s : Text := "--- Opens.\n---@note One.\n---  more\n---@param a string\n--- Fast.\n---@note\n---\n--- Two.\n" ++
      "---@class X\n--- An X.\n---@field n integer\n--- Of X.\nfunction M.f(a) end\n"
    let f : FunctionDoc :=
      { name := "f", table := some "M", params := [⟨"a", "string", []⟩], summary := ["Opens.", "Fast."],
        note := some "Two.\nAn X.".toList, line := 13 }
    f ∈ (ofText s).functions ∧ ∃ i line, IsSubject s.bareLines i line ∧ f.line = i + 1 ∧ IsNoted (runBefore s.bareLines i) f := by
  intro s f
  have hmem : f ∈ (ofText s).functions := by decide +kernel
  exact ⟨hmem, ofText_isNoted hmem⟩

/-- The text behind the head of a class is read into the note, though a tag comes before it. -/
theorem ofText_note_ne_of_class :
    let s : Text := "---@note n\n---@class X\n--- free\nfunction M.f() end\n"
    (ofText s).functions.map (·.note) = [some "n\nfree".toList] ∧
      lastNote? isTagged (runBefore s.bareLines 3) = some "n" ∧
        followsNote isTagged (s.bareLines.take 2) = false := by
  decide +kernel

end LuaSource
end PluginManual
