import PluginManual.Files.Path
import PluginManual.Lua.Directory
import PluginManual.Proofs.Cuts

/-! Paths by their pieces. The way of a path is its pieces without the empty ones; an entry of a directory
    has the way of the directory and one piece more, and the parent of a path has a beginning of its way. -/

namespace PluginManual
namespace Text

/-! ### Pieces of a text -/

theorem prefix_join (sep : Text) (xs ys : List Text) : join sep xs <+: join sep (xs ++ ys) := by
  induction xs with
  | nil => exact List.nil_prefix
  | cons x xs ih =>
    cases xs with
    | nil =>
      cases ys with
      | nil => exact List.prefix_rfl
      | cons y ys =>
        rw [List.singleton_append, join_cons_cons, List.append_assoc]
        exact List.prefix_append x _
    | cons x' xs =>
      rw [List.cons_append, List.cons_append, join_cons_cons, join_cons_cons]
      exact (List.prefix_append_right_inj _).mpr ih

end Text

namespace Path

/-! ### Names -/

/-- Can an entry of a directory have that name? -/
def isName (s : Text) : Bool := s ≠ [] && '/' ∉ s && s ≠ ['.'] && s ≠ ['.', '.']

theorem isName_iff {s : Text} : isName s = true ↔ s ≠ [] ∧ '/' ∉ s ∧ s ≠ ['.'] ∧ s ≠ ['.', '.'] := by
  simp [isName, and_assoc]

theorem not_isIdle_of_isName {s : Text} (h : isName s = true) : isIdle s = false := by
  obtain ⟨hne, -, hdot, -⟩ := isName_iff.mp h
  simp [isIdle, hne, hdot]

/-! ### The way of a path -/

/-- The pieces of the path that are not empty. -/
def way (p : Path) : List Text := p.pieces.filter (· ≠ [])

theorem not_mem_of_mem_way {p : Path} {piece : Text} (h : piece ∈ p.way) : '/' ∉ piece :=
  Text.not_mem_of_mem_splitOn _ (List.mem_filter.mp h).1

/-- The path of an entry with a proper name: a slash stands before the name, unless nothing does. -/
theorem child_eq {p : Path} {name : Text} (h : isName name = true) :
    (∃ front, p.text = front ++ ['/'] ∧ p.child name = ⟨front ++ '/' :: name⟩) ∨
      (p.text = [] ∧ p.child name = ⟨name⟩) ∨ (p.text ≠ [] ∧ p.child name = ⟨p.text ++ '/' :: name⟩) := by
  obtain ⟨-, hslash, -, -⟩ := isName_iff.mp h
  have hhead : name.head? ≠ some '/' := fun hc => hslash (List.mem_of_head? hc)
  have habs : (⟨name⟩ : Path).isAbsolute = false := by simp [isAbsolute, hhead]
  rw [child, join, habs, if_neg (by decide)]
  split
  · next hend =>
    rw [Bool.or_eq_true, decide_eq_true_eq, decide_eq_true_eq] at hend
    rcases hend with hnil | hend
    · refine Or.inr (Or.inl ⟨hnil, ?_⟩)
      rw [hnil, List.nil_append]
    · obtain ⟨front, hfront⟩ := List.getLast?_eq_some_iff.mp hend
      refine Or.inl ⟨front, hfront, ?_⟩
      rw [hfront, List.append_assoc, List.singleton_append]
  · next hend => exact Or.inr (Or.inr ⟨fun hnil => hend (by simp [hnil]), rfl⟩)

theorem pieces_child {p : Path} {name : Text} (h : isName name = true) :
    ∃ front, (p.child name).pieces = front ++ [name] ∧ front.filter (· ≠ []) = p.way := by
  have hname := Text.splitOn_of_not_mem (isName_iff.mp h).2.1
  rcases child_eq (p := p) h with ⟨s, hs, hc⟩ | ⟨hnil, hc⟩ | ⟨hne, hc⟩
  · refine ⟨Text.splitOn '/' s, ?_, ?_⟩
    · rw [hc, pieces, Text.splitOn_append_sep, hname]
    · rw [way, pieces, hs, Text.splitOn_append_sep]
      simp [Text.splitOn]
  · refine ⟨[], ?_, ?_⟩
    · rw [hc]
      exact hname
    · rw [way, pieces, hnil]
      rfl
  · refine ⟨p.pieces, ?_, rfl⟩
    rw [hc, pieces, Text.splitOn_append_sep, hname]
    rfl

/-- An entry of a directory has the way of the directory and its own name. -/
theorem way_child {p : Path} {name : Text} (h : isName name = true) : (p.child name).way = p.way ++ [name] := by
  obtain ⟨front, hpieces, hfront⟩ := pieces_child (p := p) h
  rw [way, hpieces, List.filter_append, hfront]
  simp [(isName_iff.mp h).1]

theorem isAbsolute_child {p : Path} {name : Text} (h : isName name = true) :
    (p.child name).isAbsolute = p.isAbsolute := by
  have hhead : name.head? ≠ some '/' := fun hc => (isName_iff.mp h).2.1 (List.mem_of_head? hc)
  rcases child_eq (p := p) h with ⟨s, hs, hc⟩ | ⟨hnil, hc⟩ | ⟨hne, hc⟩
  · rw [isAbsolute, isAbsolute, hc, hs]
    cases s <;> rfl
  · rw [isAbsolute, isAbsolute, hc, hnil]
    simp [hhead]
  · rw [isAbsolute, isAbsolute, hc]
    obtain ⟨c, s, hcs⟩ := List.exists_cons_of_ne_nil hne
    rw [hcs]
    rfl

theorem getLast?_child {p : Path} {name : Text} (h : isName name = true) :
    (p.child name).text.getLast? ≠ some '/' := by
  obtain ⟨hne, hslash, -, -⟩ := isName_iff.mp h
  have hlast : ∀ s : Text, (s ++ name).getLast? ≠ some '/' := by
    intro s hs
    rw [List.getLast?_append, List.getLast?_eq_some_getLast hne, Option.some_or] at hs
    exact hslash (Option.some.inj hs ▸ List.getLast_mem hne)
  have happ : ∀ s : Text, s ++ '/' :: name = (s ++ ['/']) ++ name := by simp
  rcases child_eq (p := p) h with ⟨s, -, hc⟩ | ⟨-, hc⟩ | ⟨-, hc⟩
  · rw [hc, happ]
    exact hlast _
  · rw [hc]
    exact hlast []
  · rw [hc, happ]
    exact hlast _

theorem fileName?_child {p : Path} {name : Text} (h : isName name = true) : (p.child name).fileName? = some name := by
  obtain ⟨front, hpieces, -⟩ := pieces_child (p := p) h
  have hback : (p.child name).piecesBack = name :: front.reverse := by
    rw [piecesBack, hpieces, List.reverse_append, List.reverse_singleton, List.singleton_append,
      List.dropWhile_cons_of_neg (by simp [not_isIdle_of_isName h])]
  rw [fileName?, hback]
  exact if_neg (isName_iff.mp h).2.2.2

theorem child_nil {name : Text} (h : isName name = true) : (⟨[]⟩ : Path).child name = ⟨name⟩ := by
  rcases child_eq (p := ⟨[]⟩) h with ⟨front, hs, -⟩ | ⟨-, hc⟩ | ⟨hne, -⟩
  · exact absurd hs.symm (by simp)
  · exact hc
  · exact absurd rfl hne

theorem fileName?_of_isName {name : Text} (h : isName name = true) : (⟨name⟩ : Path).fileName? = some name :=
  child_nil h ▸ fileName?_child h

theorem fileName?_of_way {p : Path} {front : List Text} {name : Text} (h : isName name = true)
    (hway : p.way = front ++ [name]) : p.fileName? = some name := by
  have hback : p.piecesBack = name :: (p.pieces.reverse.dropWhile isIdle).tail := by
    rw [way] at hway
    obtain ⟨as, bs, hpieces, has, hbs⟩ := List.filter_eq_append_iff.mp hway
    obtain ⟨cs, ds, rfl, -, -, hds⟩ := List.filter_eq_cons_iff.mp hbs
    have hidle : ∀ piece ∈ ds.reverse, isIdle piece = true := by
      intro piece hp
      have := List.filter_eq_nil_iff.mp hds piece (List.mem_reverse.mp hp)
      rw [decide_eq_true_eq, Decidable.not_not] at this
      simp [isIdle, this]
    have hdrop : p.pieces.reverse.dropWhile isIdle = name :: (as ++ cs).reverse := by
      rw [hpieces, ← List.append_assoc, List.reverse_append, List.reverse_cons, List.append_assoc,
        List.dropWhile_append_of_pos hidle, List.singleton_append,
        List.dropWhile_cons_of_neg (by simp [not_isIdle_of_isName h])]
    rw [piecesBack, hdrop, List.tail_cons]
  rw [fileName?, hback]
  exact if_neg (isName_iff.mp h).2.2.2

theorem isSource_of_fileName? {p : Path} {name : Text} (hp : p.fileName? = some name) (h : isName name = true) :
    SourceFile.isSource p = SourceFile.isSource ⟨name⟩ := by
  rw [SourceFile.isSource, SourceFile.isSource, extension?, extension?, hp, fileName?_of_isName h]

/-- Whether an entry is a source depends on its name. -/
theorem isSource_child {p : Path} {name : Text} (h : isName name = true) :
    SourceFile.isSource (p.child name) = SourceFile.isSource ⟨name⟩ := isSource_of_fileName? (fileName?_child h) h

/-! ### The parent of a path -/

theorem dropWhile_eq_append {p : Text → Bool} {xs : List Text} {x : Text} {ys : List Text}
    (h : xs.dropWhile p = x :: ys) : ∃ front, xs = front ++ x :: ys :=
  ⟨xs.takeWhile p, by rw [← h, List.takeWhile_append_dropWhile]⟩

theorem way_of_pieces {p q : Path} {rest : List Text} (h : p.pieces = q.pieces ++ rest) (hq : q.text ≠ []) :
    p.isAbsolute = q.isAbsolute ∧ p.way = q.way ++ rest.filter (· ≠ []) := by
  constructor
  · have hprefix : q.text <+: p.text := by
      rw [← Text.join_splitOn '/' q.text, ← Text.join_splitOn '/' p.text]
      show Text.join ['/'] q.pieces <+: Text.join ['/'] p.pieces
      rw [h]
      exact Text.prefix_join _ _ _
    obtain ⟨more, hmore⟩ := hprefix
    obtain ⟨c, s, hcs⟩ := List.exists_cons_of_ne_nil hq
    rw [isAbsolute, isAbsolute, ← hmore, hcs]
    rfl
  · rw [way, h, List.filter_append]
    rfl

/-- The parent of a path, if it has a text, has a proper beginning of the way of the path. -/
theorem way_parent? {p q : Path} (h : p.parent? = some q) (hq : q.text ≠ []) :
    p.isAbsolute = q.isAbsolute ∧ ∃ rest, rest ≠ [] ∧ p.way = q.way ++ rest := by
  rw [parent?] at h
  split at h
  · split at h
    · cases h
    · cases h
      exact absurd rfl hq
  · next last before hback =>
    obtain ⟨idle, hidle⟩ := dropWhile_eq_append hback
    have hlast : isIdle last = false := by
      have := List.head?_dropWhile_not isIdle p.pieces.reverse
      rw [← piecesBack, hback] at this
      exact this
    have hlast : last ≠ [] ∧ last ≠ ['.'] := by simpa [isIdle] using hlast
    have hpieces : p.pieces = before.reverse ++ last :: idle.reverse := by
      rw [← List.reverse_reverse p.pieces, hidle]
      simp
    -- The last piece that counts is what the parent lacks.
    have hway : last ∈ p.way := List.mem_filter.mpr ⟨by simp [hpieces], by simp [hlast.1]⟩
    split at h
    · obtain rfl := Option.some.inj h
      -- No piece before it counts: the parent is the top of the tree, or `.` if that was written.
      by_cases habs : p.isAbsolute
      · rw [if_pos habs]
        exact ⟨habs, p.way, List.ne_nil_of_mem hway, rfl⟩
      · rw [if_neg habs] at hq ⊢
        by_cases hhere : p.beginsHere
        · rw [if_pos hhere]
          obtain ⟨tail, htail⟩ := List.head?_eq_some_iff.mp (of_decide_eq_true hhere)
          have hq' : p.pieces = (⟨['.']⟩ : Path).pieces ++ tail := htail
          obtain ⟨habs', hway'⟩ := way_of_pieces hq' (by simp)
          refine ⟨habs', _, fun hnil => ?_, hway'⟩
          rw [hway', hnil, List.append_nil] at hway
          exact hlast.2 (List.mem_singleton.mp hway)
        · rw [if_neg hhere] at hq
          exact absurd rfl hq
    · next hkept =>
      obtain rfl := Option.some.inj h
      generalize hkept' : before.dropWhile isIdle = kept at hkept hq ⊢
      have hpieces' : p.pieces = kept.reverse ++ ((before.takeWhile isIdle).reverse ++ last :: idle.reverse) := by
        rw [hpieces, ← List.append_assoc, ← List.reverse_append, ← hkept', List.takeWhile_append_dropWhile]
      have hq' : (⟨Text.join ['/'] kept.reverse⟩ : Path).pieces = kept.reverse := by
        refine Text.splitOn_join (by simpa using hkept) fun piece hp => ?_
        refine Text.not_mem_of_mem_splitOn (s := p.text) _ ?_
        show piece ∈ p.pieces
        rw [hpieces']
        exact List.mem_append_left _ hp
      obtain ⟨habs, hway'⟩ := way_of_pieces (hq'.symm ▸ hpieces') hq
      exact ⟨habs, _, by simp [hlast.1], hway'⟩

theorem exists_ancestors (p : Path) : ∃ above, p.ancestors = p :: above := by
  rw [ancestors, lineage]
  split <;> exact ⟨_, rfl⟩

/-! ### The directory of a file -/

theorem slash_not_mem_fileName {p : Path} {name : Text} (h : p.fileName? = some name) : '/' ∉ name := by
  rw [fileName?] at h
  split at h
  · cases h
  · next last before hback =>
    split at h
    · cases h
    · obtain rfl := Option.some.inj h
      obtain ⟨idle, hidle⟩ := dropWhile_eq_append hback
      refine Text.not_mem_of_mem_splitOn (s := p.text) _ (List.mem_reverse.mp ?_)
      show last ∈ p.pieces.reverse
      rw [hidle]
      exact List.mem_append_right _ List.mem_cons_self

/-- The pieces of the path that count. -/
def counted (p : Path) : List Text := p.pieces.filter (!isIdle ·)

theorem isName_of_fileName? {p : Path} {name : Text} (h : p.fileName? = some name) : isName name = true := by
  have hslash := slash_not_mem_fileName h
  rw [fileName?] at h
  split at h
  · cases h
  · next last before hback =>
    split at h
    · cases h
    · next hdots =>
      obtain rfl := Option.some.inj h
      have hidle := List.head?_dropWhile_not isIdle p.pieces.reverse
      rw [← piecesBack, hback] at hidle
      have hidle : last ≠ [] ∧ last ≠ ['.'] := by simpa [isIdle] using hidle
      exact isName_iff.mpr ⟨hidle.1, hslash, hidle.2, hdots⟩

theorem filter_takeWhile_isIdle (pieces : List Text) : (pieces.takeWhile isIdle).filter (!isIdle ·) = [] := by
  rw [List.filter_eq_nil_iff]
  intro piece hp
  simp [List.all_eq_true.mp List.all_takeWhile piece hp]

/-- A path with a file name has a parent, and that lacks the file name only. -/
theorem counted_parent? {p : Path} {name : Text} (h : p.fileName? = some name) :
    ∃ q, p.parent? = some q ∧ q.isAbsolute = p.isAbsolute ∧ p.counted = q.counted ++ [name] := by
  have hname := not_isIdle_of_isName (isName_of_fileName? h)
  rw [fileName?] at h
  split at h
  · cases h
  next last before hback =>
  split at h
  · cases h
  obtain rfl := Option.some.inj h
  have hpieces : p.pieces.reverse = p.pieces.reverse.takeWhile isIdle ++ last :: before := by
    rw [← hback, piecesBack, List.takeWhile_append_dropWhile]
  have hbefore : (before.filter (!isIdle ·)) = (before.dropWhile isIdle).filter (!isIdle ·) := by
    have hfilter := congrArg (List.filter (!isIdle ·)) (List.takeWhile_append_dropWhile (p := isIdle) (l := before))
    rw [List.filter_append, filter_takeWhile_isIdle, List.nil_append] at hfilter
    exact hfilter.symm
  have hcounted : p.counted = ((before.dropWhile isIdle).filter (!isIdle ·)).reverse ++ [last] := by
    have hreverse := congrArg (List.filter (!isIdle ·)) hpieces
    rw [List.filter_reverse, List.filter_append, filter_takeWhile_isIdle, List.nil_append,
      List.filter_cons_of_pos (by simp [hname]), hbefore] at hreverse
    have hreverse := congrArg List.reverse hreverse
    rw [List.reverse_reverse, List.reverse_cons] at hreverse
    exact hreverse
  cases hkept : before.dropWhile isIdle with
  | nil =>
    -- Nothing counts before the name: the parent is the top, `.` or nothing.
    refine ⟨⟨if p.isAbsolute then ['/'] else if p.beginsHere then ['.'] else []⟩, ?_, ?_, ?_⟩
    · rw [parent?, hback]
      simp only [hkept]
    · cases habs : p.isAbsolute with
      | true => rfl
      | false => cases p.beginsHere <;> rfl
    · rw [hcounted, hkept]
      cases p.isAbsolute <;> cases p.beginsHere <;> rfl
  | cons first rest =>
    have hparent : p.parent? = some ⟨Text.join ['/'] (first :: rest).reverse⟩ := by
      rw [parent?, hback]
      simp only [hkept]
    have hfirst : isIdle first = false := by
      have := List.head?_dropWhile_not isIdle before
      rw [hkept] at this
      exact this
    have hmem : ∀ piece ∈ (first :: rest).reverse, '/' ∉ piece := by
      intro piece hp
      refine Text.not_mem_of_mem_splitOn (s := p.text) _ (List.mem_reverse.mp ?_)
      show piece ∈ p.pieces.reverse
      rw [hpieces]
      have hsub : piece ∈ before := (List.dropWhile_sublist isIdle).subset (hkept ▸ List.mem_reverse.mp hp)
      simp [hsub]
    have hq : (⟨Text.join ['/'] (first :: rest).reverse⟩ : Path).pieces = (first :: rest).reverse :=
      Text.splitOn_join (by simp) hmem
    have hne : (⟨Text.join ['/'] (first :: rest).reverse⟩ : Path).text ≠ [] := by
      intro hnil
      have hsingle : [[]] = (first :: rest).reverse := by
        rw [← hq, pieces, hnil]
        rfl
      have hmem : first ∈ [([] : Text)] := by
        rw [hsingle]
        simp
      rw [List.mem_singleton.mp hmem] at hfirst
      cases hfirst
    refine ⟨_, hparent, (way_parent? hparent hne).1.symm, ?_⟩
    rw [hcounted, hkept, counted, hq, List.filter_reverse]

/-! ### The path of the part -/

/-- The name of the part for a file with that name. -/
def partName (id : Nat) (name : Text) : Text := '.' :: (name ++ '.' :: Text.ofNat id ++ ".tmp".toList)

theorem isName_partName {id : Nat} {name : Text} (h : '/' ∉ name) : isName (partName id name) = true := by
  have hid : '/' ∉ Text.ofNat id := Text.not_mem_ofNat (by decide) id
  rw [isName_iff]
  refine ⟨by simp [partName], by simp [partName, h, hid], ?_, ?_⟩
  · simp [partName]
  · intro heq
    have := congrArg List.length heq
    simp [partName] at this
    omega

theorem isSource_partName {id : Nat} {name : Text} (h : '/' ∉ name) :
    SourceFile.isSource ⟨partName id name⟩ = false := by
  have hback : (partName id name).reverse =
      "pmt".toList ++ '.' :: ((name ++ '.' :: Text.ofNat id).reverse ++ ['.']) := by
    simp [partName]
  have hend : ((partName id name).reverse.takeWhile (· != '.')).reverse = "tmp".toList := by
    rw [hback]
    rfl
  rw [SourceFile.isSource, extension?, fileName?_of_isName (isName_partName h)]
  simp only [Option.bind_eq_bind, Option.bind_some, hend]
  split <;> decide

theorem partName_ne (id : Nat) (name : Text) : partName id name ≠ name := by
  intro h
  have := congrArg List.length h
  simp [partName] at this
  omega

theorem append_dot_inj {s s' t t' : Text} (ht : '.' ∉ t) (ht' : '.' ∉ t') (h : s ++ '.' :: t = s' ++ '.' :: t') :
    s = s' ∧ t = t' := by
  rcases List.append_eq_append_iff.mp h with ⟨mid, rfl, hmid⟩ | ⟨mid, rfl, hmid⟩
  · cases mid with
    | nil => simpa using hmid
    | cons c mid =>
      obtain ⟨rfl, rfl⟩ := List.cons.inj hmid
      exact absurd (by simp) ht
  · cases mid with
    | nil => simpa [eq_comm] using hmid
    | cons c mid =>
      obtain ⟨rfl, rfl⟩ := List.cons.inj hmid
      exact absurd (by simp) ht'

/-- The name of a part tells the file and the caller. -/
theorem partName_inj {id id' : Nat} {name name' : Text} (h : partName id name = partName id' name') :
    name = name' ∧ id = id' := by
  have hdot : ∀ n, '.' ∉ Text.ofNat n := Text.not_mem_ofNat (by decide)
  obtain ⟨-, h⟩ := List.cons.inj h
  have h := List.append_cancel_right h
  obtain ⟨hname, hid⟩ := append_dot_inj (hdot id) (hdot id') h
  exact ⟨hname, Text.ofNat_inj.mp hid⟩

theorem partPath_of_fileName? {id : Nat} {p : Path} {name : Text} (h : p.fileName? = some name) :
    Files.partPath id p = (p.parent?.getD ⟨[]⟩).child (partName id name) := by
  rw [Files.partPath, withFileName, h]
  rfl

/-- The part lies in some directory under a name that is not the name of a source. -/
theorem partPath_eq (id : Nat) (p : Path) :
    ∃ (dir : Path) (name : Text), Files.partPath id p = dir.child name ∧ isName name = true ∧
      SourceFile.isSource ⟨name⟩ = false := by
  rw [Files.partPath, withFileName]
  split
  · next name hname =>
    have hslash := slash_not_mem_fileName hname
    refine ⟨_, partName id name, by rw [hname]; rfl, isName_partName hslash, isSource_partName hslash⟩
  · next hname =>
    have hslash : '/' ∉ ([] : Text) := by simp
    exact ⟨_, partName id [], by rw [hname]; rfl, isName_partName hslash, isSource_partName hslash⟩

end Path
end PluginManual
