import Mathlib.Tactic.SplitIfs
import Segmentation.Proofs.Outcome
import Segmentation.Proofs.Text
import Segmentation.Storage.FileTree

/-!
# Names of files, and files after a change

* `Path.IsName`: a text that names one thing in a directory.
* `Path.resolve_child`: a name under a path leads to a place with that name.
* `FileTree.entry_eq_file`: a file can be read where there is one and nothing keeps it from being read.
* `FileTree.entry_write`: a written file holds what was written.
* `FileTree.lookup_write_of_ne`: all other files are as they were.
* `FileTree.files_makeDirectory`: making a directory changes no file.
* `FileTree.exists_write`: whether a text can be written does not depend on the text.
* `FileTree.lookup_append`: text that is added stands at the end of its file.
* `FileTree.IsOpen`: a file stands at a path, and nothing keeps text from being added to it.
* `FileTree.isOpen_of_append`, `FileTree.IsOpen.append`: a file is open once anything was added to it, and it
  stays open whatever is added to other files.
* `FileTree.IsOpen.exists_append`: text can be added to an open file.
-/

/-! ## Names of files -/

namespace Segmentation.Path

variable {s : String}

/-- The text names one thing in a directory: it has no slash, and it is neither empty nor made of one dot or two. -/
structure IsName (s : String) : Prop where
  slash : '/' ∉ s.toList
  ne_empty : s ≠ ""
  ne_dot : s ≠ "."
  ne_dots : s ≠ ".."

theorem ofText_of_isName (h : IsName s) : ofText s = ⟨"", [s]⟩ := by
  have hroot : s.toList.takeWhile (· = '/') = [] := by
    cases hs : s.toList with
    | nil => rfl
    | cons c cs =>
      have hc : c ≠ '/' := fun heq => h.slash (by rw [hs, heq]; exact List.mem_cons_self)
      rw [List.takeWhile_cons, decide_eq_false hc]
      rfl
  have hnames : namesOf s = [s] := by
    rw [namesOf, Text.split_of_notMem h.slash, List.filter_singleton]
    simp [h.ne_empty, h.ne_dot]
  rw [ofText, hroot, hnames]
  rfl

theorem child_of_isName (h : IsName s) (p : Path) : p.child s = ⟨p.root, p.names ++ [s]⟩ := by
  rw [child, ofText_of_isName h, join, if_pos rfl]

/-- A name under a path leads to the thing of that name at the place of the path. -/
theorem resolve_child (h : IsName s) (base p : Path) :
    base.resolve (p.child s) = ⟨(base.resolve p).root, (base.resolve p).names ++ [s]⟩ := by
  rw [child_of_isName h]
  unfold resolve join
  by_cases hroot : p.root = ""
  · simp [hroot, ← List.append_assoc, List.foldl_append, h.ne_dots]
  · simp [hroot, List.foldl_append, h.ne_dots]

theorem name_resolve_child (h : IsName s) (base p : Path) : (base.resolve (p.child s)).name = s := by
  rw [resolve_child h, name, List.getLast?_append, List.getLast?_singleton]
  rfl

end Segmentation.Path

/-! ## Files after a change -/

namespace Segmentation.Storage.FileTree

variable {t u : FileTree} {p : Path} {place : Path} {text : String}

theorem eq_of_makeDirectory (h : t.makeDirectory p = .ok u) :
    u = t ∨ u = { t with directories := t.directories ++ [t.place p] } := by
  simp only [makeDirectory] at h
  split_ifs at h <;> cases h
  · exact .inl rfl
  · exact .inr rfl

theorem work_makeDirectory (h : t.makeDirectory p = .ok u) : u.work = t.work := by
  rcases eq_of_makeDirectory h with rfl | rfl <;> rfl

theorem files_makeDirectory (h : t.makeDirectory p = .ok u) : u.files = t.files := by
  rcases eq_of_makeDirectory h with rfl | rfl <;> rfl

theorem barriers_makeDirectory (h : t.makeDirectory p = .ok u) : u.barriers = t.barriers := by
  rcases eq_of_makeDirectory h with rfl | rfl <;> rfl

/-- A text that is written replaces the one that is there, or makes a new file, and nothing keeps it from being read. -/
theorem eq_of_write (h : t.write p text = .ok u) :
    (∃ old, t.files.lookup (t.place p) = some old ∧
      u = { t with
        files := t.files.map fun f => if f.1 = t.place p then (t.place p, text) else f
        barriers := t.barriers.filter (·.1 ≠ t.place p) }) ∨
    (t.files.lookup (t.place p) = none ∧
      u = { t with
        files := t.files ++ [(t.place p, text)]
        barriers := t.barriers.filter (·.1 ≠ t.place p) }) := by
  simp only [write] at h
  split_ifs at h with _ _ hfile _ _ _ <;> cases h
  · obtain ⟨old, hold⟩ := Option.isSome_iff_exists.1 hfile
    exact .inl ⟨old, hold, rfl⟩
  · exact .inr ⟨Option.not_isSome_iff_eq_none.1 hfile, rfl⟩

theorem work_write (h : t.write p text = .ok u) : u.work = t.work := by
  rcases eq_of_write h with ⟨_, -, rfl⟩ | ⟨-, rfl⟩ <;> rfl

theorem barriers_write (h : t.write p text = .ok u) : u.barriers = t.barriers.filter (·.1 ≠ t.place p) := by
  rcases eq_of_write h with ⟨_, -, rfl⟩ | ⟨-, rfl⟩ <;> rfl

/-- What is not found in a list is not found in a part of it. -/
theorem lookup_filter_eq_none {β : Type} {barriers : List (Path × β)} (keep : Path × β → Bool)
    (h : barriers.lookup place = none) : (barriers.filter keep).lookup place = none := by
  rw [List.lookup_eq_none_iff] at h ⊢
  exact fun b hb => h b (List.mem_of_mem_filter hb)

/-- What is taken out of a list is not found in it. -/
theorem lookup_filter_self {β : Type} (barriers : List (Path × β)) (place : Path) :
    (barriers.filter (·.1 ≠ place)).lookup place = none := by
  rw [List.lookup_eq_none_iff]
  intro b hb
  have hne : b.1 ≠ place := by simpa using (List.mem_filter.1 hb).2
  simpa using hne.symm

theorem lookup_filter_of_ne {β : Type} (barriers : List (Path × β)) {place q : Path} (h : q ≠ place) :
    (barriers.filter (·.1 ≠ place)).lookup q = barriers.lookup q := by
  induction barriers with
  | nil => rfl
  | cons b barriers ih =>
    obtain ⟨k, v⟩ := b
    by_cases hk : k = place
    · rw [List.filter_cons_of_neg (by simpa using hk), ih, List.lookup_cons, beq_eq_false_iff_ne.2 (hk ▸ h)]
    · rw [List.filter_cons_of_pos (by simpa using hk), List.lookup_cons, List.lookup_cons, ih]

/-- The texts of files at one place, with a new text where there is one. -/
theorem lookup_map_replace (files : List (Path × String)) (place q : Path) (text : String) :
    (files.map fun f => if f.1 = place then (place, text) else f).lookup q =
      if q = place then (files.lookup q).map fun _ => text else files.lookup q := by
  induction files with
  | nil => simp
  | cons f files ih =>
    obtain ⟨k, v⟩ := f
    by_cases hk : k = place
    · subst hk
      by_cases hq : q = k
      · simp [hq]
      · simp [List.lookup_cons, hq, ih, beq_eq_false_iff_ne.2 hq]
    · by_cases hq : q = k
      · subst hq
        simp [hk]
      · simp [List.lookup_cons, hk, ih, beq_eq_false_iff_ne.2 hq]

theorem lookup_append_single (files : List (Path × String)) (place q : Path) (text : String)
    (h : files.lookup place = none) :
    (files ++ [(place, text)]).lookup q = if q = place then some text else files.lookup q := by
  rw [List.lookup_append]
  by_cases hq : q = place
  · subst hq
    simp [h]
  · simp [List.lookup_cons, hq, beq_eq_false_iff_ne.2 hq]

/-- A written file holds what was written, and all other files are as they were. -/
theorem lookup_write (h : t.write p text = .ok u) (q : Path) :
    u.files.lookup q = if q = t.place p then some text else t.files.lookup q := by
  rcases eq_of_write h with ⟨old, hold, rfl⟩ | ⟨hnone, rfl⟩
  · rw [lookup_map_replace]
    split_ifs with hq
    · rw [hq, hold]
      rfl
    · rfl
  · exact lookup_append_single _ _ _ _ hnone

theorem entry_eq_file : t.entry p = .file text ↔
    t.files.lookup (t.place p) = some text ∧ t.barriers.lookup (t.place p) = none := by
  simp only [entry]
  cases hfile : t.files.lookup (t.place p) with
  | some old => rcases t.barriers.lookup (t.place p) with _ | _ | _ <;> simp
  | none =>
    simp only [reduceCtorEq, false_and, iff_false]
    split_ifs <;> simp

theorem entry_write (h : t.write p text = .ok u) : u.entry p = .file text := by
  have hplace : u.place p = t.place p := by
    rw [place, place, work_write h]
  rw [entry_eq_file, hplace, lookup_write h, if_pos rfl, barriers_write h]
  exact ⟨rfl, lookup_filter_self _ _⟩

/-- Where one text can be written, every other one can. -/
theorem exists_write (h : t.write p text = .ok u) (other : String) : ∃ v, t.write p other = .ok v := by
  simp only [write] at h ⊢
  split_ifs at h ⊢ <;> exact ⟨_, rfl⟩

/-- Adding text is writing, but for what keeps the file from being read. -/
theorem eq_of_append (h : t.append p text = .ok u) :
    ∃ v, t.write p ((t.files.lookup (t.place p)).getD "" ++ text) = .ok v ∧
      u = if (t.files.lookup (t.place p)).isSome then { v with barriers := t.barriers } else v := by
  obtain ⟨v, hv, rfl⟩ := map_eq_ok.1 h
  exact ⟨v, hv, rfl⟩

/-- Text is added at the end of a file, or makes a new one. -/
theorem lookup_append (h : t.append p text = .ok u) (q : Path) :
    u.files.lookup q = if q = t.place p then some ((t.files.lookup (t.place p)).getD "" ++ text)
      else t.files.lookup q := by
  obtain ⟨v, hv, rfl⟩ := eq_of_append h
  rw [← lookup_write hv]
  split <;> rfl

theorem work_append (h : t.append p text = .ok u) : u.work = t.work := by
  obtain ⟨v, hv, rfl⟩ := eq_of_append h
  rw [← work_write hv]
  split <;> rfl

/-- What is written keeps nothing from being read. -/
theorem barrier_write (h : t.write p text = .ok u) (hclear : t.barriers.lookup place = none) :
    u.barriers.lookup place = none := by
  rw [barriers_write h]
  exact lookup_filter_eq_none _ hclear

theorem barrier_append (h : t.append p text = .ok u) (hclear : t.barriers.lookup place = none) :
    u.barriers.lookup place = none := by
  obtain ⟨v, hv, rfl⟩ := eq_of_append h
  split
  · exact hclear
  · exact barrier_write hv hclear

end Segmentation.Storage.FileTree

/-! ## Files that text can be added to -/

namespace Segmentation.Storage.FileTree

variable {t u : FileTree} {p q place : Path} {text : String}

/-- A file stands at the path, and text can be added to it. -/
structure IsOpen (t : FileTree) (p : Path) : Prop where
  file : (t.files.lookup (t.place p)).isSome = true
  name : isTooLong (t.place p) = false
  clear : t.isBlocked (t.place p) = false
  allowed : t.barriers.lookup (t.place p) ≠ some .forbidden

/-- Where a text is written, no name is too long, no file is on the way, and a file that may be opened or at least no
directory is there. -/
theorem free_of_write (h : t.write p text = .ok u) :
    isTooLong (t.place p) = false ∧ t.isBlocked (t.place p) = false ∧
      ((t.files.lookup (t.place p)).isSome = true ∧ t.barriers.lookup (t.place p) ≠ some .forbidden ∨
        t.files.lookup (t.place p) = none ∧ t.hasDirectory (t.place p) = false) := by
  simp only [write] at h
  split_ifs at h with hname hblocked hfile hbarred hdirectory hparent <;> cases h
  · refine ⟨eq_false_of_ne_true hname, eq_false_of_ne_true hblocked, .inl ⟨hfile, fun hforbidden => hbarred ?_⟩⟩
    rw [hforbidden]
  · exact ⟨eq_false_of_ne_true hname, eq_false_of_ne_true hblocked,
      .inr ⟨Option.not_isSome_iff_eq_none.1 hfile, eq_false_of_ne_true hdirectory⟩⟩

/-- A new file does not stand on the way to a file. -/
theorem isBlocked_write (h : t.write q text = .ok u) (hclear : t.isBlocked place = false)
    (hfile : place = t.place q ∨ (t.files.lookup place).isSome = true) : u.isBlocked place = false := by
  have hfree := (free_of_write h).2.2
  rcases eq_of_write h with ⟨old, -, rfl⟩ | ⟨hnew, rfl⟩
  · rw [isBlocked, List.any_eq_false] at hclear ⊢
    intro f hf
    obtain ⟨before, hbefore, rfl⟩ := List.mem_map.1 hf
    have hthere := hclear before hbefore
    by_cases heq : before.1 = t.place q
    · rw [if_pos heq]
      rwa [← heq]
    · rwa [if_neg heq]
  · have hdirectory : t.hasDirectory (t.place q) = false := by
      simpa [hnew] using hfree
    rw [isBlocked] at hclear ⊢
    rw [List.any_append, hclear, Bool.false_or, List.any_cons, List.any_nil, Bool.or_false,
      Bool.and_eq_false_iff, decide_eq_false_iff_not, Decidable.not_not]
    rcases hfile with rfl | hfile
    · exact .inl rfl
    · obtain ⟨old, hold⟩ := Option.isSome_iff_exists.1 hfile
      obtain ⟨before, after, hmem, -⟩ := List.lookup_eq_some_iff.1 hold
      simp only [hasDirectory, Bool.or_eq_false_iff, List.any_eq_false] at hdirectory
      have hnot := hdirectory.2 (place, old) (by simp [hmem])
      simp only [Bool.and_eq_true, decide_eq_true_iff, not_and, Bool.not_eq_true] at hnot
      by_cases heq : t.place q = place
      · exact .inl heq
      · exact .inr (hnot (Ne.symm heq))

theorem place_append (h : t.append q text = .ok u) (p : Path) : u.place p = t.place p := by
  rw [FileTree.place, FileTree.place, work_append h]

theorem isBlocked_append (h : t.append q text = .ok u) (hclear : t.isBlocked place = false)
    (hfile : place = t.place q ∨ (t.files.lookup place).isSome = true) : u.isBlocked place = false := by
  obtain ⟨v, hv, rfl⟩ := eq_of_append h
  have hblocked := isBlocked_write hv hclear hfile
  split
  · exact hblocked
  · exact hblocked

/-- What text was added to is an open file. -/
theorem isOpen_of_append (h : t.append p text = .ok u) : u.IsOpen p := by
  obtain ⟨v, hv, hu⟩ := eq_of_append h
  obtain ⟨hname, hclear, hthere⟩ := free_of_write hv
  constructor
  · rw [place_append h, lookup_append h, if_pos rfl]
    rfl
  · rwa [place_append h]
  · rw [place_append h]
    exact isBlocked_append h hclear (.inl rfl)
  · rw [place_append h, hu]
    split
    · rename_i hfile
      refine (hthere.resolve_right fun hnew => ?_).2
      rw [hnew.1] at hfile
      exact Bool.false_ne_true hfile
    · rw [barriers_write hv, lookup_filter_self]
      nofun

/-- An open file stays open when text is added to any file. -/
theorem IsOpen.append (h : t.IsOpen p) (hu : t.append q text = .ok u) : u.IsOpen p := by
  constructor
  · rw [place_append hu, lookup_append hu]
    split
    · rfl
    · exact h.file
  · rw [place_append hu]
    exact h.name
  · rw [place_append hu]
    exact isBlocked_append hu h.clear (.inr h.file)
  · obtain ⟨v, hv, rfl⟩ := eq_of_append hu
    rw [place_append hu]
    split
    · exact h.allowed
    · rw [barriers_write hv]
      by_cases hsame : t.place p = t.place q
      · rw [hsame, lookup_filter_self]
        nofun
      · rw [lookup_filter_of_ne _ hsame]
        exact h.allowed

/-- Text can be added to an open file. -/
theorem IsOpen.exists_append (h : t.IsOpen p) (text : String) : ∃ u, t.append p text = .ok u := by
  have hwrite : ∃ v, t.write p ((t.files.lookup (t.place p)).getD "" ++ text) = .ok v := by
    have hallowed := h.allowed
    simp only [write, h.name, h.clear, Bool.false_eq_true, if_false, if_pos h.file]
    generalize t.barriers.lookup (t.place p) = barrier at hallowed
    rcases barrier with _ | _ | reason
    · exact ⟨_, rfl⟩
    · exact absurd rfl hallowed
    · exact ⟨_, rfl⟩
  obtain ⟨v, hv⟩ := hwrite
  exact ⟨_, map_eq_ok.2 ⟨v, hv, rfl⟩⟩

end Segmentation.Storage.FileTree
