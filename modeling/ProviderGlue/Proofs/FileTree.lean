import Mathlib.Logic.Function.Basic
import ProviderGlue.FileTree

/-!
# Making directories and writing files

Making directories adds directories to a tree, also when it fails halfway, and leaves everything else
as it was (`Grown`).  Writing replaces one file, which a path leads to through directories only, so what
the path leads to is the same afterwards.

## Key results

- `mem_entries_iff`: a tree has an entry iff `get?` finds it
- `follow_append_eq_ok`, `follow_eq_of_directory`: following a path piece by piece, and in another tree
- `ensureDirectories_grown`: making directories changes no file
- `isDirectory_of_ensureDirectories`: what has been made is there
- `write_eq`: the file that is written, and that a second writing changes nothing
-/

namespace ProviderGlue.FileTree

/-! ## Entries -/

/-- Below the root a tree has an entry iff `get?` finds it. -/
theorem mem_entries_iff {t : FileTree} {l : Location} {e : Entry} (hl : l ≠ []) :
    (l, e) ∈ t.entries ↔ t.get? l = some e := by
  rw [get?, if_neg hl]
  obtain ⟨entries, _, hdistinct⟩ := t
  dsimp only
  induction entries with
  | nil => simp
  | cons x es ih =>
    obtain ⟨k, v⟩ := x
    rw [List.map_cons, List.nodup_cons] at hdistinct
    rw [List.mem_cons, List.lookup_cons, ih hdistinct.2]
    by_cases hk : l = k
    · subst hk
      -- no later entry has this location
      have hnone : es.lookup l = none := by
        rw [List.lookup_eq_none_iff]
        intro p hp
        rw [bne_iff_ne]
        rintro rfl
        exact hdistinct.1 (List.mem_map_of_mem (f := (·.1)) hp)
      simp [hnone, eq_comm]
    · simp [hk, beq_eq_false_iff_ne.2 hk]

/-- The tree without what stands at a location. -/
def remove (t : FileTree) (l : Location) : FileTree where
  entries := t.entries.filter (·.1 ≠ l)
  current := t.current
  distinct := t.distinct.sublist (List.filter_sublist.map _)

theorem get?_remove (t : FileTree) {l l' : Location} (h : l ≠ []) :
    (t.remove l).get? l' = if l' = l then none else t.get? l' := by
  by_cases hl : l' = l
  · subst hl
    rw [get?, if_neg h, if_pos rfl, List.lookup_eq_none_iff]
    intro p hp
    have hne := of_decide_eq_true (List.mem_filter.1 hp).2
    exact bne_iff_ne.2 (Ne.symm hne)
  · rw [if_neg hl, get?, get?, remove, lookup_filter_ne hl]

/-! ## Following paths -/

theorem enter_eq_ok_iff {t : FileTree} {l : Location} :
    t.enter l = .ok () ↔ t.get? l = some .directory := by
  rw [enter]
  split <;> simp_all

/-- Where a piece of a path leads. -/
def step (l : Location) (piece : String) : Location :=
  if Path.isCurrent piece then l else if piece = ".." then l.dropLast else l ++ [piece]

/-- Where the pieces of a path lead, whatever stands there. -/
def lead (l : Location) (pieces : List String) : Location := pieces.foldl step l

/-- Where a path leads, if relative paths start at `current`. -/
def destination (current : Location) (path : String) : Location :=
  lead (if Path.isAbsolute path then [] else current) (Path.pieces path)

theorem step_name {l : Location} {name : String} (hcurrent : ¬ Path.isCurrent name)
    (hup : name ≠ "..") : step l name = l ++ [name] := by
  rw [step, if_neg hcurrent, if_neg hup]

/-- Each piece of a path leads out of a directory. -/
theorem follow_cons (t : FileTree) (l : Location) (p : String) (ps : List String) :
    t.follow l (p :: ps) = (t.enter l).bind fun _ => t.follow (step l p) ps := by
  rw [follow, step]
  cases t.enter l with
  | error fault => rfl
  | ok _ =>
    dsimp only [Except.bind]
    split
    · rfl
    · split <;> rfl

theorem follow_cons_eq_ok {t : FileTree} {l l' : Location} {p : String} {ps : List String} :
    t.follow l (p :: ps) = .ok l' ↔
      t.get? l = some .directory ∧ t.follow (step l p) ps = .ok l' := by
  rw [follow_cons, ← enter_eq_ok_iff]
  cases t.enter l with
  | error fault => simp [Except.bind]
  | ok _ => simp [Except.bind]

theorem follow_nil_eq_ok {t : FileTree} {l l' : Location} :
    t.follow l [] = .ok l' ↔ l' = l ∧ (t.get? l).isSome := by
  rw [follow]
  split
  · next hsome => simp [hsome, eq_comm]
  · next hnone => simp [hnone]

/-- A way is followed piece by piece. -/
theorem follow_append_eq_ok {t : FileTree} {l l' : Location} {ps qs : List String} :
    t.follow l (ps ++ qs) = .ok l' ↔
      ∃ m, t.follow l ps = .ok m ∧ t.follow m qs = .ok l' := by
  induction ps generalizing l with
  | nil =>
    -- a way starts where something stands, even if it is no directory
    have hsome : t.follow l qs = .ok l' → (t.get? l).isSome := by
      cases qs with
      | nil => exact fun h => (follow_nil_eq_ok.1 h).2
      | cons q qs => exact fun h => by rw [(follow_cons_eq_ok.1 h).1]; rfl
    simp only [List.nil_append, follow_nil_eq_ok, and_assoc, exists_eq_left]
    exact ⟨fun h => ⟨hsome h, h⟩, fun h => h.2⟩
  | cons p ps ih =>
    simp only [List.cons_append, follow_cons_eq_ok, ih, and_assoc, exists_and_left]

/-- A way that can be followed ends where its pieces lead, and something stands there. -/
theorem eq_lead_of_follow {t : FileTree} {l l' : Location} {ps : List String}
    (h : t.follow l ps = .ok l') : l' = lead l ps ∧ (t.get? l').isSome := by
  induction ps generalizing l with
  | nil =>
    obtain ⟨rfl, hsome⟩ := follow_nil_eq_ok.1 h
    exact ⟨rfl, hsome⟩
  | cons p ps ih => exact ih (follow_cons_eq_ok.1 h).2

/-- A path leads to an entry if it can be followed to it. -/
theorem entry_eq_ok {t : FileTree} {path : String} {l : Location} {e : Entry} :
    t.entry path = .ok (l, e) ↔ ¬ path.isEmpty ∧
      t.follow (t.start path) (Path.pieces path) = .ok l ∧ t.get? l = some e := by
  rw [entry]
  by_cases hempty : path.isEmpty
  · simp [hempty]
  · rw [if_neg hempty]
    cases hfollow : t.follow (t.start path) (Path.pieces path) with
    | error fault => simp
    | ok m =>
      -- something stands where the way ends
      obtain ⟨e', hm⟩ := Option.isSome_iff_exists.1 (eq_lead_of_follow hfollow).2
      simp only [hm, Except.ok.injEq, Prod.mk.injEq]
      constructor
      · rintro ⟨rfl, rfl⟩
        exact ⟨hempty, rfl, hm⟩
      · rintro ⟨-, rfl, hl⟩
        exact ⟨rfl, Option.some.inj (hm.symm.trans hl)⟩

theorem isDirectory_iff {t : FileTree} {path : String} :
    t.isDirectory path = true ↔ ∃ l, t.entry path = .ok (l, .directory) := by
  rw [isDirectory]
  constructor
  · intro h
    split at h
    · next l heq => exact ⟨l, heq⟩
    · contradiction
  · rintro ⟨l, h⟩
    rw [h]

/-- The names in a directory that stand for directories. -/
theorem mem_subdirectories_iff {t : FileTree} {path name : String} :
    name ∈ t.subdirectories path ↔
      ∃ l, t.entry path = .ok (l, .directory) ∧ t.get? (l ++ [name]) = some .directory := by
  rw [subdirectories]
  split
  · next l hentry =>
    simp only [List.mem_filterMap, Prod.exists, hentry, Except.ok.injEq, Prod.mk.injEq, and_true]
    constructor
    · rintro ⟨m, e, hmem, hname⟩
      split at hname
      · next hm =>
        obtain ⟨hdir, rfl⟩ := hm
        obtain ⟨front, rfl⟩ := List.getLast?_eq_some_iff.1 hname
        rw [List.dropLast_concat] at hdir
        exact ⟨l, rfl, hdir ▸ (mem_entries_iff (List.concat_ne_nil _ _)).1 hmem⟩
      · contradiction
    · rintro ⟨_, rfl, hget⟩
      refine ⟨l ++ [name], .directory, (mem_entries_iff (List.concat_ne_nil _ _)).2 hget, ?_⟩
      rw [if_pos ⟨List.dropLast_concat, rfl⟩, List.getLast?_concat]
  · next hother =>
    refine iff_of_false List.not_mem_nil ?_
    rintro ⟨l, hentry, -⟩
    exact hother l hentry

/-! ## Files -/

/-- The file at a location, if one stands there. -/
def file? (t : FileTree) (l : Location) : Option Entry :=
  (t.get? l).filter (· ≠ .directory)

/-- A file in place of nothing or of another file is the only one that changes. -/
theorem file?_put (t : FileTree) {l : Location} (content : List Char) (hl : l ≠ []) :
    (t.put l (.text content)).file? = Function.update t.file? l (some (.text content)) := by
  funext l'
  by_cases h : l' = l
  · subst h
    rw [Function.update_self, file?, get?_put _ _ hl, if_pos rfl]
    rfl
  · rw [Function.update_of_ne h, file?, get?_put _ _ hl, if_neg h, file?]

theorem put_put (t : FileTree) (l : Location) (e : Entry) : (t.put l e).put l e = t.put l e := by
  simp [put]

/-! ## Making directories -/

/-- A tree with more directories. -/
structure Grown (before after : FileTree) : Prop where
  /-- The directory at hand is the same. -/
  current : after.current = before.current
  /-- Directories stay. -/
  directory : ∀ {l}, before.get? l = some .directory → after.get? l = some .directory
  /-- Files stay as they are, and there are no new ones. -/
  file : after.file? = before.file?

namespace Grown

variable {t made around : FileTree}

theorem refl (t : FileTree) : Grown t t := ⟨rfl, id, rfl⟩

theorem trans (h : Grown t around) (h' : Grown around made) : Grown t made where
  current := h'.current.trans h.current
  directory hl := h'.directory (h.directory hl)
  file := h'.file.trans h.file

theorem start_eq (h : Grown t made) (path : String) : made.start path = t.start path := by
  rw [start, start, h.current]

/-- A directory where nothing stood. -/
theorem put {l : Location} (h : t.get? l = none) : Grown t (t.put l .directory) := by
  have hl : l ≠ [] := by
    rintro rfl
    exact absurd h (by rw [get?, if_pos rfl]; exact Option.some_ne_none _)
  constructor
  case current => rfl
  case directory =>
    intro l' hl'
    rw [get?_put _ _ hl]
    split
    · rfl
    · exact hl'
  case file =>
    funext l'
    rw [file?, get?_put _ _ hl]
    split
    · next heq => rw [file?, heq, h]; rfl
    · rfl

end Grown

/-- A way to a directory leads there as well if directories are kept. -/
theorem follow_eq_of_directory {t u : FileTree}
    (hkeep : ∀ {l}, t.get? l = some .directory → u.get? l = some .directory)
    {l l' : Location} {ps : List String} (h : t.follow l ps = .ok l')
    (hl' : t.get? l' = some .directory) : u.follow l ps = .ok l' := by
  induction ps generalizing l with
  | nil =>
    obtain ⟨rfl, -⟩ := follow_nil_eq_ok.1 h
    exact follow_nil_eq_ok.2 ⟨rfl, by rw [hkeep hl']; rfl⟩
  | cons p ps ih =>
    obtain ⟨hl, h⟩ := follow_cons_eq_ok.1 h
    exact follow_cons_eq_ok.2 ⟨hkeep hl, ih h⟩

/-- A path leads to the same directory if directories are kept. -/
theorem entry_eq_of_directory {t u : FileTree} (hcurrent : u.current = t.current)
    (hkeep : ∀ {l}, t.get? l = some .directory → u.get? l = some .directory)
    {path : String} {l : Location} (h : t.entry path = .ok (l, .directory)) :
    u.entry path = .ok (l, .directory) := by
  obtain ⟨hempty, hfollow, hl⟩ := entry_eq_ok.1 h
  refine entry_eq_ok.2 ⟨hempty, ?_, hkeep hl⟩
  rw [start, hcurrent]
  exact follow_eq_of_directory hkeep hfollow hl

/-- What is a directory stays one if directories are kept. -/
theorem isDirectory_of_directory {t u : FileTree} (hcurrent : u.current = t.current)
    (hkeep : ∀ {l}, t.get? l = some .directory → u.get? l = some .directory)
    {path : String} (h : t.isDirectory path = true) : u.isDirectory path = true := by
  obtain ⟨l, h⟩ := isDirectory_iff.1 h
  exact isDirectory_iff.2 ⟨l, entry_eq_of_directory hcurrent hkeep h⟩

/-- Pieces that stand for the directory they are in lead nowhere else. -/
theorem follow_current {t : FileTree} {l : Location} {ps : List String}
    (h : ∀ p ∈ ps, Path.isCurrent p = true) (hl : t.get? l = some .directory) :
    t.follow l ps = .ok l := by
  induction ps with
  | nil => exact follow_nil_eq_ok.2 ⟨rfl, by rw [hl]; rfl⟩
  | cons p ps ih =>
    obtain ⟨hp, hps⟩ := List.forall_mem_cons.1 h
    refine follow_cons_eq_ok.2 ⟨hl, ?_⟩
    rw [step, if_pos hp]
    exact ih hps

/-- What making a directory needs, and what it does. -/
theorem makeDirectory_eq_ok {t made : FileTree} {path : String} (h : t.makeDirectory path = .ok made) :
    ∃ ps name slashes l, Path.pieces path = ps ++ [name] ++ slashes ∧
      (∀ p ∈ slashes, Path.isCurrent p = true) ∧ ¬ Path.isCurrent name ∧ name ≠ ".." ∧
      t.follow (t.start path) ps = .ok l ∧ t.get? l = some .directory ∧
      t.get? (l ++ [name]) = none ∧ made = t.put (l ++ [name]) .directory := by
  simp only [makeDirectory] at h
  have hpieces := Text.dropEndWhile_append_takeWhile String.isEmpty (Path.pieces path)
  generalize Text.dropEndWhile String.isEmpty (Path.pieces path) = pieces at h hpieces
  split at h
  · contradiction
  · next name hlast =>
    split at h
    · contradiction
    · next l hfollow =>
      split at h
      · contradiction
      · next henter =>
        split at h
        · contradiction
        · next hnew =>
          obtain ⟨hcurrent, hup, hnone⟩ := by simpa only [not_or] using hnew
          obtain ⟨ps, rfl⟩ := List.getLast?_eq_some_iff.1 hlast
          rw [List.dropLast_concat] at hfollow
          refine ⟨ps, name, _, l, hpieces.symm, ?_, hcurrent, hup, hfollow,
            enter_eq_ok_iff.1 henter, Option.not_isSome_iff_eq_none.1 hnone,
            (Except.ok.inj h).symm⟩
          · intro p hp
            have hempty := List.all_eq_true.1 List.all_takeWhile p (List.mem_reverse.1 hp)
            rw [Path.isCurrent, hempty, Bool.true_or]

theorem makeDirectory_grown {t made : FileTree} {path : String} (h : t.makeDirectory path = .ok made) :
    Grown t made := by
  obtain ⟨_, _, _, _, -, -, -, -, -, -, hnone, rfl⟩ := makeDirectory_eq_ok h
  exact Grown.put hnone

/-- A directory that has been made is there. -/
theorem isDirectory_of_makeDirectory {t made : FileTree} {path : String}
    (h : t.makeDirectory path = .ok made) : made.isDirectory path = true := by
  have hgrown := makeDirectory_grown h
  obtain ⟨ps, name, slashes, l, hpieces, hslashes, hcurrent, hup, hfollow, hl, -, rfl⟩ :=
    makeDirectory_eq_ok h
  have hmade : (t.put (l ++ [name]) .directory).get? (l ++ [name]) = some .directory := by
    rw [get?_put _ _ (List.concat_ne_nil _ _), if_pos rfl]
  refine isDirectory_iff.2 ⟨l ++ [name], entry_eq_ok.2 ⟨?_, ?_, hmade⟩⟩
  · rintro hempty
    rw [String.isEmpty_iff.1 hempty] at h
    exact absurd h (by simp [makeDirectory, Path.pieces, Text.splitAt, Text.splitWhere,
      Text.dropEndWhile])
  · -- the way leads to the directory around it, by the new name, and through slashes
    rw [hpieces, hgrown.start_eq, follow_append_eq_ok]
    refine ⟨l ++ [name], follow_append_eq_ok.2 ⟨l, ?_, ?_⟩, follow_current hslashes hmade⟩
    · exact follow_eq_of_directory hgrown.directory hfollow hl
    · refine follow_cons_eq_ok.2 ⟨hgrown.directory hl, ?_⟩
      rw [step_name hcurrent hup]
      exact follow_nil_eq_ok.2 ⟨rfl, by rw [hmade]; rfl⟩

theorem ensureDirectory_grown {t made : FileTree} {path : String}
    (h : t.ensureDirectory path = .ok made) : Grown t made ∧ made.isDirectory path = true := by
  rw [ensureDirectory] at h
  split at h
  · next hthere =>
    obtain rfl := Except.ok.inj h
    exact ⟨.refl t, hthere⟩
  · exact ⟨makeDirectory_grown h, isDirectory_of_makeDirectory h⟩

theorem ensureDirectory_eq {t : FileTree} {path : String} (h : t.isDirectory path = true) :
    t.ensureDirectory path = .ok t := by
  rw [ensureDirectory, if_pos h]

/-- Whether directories can be made or not, trees only grow. -/
theorem ensureWithin_grown (t : FileTree) (paths : List String) :
    Grown t (t.ensureWithin paths).1 := by
  induction paths with
  | nil => exact .refl t
  | cons path outer ih =>
    rw [ensureWithin]
    split
    · next made h => exact (ensureDirectory_grown h).1
    · -- what is around the directory may have to be made first
      split
      · next around fault h => rw [h] at ih; exact ih
      · next around h =>
        rw [h] at ih
        split
        · next made hmade => exact ih.trans (ensureDirectory_grown hmade).1
        · exact ih
    · exact .refl t

theorem isDirectory_of_ensureWithin {t : FileTree} {path : String} {outer : List String}
    (h : (t.ensureWithin (path :: outer)).2 = .ok ()) :
    (t.ensureWithin (path :: outer)).1.isDirectory path = true := by
  rw [ensureWithin] at h ⊢
  split at h
  · next made hmade => exact (ensureDirectory_grown hmade).2
  · split at h
    · contradiction
    · next around haround =>
      split at h
      · next made hmade => exact (ensureDirectory_grown hmade).2
      · contradiction
  · contradiction

theorem ensureDirectories_grown (t : FileTree) (path : String) :
    Grown t (t.ensureDirectories path).1 := by
  rw [ensureDirectories]
  exact ensureWithin_grown t _

/-- Directories that are there are not made again. -/
theorem ensureDirectories_eq {t : FileTree} {path : String}
    (h : path.isEmpty ∨ t.isDirectory path = true) : t.ensureDirectories path = (t, .ok ()) := by
  rw [ensureDirectories]
  by_cases hempty : path.isEmpty
  · rw [if_pos hempty]
    rfl
  · rw [if_neg hempty, ensureWithin, ensureDirectory_eq (h.resolve_left hempty)]
    rfl

/-- What has been made is there. -/
theorem isDirectory_of_ensureDirectories {t : FileTree} {path : String}
    (h : (t.ensureDirectories path).2 = .ok ()) :
    path.isEmpty ∨ (t.ensureDirectories path).1.isDirectory path = true := by
  rw [ensureDirectories] at h ⊢
  by_cases hempty : path.isEmpty
  · exact .inl hempty
  · rw [if_neg hempty] at h ⊢
    refine .inr (isDirectory_of_ensureWithin ?_)
    dsimp only at h
    cases hmade : (t.ensureWithin (path :: Path.around path)).2 with
    | error fault => rw [hmade] at h; contradiction
    | ok _ => rfl

/-! ## Writing files -/

/-- Where a file is written. -/
theorem place_eq_ok {t : FileTree} {path : String} {l : Location} :
    t.place path = .ok l ↔ ∃ ps name d, Path.pieces path = ps ++ [name] ∧ ¬ Path.isCurrent name ∧
      name ≠ ".." ∧ t.follow (t.start path) ps = .ok d ∧ t.get? d = some .directory ∧
      l = d ++ [name] ∧ t.get? l ≠ some .directory := by
  constructor
  · intro h
    simp only [place] at h
    split at h
    · contradiction
    · next name hlast =>
      split at h
      · contradiction
      · next d hfollow =>
        split at h
        · contradiction
        · next henter =>
          split at h
          · contradiction
          · next hfile =>
            obtain ⟨hcurrent, hup, hfile⟩ := by simpa only [not_or] using hfile
            obtain rfl := Except.ok.inj h
            obtain ⟨ps, hpieces⟩ := List.getLast?_eq_some_iff.1 hlast
            rw [hpieces, List.dropLast_concat] at hfollow
            exact ⟨ps, name, d, hpieces, hcurrent, hup, hfollow, enter_eq_ok_iff.1 henter, rfl, hfile⟩
  · rintro ⟨ps, name, d, hpieces, hcurrent, hup, hfollow, hd, rfl, hfile⟩
    simp only [place, hpieces, List.getLast?_concat, List.dropLast_concat, hfollow,
      enter_eq_ok_iff.2 hd]
    rw [if_neg (by simpa only [not_or] using ⟨hcurrent, hup, hfile⟩)]

/-- A file is written where its path leads. -/
theorem eq_destination_of_place {t : FileTree} {path : String} {l : Location}
    (h : t.place path = .ok l) : l = destination t.current path := by
  obtain ⟨ps, name, d, hpieces, hcurrent, hup, hfollow, -, rfl, -⟩ := place_eq_ok.1 h
  have hd : d = ps.foldl step (t.start path) := (eq_lead_of_follow hfollow).1
  rw [destination, ← start, hpieces, lead, List.foldl_append, ← hd, List.foldl_cons, List.foldl_nil,
    step_name hcurrent hup]

/-- What writing a file does: the file is replaced or new, the path leads to it, no directory is lost,
and to write it again changes nothing. -/
structure Written (before after : FileTree) (path : String) (content : List Char) : Prop where
  current : after.current = before.current
  directory : ∀ {l}, before.get? l = some .directory → after.get? l = some .directory
  file : after.file? =
    Function.update before.file? (destination before.current path) (some (.text content))
  text : after.readText path = .ok content
  again : after.write path content = .ok after

theorem write_eq {t after : FileTree} {path : String} {content : List Char}
    (h : t.write path content = .ok after) : Written t after path content := by
  rw [write] at h
  split at h
  · next l hplace =>
    obtain rfl := Except.ok.inj h
    have hl := eq_destination_of_place hplace
    obtain ⟨ps, name, d, hpieces, hcurrent, hup, hfollow, hd, hname, hfile⟩ := place_eq_ok.1 hplace
    have hne : l ≠ [] := by rw [hname]; exact List.concat_ne_nil _ _
    have hself : (t.put l (.text content)).get? l = some (.text content) := by
      rw [get?_put _ _ hne, if_pos rfl]
    -- the file does not stand on the way to itself, since no directory is replaced
    have hkeep : ∀ {l'}, t.get? l' = some .directory →
        (t.put l (.text content)).get? l' = some .directory := by
      intro l' hl'
      rw [get?_put _ _ hne, if_neg (by rintro rfl; exact hfile hl'), hl']
    have hway : (t.put l (.text content)).follow (t.start path) ps = .ok d :=
      follow_eq_of_directory hkeep hfollow hd
    constructor
    case current => rfl
    case directory => exact hkeep
    case file => rw [← hl]; exact file?_put t content hne
    case text =>
      have hfollow : (t.put l (.text content)).follow (t.start path) (Path.pieces path) = .ok l := by
        rw [hpieces, follow_append_eq_ok]
        refine ⟨d, hway, follow_cons_eq_ok.2 ⟨hkeep hd, ?_⟩⟩
        rw [step_name hcurrent hup, ← hname]
        exact follow_nil_eq_ok.2 ⟨rfl, by rw [hself]; rfl⟩
      have hempty : ¬ path.isEmpty := by
        intro hempty
        rw [String.isEmpty_iff.1 hempty] at hpieces
        have hlast := congrArg List.getLast? hpieces
        rw [List.getLast?_concat] at hlast
        obtain rfl : "" = name := Option.some.inj hlast
        exact hcurrent rfl
      rw [readText, entry_eq_ok.2 ⟨hempty, hfollow, hself⟩]
    case again =>
      have hplace' : (t.put l (.text content)).place path = .ok l := by
        refine place_eq_ok.2 ⟨ps, name, d, hpieces, hcurrent, hup, hway, hkeep hd, hname, ?_⟩
        rw [hself]
        exact fun heq => absurd (Option.some.inj heq) nofun
      rw [write, hplace']
      exact congrArg _ (put_put t l _)
  · contradiction

end ProviderGlue.FileTree
