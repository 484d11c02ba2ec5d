import ProviderGlue.Generation
import ProviderGlue.Proofs.FileTree

/-!
# What a generation does to files

A generation fails before it touches a file, whatever fails: what is to be written, the directory, or
the place of the file.  Otherwise one file is new or replaced.  So in a sequence of generations the files
that each one meets are what the successful ones before it have left.

## Key results

- `Generated.write_failed`, `Generated.write_done`: what writing a generated file does
- `Generation.perform_atomic`: all or nothing, for one generation and for sequences of them
-/

namespace ProviderGlue

open FileTree

theorem Formatter.succeeds_iff {f : Formatter} {path : String} :
    f.succeeds path = true ↔ f.format path = .ok () := by
  rw [succeeds]
  split <;> simp_all

/-! ## Writing a generated file -/

namespace Generated

variable {tree after : FileTree} {formatter : Formatter} {directory file text : String} {g : Generated}

/-- If the file is not written, no file is. -/
theorem write_failed {e : Failure}
    (h : write tree formatter directory file text = (after, .error e)) :
    after.current = tree.current ∧ after.file? = tree.file? := by
  have hgrown := ensureDirectories_grown tree directory
  rw [write] at h
  split at h
  · next made e' hmade =>
    rw [hmade] at hgrown
    obtain ⟨rfl, -⟩ := Prod.mk.inj h
    exact ⟨hgrown.current, hgrown.file⟩
  · next made hmade =>
    rw [hmade] at hgrown
    dsimp only at h
    split at h
    · obtain ⟨rfl, -⟩ := Prod.mk.inj h
      exact ⟨hgrown.current, hgrown.file⟩
    · exact absurd (Prod.mk.inj h).2 nofun

/-- What a file is like that has been written and perhaps formatted. -/
structure Done (tree after : FileTree) (formatter : Formatter) (directory file text : String)
    (g : Generated) : Prop where
  /-- It is reported where it is asked for. -/
  path : g.path = Path.join directory file
  /-- It is formatted if the formatter says so. -/
  formatted : g.isFormatted = true ↔ formatter.format g.path = .ok ()
  current : after.current = tree.current
  /-- It is the only file that changes. -/
  files : after.file? =
    Function.update tree.file? (destination tree.current g.path) (some (.text text.toList))
  /-- It can be read where it is reported. -/
  content : after.readText g.path = .ok text.toList
  /-- To write it again changes nothing. -/
  again : Generated.write after formatter directory file text = (after, .ok g)

/-- What writing a file does. -/
theorem write_done (h : write tree formatter directory file text = (after, .ok g)) :
    Done tree after formatter directory file text g := by
  have hgrown := ensureDirectories_grown tree directory
  have hthere : (tree.ensureDirectories directory).2 = .ok () →
      directory.isEmpty ∨ (tree.ensureDirectories directory).1.isDirectory directory = true :=
    isDirectory_of_ensureDirectories
  rw [write] at h
  split at h
  · exact absurd (Prod.mk.inj h).2 nofun
  · next made hmade =>
    rw [hmade] at hgrown hthere
    dsimp only at h
    split at h
    · exact absurd (Prod.mk.inj h).2 nofun
    · next written hwritten =>
      obtain ⟨rfl, hg⟩ := Prod.mk.inj h
      obtain rfl := Except.ok.inj hg
      have hfile := write_eq hwritten
      constructor
      case path => rfl
      case formatted => exact Formatter.succeeds_iff
      case current => exact hfile.current.trans hgrown.current
      case files =>
        rw [hfile.file, hgrown.file, hgrown.current]
      case content => exact hfile.text
      case again =>
        -- the directory is still there, and so is the file
        have hdirectory : directory.isEmpty ∨ written.isDirectory directory = true :=
          (hthere rfl).imp_right (isDirectory_of_directory hfile.current hfile.directory)
        simp only [write, ensureDirectories_eq hdirectory, hfile.again]

end Generated

/-! ## Generations -/

/-- What is to be generated from a model. -/
inductive Target where
  | client
  | dataSource (method : String) (package : Option String)

/-- A request for a file. -/
structure Generation where
  settings : Settings
  formatter : Formatter
  model : Model
  /-- The directory for the package of the file. -/
  directory : String
  target : Target

/-- A file that is to be written. -/
structure Rendered where
  /-- The package, and the name of its directory. -/
  package : String
  /-- The name of the file. -/
  file : String
  text : String

namespace Generation

/-- The file that is asked for. -/
def rendered (r : Generation) : Except Failure Rendered :=
  match r.target with
  | .client => (Client.ofModel r.settings r.model).map fun c => ⟨c.token, c.token ++ ".go", c.text⟩
  | .dataSource method package =>
    (DataSource.ofModel r.settings r.model method package).map fun d =>
      ⟨d.names.package, d.names.file, d.text⟩

/-- Generates the file that is asked for. -/
def perform (r : Generation) (tree : FileTree) : FileTree × Except Failure Generated :=
  match r.target with
  | .client => Generated.client r.settings tree r.formatter r.model r.directory
  | .dataSource method package =>
    Generated.dataSource r.settings tree r.formatter r.model r.directory method package

/-- Generates files one after another, whether some of them fail or not. -/
def performAll (tree : FileTree) : List Generation → FileTree × List (Except Failure Generated)
  | [] => (tree, [])
  | r :: rs =>
    let (after, outcome) := r.perform tree
    let (last, outcomes) := performAll after rs
    (last, outcome :: outcomes)

/-- Both generators render a file, and write it into the directory of its package. -/
theorem perform_eq (r : Generation) (tree : FileTree) :
    r.perform tree = match r.rendered with
      | .error e => (tree, .error e)
      | .ok f => Generated.write tree r.formatter (Path.join r.directory f.package) f.file f.text := by
  rw [perform, rendered]
  cases r.target with
  | client =>
    simp only [Generated.client]
    cases Client.ofModel r.settings r.model <;> simp only [Except.map]
  | dataSource method package =>
    simp only [Generated.dataSource]
    cases DataSource.ofModel r.settings r.model method package <;> simp only [Except.map]

/-- What a generation makes of a tree. -/
inductive Effect (r : Generation) (tree : FileTree) : FileTree → Except Failure Generated → Prop
  /-- It fails, and no file changes. -/
  | failed {after : FileTree} (e : Failure) (current : after.current = tree.current)
      (files : after.file? = tree.file?) : Effect r tree after (.error e)
  /-- It writes the file that is rendered, and would do so again. -/
  | done {after : FileTree} {g : Generated} (f : Rendered) (rendered : r.rendered = .ok f)
      (written : Generated.Done tree after r.formatter (Path.join r.directory f.package) f.file f.text g)
      (again : r.perform after = (after, .ok g)) : Effect r tree after (.ok g)

theorem perform_effect (r : Generation) (tree : FileTree) :
    Effect r tree (r.perform tree).1 (r.perform tree).2 := by
  cases hrendered : r.rendered with
  | error e =>
    rw [perform_eq, hrendered]
    exact .failed e rfl rfl
  | ok f =>
    have heq : ∀ t, r.perform t =
        Generated.write t r.formatter (Path.join r.directory f.package) f.file f.text := by
      intro t
      rw [perform_eq, hrendered]
    rw [heq]
    cases hwrite : Generated.write tree r.formatter (Path.join r.directory f.package) f.file f.text with
    | mk after outcome =>
      cases outcome with
      | error e => exact .failed e (Generated.write_failed hwrite).1 (Generated.write_failed hwrite).2
      | ok g =>
        have hdone := Generated.write_done hwrite
        exact .done f hrendered hdone ((heq after).trans hdone.again)

/-- The files after some generations: those that fail leave them to the next one as they are, and the
others write what they render. -/
inductive Effects (current : Location) : List Generation → (Location → Option Entry) →
    List (Except Failure Generated) → (Location → Option Entry) → Prop
  | nil {files : Location → Option Entry} : Effects current [] files [] files
  | failed {r : Generation} {rs : List Generation} {files last : Location → Option Entry} {e : Failure}
      {outcomes : List (Except Failure Generated)} (later : Effects current rs files outcomes last) :
      Effects current (r :: rs) files (.error e :: outcomes) last
  | done {r : Generation} {rs : List Generation} {files last : Location → Option Entry} {g : Generated}
      {outcomes : List (Except Failure Generated)} (f : Rendered) (rendered : r.rendered = .ok f)
      (path : g.path = Path.join (Path.join r.directory f.package) f.file)
      (later : Effects current rs
        (Function.update files (destination current g.path) (some (.text f.text.toList))) outcomes last) :
      Effects current (r :: rs) files (.ok g :: outcomes) last

theorem performAll_effects (rs : List Generation) (tree : FileTree) :
    Effects tree.current rs tree.file? (performAll tree rs).2 (performAll tree rs).1.file? := by
  induction rs generalizing tree with
  | nil => exact .nil
  | cons r rs ih =>
    have hfirst := perform_effect r tree
    rw [performAll]
    generalize r.perform tree = result at hfirst
    obtain ⟨after, outcome⟩ := result
    have hlater := ih after
    cases hfirst with
    | failed e current files =>
      rw [current, files] at hlater
      exact .failed hlater
    | done f rendered written again =>
      rw [written.current, written.files] at hlater
      exact .done f rendered written.path hlater

/-- **All or nothing**: for every tree a generation either fails and leaves all files as they are, or
writes exactly the file that it renders, at the place that it reports, and would do the same again; and
in every sequence of generations each one meets the files that the successful ones before it have
left. -/
theorem perform_atomic (tree : FileTree) :
    (∀ r : Generation, Effect r tree (r.perform tree).1 (r.perform tree).2) ∧
    ∀ rs : List Generation,
      Effects tree.current rs tree.file? (performAll tree rs).2 (performAll tree rs).1.file? :=
  ⟨fun r => perform_effect r tree, fun rs => performAll_effects rs tree⟩

end Generation

end ProviderGlue
