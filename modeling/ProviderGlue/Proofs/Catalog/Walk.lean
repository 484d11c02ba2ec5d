import Mathlib.Data.List.Forall2
import Mathlib.Data.List.Induction
import ProviderGlue.Catalog.Build
import ProviderGlue.Proofs.FileTree
import ProviderGlue.Proofs.Table
import ProviderGlue.Proofs.Text.Order

/-!
# Catalogs of directories

The files below a directory are read in the order of their names, so what a catalog holds depends on
nothing but the source files that can be read: of structs with one name the last one is kept, methods
are kept in their order, and the constants of all files make the enumerations.  That is so however a
single file is read.

## Key results

- `mem_filesBelow_iff`, `pairwise_filesBelow`: the files below a directory, in order
- `holds_ofFiles`: what the catalog of source files holds
- `ofDirectory_walked`: the catalog of a directory, which files that are passed over do not change
-/

namespace ProviderGlue

/-! ## Files in order -/

namespace FileTree

/-- An entry stands below a location if it adds names to it. -/
theorem below_eq_some_iff {root m l : Location} {e e' : Entry} :
    (if m.take root.length = root ∧ m.length > root.length ∧ e ≠ .directory then
      some (m.drop root.length, e) else none) = some (l, e') ↔
      m = root ++ l ∧ l ≠ [] ∧ e' ≠ .directory ∧ e = e' := by
  constructor
  · intro h
    split at h
    · next hbelow =>
      obtain ⟨htake, hlength, hfile⟩ := hbelow
      obtain ⟨rfl, rfl⟩ := Prod.mk.inj (Option.some.inj h)
      refine ⟨?_, List.ne_nil_of_length_pos (by rw [List.length_drop]; omega), hfile, rfl⟩
      conv_lhs => rw [← List.take_append_drop root.length m, htake]
    · contradiction
  · rintro ⟨rfl, hl, hfile, rfl⟩
    have hlength := List.length_pos_of_ne_nil hl
    rw [if_pos ⟨List.take_left, by rw [List.length_append]; omega, hfile⟩, List.drop_left]

/-- The files below a location are all entries there but the directories. -/
theorem mem_filesBelow_iff {t : FileTree} {root l : Location} {e : Entry} :
    (l, e) ∈ t.filesBelow root ↔ l ≠ [] ∧ e ≠ .directory ∧ t.get? (root ++ l) = some e := by
  rw [filesBelow, (List.mergeSort_perm _ _).mem_iff, List.mem_filterMap]
  simp only [Prod.exists, below_eq_some_iff]
  constructor
  · rintro ⟨m, e', hmem, rfl, hl, hfile, rfl⟩
    exact ⟨hl, hfile, (mem_entries_iff (List.append_ne_nil_of_right_ne_nil root hl)).1 hmem⟩
  · rintro ⟨hl, hfile, hget⟩
    exact ⟨root ++ l, e, (mem_entries_iff (List.append_ne_nil_of_right_ne_nil root hl)).2 hget, rfl, hl,
      hfile, rfl⟩

/-- They stand in the order of their names, the nearest directories first. -/
theorem pairwise_filesBelow (t : FileTree) (root : Location) :
    (t.filesBelow root).Pairwise (·.1 < ·.1) := by
  have hsorted : (t.filesBelow root).Pairwise fun a b => a.1 ≤ b.1 :=
    Text.pairwise_mergeSort_rank (fun _ _ => Text.notBehind_iff) _
  have hdistinct : (t.filesBelow root).Pairwise fun a b => a.1 ≠ b.1 := by
    rw [filesBelow, (List.mergeSort_perm _ _).pairwise_iff fun h => Ne.symm h]
    refine List.Pairwise.filterMap _ ?_ (List.pairwise_map.1 t.distinct)
    -- entries below one location differ in what follows
    rintro ⟨m, e⟩ ⟨m', e'⟩ hne ⟨l, _⟩ hl ⟨l', _⟩ hl' rfl
    exact hne ((below_eq_some_iff.1 hl).1.trans (below_eq_some_iff.1 hl').1.symm)
  exact hsorted.imp₂ (fun _ _ => lt_of_le_of_ne) hdistinct

end FileTree

namespace Catalog

open Text FileTree

/-! ## Source files -/

/-- A file of that name is read if the name ends in `.go`, but not in `_test.go`. -/
theorem isSourceName_iff {name : String} :
    isSourceName name = true ↔ ".go".toList <:+ name.toList ∧ ¬ "_test.go".toList <:+ name.toList := by
  have hends : ∀ ending : List Char, endsWith ending name.toList = true ↔ ending <:+ name.toList := by
    intro ending
    rw [endsWith, Option.isSome_iff_exists]
    exact exists_congr fun rest => by rw [beforeSuffix?_eq_some_iff, eq_comm]
  rw [isSourceName, Bool.and_eq_true, hends, Bool.not_eq_true', ← Bool.not_eq_true, hends]

variable {read : Go.SourceFile.Reader}

/-- What is read off the file at a place below a location. -/
structure Parsed (read : Go.SourceFile.Reader) (t : FileTree) (root l : Location)
    (f : Go.SourceFile) : Prop where
  /-- The file is named as a source file, and not as a test. -/
  named : ∃ name, l.getLast? = some name ∧ ".go".toList <:+ name.toList ∧
    ¬ "_test.go".toList <:+ name.toList
  /-- It holds a text without syntax errors. -/
  text : ∃ content, t.get? (root ++ l) = some (.text content) ∧
    read ("/".intercalate l) content = some f

theorem sourceFile?_eq_some_iff {l : Location} {e : Entry} {f : Go.SourceFile} :
    sourceFile? read l e = some f ↔ ∃ content name, e = .text content ∧ l.getLast? = some name ∧
      isSourceName name = true ∧ read ("/".intercalate l) content = some f := by
  cases e with
  | directory => simp [sourceFile?]
  | binary => simp [sourceFile?]
  | text content => cases hlast : l.getLast? <;> simp [sourceFile?, hlast]

/-- The source files below a location that can be read, in the order of the walk. -/
def walk (read : Go.SourceFile.Reader) (t : FileTree) (root : Location) :
    List (Location × Go.SourceFile) :=
  (t.filesBelow root).filterMap fun (l, e) => (sourceFile? read l e).map (l, ·)

theorem mem_walk_iff_get? {t : FileTree} {root l : Location} {f : Go.SourceFile} :
    (l, f) ∈ walk read t root ↔
      l ≠ [] ∧ (t.get? (root ++ l)).bind (sourceFile? read l) = some f := by
  simp only [walk, List.mem_filterMap, Option.map_eq_some_iff, Prod.exists, mem_filesBelow_iff,
    Option.bind_eq_some_iff]
  constructor
  · rintro ⟨l', e, ⟨hl, -, hget⟩, f', hsource, heq⟩
    obtain ⟨rfl, rfl⟩ := Prod.mk.inj heq
    exact ⟨hl, e, hget, hsource⟩
  · rintro ⟨hl, e, hget, hsource⟩
    refine ⟨l, e, ⟨hl, ?_, hget⟩, f, hsource, rfl⟩
    -- a directory is no source file
    rintro rfl
    contradiction

theorem mem_walk_iff {t : FileTree} {root l : Location} {f : Go.SourceFile} :
    (l, f) ∈ walk read t root ↔ Parsed read t root l f := by
  rw [mem_walk_iff_get?, Option.bind_eq_some_iff]
  simp only [sourceFile?_eq_some_iff, isSourceName_iff]
  constructor
  · rintro ⟨-, e, hget, content, name, rfl, hlast, hname, hread⟩
    exact ⟨⟨name, hlast, hname⟩, content, hget, hread⟩
  · rintro ⟨⟨name, hlast, hname⟩, content, hget, hread⟩
    refine ⟨?_, .text content, hget, content, name, rfl, hlast, hname, hread⟩
    rintro rfl
    contradiction

theorem pairwise_walk (read : Go.SourceFile.Reader) (t : FileTree) (root : Location) :
    (walk read t root).Pairwise (·.1 < ·.1) := by
  refine List.Pairwise.filterMap _ ?_ (pairwise_filesBelow t root)
  rintro ⟨l, e⟩ ⟨l', e'⟩ hlt b hb b' hb'
  obtain ⟨f, -, rfl⟩ := Option.map_eq_some_iff.1 hb
  obtain ⟨f', -, rfl⟩ := Option.map_eq_some_iff.1 hb'
  exact hlt

/-- The catalog of a directory is that of the source files on the walk. -/
theorem ofDirectoryWith_eq {t : FileTree} {path : String} {root : Location}
    (h : t.entry path = .ok (root, .directory)) :
    ofDirectoryWith read t path = .ok (ofFiles ((walk read t root).map (·.2))) := by
  have hfiles : (walk read t root).map (·.2) =
      (t.filesBelow root).filterMap fun (l, e) => sourceFile? read l e := by
    rw [walk, List.map_filterMap]
    congr 1
    funext ⟨l, e⟩
    exact Option.map_map .. |>.trans Option.map_id'
  rw [ofDirectoryWith, h, hfiles]

/-- Trees with the same source files below a location are walked alike. -/
theorem walk_congr {t u : FileTree} {root : Location}
    (h : ∀ l, l ≠ [] → (t.get? (root ++ l)).bind (sourceFile? read l) =
      (u.get? (root ++ l)).bind (sourceFile? read l)) :
    walk read t root = walk read u root := by
  refine eq_of_strictly_sorted (r := fun a b => a.1 < b.1) (fun a => List.lt_irrefl a.1)
    (fun hab hbc => List.lt_trans hab hbc) (pairwise_walk read t root) (pairwise_walk read u root) ?_
  rintro ⟨l, f⟩
  rw [mem_walk_iff_get?, mem_walk_iff_get?]
  exact and_congr_right fun hl => by rw [h l hl]

/-- A file that is not read. -/
def PassedOver (read : Go.SourceFile.Reader) (l : Location) (e : Entry) : Prop :=
  e ≠ .directory ∧ sourceFile? read l e = none

/-! ## Declarations -/

/-- The structs of source files are put into a table one after another. -/
theorem types_foldl_insert (ss : List Go.Struct) (c : Catalog) :
    (ss.foldl insert c).types = (ss.map fun s => (s.name, s)).foldl (fun t e => t.insert e.1 e.2) c.types := by
  induction ss generalizing c with
  | nil => rfl
  | cons s ss ih => exact ih (c.insert s)

/-- How a constant of a type is named in its enumeration. -/
def Symbol (type constant symbol : String) : Prop :=
  constant.toList = (onChars uppercase type ++ "_").toList ++ symbol.toList ∨
    ¬ (onChars uppercase type ++ "_").toList <+: constant.toList ∧ symbol = constant

theorem symbolOf_spec (type constant : String) : Symbol type constant (symbolOf type constant) := by
  rw [symbolOf]
  split
  · next rest h =>
    rw [afterPrefix?_eq_some_iff] at h
    exact .inl (by rw [String.toList_ofList]; exact h)
  · next h =>
    refine .inr ⟨?_, rfl⟩
    rintro ⟨rest, hrest⟩
    rw [afterPrefix?_eq_some_iff.2 hrest.symm] at h
    contradiction

/-- The variant of a constant. -/
def VariantOf (type : String) (c : Go.Constant) (v : Variant) : Prop :=
  v.ordinal = c.value ∧ Symbol type c.name v.name

/-- The constants of a type in all files. -/
def constantsOf (files : List Go.SourceFile) (type : String) : List Go.Constant :=
  (files.flatMap (·.constants)).filter (·.type == type)

/-- The enumeration of a type. -/
structure EnumerationOf (files : List Go.SourceFile) (type : String) (e : Enumeration) : Prop where
  name : e.name = type
  /-- It belongs to the last file that declares the type. -/
  file : (files.filter (type ∈ ·.integerTypes)).getLast?.map (·.path) = some e.file
  /-- It has one variant for each constant, in their order. -/
  variants : List.Forall₂ (VariantOf type) (constantsOf files type) e.variants

/-- What a catalog of source files holds. -/
structure Holds (files : List Go.SourceFile) (c : Catalog) : Prop where
  /-- Of structs with one name, the last one. -/
  types : ∀ name, c.types.get? name = ((files.flatMap (·.structs)).filter (·.name = name)).getLast?
  methods : c.methods = files.flatMap (·.methods)
  /-- The enumerations of all integer types that have constants. -/
  enums : ∀ type, (∃ e, c.enums.get? type = some e) ↔
    (∃ f ∈ files, type ∈ f.integerTypes) ∧ constantsOf files type ≠ []
  enumeration : ∀ type e, c.enums.get? type = some e → EnumerationOf files type e

theorem types_ofFiles (files : List Go.SourceFile) (name : String) :
    (ofFiles files).types.get? name =
      ((files.flatMap (·.structs)).filter (·.name = name)).getLast? := by
  rw [ofFiles, types_foldl_insert]
  show (Table.ofList _).get? name = _
  rw [Table.get?_ofList, List.filter_map, List.getLast?_map, Option.map_map]
  exact Option.map_id'

/-- The enumeration of a type in a file that declares it. -/
def enumerationIn (files : List Go.SourceFile) (type path : String) : Enumeration :=
  ⟨type, path, (constantsOf files type).map fun c => ⟨symbolOf type c.name, c.value⟩⟩

theorem enumeration?_eq (files : List Go.SourceFile) (type path : String) :
    enumeration? (files.flatMap (·.constants)) type path =
      if constantsOf files type = [] then none else some (enumerationIn files type path) := by
  rw [enumeration?, enumerationIn, constantsOf]
  split
  · next h => rw [if_pos h]
  · next hne => rw [if_neg hne]

theorem enumerationOf_enumerationIn {files : List Go.SourceFile} {type path : String}
    (h : (files.filter (type ∈ ·.integerTypes)).getLast?.map (·.path) = some path) :
    EnumerationOf files type (enumerationIn files type path) where
  name := rfl
  file := h
  variants := by
    rw [enumerationIn, List.forall₂_map_right_iff]
    exact List.forall₂_same.2 fun c _ => ⟨rfl, symbolOf_spec type c.name⟩

/-- An enumeration is found under the name of its type. -/
theorem filter_enumeration? (files : List Go.SourceFile) (type name path : String) :
    (enumeration? (files.flatMap (·.constants)) name path).filter (·.name = type) =
      if name = type then enumeration? (files.flatMap (·.constants)) type path else none := by
  rw [enumeration?_eq, enumeration?_eq]
  by_cases hname : name = type
  · subst hname
    split <;> simp [enumerationIn]
  · split <;> simp [enumerationIn, hname]

theorem getLast?_hits {α : Type} (type : String) (a : α) (names : List String) :
    (names.filterMap fun name => if name = type then some a else none).getLast? =
      if type ∈ names then some a else none := by
  induction names using List.reverseRecOn with
  | nil => rfl
  | append_singleton names name ih =>
    rw [List.filterMap_append, List.getLast?_append, ih]
    by_cases hname : name = type
    · simp [hname]
    · simp [hname, Ne.symm hname]

/-- The last enumeration of a type belongs to the last file that declares the type. -/
theorem getLast?_declared {α : Type} (type : String) (make : (path : String) → α)
    (files : List Go.SourceFile) :
    (files.flatMap fun f => f.integerTypes.filterMap fun name =>
      if name = type then some (make f.path) else none).getLast? =
      (files.filter (type ∈ ·.integerTypes)).getLast?.map fun f => make f.path := by
  induction files using List.reverseRecOn with
  | nil => rfl
  | append_singleton files f ih =>
    rw [List.flatMap_append, List.flatMap_singleton, List.getLast?_append, ih, getLast?_hits,
      List.filter_append, List.getLast?_append]
    by_cases h : type ∈ f.integerTypes <;> simp [h]

theorem enums_ofFiles (files : List Go.SourceFile) (type : String) :
    (ofFiles files).enums.get? type =
      if constantsOf files type = [] then none
      else (files.filter (type ∈ ·.integerTypes)).getLast?.map fun f => enumerationIn files type f.path := by
  show (enumerations files).get? type = _
  rw [enumerations, Table.get?_ofList, List.filter_map, List.getLast?_map, Option.map_map]
  refine Option.map_id'.trans ?_
  simp only [Function.comp_def, List.filter_flatMap, List.filter_filterMap, filter_enumeration?]
  simp only [enumeration?_eq]
  split
  · simp
  · exact getLast?_declared type _ files

theorem holds_ofFiles (files : List Go.SourceFile) : Holds files (ofFiles files) := by
  constructor
  case types => exact types_ofFiles files
  case methods => rfl
  case enums =>
    intro type
    rw [enums_ofFiles]
    split
    · next h => simp [h]
    · next h =>
      rw [and_iff_left h, ← Option.isSome_iff_exists, Option.isSome_map, List.getLast?_isSome]
      simp [List.filter_eq_nil_iff]
  case enumeration =>
    intro type e h
    rw [enums_ofFiles] at h
    split at h
    · contradiction
    · obtain ⟨f, hf, rfl⟩ := Option.map_eq_some_iff.1 h
      exact enumerationOf_enumerationIn (by rw [hf]; rfl)

/-! ## Catalogs of directories -/

/-- What the catalog of a directory holds: what the source files declare that can be read, in the order
of the walk. -/
structure Cataloged (read : Go.SourceFile.Reader) (t : FileTree) (root : Location)
    (files : List (Location × Go.SourceFile)) (c : Catalog) : Prop where
  sorted : files.Pairwise (·.1 < ·.1)
  parsed : ∀ l f, (l, f) ∈ files ↔ Parsed read t root l f
  holds : Holds (files.map (·.2)) c

theorem cataloged_walk (read : Go.SourceFile.Reader) (t : FileTree) (root : Location) :
    Cataloged read t root (walk read t root) (ofFiles ((walk read t root).map (·.2))) where
  sorted := pairwise_walk read t root
  parsed _ _ := mem_walk_iff
  holds := holds_ofFiles _

/-- A path leads to the same directory if a file is put in place of another one, or taken away. -/
theorem entry_eq_of_file {t u : FileTree} {path : String} {root l : Location} {e : Entry}
    (hcurrent : u.current = t.current) (hother : ∀ m, m ≠ l → u.get? m = t.get? m)
    (hfile : t.get? l = some e) (he : e ≠ .directory) (h : t.entry path = .ok (root, .directory)) :
    u.entry path = .ok (root, .directory) := by
  refine entry_eq_of_directory hcurrent (fun {m} hm => ?_) h
  rw [hother m, hm]
  rintro rfl
  exact he (Option.some.inj (hfile.symm.trans hm))

/-- The catalog of a directory does not depend on a file that is passed over. -/
theorem ofDirectoryWith_eq_of_passedOver {t u : FileTree} {path : String} {root l : Location}
    {e : Entry} (hcurrent : u.current = t.current)
    (hother : ∀ m, m ≠ root ++ l → u.get? m = t.get? m) (hfile : t.get? (root ++ l) = some e)
    (he : PassedOver read l e) (hpassed : ∀ e' ∈ u.get? (root ++ l), PassedOver read l e')
    (h : t.entry path = .ok (root, .directory)) :
    ofDirectoryWith read u path = ofDirectoryWith read t path := by
  rw [ofDirectoryWith_eq h, ofDirectoryWith_eq (entry_eq_of_file hcurrent hother hfile he.1 h),
    walk_congr fun m _ => ?_]
  by_cases hm : m = l
  · subst hm
    rw [hfile, Option.bind_some, he.2]
    exact Option.bind_eq_none_iff.2 fun e' he' => (hpassed e' he').2
  · rw [hother]
    exact fun heq => hm (List.append_cancel_left heq)

/-- **Catalogs of directories**: however source files are read, the catalog of a directory holds, of all
structs with one name in source files that can be read, the last one on the walk, all their methods in
the order of the walk, and an enumeration for each integer type that has constants anywhere; and a file
that is passed over may be taken away, or replaced by another one that is passed over. -/
theorem ofDirectory_walked {t : FileTree} {path : String} {root : Location}
    (h : t.entry path = .ok (root, .directory)) (read : Go.SourceFile.Reader) :
    ∃ files c, ofDirectoryWith read t path = .ok c ∧ Cataloged read t root files c ∧
      ∀ l e, t.get? (root ++ l) = some e → PassedOver read l e →
        ofDirectoryWith read (t.remove (root ++ l)) path = .ok c ∧
        ∀ e', PassedOver read l e' → ofDirectoryWith read (t.put (root ++ l) e') path = .ok c := by
  refine ⟨walk read t root, _, ofDirectoryWith_eq h, cataloged_walk read t root,
    fun l e hfile he => ?_⟩
  have hne : root ++ l ≠ [] := by
    intro hnil
    rw [hnil, get?, if_pos rfl] at hfile
    exact he.1 (Option.some.inj hfile).symm
  rw [← ofDirectoryWith_eq h]
  constructor
  · refine ofDirectoryWith_eq_of_passedOver rfl (fun m hm => ?_) hfile he ?_ h
    · rw [get?_remove _ hne, if_neg hm]
    · rw [get?_remove _ hne, if_pos rfl]
      exact fun e' he' => absurd he' (Option.not_mem_none e')
  · intro e' he'
    refine ofDirectoryWith_eq_of_passedOver rfl (fun m hm => ?_) hfile he ?_ h
    · rw [get?_put _ _ hne, if_neg hm]
    · rw [get?_put _ _ hne, if_pos rfl]
      exact fun _ heq => Option.some.inj heq ▸ he'

/-- A source file with a struct and with constants of a type that it does not declare. -/
def symbolsText : List Char :=
  "package a\n\ntype Widget struct \x7b\n\tName string\n\x7d\n\nconst STATUS_QUEUED Status = 2\n".toList

/-- One that declares the type, and another struct of the same name. -/
def statusText : List Char :=
  "package a\n\ntype Status int\n\ntype Widget struct \x7b\n\tLabel string\n\x7d\n".toList

/-- A directory with these source files, one with a syntax error, a test and a file that holds no text. -/
def mixedTree : FileTree :=
  ({} : FileTree).put ["d"] .directory
    |>.put ["d", "e.go"] .binary
    |>.put ["d", "c_test.go"] (.text symbolsText)
    |>.put ["d", "broken.go"] (.text "package".toList)
    |>.put ["d", "b.go"] (.text statusText)
    |>.put ["d", "a.go"] (.text symbolsText)

/-- The later struct is kept, and the type has the constant of the other file. -/
theorem ofDirectory_walked_mixedTree :
    mixedTree.entry "/d" = .ok (["d"], .directory) ∧
      mixedTree.get? ["d", "c_test.go"] = some (.text symbolsText) ∧
      PassedOver Go.SourceFile.read? ["c_test.go"] (.text symbolsText) ∧
      PassedOver Go.SourceFile.read? ["c_test.go"] .binary ∧
      ∃ files c, ofDirectoryWith Go.SourceFile.read? mixedTree "/d" = .ok c ∧
        Cataloged Go.SourceFile.read? mixedTree ["d"] files c ∧
        c.types.values = [⟨"Widget", [⟨"Label", "string", ""⟩], "b.go", ∅⟩] ∧
        c.enums.values = [⟨"Status", "b.go", [⟨"QUEUED", 2⟩]⟩] ∧
        ofDirectoryWith Go.SourceFile.read? (mixedTree.remove ["d", "c_test.go"]) "/d" = .ok c ∧
        ofDirectoryWith Go.SourceFile.read? (mixedTree.put ["d", "c_test.go"] .binary) "/d" =
          .ok c := by
  have hentry : mixedTree.entry "/d" = .ok (["d"], .directory) := by decide +kernel
  have hget : mixedTree.get? ["d", "c_test.go"] = some (.text symbolsText) := by decide +kernel
  have htest : PassedOver Go.SourceFile.read? ["c_test.go"] (.text symbolsText) :=
    ⟨nofun, by decide +kernel⟩
  have hbinary : PassedOver Go.SourceFile.read? ["c_test.go"] .binary := ⟨nofun, rfl⟩
  have hbelow : mixedTree.filesBelow ["d"] =
      [(["a.go"], .text symbolsText), (["b.go"], .text statusText),
        (["broken.go"], .text "package".toList), (["c_test.go"], .text symbolsText),
        (["e.go"], .binary)] := by
    rw [filesBelow, List.mergeSort_of_pairwise (by decide +kernel)]
    decide +kernel
  have hholds : (ofDirectoryWith Go.SourceFile.read? mixedTree "/d").toOption.map
      (fun c => (c.types.values, c.enums.values)) =
      some ([⟨"Widget", [⟨"Label", "string", ""⟩], "b.go", ∅⟩],
        [⟨"Status", "b.go", [⟨"QUEUED", 2⟩]⟩]) := by
    rw [ofDirectoryWith, hentry]
    simp only [hbelow]
    decide +kernel
  obtain ⟨files, c, hcatalog, hcataloged, hpassed⟩ :=
    ofDirectory_walked hentry Go.SourceFile.read?
  obtain ⟨hremoved, hreplaced⟩ := hpassed ["c_test.go"] _ hget htest
  rw [hcatalog] at hholds
  obtain ⟨htypes, henums⟩ := Prod.mk.inj (Option.some.inj hholds)
  exact ⟨hentry, hget, htest, hbinary, files, c, hcatalog, hcataloged, htypes, henums, hremoved,
    hreplaced _ hbinary⟩

end Catalog

end ProviderGlue
