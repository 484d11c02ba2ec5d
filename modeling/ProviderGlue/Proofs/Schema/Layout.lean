import ProviderGlue.Proofs.Go.Code
import ProviderGlue.Proofs.Schema.Origin
import ProviderGlue.Schema.Layout

/-!
# What the text of a schema tells

The text of a schema shows of each node its key, the type of its values, what its list holds, and the
nodes below it.  This is its `Outline`, and it is read back from the text: a line with a key and the
lines next to it give a heading, and the depths of the headings tell which node stands below which.

## Key results

- `grow_preorders`: headings with their depths determine the outlines
- `readHeadings_schemaLines`: the headings of some nodes are read off their lines
- `exists_of_nested`: nodes stand as deep as they are nested
- `bracesMatch_schemaLines`: the braces in the lines of nodes close each other
- `schemaText_readBack`: outlines are read back from the text of a schema
-/

namespace ProviderGlue.Schema

open Text Go

/-! ## Outlines -/

/-- What a list is written to hold. -/
inductive Element where
  /-- Values of a basic type. -/
  | value (type : ValueType)
  /-- Records with a schema of their own. -/
  | record
deriving DecidableEq

/-- What the entry of a node starts with. -/
structure Heading where
  /-- The key of the values. -/
  key : String
  /-- Their type. -/
  type : ValueType
  /-- What they hold, if they are lists. -/
  element : Option Element
deriving DecidableEq

/-- What the text of a schema shows of a node. -/
structure Outline where
  /-- What its entry starts with. -/
  heading : Heading
  /-- What is shown of the nodes below it. -/
  children : List Outline

/-- What the list under a node is written to hold, if there is one. -/
def NodeKind.element? : NodeKind → Option Element
  | object _ _ => some .record
  | scalarList element _ => some (.value element)
  | enumList _ _ | unfilled => some (.value .string)
  | scalar _ _ | map _ | time _ | enum _ _ => none

mutual

/-- The outline of a node. -/
def Node.outline : Node → Outline
  | n@⟨key, _, _, kind, children⟩ => ⟨⟨key, n.type, kind.element?⟩, outlines children⟩

/-- The outlines of some nodes. -/
def outlines : List Node → List Outline
  | [] => []
  | n :: ns => n.outline :: outlines ns

end

/-! ## Reading -/

/-- What stands between a known start and a known end of a text. -/
def between? (start ending text : String) : Option String :=
  ((afterPrefix? start.toList text.toList).bind (beforeSuffix? ending.toList)).map String.ofList

/-- The type of values with a name. -/
def ValueType.ofName? (name : String) : Option ValueType :=
  [string, int, bool, float, list, map].find? (·.name = name)

/-- The key in a line that opens an entry. -/
def keyOf? (text : String) : Option String := between? "\"" "\": \x7b" text

/-- The type in a line that tells one. -/
def typeOf? (text : String) : Option ValueType :=
  (between? "Type:     schema." "," text).bind ValueType.ofName?

/-- What a list holds according to a line that tells it. -/
def elementOf? (text : String) : Option Element :=
  if text = "Elem: &schema.Resource\x7b" then some .record
  else ((between? "Elem: &schema.Schema\x7bType: schema." "\x7d," text).bind ValueType.ofName?).map
    .value

/-- What a line and the three lines behind it tell of an entry that the line opens. -/
def headingAt? (l : Line) : List Line → Option Heading
  | typeLine :: _ :: elementLine :: _ => do
    return ⟨← keyOf? l.text, ← typeOf? typeLine.text, elementOf? elementLine.text⟩
  | _ => none

/-- The headings in some lines, with their depths. -/
def readHeadings : List Line → List (Nat × Heading)
  | [] => []
  | l :: ls =>
    match headingAt? l ls with
    | some heading => (l.depth, heading) :: readHeadings ls
    | none => readHeadings ls

/-- The outlines with headings at some depths: what stands deeper than a heading, up to the next one
that does not, stands below it. -/
def grow : List (Nat × Heading) → List Outline
  | [] => []
  | (depth, heading) :: rest =>
    ⟨heading, grow (rest.takeWhile (depth < ·.1))⟩ :: grow (rest.dropWhile (depth < ·.1))
termination_by headings => headings.length
decreasing_by
  · exact Nat.lt_succ_of_le (List.takeWhile_sublist _).length_le
  · exact Nat.lt_succ_of_le (List.dropWhile_sublist _).length_le

/-- The outlines that the text of a schema shows. -/
def readSchema (text : String) : List Outline := grow (readHeadings (readLines text))

/-! ## Headings and depths -/

mutual

/-- The headings of an outline and of those below it, with the depths of their entries. -/
def Outline.preorder (depth : Nat) : Outline → List (Nat × Heading)
  | ⟨heading, children⟩ => (depth, heading) :: preorders (depth + 3) children

/-- The headings of some outlines and of those below them, with the depths of their entries. -/
def preorders (depth : Nat) : List Outline → List (Nat × Heading)
  | [] => []
  | o :: os => o.preorder depth ++ preorders depth os

end

mutual

theorem Outline.le_of_mem_preorder {depth : Nat} : (o : Outline) →
    ∀ p ∈ o.preorder depth, depth ≤ p.1
  | ⟨heading, children⟩ => by
    rw [Outline.preorder, List.forall_mem_cons]
    exact ⟨Nat.le_refl _, fun p hp => Nat.le_of_add_right_le (le_of_mem_preorders children p hp)⟩

theorem le_of_mem_preorders {depth : Nat} : (os : List Outline) →
    ∀ p ∈ preorders depth os, depth ≤ p.1
  | [] => fun p hp => absurd hp List.not_mem_nil
  | o :: os => by
    rw [preorders, List.forall_mem_append]
    exact ⟨o.le_of_mem_preorder, le_of_mem_preorders os⟩

end

/-- No heading at this depth stands deeper than it. -/
theorem takeWhile_preorders (depth : Nat) (os : List Outline) :
    (preorders depth os).takeWhile (depth < ·.1) = [] ∧
      (preorders depth os).dropWhile (depth < ·.1) = preorders depth os := by
  cases os with
  | nil => exact ⟨rfl, rfl⟩
  | cons o os =>
    obtain ⟨heading, children⟩ := o
    have hfirst : ¬ decide (depth < depth) = true := by simp
    rw [preorders, Outline.preorder, List.cons_append]
    exact ⟨List.takeWhile_cons_of_neg hfirst, List.dropWhile_cons_of_neg hfirst⟩

/-- Headings with their depths determine the outlines. -/
theorem grow_preorders (depth : Nat) : (os : List Outline) → grow (preorders depth os) = os
  | [] => by rw [preorders, grow]
  | ⟨heading, children⟩ :: os => by
    have hdeeper : ∀ p ∈ preorders (depth + 3) children, decide (depth < p.1) = true := fun p hp => by
      have hle := le_of_mem_preorders children p hp
      exact decide_eq_true (by omega)
    obtain ⟨htake, hdrop⟩ := takeWhile_preorders depth os
    rw [preorders, Outline.preorder, List.cons_append, grow, List.takeWhile_append_of_pos hdeeper,
      List.dropWhile_append_of_pos hdeeper, htake, hdrop, List.append_nil,
      grow_preorders (depth + 3) children, grow_preorders depth os]

/-! ## Headings in lines -/

theorem between?_eq_some_iff {start ending text inner : String} :
    between? start ending text = some inner ↔ text = start ++ inner ++ ending := by
  rw [between?, Option.map_eq_some_iff]
  constructor
  · rintro ⟨chars, hchars, rfl⟩
    obtain ⟨rest, hrest, hchars⟩ := Option.bind_eq_some_iff.1 hchars
    rw [afterPrefix?_eq_some_iff] at hrest
    rw [beforeSuffix?_eq_some_iff] at hchars
    apply String.toList_inj.1
    rw [String.toList_append, String.toList_append, String.toList_ofList, hrest, hchars,
      List.append_assoc]
  · rintro rfl
    refine ⟨inner.toList, Option.bind_eq_some_iff.2 ⟨inner.toList ++ ending.toList, ?_, ?_⟩,
      String.ofList_toList⟩
    · rw [afterPrefix?_eq_some_iff, String.toList_append, String.toList_append, List.append_assoc]
    · rw [beforeSuffix?_eq_some_iff]

/-- A key is read from the line that opens its entry. -/
theorem keyOf?_inQuotes (key : String) : keyOf? (inQuotes key ++ ": " ++ "\x7b") = some key := by
  have hopen : "\"" ++ (": " ++ "\x7b") = "\": \x7b" := rfl
  rw [keyOf?, between?_eq_some_iff, inQuotes, String.append_assoc, String.append_assoc, hopen]

/-- A line that does not start with a quote has no key. -/
theorem keyOf?_eq_none {text : String} (h : text.toList.head? ≠ some '\"') : keyOf? text = none := by
  rw [Option.eq_none_iff_forall_ne_some]
  intro key hkey
  rw [keyOf?, between?_eq_some_iff] at hkey
  rw [hkey, String.toList_append, String.toList_append] at h
  exact h rfl

/-- The types of values have different names. -/
theorem ValueType.ofName?_name (type : ValueType) : ofName? type.name = some type := by
  cases type <;> rfl

theorem typeOf?_name (type : ValueType) :
    typeOf? ("Type:     schema." ++ type.name ++ ",") = some type := by
  rw [typeOf?, between?_eq_some_iff.2 rfl, Option.bind_some, ValueType.ofName?_name]

theorem elementOf?_elementLine (depth : Nat) (type : ValueType) :
    elementOf? (elementLine depth type).text = some (.value type) := by
  show elementOf? ("Elem: &schema.Schema\x7bType: schema." ++ type.name ++ "\x7d,") = _
  have hvalue : "Elem: &schema.Schema\x7bType: schema." ++ type.name ++ "\x7d," ≠
      "Elem: &schema.Resource\x7b" := by
    cases type <;> decide
  rw [elementOf?, if_neg hvalue, between?_eq_some_iff.2 rfl, Option.bind_some,
    ValueType.ofName?_name, Option.map_some]

/-- Lines without keys have no headings. -/
theorem readHeadings_cons {depth : Nat} {text : String} (h : text.toList.head? ≠ some '\"')
    (ls : List Line) : readHeadings (⟨depth, text⟩ :: ls) = readHeadings ls := by
  have hnone : headingAt? ⟨depth, text⟩ ls = none := by
    unfold headingAt?
    split
    · rw [keyOf?_eq_none h]
      rfl
    · rfl
  rw [readHeadings, hnone]

/-- What a node holds is told by the third line behind its key. -/
theorem exists_elementOf? (depth : Nat) (kind : NodeKind) (below after : List Line) :
    ∃ l ls, elementLines (depth + 1) kind below ++ ⟨depth, "\x7d" ++ ","⟩ :: after = l :: ls ∧
      elementOf? l.text = kind.element? := by
  have hrecord : elementOf? ("Elem: &schema.Resource" ++ "\x7b") = some .record := by decide
  have hnone : elementOf? ("\x7d" ++ ",") = none := by decide
  cases kind with
  | object _ _ => exact ⟨_, _, rfl, hrecord⟩
  | scalarList _ _ | enumList _ _ | unfilled => exact ⟨_, _, rfl, elementOf?_elementLine _ _⟩
  | scalar _ _ | map _ | time _ | enum _ _ => exact ⟨_, _, rfl, hnone⟩

/-- The headings in the lines of a list are those of the entries below, if it holds structs. -/
theorem readHeadings_elementLines {depth : Nat} {kind : NodeKind} {below : List Line}
    {headings : List (Nat × Heading)}
    (hbelow : ∀ rest, readHeadings (below ++ rest) = headings ++ readHeadings rest)
    (hkind : kind.element? = some .record ∨ headings = []) (rest : List Line) :
    readHeadings (elementLines depth kind below ++ rest) = headings ++ readHeadings rest := by
  have hvalue : ∀ type ls, readHeadings (elementLine depth type :: ls) = readHeadings ls := by
    intro type ls
    exact readHeadings_cons (by cases type <;> decide) ls
  cases kind with
  | object flatten access =>
    simp only [elementLines, entry, braces, List.cons_append, List.append_assoc, List.nil_append]
    rw [readHeadings_cons (by decide), readHeadings_cons (by decide), hbelow,
      readHeadings_cons (by decide), readHeadings_cons (by decide)]
  | scalarList _ _ | enumList _ _ | unfilled =>
    rw [hkind.resolve_left (by simp [NodeKind.element?])]
    exact hvalue _ rest
  | scalar _ _ | map _ | time _ | enum _ _ =>
    rw [hkind.resolve_left (by simp [NodeKind.element?])]
    rfl

/-- A node of which the text can be read: only structs have nodes below them, and a key has no braces
and stands in one line. -/
structure Node.IsPlain (n : Node) : Prop where
  key : IsBraceless n.key.toList ∧ '\n' ∉ n.key.toList
  children : n.children ≠ [] → n.kind.element? = some .record

/-- Nodes of which the text can be read, with all below them. -/
def ArePlain (ns : List Node) : Prop := ∀ n : Node, n.Within ns → n.IsPlain

theorem ArePlain.children {ns : List Node} (h : ArePlain ns) {n : Node} (hn : n ∈ ns) :
    ArePlain n.children :=
  fun _ hm => h _ (.inside hn hm)

theorem ArePlain.tail {n : Node} {ns : List Node} (h : ArePlain (n :: ns)) : ArePlain ns :=
  fun _ hm => h _ (hm.mono (List.subset_cons_self n ns))

theorem ArePlain.nil : ArePlain [] := fun _ hm => absurd hm Node.within_nil

theorem ArePlain.cons {n : Node} {ns : List Node} (hn : n.IsPlain) (hbelow : ArePlain n.children)
    (h : ArePlain ns) : ArePlain (n :: ns) := by
  intro m hm
  obtain rfl | hm | hm := Node.within_cons hm
  · exact hn
  · exact hbelow m hm
  · exact h m hm

/-- The lines of an entry, one by one. -/
theorem entryLines_eq (depth : Nat) (n : Node) :
    entryLines depth n =
      ⟨depth, inQuotes n.key ++ ": " ++ "\x7b"⟩ ::
      ⟨depth + 1, "Type:     schema." ++ n.type.name ++ ","⟩ :: ⟨depth + 1, "Computed: true,"⟩ ::
      (elementLines (depth + 1) n.kind (schemaLines (depth + 3) n.children) ++
        [⟨depth, "\x7d" ++ ","⟩]) := by
  cases n
  rfl

theorem Node.outline_eq (n : Node) :
    n.outline = ⟨⟨n.key, n.type, n.kind.element?⟩, outlines n.children⟩ := by
  cases n
  rfl

/-- The heading of a node and those below are read off its entry. -/
theorem readHeadings_entryLines {depth : Nat} {n : Node} (hn : n.IsPlain)
    (hbelow : ∀ rest, readHeadings (schemaLines (depth + 3) n.children ++ rest) =
      preorders (depth + 3) (outlines n.children) ++ readHeadings rest) (rest : List Line) :
    readHeadings (entryLines depth n ++ rest) = n.outline.preorder depth ++ readHeadings rest := by
  have hkind : n.kind.element? = some .record ∨
      preorders (depth + 3) (outlines n.children) = [] := by
    by_cases hempty : n.children = []
    · exact .inr (by rw [hempty]; rfl)
    · exact .inl (hn.children hempty)
  have htype : ("Type:     schema." ++ n.type.name ++ ",").toList.head? ≠ some '\"' := by
    cases n.type <;> decide
  obtain ⟨l, ls, hlines, helement⟩ := exists_elementOf? depth n.kind
    (schemaLines (depth + 3) n.children) rest
  have hheading : headingAt? ⟨depth, inQuotes n.key ++ ": " ++ "\x7b"⟩
      (⟨depth + 1, "Type:     schema." ++ n.type.name ++ ","⟩ :: ⟨depth + 1, "Computed: true,"⟩ ::
        l :: ls) = some ⟨n.key, n.type, n.kind.element?⟩ := by
    rw [headingAt?, keyOf?_inQuotes, typeOf?_name, helement]
    rfl
  rw [entryLines_eq, List.cons_append, List.cons_append, List.cons_append, List.append_assoc,
    List.singleton_append, hlines, readHeadings, hheading, ← hlines, Node.outline_eq,
    Outline.preorder, List.cons_append]
  dsimp only
  rw [readHeadings_cons htype, readHeadings_cons (by decide),
    readHeadings_elementLines hbelow hkind, readHeadings_cons (by decide)]

/-- **The headings of some nodes are read off their lines**, with the depths of their entries. -/
theorem readHeadings_schemaLines (depth : Nat) : (ns : List Node) → ArePlain ns → ∀ rest,
    readHeadings (schemaLines depth ns ++ rest) =
      preorders depth (outlines ns) ++ readHeadings rest
  | [], _, rest => rfl
  | ⟨key, field, source, kind, children⟩ :: ns, h, rest => by
    have hbelow := readHeadings_schemaLines (depth + 3) children (h.children List.mem_cons_self)
    rw [schemaLines, outlines, preorders, List.append_assoc, List.append_assoc,
      readHeadings_entryLines (h _ (.here List.mem_cons_self)) hbelow,
      readHeadings_schemaLines depth ns h.tail]

/-! ## Depths -/

/-- A line that is indented at least as far as some depth, and that its text shows. -/
structure StandsAt (depth : Nat) (l : Line) : Prop where
  depth : depth ≤ l.depth
  legible : IsLegible l.text

theorem isLegible_key {key : String} (h : '\n' ∉ key.toList) :
    IsLegible (inQuotes key ++ ": " ++ "\x7b") where
  feed := by
    have hrest : '\n' ∉ ("\"" ++ (": " ++ "\x7b")).toList := by decide
    rw [inQuotes, String.append_assoc, String.append_assoc, String.toList_append,
      String.toList_append, List.mem_append, List.mem_append]
    rintro ((hmem | hmem) | hmem)
    · exact absurd hmem (by decide)
    · exact h hmem
    · exact hrest hmem
  start := by
    rw [inQuotes, String.append_assoc, String.append_assoc, String.append_assoc,
      String.toList_append]
    show some '\"' ≠ some '\t'
    decide

theorem StandsAt.mono {depth depth' : Nat} {l : Line} (h : StandsAt depth l) (hle : depth' ≤ depth) :
    StandsAt depth' l :=
  ⟨Nat.le_trans hle h.depth, h.legible⟩

theorem isLegible_close : IsLegible ("\x7d" ++ ",") := ⟨by decide, by decide⟩

theorem isLegible_type (type : ValueType) :
    IsLegible ("Type:     schema." ++ type.name ++ ",") := by
  cases type <;> exact ⟨by decide, by decide⟩

theorem standsAt_elementLines {depth : Nat} (kind : NodeKind) {below : List Line}
    (h : ∀ l ∈ below, StandsAt depth l) : ∀ l ∈ elementLines depth kind below, StandsAt depth l := by
  have hvalue : ∀ type : ValueType,
      IsLegible ("Elem: &schema.Schema\x7bType: schema." ++ type.name ++ "\x7d,") := by
    intro type
    cases type <;> exact ⟨by decide, by decide⟩
  have hrecord : IsLegible ("Elem: &schema.Resource" ++ "\x7b") := ⟨by decide, by decide⟩
  have hschema : IsLegible ("Schema: map[string]*schema.Schema" ++ "\x7b") :=
    ⟨by decide, by decide⟩
  cases kind with
  | object flatten access =>
    rw [elementLines, forall_mem_entry, forall_mem_entry]
    exact ⟨⟨Nat.le_refl _, hrecord⟩,
      ⟨⟨Nat.le_succ _, hschema⟩, h, ⟨Nat.le_succ _, isLegible_close⟩⟩,
      ⟨Nat.le_refl _, isLegible_close⟩⟩
  | scalarList _ _ | enumList _ _ | unfilled =>
    exact List.forall_mem_singleton.2 ⟨Nat.le_refl _, hvalue _⟩
  | scalar _ _ | map _ | time _ | enum _ _ => exact fun _ hl => absurd hl List.not_mem_nil

/-- The lines of nodes are legible, and none of them stands less deep than the nodes. -/
theorem standsAt_schemaLines (depth : Nat) : (ns : List Node) → ArePlain ns →
    ∀ l ∈ schemaLines depth ns, StandsAt depth l
  | [], _ => fun _ hl => absurd hl List.not_mem_nil
  | ⟨key, field, source, kind, children⟩ :: ns, h => by
    have hkey := (h _ (.here List.mem_cons_self)).key.2
    have hcomputed : IsLegible "Computed: true," := ⟨by decide, by decide⟩
    have hbelow : ∀ l ∈ schemaLines (depth + 3) children, StandsAt (depth + 1) l := fun l hl =>
      (standsAt_schemaLines (depth + 3) children (h.children List.mem_cons_self) l hl).mono (by omega)
    rw [schemaLines, List.forall_mem_append, entryLines, forall_mem_entry, List.forall_mem_append,
      List.forall_mem_cons, List.forall_mem_singleton]
    refine ⟨⟨⟨Nat.le_refl _, isLegible_key hkey⟩, ⟨⟨⟨Nat.le_succ _, isLegible_type _⟩,
      ⟨Nat.le_succ _, hcomputed⟩⟩, ?_⟩, ⟨Nat.le_refl _, isLegible_close⟩⟩, ?_⟩
    · exact fun l hl => (standsAt_elementLines kind hbelow l hl).mono (Nat.le_succ _)
    · exact standsAt_schemaLines depth ns h.tail

/-- Whether a node stands so many levels below some nodes. -/
inductive Node.Nested (n : Node) : Nat → List Node → Prop
  | here {ns : List Node} : n ∈ ns → Nested n 0 ns
  | inside {m : Node} {level : Nat} {ns : List Node} :
      m ∈ ns → Nested n level m.children → Nested n (level + 1) ns

theorem schemaLines_append (depth : Nat) (ns ms : List Node) :
    schemaLines depth (ns ++ ms) = schemaLines depth ns ++ schemaLines depth ms := by
  induction ns with
  | nil => rfl
  | cons n ns ih => rw [List.cons_append, schemaLines, schemaLines, ih, List.append_assoc]

/-- The entry of a node stands among the lines of the nodes that it is one of. -/
theorem exists_of_mem {n : Node} {ns : List Node} (h : n ∈ ns) (depth : Nat) :
    ∃ before after, schemaLines depth ns = before ++ entryLines depth n ++ after := by
  obtain ⟨before, after, rfl⟩ := List.append_of_mem h
  refine ⟨schemaLines depth before, schemaLines depth after, ?_⟩
  rw [schemaLines_append, schemaLines, List.append_assoc]

/-- The entries of the nodes below a struct stand inside of its own. -/
theorem exists_of_record {n : Node} (h : n.kind.element? = some .record) (depth : Nat) :
    ∃ before after,
      entryLines depth n = before ++ schemaLines (depth + 3) n.children ++ after := by
  rw [entryLines_eq]
  cases hkind : n.kind with
  | object flatten access =>
    let opened : List Line := [⟨depth, inQuotes n.key ++ ": " ++ "\x7b"⟩,
      ⟨depth + 1, "Type:     schema." ++ n.type.name ++ ","⟩, ⟨depth + 1, "Computed: true,"⟩,
      ⟨depth + 1, "Elem: &schema.Resource" ++ "\x7b"⟩,
      ⟨depth + 2, "Schema: map[string]*schema.Schema" ++ "\x7b"⟩]
    let closed : List Line :=
      [⟨depth + 2, "\x7d" ++ ","⟩, ⟨depth + 1, "\x7d" ++ ","⟩, ⟨depth, "\x7d" ++ ","⟩]
    refine ⟨opened, closed, ?_⟩
    simp only [opened, closed, elementLines, entry, braces, List.cons_append, List.append_assoc,
      List.nil_append]
  | scalarList _ _ | enumList _ _ | unfilled | scalar _ _ | map _ | time _ | enum _ _ =>
    rw [hkind] at h
    simp [NodeKind.element?] at h

/-- **The lines of a nested node are indented with its level**: they stand together among those of the
outermost nodes, and each is three tabs deeper for every level. -/
theorem exists_of_nested {n : Node} {level : Nat} {ns : List Node} (hn : n.Nested level ns)
    (h : ArePlain ns) (depth : Nat) :
    ∃ before after,
      schemaLines depth ns = before ++ entryLines (depth + 3 * level) n ++ after ∧
      ∀ l ∈ entryLines (depth + 3 * level) n, depth + 3 * level ≤ l.depth := by
  induction hn generalizing depth with
  | here hmem =>
    obtain ⟨before, after, hlines⟩ := exists_of_mem hmem depth
    refine ⟨before, after, hlines, fun l hl => (standsAt_schemaLines depth _ h l ?_).depth⟩
    rw [hlines]
    exact List.mem_append_left _ (List.mem_append_right _ hl)
  | @inside m level ns hmem hin ih =>
    have hrecord : m.kind.element? = some .record := by
      refine (h m (.here hmem)).children fun hnil => ?_
      rw [hnil] at hin
      cases hin with
      | here hmem => exact absurd hmem List.not_mem_nil
      | inside hmem _ => exact absurd hmem List.not_mem_nil
    obtain ⟨before, after, hlines⟩ := exists_of_mem hmem depth
    obtain ⟨outer, outer', hentry⟩ := exists_of_record hrecord depth
    obtain ⟨inner, inner', hchildren, hdepth⟩ := ih (h.children hmem) (depth + 3)
    have hlevel : depth + 3 + 3 * level = depth + 3 * (level + 1) := by omega
    rw [hlevel] at hchildren hdepth
    refine ⟨before ++ outer ++ inner, inner' ++ outer' ++ after, ?_, hdepth⟩
    rw [hlines, hentry, hchildren]
    simp only [List.append_assoc]

/-! ## Braces -/

theorem bracesMatch_elementLines {depth : Nat} (kind : NodeKind) {below : List Line}
    (h : BracesMatch below) : BracesMatch (elementLines depth kind below) := by
  have hvalue : ∀ type : ValueType, BracesMatch [elementLine depth type] := by
    intro type
    refine .line fun n => ?_
    cases type <;> rfl
  cases kind with
  | object flatten access => exact .braces (by decide) (.braces (by decide) h (by decide)) (by decide)
  | scalarList _ _ | enumList _ _ | unfilled => exact hvalue _
  | scalar _ _ | map _ | time _ | enum _ _ => exact .nil

theorem bracesMatch_entryLines {depth : Nat} {n : Node} (hn : n.IsPlain)
    (hbelow : BracesMatch (schemaLines (depth + 3) n.children)) :
    BracesMatch (entryLines depth n) := by
  have hkey : IsBraceless (inQuotes n.key ++ ": ").toList := by
    rw [inQuotes, String.toList_append, String.toList_append, String.toList_append]
    exact ((IsBraceless.append (by decide) hn.key.1).append (by decide)).append (by decide)
  have htype : IsBraceless ("Type:     schema." ++ n.type.name ++ ",").toList := by
    cases n.type <;> decide
  have hcomputed : IsBraceless "Computed: true,".toList := by decide
  have hlines : BracesMatch ([⟨depth + 1, "Type:     schema." ++ n.type.name ++ ","⟩] ++
      [⟨depth + 1, "Computed: true,"⟩]) :=
    .append (.line htype.openBraces?) (.line hcomputed.openBraces?)
  have helements : BracesMatch (elementLines (depth + 1) n.kind _) :=
    bracesMatch_elementLines n.kind hbelow
  have hentry : BracesMatch (braces depth (inQuotes n.key ++ ": ") _ ",") :=
    .braces hkey (hlines.append helements) (by decide)
  rw [entryLines_eq]
  exact hentry

/-- **The braces in the lines of nodes close each other.** -/
theorem bracesMatch_schemaLines (depth : Nat) : (ns : List Node) → ArePlain ns →
    BracesMatch (schemaLines depth ns)
  | [], _ => .nil
  | ⟨key, field, source, kind, children⟩ :: ns, h => by
    have hbelow := bracesMatch_schemaLines (depth + 3) children (h.children List.mem_cons_self)
    rw [schemaLines]
    exact .append (bracesMatch_entryLines (h _ (.here List.mem_cons_self)) hbelow)
      (bracesMatch_schemaLines depth ns h.tail)

/-! ## The text -/

/-- The lines of nodes are read back from their text. -/
theorem readLines_schemaText {ns : List Node} (h : ArePlain ns) (depth : Nat) :
    readLines (schemaText depth ns) = schemaLines depth ns :=
  readLines_render fun l hl => (standsAt_schemaLines depth ns h l hl).legible

/-- Outlines are read back from the text of a schema. -/
theorem readSchema_schemaText {ns : List Node} (h : ArePlain ns) (depth : Nat) :
    readSchema (schemaText depth ns) = outlines ns := by
  have hheadings := readHeadings_schemaLines depth ns h []
  rw [List.append_nil, readHeadings, List.append_nil] at hheadings
  rw [readSchema, readLines_schemaText h, hheadings, grow_preorders]

/-- **The text of a schema determines its tree.**  Its braces close each other.  The lines of a node
stand together, three tabs deeper for every level that the node is nested.  The keys, the types, what
the lists hold and what stands below what are read back from it, in order, so that nodes that differ in
any of these never have the same text. -/
theorem schemaText_readBack {ns : List Node} (h : ArePlain ns) (depth : Nat) :
    openBraces? 0 (schemaText depth ns).toList = some 0 ∧
    (∀ n level, n.Nested level ns → ∃ before after,
      readLines (schemaText depth ns) = before ++ entryLines (depth + 3 * level) n ++ after ∧
      ∀ l ∈ entryLines (depth + 3 * level) n, depth + 3 * level ≤ l.depth) ∧
    readSchema (schemaText depth ns) = outlines ns ∧
    (∀ ns', ArePlain ns' → outlines ns ≠ outlines ns' →
      schemaText depth ns ≠ schemaText depth ns') := by
  refine ⟨bracesMatch_schemaLines depth ns h 0, fun n level hn => ?_, readSchema_schemaText h depth,
    fun ns' h' hne heq => hne ?_⟩
  · rw [readLines_schemaText h]
    exact exists_of_nested hn h depth
  · rw [← readSchema_schemaText h depth, heq, readSchema_schemaText h' depth]

/-- An owner with a name and tags, and an identifier. -/
def ownerNodes : List Node :=
  [⟨"owner", "Owner", .receiver, .object "flattenOwner" .pointer,
      [⟨"name", "Name", .receiver, .scalar .string true, []⟩,
        ⟨"tags", "Tags", .receiver, .scalarList .string false, []⟩]⟩,
    ⟨"id", "Id", .receiver, .scalar .int false, []⟩]

theorem arePlain_ownerNodes : ArePlain ownerNodes := by
  have hleaf : ∀ n : Node, n.children = [] → IsBraceless n.key.toList ∧ '\n' ∉ n.key.toList →
      n.IsPlain := fun n hnil hkey => ⟨hkey, fun hne => absurd hnil hne⟩
  refine .cons ⟨by decide, fun _ => rfl⟩ (.cons ?_ .nil (.cons ?_ .nil .nil)) (.cons ?_ .nil .nil)
  all_goals exact hleaf _ rfl (by decide)

theorem schemaText_readBack_owner :
    ArePlain ownerNodes ∧ openBraces? 0 (schemaText 2 ownerNodes).toList = some 0 ∧
      readSchema (schemaText 2 ownerNodes) =
        [⟨⟨"owner", .list, some .record⟩,
            [⟨⟨"name", .string, none⟩, []⟩, ⟨⟨"tags", .list, some (.value .string)⟩, []⟩]⟩,
          ⟨⟨"id", .int, none⟩, []⟩] := by
  obtain ⟨hbraces, -, hread, -⟩ := schemaText_readBack arePlain_ownerNodes 2
  exact ⟨arePlain_ownerNodes, hbraces, hread⟩

end ProviderGlue.Schema
