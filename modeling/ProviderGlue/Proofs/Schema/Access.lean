import ProviderGlue.Proofs.Go.Spelling
import ProviderGlue.Proofs.Schema.Origin

/-!
# How fields are read

The kind of a node says how the code around it reads a field: through a pointer or not, as one value
or element by element.  Such code only compiles if the type of the field has exactly that form
(`Fits`).

Kinds are chosen from the text of a type.  For the plain forms, which are a name, a map, a pointer to
one of these, and a slice of names or of pointers to them, the choice is right.  Any other type that
is not left out is read in a way that does not fit it, since arrays, several stars and brackets
behind brackets are not told apart from the plain forms.

## Key results

- `plainKind_fits`, `enumKind_fits`, `objectKind_fits`: plain types are read as they have to be
- `field_read`: the types that are read as they have to be are exactly the plain ones
- `not_fits_wrapped`: an array, a pointer to a pointer and a map that are not
-/

namespace ProviderGlue.Go.TypeExpr

/-- A pointer to a type, or the type itself. -/
def behind (pointer : Bool) (t : TypeExpr) : TypeExpr :=
  if pointer then .pointer t else t

/-- The type of times. -/
def time : TypeExpr :=
  .named (some (.ofChars "time".toList (by decide) (by decide)))
    (.ofChars "Time".toList (by decide) (by decide))

/-- Whether a type is `time.Time` or a pointer to it. -/
def IsTime (t : TypeExpr) : Prop := ∃ pointer, t = behind pointer time

/-- The types that are a name, a map or a slice of names, with at most one pointer before a name or
map. -/
inductive Plain : TypeExpr → Prop
  | named {pointer : Bool} {package : Option Identifier} {name : Identifier} :
    Plain (behind pointer (.named package name))
  | slice {pointer : Bool} {package : Option Identifier} {name : Identifier} :
    Plain (.slice (behind pointer (.named package name)))
  | map {pointer : Bool} {key value : TypeExpr} : Plain (behind pointer (.map key value))

/-- Decides whether a type is plain. -/
def isPlain : TypeExpr → Bool
  | .named _ _ | .pointer (.named _ _) | .slice (.named _ _) | .slice (.pointer (.named _ _))
  | .map _ _ | .pointer (.map _ _) => true
  | _ => false

theorem plain_iff (t : TypeExpr) : t.Plain ↔ t.isPlain = true := by
  constructor
  · intro h
    cases h with
    | @named pointer => cases pointer <;> rfl
    | @slice pointer => cases pointer <;> rfl
    | @map pointer => cases pointer <;> rfl
  · intro h
    unfold isPlain at h
    split at h
    · exact @Plain.named false _ _
    · exact @Plain.named true _ _
    · exact @Plain.slice false _ _
    · exact @Plain.slice true _ _
    · exact @Plain.map false _ _
    · exact @Plain.map true _ _
    · exact nomatch h

instance (t : TypeExpr) : Decidable t.Plain := decidable_of_iff _ (plain_iff t).symm

/-! ## What the text of a plain type shows -/

section Forms

variable {pointer : Bool} {package : Option Identifier} {name : Identifier}
  {key value element : TypeExpr}

theorem declared_behind (t : TypeExpr) : (behind pointer t).declared = t.declared := by
  cases pointer <;> rfl

@[simp] theorem unpointed_named :
    (behind pointer (.named package name)).unpointed = .named package name := by
  cases pointer <;> rfl

@[simp] theorem unpointed_map : (behind pointer (.map key value)).unpointed = .map key value := by
  cases pointer <;> rfl

@[simp] theorem isPointer_named :
    TypeText.isPointer (behind pointer (.named package name)).text = pointer := by
  rw [Bool.eq_iff_iff, isPointer_text]
  cases pointer with
  | false => exact ⟨nofun, nofun⟩
  | true => exact ⟨fun _ => rfl, fun _ => ⟨_, rfl⟩⟩

@[simp] theorem isPointer_map :
    TypeText.isPointer (behind pointer (.map key value)).text = pointer := by
  rw [Bool.eq_iff_iff, isPointer_text]
  cases pointer with
  | false => exact ⟨nofun, nofun⟩
  | true => exact ⟨fun _ => rfl, fun _ => ⟨_, rfl⟩⟩

@[simp] theorem isMap_named :
    TypeText.isMap (behind pointer (.named package name)).text = false := by
  rw [← Bool.not_eq_true, isMap_text, unpointed_named]
  exact fun ⟨_, _, h⟩ => nomatch h

@[simp] theorem isMap_slice : TypeText.isMap (TypeExpr.slice element).text = false := by
  rw [← Bool.not_eq_true, isMap_text]
  exact fun ⟨_, _, h⟩ => nomatch h

@[simp] theorem isMap_map : TypeText.isMap (behind pointer (.map key value)).text = true :=
  (isMap_text _).2 ⟨key, value, unpointed_map⟩

@[simp] theorem sliceElement?_named :
    TypeText.sliceElement? (behind pointer (.named package name)).text = none := by
  rw [sliceElement?_text, TypeExpr.sliceElement?, unpointed_named]
  rfl

@[simp] theorem sliceElement?_slice :
    TypeText.sliceElement? (TypeExpr.slice element).text = some element.text :=
  sliceElement?_text _

/-- The first character of an element tells whether it is a pointer. -/
theorem isPrefixOf_text (t : TypeExpr) : ['*'].isPrefixOf t.text = TypeText.isPointer t.text := by
  rw [TypeText.isPointer, trim_text]

/-- What depends on the element of a slice and its first character depends on whether the element
is a pointer. -/
theorem match_sliceElement?_text {α : Type} (t : TypeExpr) (a b c : α) :
    (match TypeText.sliceElement? t.text with
      | some ('*' :: _) => a
      | some _ => b
      | none => c) =
    match t.sliceElement? with
      | some element => if TypeText.isPointer element.text then a else b
      | none => c := by
  rw [sliceElement?_text]
  cases t.sliceElement? with
  | none => rfl
  | some element =>
    simp only [Option.map_some, ← isPrefixOf_text]
    split
    · next heq =>
      rw [Option.some.inj heq]
      rfl
    · next element' hne heq =>
      rw [if_neg]
      intro hprefix
      obtain ⟨cs, hcs⟩ := List.isPrefixOf_iff_prefix.1 hprefix
      exact hne cs (Option.some.inj (heq.symm.trans (congrArg some hcs.symm)))
    · next heq => exact nomatch heq

end Forms

end ProviderGlue.Go.TypeExpr

namespace ProviderGlue.Schema

open Text Go TypeExpr

/-- Whether a field of some type can be read in the way that a kind says. -/
inductive Fits (enums : List Enumeration) : NodeKind → TypeExpr → Prop
  | scalar {type : ValueType} {pointer : Bool} {name : Identifier} :
    ValueType.ofBasic? (String.ofList name.chars) = some type →
    Fits enums (.scalar type pointer) (behind pointer (.named none name))
  | scalarList {type : ValueType} {pointer : Bool} {name : Identifier} :
    ValueType.ofBasic? (String.ofList name.chars) = some type →
    Fits enums (.scalarList type pointer) (.slice (behind pointer (.named none name)))
  | map {pointer : Bool} {key value : TypeExpr} :
    Fits enums (.map pointer) (behind pointer (.map key value))
  | time {pointer : Bool} : Fits enums (.time pointer) (behind pointer TypeExpr.time)
  | enum {flatten : String} {pointer : Bool} {package : Option Identifier} {name : Identifier}
    {e : Enumeration} : e ∈ enums → e.name = String.ofList name.chars →
    Fits enums (.enum flatten pointer) (behind pointer (.named package name))
  | enumList {flatten : String} {pointer : Bool} {package : Option Identifier} {name : Identifier}
    {e : Enumeration} : e ∈ enums → e.name = String.ofList name.chars →
    Fits enums (.enumList flatten pointer) (.slice (behind pointer (.named package name)))
  | pointer {flatten : String} {package : Option Identifier} {name : Identifier} :
    Fits enums (.object flatten .pointer) (.pointer (.named package name))
  | value {flatten : String} {package : Option Identifier} {name : Identifier} :
    Fits enums (.object flatten .value) (.named package name)
  | slice {flatten : String} {pointer : Bool} {package : Option Identifier} {name : Identifier} :
    Fits enums (.object flatten (.slice pointer)) (.slice (behind pointer (.named package name)))
  | unfilled {t : TypeExpr} : Fits enums .unfilled t

/-- Whether the value of a union has the given type if its member has the type `t`. -/
inductive BranchFits : String → TypeExpr → Prop
  | one {type : String} {pointer : Bool} {package : Option Identifier} {name : Identifier} :
    unqualified type = String.ofList name.chars →
    BranchFits type (behind pointer (.named package name))
  | slice {type : String} {pointer : Bool} {package : Option Identifier} {name : Identifier} :
    unqualified type = String.ofList name.chars →
    BranchFits ((if pointer then "[]*" else "[]") ++ type)
      (.slice (behind pointer (.named package name)))

/-- Whether an argument is a pointer to the struct in a field of a response. -/
inductive ArgumentFits (f : ShapeField) : String → TypeExpr → Prop
  | pointer {package : Option Identifier} {name : Identifier} :
    ArgumentFits f ("resp." ++ selector f) (.pointer (.named package name))
  | value {package : Option Identifier} {name : Identifier} :
    ArgumentFits f ("&resp." ++ selector f) (.named package name)

/-! ## Plain types -/

theorem Fits.plain {enums : List Enumeration} {kind : NodeKind} {t : TypeExpr}
    (h : Fits enums kind t) (hkind : kind ≠ .unfilled) : t.Plain := by
  cases h with
  | scalar | time | enum => exact .named
  | scalarList | enumList | slice => exact .slice
  | map => exact .map
  | pointer => exact @Plain.named true _ _
  | value => exact @Plain.named false _ _
  | unfilled => exact absurd rfl hkind

theorem Fits.isTime {enums : List Enumeration} {pointer : Bool} {t : TypeExpr}
    (h : Fits enums (.time pointer) t) : t.IsTime := by
  cases h with
  | time => exact ⟨_, rfl⟩

/-! ## Basic types -/

/-- The names of basic types have no dots. -/
theorem ofBasic?_of_dot {type : String} (h : '.' ∈ type.toList) : ValueType.ofBasic? type = none := by
  have hne : ∀ name : String, '.' ∉ name.toList → type ≠ name := by
    rintro name hname rfl
    exact hname h
  rw [ValueType.ofBasic?, if_neg (hne _ (by decide)), if_neg (hne _ (by decide)), if_neg, if_neg]
  · intro hmem
    have hdots : ∀ name ∈ ["float32", "float64"], '.' ∉ name.toList := by decide
    exact hdots type (List.contains_iff_mem.1 hmem) h
  · intro hmem
    have hdots : ∀ name ∈ ["int", "int8", "int16", "int32", "int64", "uint", "uint8", "uint16",
      "uint32", "uint64"], '.' ∉ name.toList := by decide
    exact hdots type (List.contains_iff_mem.1 hmem) h

/-- A declared type with a basic type's name is written without a package. -/
theorem package_of_ofBasic? {package : Option Identifier} {name : Identifier} {type : ValueType}
    (h : ValueType.ofBasic? (String.ofList (named package name).text) = some type) :
    package = none := by
  cases package with
  | none => rfl
  | some package =>
    rw [ofBasic?_of_dot] at h
    · exact nomatch h
    · rw [String.toList_ofList, text]
      exact List.mem_append_right _ List.mem_cons_self

/-! ## Kinds of plain types -/

variable {enums : List Enumeration} {t : TypeExpr}

/-- What is neither a struct nor an enumeration is read as its form asks for. -/
theorem plainKind_fits (ht : t.Plain)
    (htime : ∀ pointer, plainKind t.text = .time pointer → t.IsTime) :
    Fits enums (plainKind t.text) t := by
  by_cases hmentions : TypeText.isTime t.text = true
  · -- what mentions times is taken for a time, unless it is a slice
    have hkind : plainKind t.text =
        if (TypeText.sliceElement? t.text).isSome then .unfilled
        else .time (TypeText.isPointer t.text) := by
      rw [plainKind, if_pos hmentions]
    by_cases hslice : (TypeText.sliceElement? t.text).isSome = true
    · rw [hkind, if_pos hslice]
      exact .unfilled
    · rw [hkind, if_neg hslice] at htime ⊢
      obtain ⟨pointer, rfl⟩ := htime _ rfl
      rw [TypeExpr.time, isPointer_named]
      exact .time
  · rw [plainKind, if_neg hmentions]
    cases ht with
    | @named pointer package name =>
      simp only [isMap_named, Bool.false_eq_true, if_false, sliceElement?_named, unpointed_text,
        unpointed_named, isPointer_named]
      cases hbasic : ValueType.ofBasic? (String.ofList (TypeExpr.named package name).text) with
      | none => exact .unfilled
      | some type =>
        obtain rfl := package_of_ofBasic? hbasic
        exact .scalar hbasic
    | @slice pointer package name =>
      simp only [isMap_slice, Bool.false_eq_true, if_false, sliceElement?_slice, dropWhile_text,
        unpointed_named, isPrefixOf_text, isPointer_named]
      cases hbasic : ValueType.ofBasic? (String.ofList (TypeExpr.named package name).text) with
      | none => exact .unfilled
      | some type =>
        obtain rfl := package_of_ofBasic? hbasic
        exact .scalarList hbasic
    | map =>
      rw [if_pos isMap_map, isPointer_map]
      exact .map

/-- What holds values of an enumeration is read as its form asks for. -/
theorem enumKind_fits {e : Enumeration} (outer : Package) {f : ShapeField} (d : Draft)
    (ht : t.Plain) (hf : f.type.toList = t.text) (he : e ∈ enums)
    (hname : e.name = String.ofList t.declared.chars) :
    Fits enums (enumKind e outer f d).1 t := by
  cases ht with
  | @named pointer package name =>
    rw [declared_behind] at hname
    simp only [enumKind, hf, isMap_named, Bool.false_eq_true, if_false, run_bind,
      sliceElement?_named, isPointer_named]
    cases (Draft.qualified? outer f d).1 with
    | none => exact .unfilled
    | some type =>
      simp only [run_bind, run_pure]
      exact .enum he hname
  | @slice pointer package name =>
    rw [TypeExpr.declared, declared_behind] at hname
    simp only [enumKind, hf, isMap_slice, Bool.false_eq_true, if_false, run_bind,
      sliceElement?_slice, isPrefixOf_text, isPointer_named]
    cases (Draft.qualified? outer f d).1 with
    | none => exact .unfilled
    | some type =>
      simp only [run_bind, run_pure]
      exact .enumList he hname
  | map =>
    simp only [enumKind, hf, isMap_map, if_true]
    exact .unfilled

theorem leafKind_fits (outer : Package) {f : ShapeField} (d : Draft) (ht : t.Plain)
    (hf : f.type.toList = t.text)
    (htime : ∀ pointer, (leafKind enums outer f d).1 = .time pointer → t.IsTime) :
    Fits enums (leafKind enums outer f d).1 t := by
  have hbase : Go.baseName f.type = String.ofList t.declared.chars := by
    rw [Go.baseName, hf, baseName_text]
  simp only [leafKind] at htime ⊢
  cases henum : enumNamed? enums (Go.baseName f.type) with
  | none =>
    simp only [henum, hf] at htime ⊢
    exact plainKind_fits ht htime
  | some e =>
    simp only [henum, hf] at htime ⊢
    split at htime
    · next hmentions =>
      rw [if_pos hmentions]
      exact plainKind_fits ht htime
    · next hmentions =>
      rw [if_neg hmentions]
      obtain ⟨he, hname⟩ := enumNamed?_eq_some henum
      exact enumKind_fits outer d ht hf he (hname.trans hbase)

/-! ## Structs -/

theorem access_text (t : TypeExpr) :
    access t.text = match t.sliceElement? with
      | some element => if TypeText.isPointer element.text then .slice true else .slice false
      | none => if TypeText.isPointer t.text then .pointer else .value :=
  match_sliceElement?_text t _ _ _

theorem fits_object {flatten : String} (ht : t.Plain) (hmap : TypeText.isMap t.text ≠ true) :
    Fits enums (.object flatten (access t.text)) t := by
  rw [access_text]
  cases ht with
  | @named pointer package name =>
    rw [TypeExpr.sliceElement?, unpointed_named, isPointer_named]
    cases pointer with
    | false => exact .value
    | true => exact .pointer
  | @slice pointer package name =>
    show Fits enums (.object flatten (if TypeText.isPointer
      (behind pointer (named package name)).text then .slice true else .slice false)) _
    rw [isPointer_named]
    cases pointer with
    | false => exact @Fits.slice _ _ false _ _
    | true => exact @Fits.slice _ _ true _ _
  | map => exact absurd isMap_map hmap

/-- A struct is read as the form of its type asks for. -/
theorem objectKind_fits (outer : Package) {f : ShapeField} (nodes : List Node)
    (union : Option UnionBranch) (d : Draft) (ht : t.Plain) (hf : f.type.toList = t.text)
    (hmap : TypeText.isMap t.text ≠ true) : Fits enums (objectKind outer f nodes union d).1.1 t := by
  unfold objectKind
  split
  · exact .unfilled
  · rw [run_bind]
    cases (Draft.qualified? outer f d).1 with
    | none => exact .unfilled
    | some type =>
      simp only [run_bind, run_pure, hf]
      exact fits_object ht hmap

theorem content_fits (reserved : List String) (outer : Package) {f : ShapeField} (d : Draft)
    (ht : t.Plain) (hf : f.type.toList = t.text)
    (htime : ∀ pointer, (content enums reserved outer f d).1.1 = .time pointer → t.IsTime) :
    Fits enums (content enums reserved outer f d).1.1 t := by
  rw [content_eq] at htime ⊢
  split at htime
  · next hcomposite =>
    rw [if_pos hcomposite]
    split
    · exact .unfilled
    · -- a map of structs has been left out by now
      next hopen =>
      rw [hf, not_or] at hopen
      exact objectKind_fits outer _ _ _ ht hf hopen.2
  · next hleaf =>
    rw [if_neg hleaf]
    exact leafKind_fits outer d ht hf htime

/-! ## Unions and responses -/

/-- The type of a union's value is that of the struct, behind brackets if the member is a slice. -/
theorem unionType?_text {outer : Package} {f : ShapeField} {d : Draft}
    (hf : f.type.toList = t.text) :
    (Draft.unionType? outer f d).1 =
      (Draft.qualified? outer f d).1.map fun type =>
        (match t.sliceElement? with
          | some element => if TypeText.isPointer element.text then "[]*" else "[]"
          | none => "") ++ type := by
  simp only [Draft.unionType?, run_bind, run_pure, hf]
  exact congrArg (fun wrapping => (Draft.qualified? outer f d).1.map (wrapping ++ ·))
    (match_sliceElement?_text t "[]*" "[]" "")

theorem unionType?_fits {outer : Package} {f : ShapeField} {d : Draft} {type : String}
    (ht : t.Plain) (hmap : TypeText.isMap t.text ≠ true) (hf : f.type.toList = t.text)
    (h : (Draft.unionType? outer f d).1 = some type) : BranchFits type t := by
  -- a package before the name changes nothing about the declared type
  obtain ⟨-, -, -, -, hbase⟩ := Draft.qualified?_run outer f d
  rw [unionType?_text hf] at h
  obtain ⟨qualified, hqualified, rfl⟩ := Option.map_eq_some_iff.1 h
  have hname : unqualified qualified = String.ofList t.declared.chars := by
    rw [hbase hqualified, Go.baseName, hf, baseName_text]
  cases ht with
  | @named pointer package name =>
    rw [declared_behind] at hname
    rw [TypeExpr.sliceElement?, unpointed_named]
    simp only [String.empty_append]
    exact .one hname
  | @slice pointer package name =>
    rw [TypeExpr.declared, declared_behind] at hname
    show BranchFits ((if TypeText.isPointer (behind pointer (named package name)).text
      then "[]*" else "[]") ++ qualified) _
    rw [isPointer_named]
    exact .slice hname
  | map => exact absurd isMap_map hmap

theorem member_fits {taken : List String} {outer : Package} {f : ShapeField} {d : Draft}
    {nodes : List Node} {union : UnionBranch} (ht : t.Plain)
    (hmap : TypeText.isMap t.text ≠ true) (hf : f.type.toList = t.text)
    (h : (member enums taken outer f d).1 = some (nodes, union)) : BranchFits union.type t := by
  rw [member_eq] at h
  split at h
  · exact nomatch h
  · rw [run_bind] at h
    cases htype : (Draft.unionType? outer f d).1 with
    | none =>
      rw [htype] at h
      exact nomatch h
    | some type =>
      rw [htype] at h
      simp only [run_bind] at h
      split at h
      · exact nomatch h
      · rw [run_pure, Option.some.injEq, Prod.mk.injEq] at h
        rw [← h.2]
        exact unionType?_fits ht hmap hf htype

theorem BranchFits.plain {type : String} (h : BranchFits type t) :
    t.Plain ∧ TypeText.isMap t.text ≠ true := by
  cases h with
  | one => exact ⟨.named, by rw [isMap_named]; exact Bool.false_ne_true⟩
  | slice => exact ⟨.slice, by rw [isMap_slice]; exact Bool.false_ne_true⟩

/-- A wrapping field is neither a slice nor a map. -/
theorem argument_fits {s : Shape} {f : ShapeField} (ht : t.Plain) (hf : f.type.toList = t.text)
    (h : Plan.envelope? s = some f) : ArgumentFits f (Plan.payload s).2 t := by
  have hargument : (Plan.payload s).2 =
      (if TypeText.isPointer t.text then "resp." else "&resp.") ++ selector f := by
    rw [Plan.payload, h]
    dsimp only
    rw [hf]
  have hguards := (Option.filter_eq_some_iff.1 h).2
  simp only [hf, Bool.and_eq_true, Bool.not_eq_true'] at hguards
  rw [hargument]
  cases ht with
  | @named pointer package name =>
    rw [isPointer_named]
    cases pointer with
    | false => exact .value
    | true => exact .pointer
  | slice =>
    have hslice := hguards.1.2
    rw [TypeText.isSlice, unpointed_text] at hslice
    exact absurd hslice Bool.false_ne_true.symm
  | map =>
    rw [isMap_map] at hguards
    exact absurd hguards.2 (by decide)

theorem ArgumentFits.plain {f : ShapeField} {argument : String} (h : ArgumentFits f argument t) :
    t.Plain := by
  cases h with
  | pointer => exact @Plain.named true _ _
  | value => exact @Plain.named false _ _

/-! ## All types -/

/-- Which fields of a type are read as the type asks for. -/
structure Read (enums : List Enumeration) (f : ShapeField) (t : TypeExpr) : Prop where
  /-- A node fits exactly if it is left unfilled, or has a plain type that is not taken for a time
  just because it mentions one. -/
  content : ∀ (reserved : List String) (outer : Package) (d : Draft) {kind : NodeKind},
    (Schema.content enums reserved outer f d).1.1 = kind →
      (Fits enums kind t ↔
        kind = .unfilled ∨ t.Plain ∧ ∀ pointer, kind = .time pointer → t.IsTime)
  /-- A union member takes the place of the union rightly exactly if it has a plain type other than
  a map. -/
  member : ∀ (taken : List String) (outer : Package) (d : Draft) {nodes : List Node}
    {union : UnionBranch}, (Schema.member enums taken outer f d).1 = some (nodes, union) →
      (BranchFits union.type t ↔ t.Plain ∧ TypeText.isMap t.text ≠ true)
  /-- A field that wraps a response is handed over rightly exactly if it has a plain type. -/
  argument : ∀ {s : Shape}, Plan.envelope? s = some f →
    (ArgumentFits f (Plan.payload s).2 t ↔ t.Plain)

/-- **Plain types are read as they have to be**, and of the others only those that are left out. -/
theorem field_read {f : ShapeField} (hf : f.type.toList = t.text) : Read enums f t where
  content reserved outer d kind hkind := by
    constructor
    · -- all that fits has a plain form, by the cases of `Fits`
      intro hfits
      by_cases hunfilled : kind = .unfilled
      · exact .inl hunfilled
      · exact .inr ⟨hfits.plain hunfilled, fun pointer htime => (htime ▸ hfits).isTime⟩
    · rintro (rfl | ⟨hplain, htime⟩)
      · exact .unfilled
      · rw [← hkind] at htime ⊢
        exact content_fits reserved outer d hplain hf htime
  member taken outer d nodes union hmember :=
    ⟨BranchFits.plain, fun h => member_fits h.1 h.2 hf hmember⟩
  argument hs := ⟨ArgumentFits.plain, fun h => argument_fits h hf hs⟩

/-- A pointer to a time is read as such. -/
theorem field_read_time :
    "*time.Time".toList = (TypeExpr.pointer .time).text ∧
      Read [] { name := "At", type := "*time.Time" } (.pointer .time) :=
  ⟨by decide, field_read (by decide)⟩

/-- The type `string`. -/
def stringType : TypeExpr := .named none (.ofChars "string".toList (by decide) (by decide))

/-- The type `Widget`. -/
def widgetType : TypeExpr := .named none (.ofChars "Widget".toList (by decide) (by decide))

/-- The type `[2]time.Time`. -/
def timesType : TypeExpr := .array ⟨['2'], nofun, List.all_eq_true.1 rfl⟩ .time

/-- A union member that maps names to structs. -/
def mapMember : ShapeField where
  name := "oneOfType0"
  type := "map[string]Widget"
  isComposite := true
  children := [{ name := "Name", type := "*string" }]

/-- **Other types are not**: an array of times is read as one time, what a pointer to a pointer
holds is read through one pointer, and a map takes the place of a union as if it were a struct. -/
theorem not_fits_wrapped :
    (content [] [] ⟨none, none⟩ { name := "At", type := String.ofList timesType.text } {}).1.1 =
        .time false ∧
      ¬ Fits [] (.time false) timesType ∧
    (content [] [] ⟨none, none⟩
        { name := "Label", type := String.ofList (pointer (.pointer stringType)).text } {}).1.1 =
        .scalar .string true ∧
      ¬ Fits [] (.scalar .string true) (.pointer (.pointer stringType)) ∧
    mapMember.type.toList = (TypeExpr.map stringType widgetType).text ∧
      ((member [] [] ⟨none, none⟩ mapMember {}).1.map fun r => r.2.type) = some "Widget" ∧
      ¬ BranchFits "Widget" (.map stringType widgetType) := by
  have hkind : ∀ {kind : NodeKind} {t : TypeExpr},
      kind ≠ .unfilled → ¬ t.Plain → ¬ Fits [] kind t :=
    fun hkind ht hfits => ht (hfits.plain hkind)
  refine ⟨by decide +kernel, hkind nofun (by decide), by decide +kernel, hkind nofun (by decide),
    by decide, by decide +kernel, fun hfits => ?_⟩
  -- the text of a map shows that it is one
  exact hfits.plain.2 ((isMap_text _).2 ⟨stringType, widgetType, rfl⟩)

end ProviderGlue.Schema
