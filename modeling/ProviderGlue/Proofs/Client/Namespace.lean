import ProviderGlue.Proofs.Client.Package
import ProviderGlue.Proofs.Text.Pattern

/-!
# The namespace of a path

A namespace is taken from the first component of a path that has `-go-client` at its end and is neither
the first nor the last one.  That is what a search for the pattern `/([a-z0-9-]+)-go-client/` finds, with
the longest repetitions tried first: no other part of such a component could be matched.

## Key results

- `mem_ways_iff`: how the pattern can match
- `captured_search`: what the pattern keeps is the namespace of the first component that names one
- `namespaceToken_spec`: which namespace is taken from a path
-/

namespace ProviderGlue

open Text

/-! ## The pattern -/

/-- The pattern for a component that names a namespace, which is kept. -/
def namespacePattern : Pattern :=
  .seq (.text ['/']) (.seq (.capture (.many isNamespaceChar)) (.text "-go-client/".toList))

/-- The pattern matches at a slash, with any namespace that has the rest of the pattern behind it. -/
theorem mem_ways_iff {text : List Char} {m : Match} :
    m ∈ namespacePattern.ways text ↔ ∃ token, token ≠ [] ∧ (∀ c ∈ token, isNamespaceChar c = true) ∧
      m = ⟨'/' :: (token ++ "-go-client/".toList), some token, m.rest⟩ ∧
      text = '/' :: (token ++ ("-go-client/".toList ++ m.rest)) := by
  simp only [namespacePattern, Pattern.ways, List.mem_flatMap, List.mem_map, Option.mem_toList,
    afterPrefix?_eq_some_iff]
  constructor
  · -- a slash, a run with the rest behind it, and the ending of the pattern
    rintro ⟨_, ⟨cs, rfl, rfl⟩, _, hbehind, rfl⟩
    obtain ⟨_, ⟨⟨token, captured, cs'⟩, hrun, rfl⟩, _, ⟨rest, hending, rfl⟩, rfl⟩ := hbehind
    obtain ⟨-, hne, hall, htoken⟩ := Pattern.mem_runs_iff.1 hrun
    have hcs : cs = token ++ ("-go-client/".toList ++ rest) := htoken.trans (congrArg _ hending)
    exact ⟨token, hne, hall, rfl, congrArg _ hcs⟩
  · rintro ⟨token, hne, hall, hm, rfl⟩
    have hrun : ⟨token, none, "-go-client/".toList ++ m.rest⟩ ∈
        Pattern.runs isNamespaceChar (token ++ ("-go-client/".toList ++ m.rest)) :=
      Pattern.mem_runs_iff.2 ⟨rfl, hne, hall, rfl⟩
    refine ⟨⟨['/'], none, _⟩, ⟨_, rfl, rfl⟩, ⟨token ++ "-go-client/".toList, some token, m.rest⟩, ?_,
      hm.symm⟩
    exact ⟨⟨token, some token, _⟩, ⟨_, hrun, rfl⟩, ⟨_, none, m.rest⟩, ⟨m.rest, rfl, rfl⟩, rfl⟩

/-- A component of a path has a namespace and `-go-client` behind it. -/
theorem namespaceOf?_eq_some_iff {component token : List Char} :
    namespaceOf? component = some token ↔
      component = token ++ "-go-client".toList ∧ token ≠ [] ∧ ∀ c ∈ token, isNamespaceChar c = true := by
  rw [namespaceOf?, Option.filter_eq_some_iff, beforeSuffix?_eq_some_iff, Bool.and_eq_true,
    Bool.not_eq_true', List.isEmpty_eq_false_iff, List.all_eq_true]

/-- No separator is part of a component that names a namespace. -/
theorem splitAt_named {token : List Char} (hall : ∀ c ∈ token, isNamespaceChar c = true)
    (rest : List Char) :
    splitAt '/' (token ++ ("-go-client/".toList ++ rest)) =
      (token ++ "-go-client".toList) :: splitAt '/' rest := by
  have hslash : ∀ c ∈ token ++ "-go-client".toList, (c == '/') = false := by
    have htoken : '/' ∉ token := fun hc => absurd (hall _ hc) (by decide)
    have hending : '/' ∉ "-go-client".toList := by decide
    intro c hc
    refine beq_false_of_ne (ne_of_mem_of_not_mem hc ?_)
    exact fun hmem => (List.mem_append.1 hmem).elim htoken hending
  have htext : token ++ ("-go-client/".toList ++ rest) =
      (token ++ "-go-client".toList) ++ '/' :: rest := by
    simp
  rw [htext, splitAt, splitWhere_append (by decide), splitWhere_eq_self hslash]
  rfl

/-- At a slash, the pattern matches in the component behind it only. -/
theorem captured_of_mem_ways {cs component : List Char} {pieces : List (List Char)} {m : Match}
    (hsplit : splitAt '/' cs = component :: pieces) (hm : m ∈ namespacePattern.ways ('/' :: cs)) :
    ∃ token, m.captured = some token ∧ namespaceOf? component = some token ∧ pieces ≠ [] := by
  obtain ⟨token, hne, hall, hway, hcs⟩ := mem_ways_iff.1 hm
  obtain ⟨-, rfl⟩ := List.cons.inj hcs
  -- the slash of the pattern ends the component
  rw [splitAt_named hall] at hsplit
  obtain ⟨rfl, rfl⟩ := List.cons.inj hsplit
  exact ⟨token, by rw [hway], namespaceOf?_eq_some_iff.2 ⟨rfl, hne, hall⟩, splitWhere_ne_nil _ _⟩

/-- There it keeps the namespace of that component, if it is not the last one. -/
theorem captured_ways {cs component : List Char} {pieces : List (List Char)}
    (hsplit : splitAt '/' cs = component :: pieces) :
    (namespacePattern.ways ('/' :: cs)).head?.bind (·.captured) =
      if pieces = [] then none else namespaceOf? component := by
  cases hways : namespacePattern.ways ('/' :: cs) with
  | cons m ms =>
    obtain ⟨token, hcaptured, hname, hne⟩ := captured_of_mem_ways hsplit (hways ▸ List.mem_cons_self)
    rw [if_neg hne, hname]
    exact hcaptured
  | nil =>
    cases pieces with
    | nil => rfl
    | cons next pieces =>
      rw [if_neg (List.cons_ne_nil _ _)]
      refine (Option.eq_none_iff_forall_ne_some.2 fun token hname => ?_).symm
      obtain ⟨rfl, hne, hall⟩ := namespaceOf?_eq_some_iff.1 hname
      -- a component that names a namespace and is not the last one could be matched
      have hcs : cs = token ++ ("-go-client/".toList ++ ['/'].intercalate (next :: pieces)) := by
        rw [← intercalate_splitAt '/' cs, hsplit, List.intercalate_cons_cons]
        simp
      have hmem : ⟨_, some token, ['/'].intercalate (next :: pieces)⟩ ∈
          namespacePattern.ways ('/' :: cs) := mem_ways_iff.2 ⟨token, hne, hall, rfl, congrArg _ hcs⟩
      rw [hways] at hmem
      exact List.not_mem_nil hmem

/-- Away from slashes, the pattern does not match. -/
theorem ways_eq_nil {c : Char} {cs : List Char} (hc : c ≠ '/') :
    namespacePattern.ways (c :: cs) = [] := by
  refine List.eq_nil_iff_forall_not_mem.2 fun m hm => ?_
  obtain ⟨token, -, -, -, heq⟩ := mem_ways_iff.1 hm
  exact hc (List.cons.inj heq).1

/-- The components that may name a namespace: all but the first and the last one. -/
def innerComponents (path : List Char) : List (List Char) := (splitAt '/' path).tail.dropLast

/-- **What the pattern keeps is the namespace of the first component that names one.** -/
theorem captured_search (path : List Char) :
    (namespacePattern.search path).bind (·.captured) =
      (innerComponents path).findSome? namespaceOf? := by
  -- the search goes on behind each slash, where the next component starts
  induction path with
  | nil => rfl
  | cons c cs ih =>
    obtain ⟨component, pieces, hsplit⟩ : ∃ component pieces, splitAt '/' cs = component :: pieces :=
      List.exists_cons_of_ne_nil (splitWhere_ne_nil _ cs)
    rw [Pattern.search]
    by_cases hc : c = '/'
    · subst hc
      have hways := captured_ways hsplit
      have hinner : innerComponents ('/' :: cs) = (component :: pieces).dropLast := by
        rw [innerComponents, splitAt, splitWhere_cons_of_pos (by decide), List.tail_cons]
        exact congrArg _ hsplit
      rw [hinner]
      -- there is a way only if the next component names a namespace and is not the last one
      cases hhead : (namespacePattern.ways ('/' :: cs)).head? with
      | some m =>
        obtain ⟨token, hcaptured, hname, hne⟩ :=
          captured_of_mem_ways hsplit (List.mem_of_mem_head? hhead)
        rw [List.dropLast_cons_of_ne_nil hne, List.findSome?_cons, hname]
        exact hcaptured
      | none =>
        rw [hhead] at hways
        rw [Option.none_or, ih, innerComponents, hsplit]
        cases pieces with
        | nil => rfl
        | cons next pieces =>
          rw [if_neg (List.cons_ne_nil _ _)] at hways
          rw [List.dropLast_cons_cons, List.findSome?_cons, ← hways]
          rfl
    · have hpiece : splitAt '/' (c :: cs) = (c :: component) :: pieces := by
        rw [splitAt] at hsplit
        rw [splitAt, splitWhere, if_neg (by simpa using hc), hsplit]
      rw [ways_eq_nil hc, List.head?_nil, Option.none_or, ih, innerComponents, innerComponents, hpiece,
        hsplit]
      rfl

/-! ## Namespaces of paths -/

/-- A component of a path names a namespace: it has `-go-client` behind it. -/
def NamesNamespace (component : List Char) (token : String) : Prop :=
  component = token.toList ++ "-go-client".toList ∧ IsNamespace token

theorem namesNamespace_iff {component : List Char} {token : String} :
    NamesNamespace component token ↔ namespaceOf? component = some token.toList := by
  rw [namespaceOf?_eq_some_iff]
  exact and_congr_right fun _ => ⟨fun h => ⟨h.nonempty, h.chars⟩, fun h => ⟨h.1, h.2⟩⟩

theorem not_namesNamespace_iff {component : List Char} :
    (∀ token, ¬ NamesNamespace component token) ↔ namespaceOf? component = none := by
  rw [Option.eq_none_iff_forall_ne_some]
  constructor
  · intro h token hname
    refine h (String.ofList token) (namesNamespace_iff.2 ?_)
    rw [String.toList_ofList, hname]
  · exact fun h token hnames => h token.toList (namesNamespace_iff.1 hnames)

/-- Some components stand inside a path. -/
def Inside (path : String) (inner : List (List Char)) : Prop :=
  ∃ first last, splitAt '/' path.toList = first :: (inner ++ [last])

theorem inside_iff {path : String} {inner : List (List Char)} (hne : inner ≠ []) :
    Inside path inner ↔ innerComponents path.toList = inner := by
  rw [innerComponents]
  constructor
  · rintro ⟨first, last, hsplit⟩
    rw [hsplit, List.tail_cons, List.dropLast_concat]
  · rintro rfl
    obtain ⟨first, pieces, hsplit⟩ : ∃ first pieces, splitAt '/' path.toList = first :: pieces :=
      List.exists_cons_of_ne_nil (splitWhere_ne_nil _ path.toList)
    rw [hsplit, List.tail_cons] at hne
    have hpieces : pieces ≠ [] := by
      rintro rfl
      exact hne rfl
    refine ⟨first, pieces.getLast hpieces, ?_⟩
    rw [hsplit, List.tail_cons, List.dropLast_concat_getLast]

theorem findSome?_eq_none_iff_inside {path : String} :
    (innerComponents path.toList).findSome? namespaceOf? = none ↔
      ∀ inner, Inside path inner → ∀ component ∈ inner, ∀ token, ¬ NamesNamespace component token := by
  rw [List.findSome?_eq_none_iff]
  constructor
  · intro h inner hinside component hcomponent
    rw [inside_iff (List.ne_nil_of_mem hcomponent)] at hinside
    exact not_namesNamespace_iff.2 (h component (hinside ▸ hcomponent))
  · intro h component hcomponent
    have hinside := (inside_iff (List.ne_nil_of_mem hcomponent)).2 rfl
    exact not_namesNamespace_iff.1 (h _ hinside component hcomponent)

theorem namespaceToken_eq_ok_iff {path token : String} :
    namespaceToken path = .ok token ↔
      (innerComponents path.toList).findSome? namespaceOf? = some token.toList := by
  rw [namespaceToken, ← innerComponents]
  cases (innerComponents path.toList).findSome? namespaceOf? with
  | none => simp
  | some name =>
    constructor
    · intro h
      rw [← Except.ok.inj h, String.toList_ofList]
    · intro h
      rw [← String.ofList_toList (s := token), ← Option.some.inj h]

theorem namespaceToken_eq_error_iff {path : String} {f : Failure} :
    namespaceToken path = .error f ↔
      f = .noNamespace path ∧ (innerComponents path.toList).findSome? namespaceOf? = none := by
  rw [namespaceToken, ← innerComponents]
  cases (innerComponents path.toList).findSome? namespaceOf? with
  | none =>
    constructor
    · intro h
      exact ⟨(Except.error.inj h).symm, rfl⟩
    · rintro ⟨rfl, -⟩
      rfl
  | some name => simp

/-- Which namespace is taken from a path. -/
structure NamespaceTaken (path : String) : Prop where
  /-- It is that of a component inside the path, before which no other one names any. -/
  taken : ∀ token, namespaceToken path = .ok token ↔
    ∃ before component after, Inside path (before ++ component :: after) ∧
      NamesNamespace component token ∧ ∀ earlier ∈ before, ∀ other, ¬ NamesNamespace earlier other
  /-- There is one if any component inside the path names one. -/
  any : (∃ token, namespaceToken path = .ok token) ↔
    ∃ inner, Inside path inner ∧ ∃ component ∈ inner, ∃ token, NamesNamespace component token
  /-- Any other path is refused. -/
  refused : ∀ f, namespaceToken path = .error f ↔ f = .noNamespace path ∧
    ∀ inner, Inside path inner → ∀ component ∈ inner, ∀ token, ¬ NamesNamespace component token
  /-- That is a fault of the configuration. -/
  configuration : ∀ f, namespaceToken path = .error f → f.category = .configuration
  /-- The namespace is what a search for the pattern keeps. -/
  searched : namespaceToken path =
    match (namespacePattern.search path.toList).bind (·.captured) with
    | some name => .ok (String.ofList name)
    | none => .error (.noNamespace path)

/-- **The namespace of a path is that of the first component inside it that names one**, and a search for
the pattern finds it. -/
theorem namespaceToken_spec (path : String) : NamespaceTaken path := by
  have htaken : ∀ token, namespaceToken path = .ok token ↔
      ∃ before component after, Inside path (before ++ component :: after) ∧
        NamesNamespace component token ∧
          ∀ earlier ∈ before, ∀ other, ¬ NamesNamespace earlier other := by
    intro token
    rw [namespaceToken_eq_ok_iff, List.findSome?_eq_some_iff]
    refine exists_congr fun before => exists_congr fun component => exists_congr fun after => ?_
    rw [inside_iff (List.append_ne_nil_of_right_ne_nil before (List.cons_ne_nil component after)),
      namesNamespace_iff]
    simp only [not_namesNamespace_iff]
  constructor
  case taken => exact htaken
  case any =>
    constructor
    · rintro ⟨token, htoken⟩
      obtain ⟨before, component, after, hinside, hnames, -⟩ := (htaken token).1 htoken
      exact ⟨_, hinside, component, List.mem_append_right _ List.mem_cons_self, token, hnames⟩
    · rintro ⟨inner, hinside, component, hcomponent, token, hnames⟩
      cases hfind : (innerComponents path.toList).findSome? namespaceOf? with
      | none =>
        have hnone := findSome?_eq_none_iff_inside.1 hfind
        exact absurd hnames (hnone inner hinside component hcomponent token)
      | some name =>
        refine ⟨String.ofList name, namespaceToken_eq_ok_iff.2 ?_⟩
        rw [hfind, String.toList_ofList]
  case refused =>
    intro f
    rw [namespaceToken_eq_error_iff, findSome?_eq_none_iff_inside]
  case configuration =>
    intro f hf
    rw [(namespaceToken_eq_error_iff.1 hf).1]
    rfl
  case searched =>
    rw [captured_search]
    rfl

/-- Only the last ending is taken off. -/
example : namespaceToken "x/-/a-go-client-go-client/b-go-client/v4" = .ok "a-go-client" :=
  rfl

end ProviderGlue
