import ProviderGlue.Proofs.Catalog.Walk

/-!
# Runs on a catalog

A catalog starts out empty.  Structs are inserted into it, other catalogs are merged in, and structs are
left out, in any order.  Then a name has the struct that was carried last, unless a later step left the
name out.  A merge takes the structs of the other catalog in any order; that makes a difference only if
two of them have the same name, which never happens in a catalog that is keyed by name.

## Key results

- `keyed_ofFiles`: the catalog of source files is keyed by name
- `Leads.get?_types`: what a step does about a name
- `mergeIn_eq_merge_iff`: when the order of a merge makes no difference
- `maintained_of_run`: what a catalog holds after any steps
-/

namespace ProviderGlue.Catalog

/-- Each struct stands under its name. -/
def Keyed (c : Catalog) : Prop := ∀ name s, c.types.get? name = some s → s.name = name

/-- The structs have different names. -/
def OneEach (c : Catalog) : Prop :=
  ∀ s ∈ c.types.values, ∀ s' ∈ c.types.values, s.name = s'.name → s = s'

theorem Keyed.oneEach {c : Catalog} (h : c.Keyed) : c.OneEach := by
  intro s hs s' hs' heq
  obtain ⟨key, hkey⟩ := Table.mem_values_iff.1 hs
  obtain ⟨key', hkey'⟩ := Table.mem_values_iff.1 hs'
  rw [← h key s hkey, heq, h key' s' hkey', hkey'] at hkey
  exact (Option.some.inj hkey).symm

/-- The catalog of source files is keyed by name. -/
theorem keyed_ofFiles (files : List Go.SourceFile) : (ofFiles files).Keyed := by
  intro name s h
  rw [types_ofFiles] at h
  simpa using (List.mem_filter.1 (List.mem_of_getLast? h)).2

/-! ## Steps -/

/-- A step that changes a catalog. -/
inductive Step where
  | insert (s : Go.Struct)
  | merge (other : Catalog)
  | retain (keep : List String)

namespace Step

/-- What a step makes of a catalog. -/
def apply (c : Catalog) : Step → Catalog
  | insert s => c.insert s
  | merge other => c.merge other
  | retain keep => c.retain keep

/-- A step carries a struct. -/
def Carries : Step → Go.Struct → Prop
  | insert s, s' => s' = s
  | merge other, s' => s' ∈ other.types.values
  | retain _, _ => False

/-- A step leaves a name out. -/
def LeavesOut : Step → String → Prop
  | retain keep, name => name ∉ keep
  | _, _ => False

/-- A step does nothing about a name. -/
structure Passes (step : Step) (name : String) : Prop where
  carries : ∀ s, step.Carries s → s.name ≠ name
  leavesOut : ¬ step.LeavesOut name

/-- The enumerations that a step merges in. -/
def enums? : Step → Option (Table Enumeration)
  | merge other => some other.enums
  | _ => none

end Step

/-- A step leads from a catalog to another one.  A merge takes the structs in any order. -/
inductive Leads (c : Catalog) : Step → Catalog → Prop
  | insert (s : Go.Struct) : Leads c (.insert s) (c.insert s)
  | merge {other : Catalog} {order : List Go.Struct} (h : order.Perm other.types.values) :
    Leads c (.merge other) (c.mergeIn other order)
  | retain (keep : List String) : Leads c (.retain keep) (c.retain keep)

theorem leads_apply (c : Catalog) (step : Step) : Leads c step (step.apply c) := by
  cases step with
  | insert s => exact .insert s
  | merge other => exact .merge (.refl _)
  | retain keep => exact .retain keep

theorem get?_mergeIn (c other : Catalog) (order : List Go.Struct) (name : String) :
    (c.mergeIn other order).types.get? name =
      ((order.filter (·.name = name)).getLast?).or (c.types.get? name) := by
  rw [mergeIn, types_foldl_insert, Table.get?_foldl_insert, List.filter_map, List.getLast?_map,
    Option.map_map]
  exact congrArg (Option.or · _) Option.map_id'

/-- **What a step does about a name**: it carries a struct of that name, or it does nothing, or it leaves
the name out. -/
theorem Leads.get?_types {c c' : Catalog} {step : Step} (h : Leads c step c') (name : String) :
    (∃ s, step.Carries s ∧ s.name = name ∧ c'.types.get? name = some s) ∨
      (step.Passes name ∧ c'.types.get? name = c.types.get? name) ∨
      (step.LeavesOut name ∧ c'.types.get? name = none) := by
  cases h with
  | insert s =>
    by_cases hname : name = s.name
    · refine .inl ⟨s, rfl, hname.symm, ?_⟩
      rw [Catalog.insert, Table.get?_insert, if_pos hname]
    · refine .inr (.inl ⟨⟨?_, id⟩, ?_⟩)
      · rintro _ rfl
        exact Ne.symm hname
      · rw [Catalog.insert, Table.get?_insert, if_neg hname]
  | @merge other order hperm =>
    rw [get?_mergeIn]
    cases hlast : (order.filter (·.name = name)).getLast? with
    | some s =>
      obtain ⟨hmem, hname⟩ := List.mem_filter.1 (List.mem_of_getLast? hlast)
      exact .inl ⟨s, hperm.mem_iff.1 hmem, by simpa using hname, rfl⟩
    | none =>
      -- no struct of that name is among those that are merged in
      refine .inr (.inl ⟨⟨fun s hs hname => ?_, id⟩, rfl⟩)
      have hnone := List.filter_eq_nil_iff.1 (List.getLast?_eq_none_iff.1 hlast) s (hperm.mem_iff.2 hs)
      exact hnone (decide_eq_true hname)
  | retain keep =>
    rw [Catalog.retain, Table.get?_filterKeys]
    by_cases hname : name ∈ keep
    · rw [if_pos (List.contains_iff_mem.2 hname)]
      exact .inr (.inl ⟨⟨nofun, not_not_intro hname⟩, rfl⟩)
    · rw [if_neg (mt List.contains_iff_mem.1 hname)]
      exact .inr (.inr ⟨hname, rfl⟩)

theorem Step.not_carries_of_leavesOut {step : Step} {name : String} (h : step.LeavesOut name)
    (s : Go.Struct) : ¬ step.Carries s := by
  cases step with
  | retain keep => exact id
  | insert s' => exact absurd h id
  | merge other => exact absurd h id

/-- A merge puts its enumerations over those of the catalog; no other step changes any. -/
theorem Leads.get?_enums {c c' : Catalog} {step : Step} (h : Leads c step c') (name : String) :
    c'.enums.get? name = (step.enums?.bind (·.get? name)).or (c.enums.get? name) := by
  cases h with
  | insert s => rfl
  | merge hperm => exact Table.get?_union ..
  | retain keep => rfl

theorem Leads.methods {c c' : Catalog} {step : Step} (h : Leads c step c') :
    c'.methods = c.methods := by
  cases h <;> rfl

/-! ## The order of a merge -/

/-- Of structs with different names, each name has one, in whatever order they come. -/
theorem getLast?_filter_perm {ss order : List Go.Struct} (hperm : order.Perm ss)
    (heach : ∀ s ∈ ss, ∀ s' ∈ ss, s.name = s'.name → s = s') (name : String) :
    (order.filter (·.name = name)).getLast? = (ss.filter (·.name = name)).getLast? := by
  have hmem : ∀ {l : List Go.Struct} {s}, (l.filter (·.name = name)).getLast? = some s →
      s ∈ l ∧ s.name = name := by
    intro l s hlast
    obtain ⟨hs, hname⟩ := List.mem_filter.1 (List.mem_of_getLast? hlast)
    exact ⟨hs, of_decide_eq_true hname⟩
  have hfilter := hperm.filter (·.name = name)
  cases hlast : (order.filter (·.name = name)).getLast? with
  | none =>
    rw [List.getLast?_eq_none_iff] at hlast
    rw [hlast] at hfilter
    rw [List.nil_perm.1 hfilter]
    rfl
  | some s =>
    obtain ⟨hs, hname⟩ := hmem hlast
    cases hlast' : (ss.filter (·.name = name)).getLast? with
    | none =>
      rw [List.getLast?_eq_none_iff] at hlast'
      rw [hlast', List.perm_nil] at hfilter
      rw [hfilter] at hlast
      contradiction
    | some s' =>
      obtain ⟨hs', hname'⟩ := hmem hlast'
      rw [heach s (hperm.mem_iff.1 hs) s' hs' (hname.trans hname'.symm)]

/-- **The order of a merge makes no difference exactly if the structs have different names.** -/
theorem mergeIn_eq_merge_iff {c other : Catalog} :
    (∀ order, order.Perm other.types.values → c.mergeIn other order = c.merge other) ↔
      other.OneEach := by
  constructor
  · intro h s hs s' hs' heq
    -- each of the structs may come last
    have hlast : ∀ s ∈ other.types.values, (c.merge other).types.get? s.name = some s := by
      intro s hs
      obtain ⟨before, after, hvalues⟩ := List.append_of_mem hs
      have hperm : (before ++ after ++ [s]).Perm other.types.values := by
        rw [hvalues, List.append_assoc]
        exact (List.perm_append_singleton s after).append_left before
      have hself : [s].filter (·.name = s.name) = [s] := List.filter_cons_of_pos (decide_eq_true rfl)
      rw [← h _ hperm, get?_mergeIn, List.filter_append, hself, List.getLast?_concat, Option.some_or]
    have hget := hlast s hs
    rw [heq, hlast s' hs'] at hget
    exact (Option.some.inj hget).symm
  · intro heach order hperm
    have htypes : (c.mergeIn other order).types = (c.merge other).types := by
      refine Table.ext_get? fun name => ?_
      show _ = (c.mergeIn other other.types.values).types.get? name
      rw [get?_mergeIn, get?_mergeIn, getLast?_filter_perm hperm heach]
    show { c with types := _, enums := _ } = { c with types := _, enums := _ }
    congr 1

/-! ## Runs -/

/-- Steps lead from the empty catalog to another one. -/
inductive Run : List Step → Catalog → Prop
  | start : Run [] {}
  | next {steps : List Step} {step : Step} {c c' : Catalog} (h : Run steps c) (hstep : Leads c step c') :
    Run (steps ++ [step]) c'

/-- The functions of the catalog make a run. -/
theorem run_foldl (steps : List Step) : Run steps (steps.foldl Step.apply {}) := by
  induction steps using List.reverseRecOn with
  | nil => exact .start
  | append_singleton steps step ih =>
    rw [List.foldl_append]
    exact ih.next (leads_apply _ step)

/-- A struct was carried by some step, and no later step did anything about its name. -/
def LastCarried (steps : List Step) (s : Go.Struct) : Prop :=
  ∃ before step after, steps = before ++ step :: after ∧ step.Carries s ∧
    ∀ later ∈ after, later.Passes s.name

theorem not_lastCarried_nil (s : Go.Struct) : ¬ LastCarried [] s := by
  rintro ⟨before, step, after, heq, -⟩
  exact List.append_ne_nil_of_right_ne_nil before (List.cons_ne_nil step after) heq.symm

theorem lastCarried_concat_iff {steps : List Step} {step : Step} {s : Go.Struct} :
    LastCarried (steps ++ [step]) s ↔
      step.Carries s ∨ (LastCarried steps s ∧ step.Passes s.name) := by
  constructor
  · rintro ⟨before, carrier, after, heq, hcarries, hpasses⟩
    -- the struct is carried by the last step, or by one before it
    cases after using List.reverseRecOn with
    | nil =>
      obtain ⟨-, hstep⟩ := List.append_inj' heq rfl
      exact .inl (List.singleton_inj.1 hstep ▸ hcarries)
    | append_singleton after last =>
      rw [← List.cons_append, ← List.append_assoc] at heq
      obtain ⟨rfl, hstep⟩ := List.append_inj' heq rfl
      obtain ⟨hafter, hlast⟩ := List.forall_mem_append.1 hpasses
      rw [List.singleton_inj.1 hstep]
      exact .inr ⟨⟨before, carrier, after, rfl, hcarries, hafter⟩, hlast last List.mem_cons_self⟩
  · rintro (hcarries | ⟨⟨before, carrier, after, rfl, hcarries, hafter⟩, hpasses⟩)
    · exact ⟨steps, step, [], rfl, hcarries, nofun⟩
    · refine ⟨before, carrier, after ++ [step], ?_, hcarries, ?_⟩
      · rw [List.append_assoc, List.cons_append]
      · exact List.forall_mem_append.2 ⟨hafter, List.forall_mem_singleton.2 hpasses⟩

/-- Of structs of one name, one is carried last, if merged catalogs have one of each name. -/
theorem LastCarried.eq {steps : List Step} (heach : ∀ other, .merge other ∈ steps → other.OneEach)
    {s s' : Go.Struct} (h : LastCarried steps s) (h' : LastCarried steps s') (hname : s.name = s'.name) :
    s = s' := by
  induction steps using List.reverseRecOn with
  | nil => exact absurd h (not_lastCarried_nil s)
  | append_singleton steps step ih =>
    -- what the last step carries cannot have a name that it does nothing about
    rcases lastCarried_concat_iff.1 h with hs | ⟨hs, hpasses⟩
    · rcases lastCarried_concat_iff.1 h' with hs' | ⟨-, hpasses'⟩
      · cases step with
        | insert t => exact hs.trans hs'.symm
        | retain keep => exact absurd hs id
        | merge other =>
          exact heach other (List.mem_append_right _ List.mem_cons_self) s hs s' hs' hname
      · exact absurd hname (hpasses'.carries s hs)
    · rcases lastCarried_concat_iff.1 h' with hs' | ⟨hs', -⟩
      · exact absurd hname.symm (hpasses.carries s' hs')
      · exact ih (fun other hother => heach other (List.mem_append_left _ hother)) hs hs'

namespace Run

/-- **A run keeps under each name a struct that was carried last.** -/
theorem held {steps : List Step} {c : Catalog} (h : Run steps c) {name : String} {s : Go.Struct}
    (hs : c.types.get? name = some s) : s.name = name ∧ LastCarried steps s := by
  induction h with
  | start => nomatch hs
  | next _ hstep ih =>
    -- the struct comes with the step, or was there before
    rcases hstep.get?_types name with ⟨s', hcarries, hname, hget⟩ | ⟨hpasses, hget⟩ | ⟨-, hget⟩
    · obtain rfl := Option.some.inj (hget.symm.trans hs)
      exact ⟨hname, lastCarried_concat_iff.2 (.inl hcarries)⟩
    · obtain ⟨hname, hlast⟩ := ih (hget ▸ hs)
      exact ⟨hname, lastCarried_concat_iff.2 (.inr ⟨hlast, hname ▸ hpasses⟩)⟩
    · rw [hget] at hs
      contradiction

/-- It loses no name of which a struct was carried last. -/
theorem isSome {steps : List Step} {c : Catalog} (h : Run steps c) {s : Go.Struct}
    (hs : LastCarried steps s) : (c.types.get? s.name).isSome := by
  induction h with
  | start => exact absurd hs (not_lastCarried_nil s)
  | next _ hstep ih =>
    rcases hstep.get?_types s.name with ⟨s', -, -, hget⟩ | ⟨hpasses, hget⟩ | ⟨hout, -⟩
    · rw [hget]
      rfl
    · rcases lastCarried_concat_iff.1 hs with hcarries | ⟨hlast, -⟩
      · exact absurd rfl (hpasses.carries s hcarries)
      · rw [hget]
        exact ih hlast
    · -- a step that leaves out names carries nothing, so it is no step that carried the struct last
      rcases lastCarried_concat_iff.1 hs with hcarries | ⟨-, hpasses⟩
      · exact absurd hcarries (Step.not_carries_of_leavesOut hout s)
      · exact absurd hout hpasses.leavesOut

theorem get?_eq_some_iff {steps : List Step} {c : Catalog} (h : Run steps c)
    (heach : ∀ other, .merge other ∈ steps → other.OneEach) (name : String) (s : Go.Struct) :
    c.types.get? name = some s ↔ s.name = name ∧ LastCarried steps s := by
  refine ⟨h.held, ?_⟩
  rintro ⟨rfl, hs⟩
  obtain ⟨s', hs'⟩ := Option.isSome_iff_exists.1 (h.isSome hs)
  obtain ⟨hname, hlast⟩ := h.held hs'
  rw [hs', hlast.eq heach hs hname]

/-- Of the enumerations with one name that were merged in, the last counts. -/
theorem get?_enums {steps : List Step} {c : Catalog} (h : Run steps c) (name : String) :
    c.enums.get? name = ((steps.filterMap Step.enums?).filterMap (·.get? name)).getLast? := by
  induction h with
  | start => rfl
  | @next steps step _ _ _ hstep ih =>
    rw [hstep.get?_enums, ih, List.filterMap_append, List.filterMap_append, List.getLast?_append]
    congr 1
    cases hmerged : step.enums? with
    | none => simp [hmerged]
    | some enums => cases hget : enums.get? name <;> simp [hmerged, hget]

theorem methods {steps : List Step} {c : Catalog} (h : Run steps c) : c.methods = [] := by
  induction h with
  | start => rfl
  | next _ hstep ih => rw [hstep.methods, ih]

/-- Runs of the same steps lead to the same catalog. -/
theorem eq {steps : List Step} {c c' : Catalog} (h : Run steps c) (h' : Run steps c')
    (heach : ∀ other, .merge other ∈ steps → other.OneEach) : c = c' := by
  have htypes : c.types = c'.types := by
    refine Table.ext_get? fun name => Option.ext fun s => ?_
    rw [h.get?_eq_some_iff heach, h'.get?_eq_some_iff heach]
  have henums : c.enums = c'.enums := by
    refine Table.ext_get? fun name => ?_
    rw [h.get?_enums, h'.get?_enums]
  have hmethods := h.methods.trans h'.methods.symm
  cases c
  cases c'
  rw [Catalog.mk.injEq]
  exact ⟨htypes, henums, hmethods⟩

end Run

/-- What a catalog holds after some steps. -/
structure Maintained (steps : List Step) (c : Catalog) : Prop where
  /-- Each struct stands under its name. -/
  keyed : c.Keyed
  /-- A name has a struct that was carried last. -/
  held : ∀ name s, c.types.get? name = some s → LastCarried steps s
  /-- It has none only if none was, or if the name was left out since. -/
  absent : ∀ name, c.types.get? name = none ↔ ∀ s, s.name = name → ¬ LastCarried steps s
  /-- Of the enumerations with one name that were merged in, the last one is there, and nothing else. -/
  enums : ∀ name,
    c.enums.get? name = ((steps.filterMap Step.enums?).filterMap (·.get? name)).getLast?
  /-- There are no methods. -/
  methods : c.methods = []
  /-- If merged catalogs are keyed by name, as those are that steps or source files make, the struct of a
  name is the one that was carried last, and no other order of their structs leads to another catalog. -/
  settled : (∀ other, .merge other ∈ steps → other.Keyed) →
    (∀ s, c.types.get? s.name = some s ↔ LastCarried steps s) ∧ ∀ c', Run steps c' → c' = c

theorem Run.maintained {steps : List Step} {c : Catalog} (h : Run steps c) : Maintained steps c := by
  constructor
  case keyed => exact fun name s hs => (h.held hs).1
  case held => exact fun name s hs => (h.held hs).2
  case absent =>
    intro name
    constructor
    · rintro hnone s rfl hs
      have hsome := h.isSome hs
      rw [hnone] at hsome
      contradiction
    · intro hnone
      refine Option.eq_none_iff_forall_ne_some.2 fun s hs => ?_
      obtain ⟨hname, hlast⟩ := h.held hs
      exact hnone s hname hlast
  case enums => exact h.get?_enums
  case methods => exact h.methods
  case settled =>
    intro hkeyed
    have heach : ∀ other, .merge other ∈ steps → other.OneEach := fun other hother =>
      (hkeyed other hother).oneEach
    refine ⟨fun s => ?_, fun c' h' => h'.eq h heach⟩
    rw [h.get?_eq_some_iff heach, and_iff_right rfl]

/-- **After any steps, a catalog holds what was carried last and not left out since**, whether the
functions of the catalog take the steps, or merges take the structs in other orders. -/
theorem maintained_of_run (steps : List Step) :
    Run steps (steps.foldl Step.apply {}) ∧ ∀ c, Run steps c → Maintained steps c :=
  ⟨run_foldl steps, fun _ h => h.maintained⟩

/-- A catalog with structs, enumerations and methods. -/
def widgets : Catalog where
  types := .ofList [("Widget", ⟨"Widget", [], "b.go", ∅⟩), ("Gadget", ⟨"Gadget", [], "b.go", ∅⟩)]
  enums := .ofList [("Status", ⟨"Status", "b.go", [⟨"QUEUED", 2⟩]⟩)]
  methods := [⟨"GetWidget", "WidgetsApi", "b.go", [], [], ∅⟩]

/-- A struct is left out and comes back in a merge, after which another one is left out. -/
def widgetSteps : List Step :=
  [.insert ⟨"Widget", [], "a.go", ∅⟩, .retain ["Gadget"], .merge widgets, .retain ["Widget"]]

theorem maintained_of_run_widgets :
    Run widgetSteps (widgetSteps.foldl Step.apply {}) ∧
      (∀ other, .merge other ∈ widgetSteps → other.Keyed) ∧
      (widgetSteps.foldl Step.apply {}).types.entries = [("Widget", ⟨"Widget", [], "b.go", ∅⟩)] ∧
      Maintained widgetSteps (widgetSteps.foldl Step.apply {}) := by
  have hall : ∀ e ∈ widgets.types.entries, e.2.name = e.1 := by decide +kernel
  obtain ⟨hrun, hmaintained⟩ := maintained_of_run widgetSteps
  refine ⟨hrun, fun other hother name s hs => ?_, by decide +kernel, hmaintained _ hrun⟩
  obtain rfl : other = widgets := by simpa [widgetSteps] using hother
  exact hall _ (Table.mem_entries_iff.2 hs)

end ProviderGlue.Catalog
