import ProviderGlue.Proofs.Json.Scan

/-!
# Reading what is written: documents of a layout

A document that is written for a value of the layout is read back, as long as its brackets do not
nest too deep.  Otherwise the reader complains about the first bracket that is too deep.

Both outcomes are followed at once: `Gives fits r a` says that a reading gives `a` if it fits, and
complains about depth if it does not.

## Key results

- `Layout.readContent_pretty`: contents that are read with some room for brackets
- `Layout.read_pretty`: whole documents
-/

namespace ProviderGlue.Json

/-! ## Nesting -/

namespace Value

mutual

/-- How deep the brackets of a value nest. -/
def depth : Value → Nat
  | null | flag _ | word _ | text _ => 0
  | list vs => itemsDepth vs + 1
  | object ms => membersDepth ms + 1

/-- How deep the brackets of some values nest. -/
def itemsDepth : List Value → Nat
  | [] => 0
  | v :: vs => max v.depth (itemsDepth vs)

/-- How deep the brackets of the values of some members nest. -/
def membersDepth : List (String × Value) → Nat
  | [] => 0
  | (_, v) :: ms => max v.depth (membersDepth ms)

end

end Value

/-! ## Outcomes -/

/-- A reading gives a result if it fits, and complains about depth otherwise. -/
structure Gives {α : Type} (fits : Prop) (r : Reading α) (a : α) : Prop where
  ok : fits → r = .ok a
  error : ¬ fits → ∃ f, r = .error f ∧ f.cause = .tooDeep

namespace Gives

variable {α β : Type} {p q : Prop} {r : Reading α} {a : α}

theorem of_ok (hp : p) (h : r = .ok a) : Gives p r a :=
  ⟨fun _ => h, fun hn => absurd hp hn⟩

theorem of_error {f : Fault} (hp : ¬ p) (h : r = .error f) (hf : f.cause = .tooDeep) :
    Gives p r a :=
  ⟨fun hn => absurd hn hp, fun _ => ⟨f, h, hf⟩⟩

theorem congr (h : Gives p r a) (hpq : p ↔ q) : Gives q r a :=
  ⟨fun hq => h.ok (hpq.2 hq), fun hq => h.error (mt hpq.1 hq)⟩

/-- Two steps give their result if both fit. -/
theorem bind {k : α → Reading β} {b : β} (h : Gives p r a) (hk : Gives q (k a) b) :
    Gives (p ∧ q) (r >>= k) b := by
  -- if the first step does not fit, its complaint is that of both
  by_cases hp : p
  · rw [h.ok hp]
    exact hk.congr (by simp only [hp, true_and])
  · obtain ⟨f, hf, hcause⟩ := h.error hp
    rw [hf]
    exact of_error (mt And.left hp) rfl hcause

/-- A last step that succeeds changes nothing of what fits. -/
theorem last {k : α → Reading β} {b : β} (h : Gives p r a) (hk : k a = .ok b) :
    Gives p (r >>= k) b :=
  (h.bind (of_ok trivial hk)).congr (Iff.of_eq (and_true p))

/-- A step that succeeds changes nothing of what fits. -/
theorem bind_ok {k : α → Reading β} {b : β} (h : r = .ok a) (hk : Gives q (k a) b) :
    Gives q (r >>= k) b := by
  rw [h]
  exact hk

end Gives

/-! ## Between values -/

/-- A text starts with a value. -/
def Starts : (text : List Char) → Prop
  | [] => False
  | c :: _ => isSpace c = false ∧ c ≠ ']' ∧ c ≠ 'n'

theorem Starts.skipSpace {text : List Char} (h : Starts text) : skipSpace text = text := by
  cases text with
  | nil => exact absurd h id
  | cons c cs => exact skipSpace_cons h.1 cs

theorem Starts.append {text : List Char} (h : Starts text) (rest : List Char) :
    Starts (text ++ rest) := by
  cases text with
  | nil => exact absurd h id
  | cons c cs => exact h

/-- The first element of a list follows. -/
theorem nextElement_first (level : Nat) {text : List Char} (h : Starts text) :
    nextElement true (newLine level ++ text) = .ok (true, text) := by
  rw [nextElement, skipSpace_newLine, h.skipSpace]
  cases text with
  | nil => exact absurd h id
  | cons c cs =>
    dsimp only
    rw [if_neg h.2.1]
    rfl

/-- Another element of a list follows. -/
theorem nextElement_comma (level : Nat) {text : List Char} (h : Starts text) :
    nextElement false (',' :: (newLine level ++ text)) = .ok (true, text) := by
  rw [nextElement, skipSpace_cons rfl]
  dsimp only
  rw [if_neg (by decide), if_neg Bool.false_ne_true, if_pos rfl, skipSpace_newLine, h.skipSpace]
  cases text with
  | nil => exact absurd h id
  | cons c cs => exact if_neg h.2.1

/-- A list ends. -/
theorem nextElement_end (level : Nat) (first : Bool) (rest : List Char) :
    nextElement first (newLine level ++ ']' :: rest) = .ok (false, ']' :: rest) := by
  rw [nextElement, skipSpace_newLine]
  rfl

/-- The first key of an object follows. -/
theorem nextKey_first (level : Nat) (text : List Char) :
    nextKey true (newLine level ++ '"' :: text) = .ok (true, text) := by
  rw [nextKey, skipSpace_newLine]
  rfl

/-- Another key of an object follows. -/
theorem nextKey_comma (level : Nat) (text : List Char) :
    nextKey false (',' :: (newLine level ++ '"' :: text)) = .ok (true, text) := by
  rw [nextKey, skipSpace_cons rfl]
  dsimp only
  rw [if_neg (by decide), if_neg Bool.false_ne_true, if_pos rfl, skipSpace_newLine]
  rfl

/-- An object ends. -/
theorem nextKey_end (level : Nat) (first : Bool) (rest : List Char) :
    nextKey first (newLine level ++ '\x7d' :: rest) = .ok (false, '\x7d' :: rest) := by
  rw [nextKey, skipSpace_newLine]
  rfl

theorem ends_newLine (level : Nat) (rest : List Char) : Ends (newLine level ++ rest) :=
  .inr rfl

theorem ends_prettyItems (vs : List Value) (level : Nat) {rest : List Char} (h : Ends rest) :
    Ends (Value.prettyItems level vs ++ rest) := by
  cases vs with
  | nil => exact h
  | cons v vs => exact .inl rfl

theorem ends_prettyMembers (ms : List (String × Value)) (level : Nat) {rest : List Char}
    (h : Ends rest) : Ends (Value.prettyMembers level ms ++ rest) := by
  cases ms with
  | nil => exact h
  | cons m ms => exact .inl rfl

theorem length_le_prettyItems (level : Nat) (vs : List Value) :
    vs.length ≤ (Value.prettyItems level vs).length := by
  induction vs with
  | nil => exact Nat.zero_le _
  | cons v vs ih =>
    simp only [Value.prettyItems, List.length_append, List.length_cons]
    omega

theorem length_le_prettyMembers (level : Nat) (ms : List (String × Value)) :
    ms.length ≤ (Value.prettyMembers level ms).length := by
  induction ms with
  | nil => exact Nat.zero_le _
  | cons m ms ih =>
    simp only [Value.prettyMembers, List.length_append, List.length_cons]
    omega

/-! ## Steps of the readers -/

/-- One element is read, then the others. -/
theorem readElements_cons {read : Reader} {fuel : Nat} {first : Bool}
    {text text₁ text₂ rest : List Char} {v : Value} {vs : List Value} {p q : Prop}
    (hnext : nextElement first text = .ok (true, text₁))
    (hread : Gives p (read text₁) (v, text₂))
    (hrest : Gives q (readElements read fuel false text₂) (vs, rest)) :
    Gives (p ∧ q) (readElements read (fuel + 1) first text) (v :: vs, rest) := by
  rw [readElements]
  refine .bind_ok hnext (hread.bind ?_)
  show Gives q (readElements read fuel false text₂ >>= fun r => .ok (v :: r.1, r.2)) (v :: vs, rest)
  exact hrest.last rfl

/-- No more elements are read at the end of a list. -/
theorem readElements_end (read : Reader) (fuel level : Nat) (first : Bool) (rest : List Char) :
    readElements read (fuel + 1) first (newLine level ++ ']' :: rest) = .ok ([], ']' :: rest) := by
  rw [readElements, nextElement_end]
  rfl

section Members

variable {κ : Type} {spec : List (Member κ)}

/-- One member is read, then the others. -/
theorem readMembers_cons {readMember : Member κ → Reader} {fuel : Nat} {first : Bool}
    {read : List (String × Value)} {text body rest : List Char} {key : String} {m : Member κ}
    {v : Value} {r : Members × List Char} {p q : Prop}
    (hnext : nextKey first text =
      .ok (true, key.toList.flatMap escapeChar ++ '"' :: ':' :: body))
    (hfind : spec.find? (·.key == key) = some m) (hnew : read.lookup key = none)
    (hread : Gives p (readMember m body) (v, rest))
    (hrest : Gives q (readMembers spec readMember fuel false (read ++ [(key, v)]) rest) r) :
    Gives (p ∧ q) (readMembers spec readMember (fuel + 1) first read text) r := by
  rw [readMembers]
  refine .bind_ok hnext (.bind_ok (readString_escaped key.toList (':' :: body)) ?_)
  dsimp only
  rw [String.ofList_toList, hfind]
  dsimp only
  rw [hnew, if_neg (by simp)]
  exact .bind_ok rfl (hread.bind hrest)

/-- At the end of an object, all required members are there. -/
theorem complete_eq_ok {read : List (String × Value)}
    (h : ∀ m ∈ spec, m.required = true → m.key ∈ read.map (·.1)) :
    complete spec read = .ok read := by
  have hnone : (spec.find? fun m => m.required && (read.lookup m.key).isNone) = none := by
    rw [List.find?_eq_none]
    intro m hm hmissing
    rw [Bool.and_eq_true, Option.isNone_iff_eq_none, List.lookup_eq_none_iff] at hmissing
    -- a required member has been read, so its key is found
    obtain ⟨⟨key, v⟩, hmem, hkey⟩ := List.mem_map.1 (h m hm hmissing.1)
    have hne := hmissing.2 (key, v) hmem
    rw [hkey] at hne
    simp at hne
  rw [complete, hnone]

theorem readMembers_end (readMember : Member κ → Reader) (fuel : Nat) {first : Bool}
    {read : List (String × Value)} {text rest : List Char}
    (hnext : nextKey first text = .ok (false, rest))
    (h : ∀ m ∈ spec, m.required = true → m.key ∈ read.map (·.1)) :
    readMembers spec readMember (fuel + 1) first read text = .ok (.ok read, rest) := by
  rw [readMembers, hnext]
  show Except.ok (complete spec read, rest) = _
  rw [complete_eq_ok h]

end Members

/-! ## Documents -/

namespace Layout

variable {κ : Type} (layout : Layout κ)

mutual

/-- A value is a content of the layout. -/
def Holds : Content κ → Value → Prop
  | .text, .text _ => True
  | .flag, .flag _ => True
  | .word, .word _ => True
  | .list item, .list vs => ListHolds item vs
  | .record kind, .object ms =>
    (ms.map (·.1)).Nodup ∧
      (∀ m ∈ layout.members kind, m.required = true → m.key ∈ ms.map (·.1)) ∧ MembersHold kind ms
  | _, _ => False

/-- Values are records of the layout. -/
def ListHolds (item : κ) : List Value → Prop
  | [] => True
  | v :: vs => Holds (.record item) v ∧ ListHolds item vs

/-- The values of members are contents of the layout. -/
def MembersHold (kind : κ) : List (String × Value) → Prop
  | [] => True
  | (key, v) :: ms =>
    (∃ m, (layout.members kind).find? (·.key == key) = some m ∧ Holds m.content v) ∧
      MembersHold kind ms

end

/-- The reader for what brackets hold, if there is room for them. -/
def inside : (room : Nat) → Option (Content κ → Reader)
  | 0 => none
  | room + 1 => some (layout.readContent room)

theorem readContent_eq (room : Nat) :
    layout.readContent room = layout.readOuter (layout.inside room) := by
  cases room <;> rfl

/-- What is written for a content starts with a value. -/
theorem starts_pretty {content : Content κ} {v : Value} (h : layout.Holds content v) (level : Nat) :
    Starts (v.pretty level) := by
  cases v with
  | null => cases content <;> exact absurd h id
  | flag b => cases b <;> exact ⟨rfl, by decide, by decide⟩
  | word i =>
    obtain ⟨c, cs, heq, hc⟩ := wordText_cons i
    rw [Value.pretty, heq]
    rcases hc with rfl | hc
    · exact ⟨rfl, by decide, by decide⟩
    · -- no digit is a blank, a bracket or a letter
      refine ⟨?_, ?_, ?_⟩
      · cases hspace : isSpace c with
        | false => rfl
        | true =>
          simp only [isSpace, Bool.or_eq_true, beq_iff_eq] at hspace
          rcases hspace with ((rfl | rfl) | rfl) | rfl <;> exact nomatch hc
      · rintro rfl
        exact nomatch hc
      · rintro rfl
        exact nomatch hc
  | text s => exact ⟨rfl, by decide, by decide⟩
  | list vs => cases vs <;> exact ⟨rfl, by decide, by decide⟩
  | object ms => cases ms <;> exact ⟨rfl, by decide, by decide⟩

/-- A member is read behind the blank that follows the colon. -/
theorem readMember_pretty {room : Nat} {m : Member κ} {v : Value} (h : layout.Holds m.content v)
    (level : Nat) (rest : List Char) :
    readMember (layout.readContent room) m (' ' :: (v.pretty level ++ rest)) =
      layout.readContent room m.content (v.pretty level ++ rest) := by
  have hstarts := (layout.starts_pretty h level).append rest
  have hskip : skipSpace (' ' :: (v.pretty level ++ rest)) = v.pretty level ++ rest :=
    hstarts.skipSpace
  have hread : layout.readContent room m.content (' ' :: (v.pretty level ++ rest)) =
      layout.readContent room m.content (v.pretty level ++ rest) := by
    rw [readContent_eq, readOuter, readOuter, hskip, hstarts.skipSpace]
  rw [← hread, readMember, hskip]
  -- no content starts with the letter of `null`
  cases htext : v.pretty level ++ rest with
  | nil => cases m.nullable <;> rfl
  | cons c cs =>
    rw [htext] at hstarts
    split
    · next heq => exact absurd (List.cons.inj heq).1 hstarts.2.2
    · rfl

theorem readMember_gives {room level : Nat} {m : Member κ} {v : Value} {rest : List Char}
    {p : Prop} (hv : layout.Holds m.content v)
    (h : Gives p (layout.readContent room m.content (v.pretty level ++ rest)) (v, rest)) :
    Gives p (readMember (layout.readContent room) m (' ' :: (v.pretty level ++ rest)))
      (v, rest) := by
  rw [layout.readMember_pretty hv]
  exact h

/-- A list is read if its elements are read with less room. -/
theorem readList_gives {item : κ} {room fuel depth : Nat} {body rest : List Char}
    {vs : List Value} (hfuel : body.length + 1 = fuel)
    (h : ∀ n, room = n + 1 → Gives (depth ≤ n)
      (readElements (layout.readContent n (.record item)) fuel true body) (vs, ']' :: rest)) :
    Gives (depth + 1 ≤ room) (layout.readContent room (.list item) ('[' :: body))
      (.list vs, rest) := by
  rw [readContent_eq, readOuter, skipSpace_cons rfl]
  show Gives _ (readList item (layout.inside room) ('[' :: body)) _
  cases room with
  | zero => exact .of_error (by omega) rfl rfl
  | succ n =>
    show Gives _ (readElements (layout.readContent n (.record item)) (body.length + 1) true body >>=
      _) _
    rw [hfuel]
    refine .congr (.last (h n rfl) ?_) Nat.succ_le_succ_iff.symm
    rfl

/-- A record is read if its members are read with less room. -/
theorem readRecord_gives {kind : κ} {room fuel depth : Nat} {body rest : List Char}
    {ms : List (String × Value)} (hfuel : body.length + 1 = fuel)
    (h : ∀ n, room = n + 1 → Gives (depth ≤ n)
      (readMembers (layout.members kind) (readMember (layout.readContent n)) fuel true [] body)
      (.ok ms, '\x7d' :: rest)) :
    Gives (depth + 1 ≤ room) (layout.readContent room (.record kind) ('\x7b' :: body))
      (.object ms, rest) := by
  rw [readContent_eq, readOuter, skipSpace_cons rfl]
  show Gives _ (layout.readRecord kind (layout.inside room) ('\x7b' :: body)) _
  cases room with
  | zero => exact .of_error (by omega) rfl rfl
  | succ n =>
    show Gives _ (readMembers (layout.members kind) (readMember (layout.readContent n))
      (body.length + 1) true [] body >>= _) _
    rw [hfuel]
    refine .congr (.last (h n rfl) ?_) Nat.succ_le_succ_iff.symm
    rfl

mutual

/-- **Contents are read back** as what was written, exactly if there is room for their brackets. -/
theorem readContent_pretty : (v : Value) → {content : Content κ} → {room level : Nat} →
    {rest : List Char} → layout.Holds content v → Ends rest →
    Gives (v.depth ≤ room) (layout.readContent room content (v.pretty level ++ rest)) (v, rest)
  | .null, content, _, _, _, h, _ => by
    cases content <;> exact absurd h id
  | .flag b, .flag, room, level, rest, _, _ => by
    refine .of_ok (Nat.zero_le room) ?_
    rw [readContent_eq, readOuter]
    cases b <;> rfl
  | .word i, .word, room, level, rest, h, hrest => by
    have hstarts := (layout.starts_pretty h level).append rest
    refine .of_ok (Nat.zero_le room) ?_
    rw [readContent_eq, readOuter, hstarts.skipSpace, ← readWord_wordText i hrest]
    obtain ⟨c, cs, heq, -⟩ := wordText_cons i
    rw [Value.pretty, heq, List.cons_append]
  | .text s, .text, room, level, rest, _, _ => by
    refine .of_ok (Nat.zero_le room) ?_
    rw [readContent_eq, readOuter, ← readText_stringText s rest]
    rfl
  | .list [], .list item, room, level, rest, _, _ => by
    refine layout.readList_gives rfl fun n _ => ?_
    exact .of_ok (Nat.zero_le n) rfl
  | .list (v :: vs), .list item, room, level, rest, h, _ => by
    rw [Value.pretty]
    simp only [List.append_assoc, List.cons_append, List.nil_append]
    -- the first element is read without a comma, the others by `readElements_items`
    refine layout.readList_gives rfl fun n _ => ?_
    have hrest := ends_prettyItems vs (level + 1) (ends_newLine level (']' :: rest))
    have hlength := length_le_prettyItems (level + 1) vs
    refine .congr (readElements_cons (nextElement_first _ ((layout.starts_pretty h.1 _).append _))
      (readContent_pretty v h.1 hrest) (readElements_items vs h.2 ?_)) Nat.max_le.symm
    simp only [List.length_append, List.length_cons]
    omega
  | .object [], .record kind, room, level, rest, h, _ => by
    show Gives _ (layout.readContent room (.record kind) ('\x7b' :: '\x7d' :: rest)) _
    refine layout.readRecord_gives rfl fun n _ => ?_
    exact .of_ok (Nat.zero_le n) (readMembers_end _ _ rfl h.2.1)
  | .object ((key, v) :: ms), .record kind, room, level, rest, h, _ => by
    obtain ⟨hnodup, hrequired, ⟨m, hfind, hv⟩, hms⟩ := h
    rw [Value.pretty]
    simp only [List.append_assoc, List.cons_append, List.nil_append, stringText_append]
    refine layout.readRecord_gives rfl fun n _ => ?_
    have hrest := ends_prettyMembers ms (level + 1) (ends_newLine level ('\x7d' :: rest))
    have hlength := length_le_prettyMembers (level + 1) ms
    refine .congr (readMembers_cons (nextKey_first _ _) hfind rfl
      (layout.readMember_gives hv (readContent_pretty v hv hrest))
      (readMembers_members ms hms hnodup hrequired ?_)) Nat.max_le.symm
    simp only [List.length_append, List.length_cons]
    omega

/-- Further elements are read up to the end of a list. -/
theorem readElements_items : (vs : List Value) → {item : κ} → {room level outer fuel : Nat} →
    {rest : List Char} → layout.ListHolds item vs → vs.length < fuel →
    Gives (Value.itemsDepth vs ≤ room)
      (readElements (layout.readContent room (.record item)) fuel false
        (Value.prettyItems level vs ++ (newLine outer ++ ']' :: rest)))
      (vs, ']' :: rest)
  | [], _, room, _, _, fuel + 1, rest, _, _ =>
    .of_ok (Nat.zero_le room) (readElements_end _ fuel _ _ rest)
  | v :: vs, item, room, level, outer, fuel + 1, rest, h, hfuel => by
    have hrest := ends_prettyItems vs level (ends_newLine outer (']' :: rest))
    rw [Value.prettyItems]
    simp only [List.append_assoc, List.cons_append]
    exact .congr (readElements_cons (nextElement_comma _ ((layout.starts_pretty h.1 _).append _))
      (readContent_pretty v h.1 hrest) (readElements_items vs h.2 (Nat.lt_of_succ_lt_succ hfuel)))
      Nat.max_le.symm

/-- Further members are read up to the end of an object. -/
theorem readMembers_members : (ms : List (String × Value)) → {kind : κ} →
    {room level outer fuel : Nat} → {read : List (String × Value)} → {rest : List Char} →
    layout.MembersHold kind ms → ((read ++ ms).map (·.1)).Nodup →
    (∀ m ∈ layout.members kind, m.required = true → m.key ∈ (read ++ ms).map (·.1)) →
    ms.length < fuel →
    Gives (Value.membersDepth ms ≤ room)
      (readMembers (layout.members kind) (readMember (layout.readContent room)) fuel false read
        (Value.prettyMembers level ms ++ (newLine outer ++ '\x7d' :: rest)))
      (.ok (read ++ ms), '\x7d' :: rest)
  | [], _, room, _, _, fuel + 1, read, rest, _, _, hrequired, _ => by
    rw [List.append_nil] at hrequired ⊢
    exact .of_ok (Nat.zero_le room) (readMembers_end _ fuel (nextKey_end _ _ rest) hrequired)
  | (key, v) :: ms, kind, room, level, outer, fuel + 1, read, rest, h, hnodup, hrequired,
    hfuel => by
    obtain ⟨⟨m, hfind, hv⟩, hms⟩ := h
    have hrest := ends_prettyMembers ms level (ends_newLine outer ('\x7d' :: rest))
    have happend : read ++ (key, v) :: ms = read ++ [(key, v)] ++ ms := by
      rw [List.append_assoc, List.singleton_append]
    -- the key is none of those read before, or the reader would refuse it
    have hnew : read.lookup key = none := by
      rw [List.lookup_eq_none_iff]
      intro p hp
      rw [List.map_append, List.map_cons] at hnodup
      have hne := (List.nodup_append.1 hnodup).2.2 p.1 (List.mem_map_of_mem hp) key
        List.mem_cons_self
      simpa using Ne.symm hne
    rw [Value.prettyMembers]
    simp only [List.append_assoc, List.cons_append, List.nil_append, stringText_append]
    rw [happend] at hnodup hrequired ⊢
    exact .congr (readMembers_cons (nextKey_comma _ _) hfind hnew
      (layout.readMember_gives hv (readContent_pretty v hv hrest))
      (readMembers_members ms hms hnodup hrequired (Nat.lt_of_succ_lt_succ hfuel))) Nat.max_le.symm

end

/-- **Documents are read back** as what was written, exactly if their brackets do not nest too
deep. -/
theorem read_pretty {kind : κ} {v : Value} (h : layout.Holds (.record kind) v) :
    Gives (v.depth ≤ depthLimit) (layout.read kind (v.pretty 0)) v := by
  have hread : Gives (v.depth ≤ depthLimit)
      (layout.readContent depthLimit (.record kind) (v.pretty 0 ++ [])) (v, []) :=
    layout.readContent_pretty v h trivial
  rw [List.append_nil] at hread
  exact hread.last rfl

end Layout

end ProviderGlue.Json
