import Mathlib.Data.List.DropRight
import StepFlow.Proofs.Json.Trails

/-! Blanks around JSON. Main statement: a text that can be read says the same without the blanks
at its ends. -/
namespace StepFlow.Json

open Outcome

/-! ### Arrays and objects -/

section

variable {i j r input : Input} {cs : List Char} {c : Char} {levels fuel : Nat} {v : Value}
  {known : Members} {last : List Value}

theorem value_text (quote : input.rest = '"' :: cs) :
    value levels (fuel + 1) input = (do
      let (s, rest) ← string input
      return (.str s, rest)) := by
  rw [value.eq_def]
  dsimp only
  rw [quote]
  cases levels <;> rfl

theorem value_object (brace : input.rest = '\x7b' :: cs) :
    value (levels + 1) (fuel + 1) input =
      if (input.drop 1).skipSpace.rest.head? = some '\x7d' then
        .ok (.map [], (input.drop 1).skipSpace.drop 1)
      else members levels fuel (input.drop 1).skipSpace [] := by
  rw [value.eq_def]
  simp only [brace]
  split <;> grind [List.head?_eq_some_iff]

theorem value_array (bracket : input.rest = '[' :: cs) :
    value (levels + 1) (fuel + 1) input =
      if (input.drop 1).skipSpace.rest.head? = some ']' then
        .ok (.list [], (input.drop 1).skipSpace.drop 1)
      else items levels fuel (input.drop 1).skipSpace [] := by
  rw [value.eq_def]
  simp only [bracket]
  split <;> grind [List.head?_eq_some_iff]

theorem value_leaf (head : input.rest = c :: cs) (noQuote : c ≠ '"') (noBrace : c ≠ '\x7b')
    (noBracket : c ≠ '[') : value levels (fuel + 1) input = leaf input := by
  rw [value.eq_def]
  dsimp only
  split <;> grind

theorem members_eq : members levels (fuel + 1) input known =
    if input.rest.head? = some '"' then (do
      let (key, rest) ← string input
      if rest.skipSpace.rest.head? = some ':' then
        let (member, rest) ← value levels fuel (rest.skipSpace.drop 1).skipSpace
        let known := Keyed.insert (.str key) member known
        if rest.skipSpace.rest.head? = some '\x7d' then .ok (.map known, rest.skipSpace.drop 1)
        else if rest.skipSpace.rest.head? = some ',' then
          members levels fuel (rest.skipSpace.drop 1).skipSpace known
        else rest.skipSpace.fail .comma
      else rest.skipSpace.fail .colon)
    else input.fail .propertyName := by
  rw [members.eq_def]
  dsimp only
  split
  · rename_i quote
    rw [if_pos (by simp [quote])]
    refine bind_congr fun result => ?_
    split
    · rename_i colon
      rw [if_pos (by simp [colon])]
      refine bind_congr fun result => ?_
      split <;> grind [List.head?_eq_some_iff]
    · grind [List.head?_eq_some_iff]
  · grind [List.head?_eq_some_iff]

theorem items_eq : items levels (fuel + 1) input last = (do
    let (item, rest) ← value levels fuel input
    if rest.skipSpace.rest.head? = some ']' then
      .ok (.list (item :: last).reverse, rest.skipSpace.drop 1)
    else if rest.skipSpace.rest.head? = some ',' then
      items levels fuel (rest.skipSpace.drop 1).skipSpace (item :: last)
    else rest.skipSpace.fail .comma) := by
  rw [items.eq_def]
  refine bind_congr fun result => ?_
  dsimp only
  split <;> grind [List.head?_eq_some_iff]

theorem value_ne_ok {result : Value × Input} (stray : ∀ c ∈ input.rest.head?, IsStray c) :
    value levels fuel input ≠ .ok result := by
  intro done
  cases fuel with
  | zero => cases done
  | succ fuel =>
    cases rest : input.rest with
    | nil =>
      rw [value.eq_def] at done
      dsimp only at done
      rw [rest] at done
      cases done
    | cons c cs =>
      have isStray := stray c (by rw [rest]; rfl)
      rw [value_leaf rest (isStray.ne rfl rfl) (isStray.ne rfl rfl) (isStray.ne rfl rfl)] at done
      exact leaf_ne_ok isStray rest done

theorem exists_head_of_value {result : Value × Input} (done : value levels fuel input = .ok result) :
    ∃ c cs, input.rest = c :: cs ∧ ¬ IsStray c := by
  by_contra none
  refine value_ne_ok (fun c head => ?_) done
  obtain ⟨cs, rest⟩ := List.head?_eq_some_iff.mp head
  by_contra visible
  exact none ⟨c, cs, rest, visible⟩

theorem value_tooDeep_ne_ok {result : Value × Input} (opens : c = '\x7b' ∨ c = '[')
    (head : input.rest = c :: cs) : value 0 fuel input ≠ .ok result := by
  intro done
  cases fuel with
  | zero => cases done
  | succ fuel =>
    rw [value.eq_def] at done
    dsimp only at done
    rw [head] at done
    rcases opens with rfl | rfl <;> cases done

/-- An array or object either ends at both places or goes on at both. -/
theorem closing_of_trails {k : Input} {closed : Value} {more more' : Except Fault (Value × Input)}
    (near : i.TrailsWithin j k) (visible : isBlank c = false)
    (done : (if i.rest.head? = some c then .ok (closed, i.drop 1) else more) = .ok (v, r))
    (goes : more = .ok (v, r) → Arrives more' v r k) :
    Arrives (if j.rest.head? = some c then .ok (closed, j.drop 1) else more') v r k := by
  simp only [near.trails.head?_iff visible] at done
  split at done
  · rename_i close
    cases done
    rw [if_pos close]
    exact ⟨_, rfl, near.drop 1⟩
  · rename_i noClose
    rw [if_neg noClose]
    exact goes done

/-- After a part the next one follows behind a comma. -/
theorem comma_of_trails {k : Input} {more more' : Except Fault (Value × Input)}
    (near : i.TrailsWithin j k)
    (done : (if i.rest.head? = some ',' then more else i.fail .comma) = .ok (v, r))
    (goes : (j.drop 1).skipSpace.rest.length < k.rest.length → more = .ok (v, r) → Arrives more' v r k) :
    Arrives (if j.rest.head? = some ',' then more' else j.fail .comma) v r k := by
  simp only [near.trails.head?_iff (c := ',') rfl] at done
  split at done
  · rename_i comma
    rw [if_pos comma]
    exact goes (Nat.lt_of_lt_of_le (Input.length_past comma) near.within) done
  · cases done

/-- What is read from a place with so much fuel is also read without the blanks behind. -/
structure ReadsOn (fuel : Nat) : Prop where
  ofValue : ∀ {levels fuel' : Nat} {i j r : Input} {v : Value}, i.Trails j →
    2 * j.rest.length + 1 ≤ fuel' → value levels fuel i = .ok (v, r) →
    Arrives (value levels fuel' j) v r j
  ofMembers : ∀ {levels fuel' : Nat} {i j r : Input} {known : Members} {v : Value}, i.Trails j →
    2 * j.rest.length + 2 ≤ fuel' → members levels fuel i known = .ok (v, r) →
    Arrives (members levels fuel' j known) v r j
  ofItems : ∀ {levels fuel' : Nat} {i j r : Input} {last : List Value} {v : Value}, i.Trails j →
    2 * j.rest.length + 2 ≤ fuel' → items levels fuel i last = .ok (v, r) →
    Arrives (items levels fuel' j last) v r j

theorem members_of_trails {fuel' : Nat} (on : ReadsOn fuel) (trails : i.Trails j)
    (enough : 2 * j.rest.length + 1 ≤ fuel') (done : members levels (fuel + 1) i known = .ok (v, r)) :
    Arrives (members levels (fuel' + 1) j known) v r j := by
  rw [members_eq] at done ⊢
  simp only [trails.head?_iff (c := '"') rfl] at done
  split at done
  · rename_i quote
    rw [if_pos quote]
    obtain ⟨⟨key, r₁⟩, text, done⟩ := bind_eq_ok.mp done
    refine (string_of_trails trails text).bind fun r₁' near => ?_
    dsimp only at done ⊢
    simp only [near.skipSpace.trails.head?_iff (c := ':') rfl] at done
    split at done
    · rename_i colon
      rw [if_pos colon]
      obtain ⟨⟨member, r₂⟩, inner, done⟩ := bind_eq_ok.mp done
      have start := (near.skipSpace.drop 1).skipSpace
      have enough' := start.within
      refine ((on.ofValue start.trails (by omega) inner).widen start.within).bind fun r₂' near => ?_
      have after := near.skipSpace
      dsimp only at done ⊢
      refine closing_of_trails after rfl done fun done => ?_
      refine comma_of_trails after done fun shorter done => ?_
      exact (on.ofMembers (after.drop 1).skipSpace.trails (by omega) done).widen shorter.le
    · cases done
  · cases done

theorem items_of_trails {fuel' : Nat} (on : ReadsOn fuel) (trails : i.Trails j)
    (enough : 2 * j.rest.length + 1 ≤ fuel') (done : items levels (fuel + 1) i last = .ok (v, r)) :
    Arrives (items levels (fuel' + 1) j last) v r j := by
  rw [items_eq] at done ⊢
  obtain ⟨⟨item, r₁⟩, inner, done⟩ := bind_eq_ok.mp done
  refine (on.ofValue trails enough inner).bind fun r₁' near => ?_
  have after := near.skipSpace
  dsimp only at done ⊢
  refine closing_of_trails after rfl done fun done => ?_
  refine comma_of_trails after done fun shorter done => ?_
  exact (on.ofItems (after.drop 1).skipSpace.trails (by omega) done).widen shorter.le

theorem value_of_trails {fuel' : Nat} (on : ReadsOn fuel) (trails : i.Trails j)
    (enough : 2 * j.rest.length ≤ fuel') (done : value levels (fuel + 1) i = .ok (v, r)) :
    Arrives (value levels (fuel' + 1) j) v r j := by
  have nonempty : j.rest ≠ [] := fun none => value_ne_ok
    (fun c head => .inl (trails.blank none c (List.mem_of_mem_head? head))) done
  cases rest : i.rest with
  | nil => exact absurd done (value_ne_ok (by simp [rest]))
  | cons c cs =>
    obtain ⟨ds, rest'⟩ := trails.exists_cons rest nonempty
    have shorter := Input.length_past (i := j) (c := c) (by rw [rest']; rfl)
    have start : i.TrailsWithin j j := ⟨trails, le_rfl⟩
    have body := (start.drop 1).skipSpace
    by_cases quote : c = '"'
    · subst quote
      rw [value_text rest] at done
      rw [value_text rest']
      obtain ⟨⟨s, r₁⟩, text, done⟩ := bind_eq_ok.mp done
      cases done
      exact (string_of_trails trails text).bind fun r' near => ⟨r', rfl, near⟩
    by_cases brace : c = '\x7b'
    · subst brace
      cases levels with
      | zero => exact absurd done (value_tooDeep_ne_ok (.inl rfl) rest)
      | succ levels =>
        rw [value_object rest] at done
        rw [value_object rest']
        refine closing_of_trails body rfl done fun done => ?_
        exact (on.ofMembers body.trails (by omega) done).widen body.within
    by_cases bracket : c = '['
    · subst bracket
      cases levels with
      | zero => exact absurd done (value_tooDeep_ne_ok (.inr rfl) rest)
      | succ levels =>
        rw [value_array rest] at done
        rw [value_array rest']
        refine closing_of_trails body rfl done fun done => ?_
        exact (on.ofItems body.trails (by omega) done).widen body.within
    · rw [value_leaf rest quote brace bracket] at done
      rw [value_leaf rest' quote brace bracket]
      exact leaf_of_trails trails done

/-- The fuel at the second place may be less: each value takes two of it for every character. -/
theorem readsOn (fuel : Nat) : ReadsOn fuel := by
  induction fuel with
  | zero =>
    exact ⟨fun _ _ done => (by cases done), fun _ _ done => (by cases done),
      fun _ _ done => (by cases done)⟩
  | succ fuel on =>
    refine ⟨?_, ?_, ?_⟩
    · intro levels fuel' i j r v trails enough done
      obtain ⟨fuel', rfl⟩ : ∃ more, fuel' = more + 1 := ⟨fuel' - 1, by omega⟩
      exact value_of_trails on trails (by omega) done
    · intro levels fuel' i j r known v trails enough done
      obtain ⟨fuel', rfl⟩ : ∃ more, fuel' = more + 1 := ⟨fuel' - 1, by omega⟩
      exact members_of_trails on trails (by omega) done
    · intro levels fuel' i j r last v trails enough done
      obtain ⟨fuel', rfl⟩ : ∃ more, fuel' = more + 1 := ⟨fuel' - 1, by omega⟩
      exact items_of_trails on trails (by omega) done

end

/-! ### Whole texts -/

theorem trails_trimChars (cs : List Char) :
    (⟨cs.dropWhile isBlank, 0⟩ : Input).Trails ⟨trimChars cs, 0⟩ :=
  ⟨(cs.dropWhile isBlank).rtakeWhile isBlank, fun _ => List.mem_rtakeWhile_imp,
    (List.rdropWhile_append_rtakeWhile ..).symm⟩

theorem Input.skipSpace_eq_self {i : Input} {c : Char} {cs : List Char} (head : i.rest = c :: cs)
    (visible : isSpace c = false) : i.skipSpace = i := by
  have none : i.rest.takeWhile isSpace = [] := by
    rw [head, List.takeWhile_cons, visible]
    rfl
  rw [skipSpace, none]
  rfl

variable [Installation]

theorem read_eq_ok_iff {text : String} {v : Value} : read text = .ok v ↔
    text.toList.head? ≠ some '\uFEFF' ∧
      ∃ r, value Installation.jsonDepth (2 * text.toList.length + 2) (Input.skipSpace ⟨text.toList, 0⟩) = .ok (v, r) ∧
        r.skipSpace.rest = [] := by
  rw [read]
  dsimp only
  split
  · rename_i mark
    exact iff_of_false nofun fun whole => whole.1 mark
  · rename_i noMark
    rw [bind_eq_ok]
    constructor
    · rintro ⟨⟨v', r⟩, inner, done⟩
      dsimp only at done
      split at done
      · rename_i ended
        cases done
        exact ⟨noMark, r, inner, List.isEmpty_iff.mp ended⟩
      · cases done
    · rintro ⟨-, r, inner, ended⟩
      refine ⟨(v, r), inner, ?_⟩
      dsimp only
      rw [if_pos (List.isEmpty_iff.mpr ended)]
      rfl

/-- A text says the same without the blanks at its ends. -/
theorem read_trim {text : String} {v : Value} (done : read text = .ok v) : read (trim text) = .ok v := by
  rw [read_eq_ok_iff] at done ⊢
  rw [trim, String.toList_ofList]
  obtain ⟨-, r, inner, ended⟩ := done
  obtain ⟨c, cs, head, visible⟩ := exists_head_of_value inner
  have noSpace : isBlank c = false := Bool.eq_false_iff.mpr fun blank => visible (.inl blank)
  have rest : (Input.skipSpace ⟨text.toList, 0⟩).rest = text.toList.dropWhile isBlank := by
    have spaces : ∀ d ∈ text.toList.takeWhile Input.isSpace, isBlank d = true :=
      fun d member => isBlank_of_isSpace (List.mem_takeWhile_imp member)
    have whole : text.toList.dropWhile Input.isSpace = c :: cs := by
      rw [← head, Input.skipSpace, Input.drop, drop_takeWhile_length]
    -- what stands before the value is blank, and the value does not start with a blank
    rw [head, ← text.toList.takeWhile_append_dropWhile, List.dropWhile_append_of_pos spaces,
      whole, List.dropWhile_cons, noSpace]
    rfl
  have trails : (Input.skipSpace ⟨text.toList, 0⟩).Trails ⟨trimChars text.toList, 0⟩ := by
    obtain ⟨tail, blank, same⟩ := trails_trimChars text.toList
    exact ⟨tail, blank, rest.trans same⟩
  have nonempty : trimChars text.toList ≠ [] := by
    intro empty
    exact visible (.inl (trails.blank empty c (head ▸ .head _)))
  obtain ⟨ds, head'⟩ := trails.exists_cons head nonempty
  have noGap : Input.isSpace c = false :=
    Bool.eq_false_iff.mpr fun space => visible (.inl (isBlank_of_isSpace space))
  refine ⟨fun mark => ?_, ?_⟩
  · rw [show trimChars text.toList = c :: ds from head'] at mark
    exact visible (.inr (Option.some.inj mark))
  · rw [Input.skipSpace_eq_self head' noGap]
    obtain ⟨r', read', near⟩ := (readsOn _).ofValue trails (Nat.le_succ _) inner
    have shorter := near.trails.skipSpace.length_le
    rw [ended] at shorter
    exact ⟨r', read', List.length_eq_zero_iff.mp (Nat.le_zero.mp shorter)⟩

end StepFlow.Json
