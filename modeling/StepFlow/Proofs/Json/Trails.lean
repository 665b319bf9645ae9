import Mathlib.Data.List.Find
import StepFlow.Json.Reader
import StepFlow.Proofs.Outcome
import StepFlow.Text.Blank

/-! Reading JSON at two places at once, of which one goes on with blanks where the other ends. Main
statements: a string, a number and a word that are read at the first place are read at the second. -/
namespace StepFlow.Json

open Outcome

/-- The text at the first place is that at the second with blanks behind it. -/
def Input.Trails (i j : Input) : Prop :=
  ∃ tail : List Char, (∀ c ∈ tail, isBlank c = true) ∧ i.rest = j.rest ++ tail

section

variable {cs tail word : List Char} {p : Char → Bool}

theorem takeWhile_append_blanks (blank : ∀ c ∈ tail, isBlank c = true)
    (apart : ∀ c, isBlank c = true → p c = false) :
    (cs ++ tail).takeWhile p = cs.takeWhile p := by
  induction cs with
  | nil =>
    cases tail with
    | nil => rfl
    | cons c tail => simp [apart c (blank c (.head _))]
  | cons c cs ih => rw [List.cons_append, List.takeWhile_cons, List.takeWhile_cons, ih]

theorem isPrefixOf_append_blanks (blank : ∀ c ∈ tail, isBlank c = true)
    (apart : word.any isBlank = false) :
    word.isPrefixOf (cs ++ tail) = word.isPrefixOf cs := by
  induction word generalizing cs with
  | nil => simp
  | cons c word ih =>
    cases cs with
    | nil =>
      cases tail with
      | nil => rfl
      | cons d tail =>
        have differ : (c == d) = false := by
          rw [beq_eq_false_iff_ne]
          rintro rfl
          simp [blank c (.head _)] at apart
        rw [List.nil_append, List.isPrefixOf_cons_cons, differ]
        rfl
    | cons d cs =>
      rw [List.cons_append, List.isPrefixOf_cons_cons, List.isPrefixOf_cons_cons,
        ih (Bool.or_eq_false_iff.mp apart).2]

theorem isBlank_of_isSpace {c : Char} (space : Input.isSpace c = true) : isBlank c = true := by
  simp only [Input.isSpace, Bool.or_eq_true, decide_eq_true_eq] at space
  rcases space with ((rfl | rfl) | rfl) | rfl <;> decide

theorem drop_takeWhile_length : cs.drop (cs.takeWhile p).length = cs.dropWhile p := by
  induction cs with
  | nil => rfl
  | cons c cs ih =>
    by_cases inside : p c = true
    · simpa [inside] using ih
    · simp [inside]

end

theorem Input.drop_drop {i : Input} {m n : Nat} : (i.drop m).drop n = i.drop (m + n) := by
  simp only [drop, List.drop_drop, Nat.add_assoc]

theorem Input.length_skipSpace {i : Input} : i.skipSpace.rest.length ≤ i.rest.length := by
  simp [skipSpace, drop]

theorem Input.length_past {i : Input} {c : Char} (head : i.rest.head? = some c) :
    (i.drop 1).skipSpace.rest.length < i.rest.length := by
  obtain ⟨cs, rest⟩ := List.head?_eq_some_iff.mp head
  refine Nat.lt_of_le_of_lt length_skipSpace ?_
  simp [drop, rest]

theorem Input.length_drop {i : Input} {n : Nat} : (i.drop n).rest.length = i.rest.length - n :=
  List.length_drop

namespace Input.Trails

variable {i j : Input} {c : Char} {n : Nat}

theorem drop (trails : i.Trails j) (n : Nat) : (i.drop n).Trails (j.drop n) := by
  obtain ⟨tail, blank, same⟩ := trails
  refine ⟨tail.drop (n - j.rest.length), fun c member => blank c (List.mem_of_mem_drop member), ?_⟩
  simp only [Input.drop, same, List.drop_append]

theorem skipSpace (trails : i.Trails j) : i.skipSpace.Trails j.skipSpace := by
  obtain ⟨tail, blank, same⟩ := trails
  simp only [Input.Trails, Input.skipSpace, Input.drop, drop_takeWhile_length, same]
  rw [List.dropWhile_append]
  split
  · rename_i none
    rw [List.isEmpty_iff.mp none]
    exact ⟨tail.dropWhile isSpace, fun c member => blank c (List.dropWhile_subset _ member), rfl⟩
  · exact ⟨tail, blank, rfl⟩

/-- What is no blank stands at both places or at neither. -/
theorem head?_iff (trails : i.Trails j) (visible : isBlank c = false) :
    i.rest.head? = some c ↔ j.rest.head? = some c := by
  obtain ⟨tail, blank, same⟩ := trails
  rw [same, List.head?_append]
  cases j.rest with
  | cons d cs => simp
  | nil =>
    cases tail with
    | nil => simp
    | cons d tail =>
      have differ : d ≠ c := by
        rintro rfl
        simp [visible] at blank
      simpa using differ

theorem take_eq (trails : i.Trails j) (within : n ≤ j.rest.length) :
    i.rest.take n = j.rest.take n := by
  obtain ⟨tail, -, same⟩ := trails
  rw [same, List.take_append_of_le_length within]

theorem length_le (trails : i.Trails j) : j.rest.length ≤ i.rest.length := by
  obtain ⟨tail, -, same⟩ := trails
  simp [same]

theorem isPrefixOf_eq {word : List Char} (trails : i.Trails j) (apart : word.any isBlank = false) :
    word.isPrefixOf i.rest = word.isPrefixOf j.rest := by
  obtain ⟨tail, blank, same⟩ := trails
  rw [same, isPrefixOf_append_blanks blank apart]

theorem exists_cons {cs : List Char} (trails : i.Trails j) (head : i.rest = c :: cs)
    (nonempty : j.rest ≠ []) : ∃ ds, j.rest = c :: ds := by
  obtain ⟨tail, -, same⟩ := trails
  cases rest : j.rest with
  | nil => exact absurd rest nonempty
  | cons d ds =>
    rw [head, rest] at same
    exact ⟨ds, by rw [(List.cons.inj same).1]⟩

theorem exists_cons_cons {d : Char} {cs : List Char} (trails : i.Trails j) (head : i.rest = c :: d :: cs)
    (two : 1 < j.rest.length) : ∃ ds, j.rest = c :: d :: ds := by
  have same := trails.take_eq two
  rw [head] at same
  match rest : j.rest, two with
  | _ :: _ :: ds, _ =>
    rw [rest] at same
    cases same
    exact ⟨ds, rfl⟩

/-- Where the second place has nothing, the first has blanks only. -/
theorem blank (trails : i.Trails j) (none : j.rest = []) : ∀ c ∈ i.rest, isBlank c = true := by
  obtain ⟨tail, blank, same⟩ := trails
  rwa [same, none, List.nil_append]

end Input.Trails

/-- No more is left at the second place than at the limit. -/
structure Input.TrailsWithin (i j limit : Input) : Prop where
  trails : i.Trails j
  within : j.rest.length ≤ limit.rest.length

namespace Input.TrailsWithin

variable {i j k l limit : Input}

theorem drop (trails : i.TrailsWithin j limit) (n : Nat) : (i.drop n).TrailsWithin (j.drop n) limit := by
  refine ⟨trails.trails.drop n, le_trans ?_ trails.within⟩
  rw [Input.length_drop]
  exact Nat.sub_le ..

theorem skipSpace (trails : i.TrailsWithin j limit) : i.skipSpace.TrailsWithin j.skipSpace limit :=
  ⟨trails.trails.skipSpace, Input.length_skipSpace.trans trails.within⟩

theorem ite {p : Prop} [Decidable p] (first : i.TrailsWithin j limit) (second : k.TrailsWithin l limit) :
    (if p then i else k).TrailsWithin (if p then j else l) limit := by
  split
  · exact first
  · exact second

end Input.TrailsWithin

/-- A reading from the second place comes to the same as one from the first that ended at `r`. -/
def Arrives {α : Type} (reading : Except Fault (α × Input)) (a : α) (r j : Input) : Prop :=
  ∃ r', reading = .ok (a, r') ∧ r.TrailsWithin r' j

namespace Arrives

variable {α β : Type} {reading : Except Fault (α × Input)} {a : α} {b : β} {r s j k : Input}

theorem widen (arrives : Arrives reading a r k) (within : k.rest.length ≤ j.rest.length) :
    Arrives reading a r j := by
  obtain ⟨r', read, near⟩ := arrives
  exact ⟨r', read, near.trails, near.within.trans within⟩

theorem bind {next : α × Input → Except Fault (β × Input)} (arrives : Arrives reading a r j)
    (goes : ∀ r', r.TrailsWithin r' j → Arrives (next (a, r')) b s j) :
    Arrives (reading >>= next) b s j := by
  obtain ⟨r', rfl, near⟩ := arrives
  exact goes r' near

end Arrives

/-! ### Strings -/

section

variable {i j input : Input} {cs : List Char} {c : Char} {start fuel n : Nat} {read : List Char}

theorem unicodeEscape_eq_ok_iff : unicodeEscape input = .ok n ↔
    5 ≤ input.rest.length ∧ hexNumber? (input.rest.take 4) = some n := by
  unfold unicodeEscape
  rw [List.length_take]
  split
  · simp only [reduceCtorEq, false_iff, not_and]
    omega
  · rename_i enough
    have within : 5 ≤ input.rest.length := by omega
    cases hexNumber? (input.rest.take 4) <;> simp [within]

/-- Whether the first half of a pair is followed by what may be the second. -/
def isPaired (first : Nat) (after : Input) : Bool :=
  Surrogate.isHigh first && 6 < (after.rest.take 7).length && "\\u".toList.isPrefixOf after.rest

theorem stringBody_quote (quote : input.rest = '"' :: cs) :
    stringBody start (fuel + 1) input read = .ok (String.ofList read.reverse, input.drop 1) := by
  rw [stringBody]
  split <;> grind

/-- A `u` escape here stands for a character and takes so many others. A first half of a pair that
no second half follows stands for itself. -/
inductive Escapes (input : Input) : Nat → Char → Prop where
  | pair {first second : Nat} : unicodeEscape (input.drop 2) = .ok first →
      isPaired first (input.drop 6) = true → unicodeEscape (input.drop 8) = .ok second →
      Surrogate.isLow second = true → ¬ Surrogate.isReserved (Surrogate.joined first second) = true →
      Escapes input 12 (Surrogate.charOf (Surrogate.joined first second))
  | half {first second : Nat} : unicodeEscape (input.drop 2) = .ok first →
      isPaired first (input.drop 6) = true → unicodeEscape (input.drop 8) = .ok second →
      ¬ Surrogate.isLow second = true → Escapes input 6 (Surrogate.charOf first)
  | lone {first : Nat} : unicodeEscape (input.drop 2) = .ok first →
      ¬ isPaired first (input.drop 6) = true → Escapes input 6 (Surrogate.charOf first)

theorem stringBody_unicode (escaped : input.rest = '\\' :: 'u' :: cs) :
    stringBody start (fuel + 1) input read = (do
      let first ← unicodeEscape (input.drop 2)
      if isPaired first (input.drop 6) then
        let second ← unicodeEscape ((input.drop 6).drop 2)
        if Surrogate.isLow second then
          if Surrogate.isReserved (Surrogate.joined first second) then input.fail .outside
          else
            stringBody start fuel ((input.drop 6).drop 6)
              (Surrogate.charOf (Surrogate.joined first second) :: read)
        else stringBody start fuel (input.drop 6) (Surrogate.charOf first :: read)
      else stringBody start fuel (input.drop 6) (Surrogate.charOf first :: read)) := by
  rw [stringBody, escaped]
  rfl

theorem stringBody_unicode_eq_ok_iff {result : String × Input} (escaped : input.rest = '\\' :: 'u' :: cs) :
    stringBody start (fuel + 1) input read = .ok result ↔ ∃ n c, Escapes input n c ∧
      stringBody start fuel (input.drop n) (c :: read) = .ok result := by
  rw [stringBody_unicode escaped, Input.drop_drop, Input.drop_drop, bind_eq_ok]
  constructor
  · rintro ⟨first, isFirst, done⟩
    split at done
    · rename_i paired
      obtain ⟨second, isSecond, done⟩ := bind_eq_ok.mp done
      split at done
      · rename_i low
        split at done
        · cases done
        · rename_i held
          exact ⟨12, _, .pair isFirst paired isSecond low held, done⟩
      · rename_i high
        exact ⟨6, _, .half isFirst paired isSecond high, done⟩
    · rename_i single
      exact ⟨6, _, .lone isFirst single, done⟩
  · rintro ⟨n, c, escapes, done⟩
    cases escapes with
    | pair isFirst paired isSecond low held =>
      refine ⟨_, isFirst, ?_⟩
      rw [if_pos paired, bind_eq_ok]
      exact ⟨_, isSecond, by rwa [if_pos low, if_neg held]⟩
    | half isFirst paired isSecond high =>
      refine ⟨_, isFirst, ?_⟩
      rw [if_pos paired, bind_eq_ok]
      exact ⟨_, isSecond, by rwa [if_neg high]⟩
    | lone isFirst single => exact ⟨_, isFirst, by rwa [if_neg single]⟩

theorem stringBody_escape (escaped : input.rest = '\\' :: c :: cs) (simple : c ≠ 'u') :
    stringBody start (fuel + 1) input read = match simpleEscape? c with
      | some plain => stringBody start fuel (input.drop 2) (plain :: read)
      | none => input.fail .escape := by
  rw [stringBody]
  split <;> grind

theorem stringBody_plain (plain : input.rest = c :: cs) (noQuote : c ≠ '"') (noEscape : c ≠ '\\') :
    stringBody start (fuel + 1) input read =
      if c.toNat ≤ 0x1f then input.fail .controlCharacter
      else stringBody start fuel (input.drop 1) (c :: read) := by
  rw [stringBody]
  split <;> grind

/-- No string is closed by blanks. -/
theorem stringBody_ne_ok {result : String × Input} (blank : ∀ c ∈ input.rest, isBlank c = true) :
    stringBody start fuel input read ≠ .ok result := by
  induction fuel generalizing input read with
  | zero => exact nofun
  | succ fuel ih =>
    cases rest : input.rest with
    | nil =>
      rw [stringBody, rest]
      exact nofun
    | cons c cs =>
      have isBlankHead := blank c (rest ▸ .head _)
      have noQuote : c ≠ '"' := by
        rintro rfl
        simp [isBlank] at isBlankHead
      have noEscape : c ≠ '\\' := by
        rintro rfl
        simp [isBlank] at isBlankHead
      rw [stringBody_plain rest noQuote noEscape]
      split
      · exact nofun
      · exact ih fun d member => blank d (List.mem_of_mem_drop member)

theorem Escapes.seven_le {c : Char} (escapes : Escapes input n c) : 7 ≤ input.rest.length := by
  have isFirst : ∃ first, unicodeEscape (input.drop 2) = .ok first := by
    cases escapes with
    | pair isFirst | half isFirst | lone isFirst => exact ⟨_, isFirst⟩
  obtain ⟨first, isFirst⟩ := isFirst
  have enough := (unicodeEscape_eq_ok_iff.mp isFirst).1
  rw [Input.length_drop] at enough
  omega

theorem Escapes.two_le {c : Char} (escapes : Escapes input n c) : 2 ≤ n := by
  cases escapes <;> decide

theorem seven_le_of_stringBody {result : String × Input} (escaped : input.rest = '\\' :: 'u' :: cs)
    (done : stringBody start fuel input read = .ok result) : 7 ≤ input.rest.length := by
  cases fuel with
  | zero => cases done
  | succ fuel =>
    obtain ⟨n, c, escapes, -⟩ := (stringBody_unicode_eq_ok_iff escaped).mp done
    exact escapes.seven_le

theorem unicodeEscape_of_trails {m : Nat} (trails : i.Trails j) (within : m + 4 < j.rest.length)
    (spelled : unicodeEscape (i.drop m) = .ok n) : unicodeEscape (j.drop m) = .ok n := by
  have enough : 5 ≤ (j.drop m).rest.length := by
    rw [Input.length_drop]
    omega
  have same := (trails.drop m).take_eq (Nat.le_of_succ_le enough)
  rw [unicodeEscape_eq_ok_iff] at *
  exact ⟨enough, same ▸ spelled.2⟩

theorem isPaired_iff {first : Nat} : isPaired first input = true ↔
    Surrogate.isHigh first = true ∧ 7 ≤ input.rest.length ∧
      "\\u".toList.isPrefixOf input.rest = true := by
  rw [isPaired, List.length_take, Bool.and_eq_true, Bool.and_eq_true, decide_eq_true_eq, and_assoc]
  refine and_congr_right fun _ => and_congr_left fun _ => ?_
  omega

theorem isPaired_of_trails {first : Nat} (trails : i.Trails j) :
    isPaired first j = true ↔ isPaired first i = true ∧ 7 ≤ j.rest.length := by
  have same : "\\u".toList.isPrefixOf i.rest = _ := trails.isPrefixOf_eq rfl
  have longer := trails.length_le
  rw [isPaired_iff, isPaired_iff, same]
  constructor
  · rintro ⟨high, within, follows⟩
    exact ⟨⟨high, by omega, follows⟩, within⟩
  · rintro ⟨⟨high, -, follows⟩, within⟩
    exact ⟨high, within, follows⟩

/-- An escape says the same at both places if the string goes on at the second. -/
theorem Escapes.of_trails {result : String × Input} (trails : i.Trails j) (escapes : Escapes i n c)
    (within : n < j.rest.length) (goesOn : stringBody start fuel (j.drop n) read = .ok result) :
    Escapes j n c := by
  have paired_iff (first : Nat) : isPaired first (j.drop 6) = true ↔ _ :=
    isPaired_of_trails (trails.drop 6)
  cases escapes with
  | pair isFirst paired isSecond low held =>
    have seven : 7 ≤ (j.drop 6).rest.length := by
      rw [Input.length_drop]
      omega
    exact .pair (unicodeEscape_of_trails trails (by omega) isFirst) ((paired_iff _).mpr ⟨paired, seven⟩)
      (unicodeEscape_of_trails trails (by omega) isSecond) low held
  | half isFirst paired isSecond high =>
    -- what is no second half is read again as a character of its own, so it is there
    have follows := (isPaired_iff.mp paired).2.2
    rw [(trails.drop 6).isPrefixOf_eq rfl, List.isPrefixOf_iff_prefix] at follows
    obtain ⟨es, follows⟩ := follows
    have seven := seven_le_of_stringBody follows.symm goesOn
    have paired' := (paired_iff _).mpr ⟨paired, seven⟩
    rw [Input.length_drop] at seven
    exact .half (unicodeEscape_of_trails trails (by omega) isFirst) paired'
      (unicodeEscape_of_trails trails (by omega) isSecond) high
  | lone isFirst single =>
    exact .lone (unicodeEscape_of_trails trails (by omega) isFirst)
      fun paired => single ((paired_iff _).mp paired).1

/-- A string is read to the same place with the blanks behind it or without them. -/
theorem stringBody_of_trails {s : String} {r : Input} {start' fuel' : Nat} (trails : i.Trails j)
    (enough : j.rest.length < fuel') (done : stringBody start fuel i read = .ok (s, r)) :
    ∃ r', stringBody start' fuel' j read = .ok (s, r') ∧ r.Trails r' ∧
      r'.rest.length < j.rest.length := by
  induction fuel generalizing i j read fuel' with
  | zero => cases done
  | succ fuel ih =>
    have nonempty : j.rest ≠ [] := fun none => stringBody_ne_ok (trails.blank none) done
    have positive := List.length_pos_iff.mpr nonempty
    obtain ⟨fuel', rfl⟩ : ∃ more, fuel' = more + 1 := ⟨fuel' - 1, by omega⟩
    -- a string that goes on is not over yet at the second place either
    have step {n : Nat} {read : List Char} (moves : 1 ≤ n)
        (done : stringBody start fuel (i.drop n) read = .ok (s, r)) :
        n < j.rest.length ∧ ∃ r', stringBody start' fuel' (j.drop n) read = .ok (s, r') ∧
          r.Trails r' ∧ r'.rest.length < j.rest.length := by
      have length : (j.drop n).rest.length = j.rest.length - n := Input.length_drop
      have enough' : (j.drop n).rest.length < fuel' := by omega
      obtain ⟨r', read', trails', shorter⟩ := ih (trails.drop n) enough' done
      exact ⟨by omega, r', read', trails', by omega⟩
    cases rest : i.rest with
    | nil =>
      rw [stringBody, rest] at done
      cases done
    | cons c cs =>
      obtain ⟨ds, rest'⟩ := trails.exists_cons rest nonempty
      by_cases quote : c = '"'
      · subst quote
        rw [stringBody_quote rest] at done
        cases done
        refine ⟨_, stringBody_quote rest', trails.drop 1, ?_⟩
        rw [Input.length_drop]
        omega
      by_cases escape : c = '\\'
      · subst escape
        cases cs with
        | nil =>
          rw [stringBody, rest] at done
          cases done
        | cons d cs =>
          by_cases unicode : d = 'u'
          · subst unicode
            obtain ⟨n, c, escapes, done⟩ := (stringBody_unicode_eq_ok_iff rest).mp done
            have two := escapes.two_le
            obtain ⟨within, r', read', ended⟩ := step (by omega) done
            obtain ⟨ds, rest'⟩ := trails.exists_cons_cons rest (by omega)
            have escapes' := escapes.of_trails trails within read'
            exact ⟨r', (stringBody_unicode_eq_ok_iff rest').mpr ⟨n, c, escapes', read'⟩, ended⟩
          · rw [stringBody_escape rest unicode] at done
            cases plain : simpleEscape? d with
            | none =>
              rw [plain] at done
              cases done
            | some e =>
              rw [plain] at done
              obtain ⟨two, ended⟩ := step (by omega) done
              obtain ⟨ds, rest'⟩ := trails.exists_cons_cons rest (by omega)
              rw [stringBody_escape rest' unicode, plain]
              exact ended
      · rw [stringBody_plain rest quote escape] at done
        rw [stringBody_plain rest' quote escape]
        split at done
        · cases done
        · rename_i printable
          rw [if_neg printable]
          exact (step le_rfl done).2

theorem string_of_trails {s : String} {r : Input} (trails : i.Trails j) (done : string i = .ok (s, r)) :
    Arrives (string j) s r j := by
  have length : (j.drop 1).rest.length = j.rest.length - 1 := Input.length_drop
  have enough : (j.drop 1).rest.length < j.rest.length + 1 := by omega
  obtain ⟨r', read', trails', shorter⟩ := stringBody_of_trails (trails.drop 1) enough done
  exact ⟨r', read', trails', by omega⟩

end

/-! ### Numbers and words -/

section

variable {cs tail : List Char} {i j r : Input} {v : Value}

theorem isDigit_of_isBlank {c : Char} (blank : isBlank c = true) : c.isDigit = false := by
  rw [Bool.eq_false_iff]
  intro digit
  have zero : '0'.val.toNat = 48 := rfl
  have nine : '9'.val.toNat = 57 := rfl
  simp only [isBlank, Char.isDigit, Char.toNat, Bool.or_eq_true, Bool.and_eq_true, decide_eq_true_eq,
    beq_iff_eq, ge_iff_le, UInt32.le_iff_toNat_le] at blank digit
  omega

theorem wholeDigits_eq (cs : List Char) :
    wholeDigits cs = if cs.head? = some '0' then ['0'] else cs.takeWhile Char.isDigit := by
  unfold wholeDigits
  split
  · rfl
  · rename_i other
    rw [if_neg]
    intro zero
    obtain ⟨ds, rfl⟩ := List.head?_eq_some_iff.mp zero
    exact other ds rfl

theorem fractionDigits_eq (cs : List Char) :
    fractionDigits cs = if cs.head? = some '.' then (cs.drop 1).takeWhile Char.isDigit else [] := by
  unfold fractionDigits
  split
  · rfl
  · rename_i other
    rw [if_neg]
    intro point
    obtain ⟨ds, rfl⟩ := List.head?_eq_some_iff.mp point
    exact other ds rfl

theorem exponentPart_append_blanks (blank : ∀ c ∈ tail, isBlank c = true) :
    exponentPart (cs ++ tail) = exponentPart cs := by
  cases cs with
  | nil =>
    cases tail with
    | nil => rfl
    | cons c tail =>
      have noMark : ¬(c = 'e' ∨ c = 'E') := by
        rintro (rfl | rfl) <;> simp [isBlank] at blank
      simp only [List.nil_append, exponentPart, Bool.or_eq_true, decide_eq_true_eq, if_neg noMark]
  | cons c cs =>
    have sign : (cs ++ tail).takeWhile (fun c => c = '+' || c = '-') =
        cs.takeWhile fun c => c = '+' || c = '-' := by
      refine takeWhile_append_blanks blank fun c blank => ?_
      rw [Bool.eq_false_iff]
      intro sign
      simp only [Bool.or_eq_true, decide_eq_true_eq] at sign
      rcases sign with rfl | rfl <;> cases blank
    have within := (List.takeWhile_prefix (l := cs) fun c => c = '+' || c = '-').length_le
    simp only [List.cons_append, exponentPart, sign, List.drop_append_of_le_length within,
      takeWhile_append_blanks blank fun _ => isDigit_of_isBlank]

namespace Input.Trails

theorem takeWhile_isDigit (trails : i.Trails j) :
    i.rest.takeWhile Char.isDigit = j.rest.takeWhile Char.isDigit := by
  obtain ⟨tail, blank, same⟩ := trails
  rw [same, takeWhile_append_blanks blank fun _ => isDigit_of_isBlank]

theorem wholeDigits (trails : i.Trails j) : wholeDigits i.rest = wholeDigits j.rest := by
  have zero := trails.head?_iff (c := '0') rfl
  simp only [wholeDigits_eq, zero, trails.takeWhile_isDigit]

theorem fractionDigits (trails : i.Trails j) : fractionDigits i.rest = fractionDigits j.rest := by
  have point := trails.head?_iff (c := '.') rfl
  have digits := (trails.drop 1).takeWhile_isDigit
  simp only [Input.drop] at digits
  simp only [fractionDigits_eq, point, digits]

theorem exponentPart (trails : i.Trails j) : exponentPart i.rest = exponentPart j.rest := by
  obtain ⟨tail, blank, same⟩ := trails
  rw [same, exponentPart_append_blanks blank]

end Input.Trails

theorem number_of_trails (trails : i.Trails j) (done : number i = .ok (v, r)) :
    Arrives (number j) v r j := by
  have minus : "-".toList.isPrefixOf i.rest = _ := trails.isPrefixOf_eq rfl
  have start : i.TrailsWithin j j := ⟨trails, le_rfl⟩
  unfold number at done ⊢
  simp only [minus] at done ⊢
  generalize "-".toList.isPrefixOf j.rest = negative at done ⊢
  -- after each part of the number the places are named anew
  have body : (if negative = true then i.drop 1 else i).TrailsWithin
      (if negative = true then j.drop 1 else j) j := (start.drop 1).ite start
  generalize (if negative = true then i.drop 1 else i) = i₁ at done body
  generalize (if negative = true then j.drop 1 else j) = j₁ at body ⊢
  rw [body.trails.wholeDigits] at done
  generalize StepFlow.Json.wholeDigits j₁.rest = whole at done ⊢
  have afterWhole := body.drop whole.length
  generalize i₁.drop whole.length = i₂ at done afterWhole
  generalize j₁.drop whole.length = j₂ at afterWhole ⊢
  rw [afterWhole.trails.fractionDigits] at done
  generalize StepFlow.Json.fractionDigits j₂.rest = fraction at done ⊢
  have afterFraction :
      (if fraction.isEmpty = true then i₂ else i₂.drop (fraction.length + 1)).TrailsWithin
        (if fraction.isEmpty = true then j₂ else j₂.drop (fraction.length + 1)) j :=
    afterWhole.ite (afterWhole.drop _)
  generalize (if fraction.isEmpty = true then i₂ else i₂.drop (fraction.length + 1)) = i₃
    at done afterFraction
  generalize (if fraction.isEmpty = true then j₂ else j₂.drop (fraction.length + 1)) = j₃
    at afterFraction ⊢
  rw [afterFraction.trails.exponentPart] at done
  generalize StepFlow.Json.exponentPart j₃.rest = exponent at done ⊢
  have ended := afterFraction.drop exponent.1
  split at done
  · cases done
  rename_i digits
  rw [if_neg digits]
  split at done
  · rename_i plain
    rw [if_pos plain]
    split at done
    · cases done
    · rename_i few
      cases done
      rw [if_neg few]
      exact ⟨_, rfl, ended⟩
  · rename_i fractional
    cases done
    rw [if_neg fractional]
    exact ⟨_, rfl, ended⟩

/-- No value starts with such a character. -/
def IsStray (c : Char) : Prop :=
  isBlank c = true ∨ c = '\uFEFF'

theorem IsStray.ne {c d : Char} (stray : IsStray c) (visible : isBlank d = false)
    (noMark : (d == '\uFEFF') = false) : c ≠ d := by
  rintro rfl
  rcases stray with blank | rfl
  · simp [visible] at blank
  · cases noMark

theorem words_apart : ∀ word ∈ words,
    word.1 ≠ [] ∧ word.1.any isBlank = false ∧ '\uFEFF' ∉ word.1 := by
  decide

theorem leaf_ne_ok {input : Input} {c : Char} {result : Value × Input} (stray : IsStray c)
    (head : input.rest = c :: cs) : leaf input ≠ .ok result := by
  have noDigit : c.isDigit = false := by
    rcases stray with blank | rfl
    · exact isDigit_of_isBlank blank
    · rfl
  have noWord : words.find? (fun word => word.1.isPrefixOf input.rest) = none := by
    rw [List.find?_eq_none]
    intro word isWord starts
    obtain ⟨nonempty, noBlank, noMark⟩ := words_apart word isWord
    rw [List.isPrefixOf_iff_prefix, head, List.prefix_cons_iff] at starts
    obtain ⟨ds, same, -⟩ := starts.resolve_left nonempty
    rw [same, List.any_cons, Bool.or_eq_false_iff] at noBlank
    rw [same, List.mem_cons, not_or] at noMark
    exact stray.elim (fun blank => by simp [noBlank.1] at blank) fun mark => noMark.1 mark.symm
  have noMinus : "-".toList.isPrefixOf input.rest = false := by
    have differ : ('-' == c) = false := beq_eq_false_iff_ne.mpr (stray.ne rfl rfl).symm
    rw [head]
    change (('-' == c) && _) = false
    rw [differ, Bool.false_and]
  have noWhole : wholeDigits input.rest = [] := by
    have noZero : ¬ (c :: cs).head? = some '0' := fun zero => stray.ne rfl rfl (Option.some.inj zero)
    rw [head, wholeDigits_eq, if_neg noZero, List.takeWhile_cons, noDigit]
    rfl
  rw [leaf, noWord]
  dsimp only
  rw [number, noMinus]
  dsimp only
  rw [if_neg Bool.false_ne_true, noWhole]
  exact nofun

theorem leaf_of_trails (trails : i.Trails j) (done : leaf i = .ok (v, r)) : Arrives (leaf j) v r j := by
  have same : words.find? (fun word => word.1.isPrefixOf i.rest) =
      words.find? fun word => word.1.isPrefixOf j.rest :=
    List.find?_congr fun word isWord => trails.isPrefixOf_eq (words_apart word isWord).2.1
  unfold leaf at done ⊢
  rw [same] at done
  split at done
  · cases done
    have start : i.TrailsWithin j j := ⟨trails, le_rfl⟩
    exact ⟨_, rfl, start.drop _⟩
  · exact number_of_trails trails done

end

end StepFlow.Json
