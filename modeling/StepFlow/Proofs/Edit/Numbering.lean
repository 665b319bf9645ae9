import Mathlib.Order.Bounds.Basic
import StepFlow.Proofs.Edit.Naming
import StepFlow.Proofs.Text.Cutting

/-! Which ids are made. Main statement: an id that is made is a name that is not in use; it is the
wanted name or, where that is in use, the wanted name with the least free number; and a hint that is
given again and again gives these names in the order of their numbers. -/
namespace StepFlow.Ids

variable {existing : List Scalar} {hint : Option String} {anchor stem id s : String}
  {anchors ids : List String} {fuel n k i : Nat}

/-! ### The wanted name -/

/-- What a hint asks for: what stands between the blanks around it, made a name. Where nothing
stands there or what stands for no id, and without a hint, a name after the anchor. -/
inductive Wants (hint : Option String) (anchor : String) : String → Prop where
  | hinted {given word : String} : hint = some given → Trims given.toList word.toList → word ≠ "" →
      word ∉ placeholderHints → Wants hint anchor (slugify word)
  | placed : (∀ given word, hint = some given → Trims given.toList word.toList →
      word = "" ∨ word ∈ placeholderHints) → Wants hint anchor ("node__after__" ++ slugify anchor)

theorem isPlaceholderHint_some_iff : isPlaceholderHint (some s) = true ↔
    trim s = "" ∨ trim s ∈ placeholderHints := by
  rw [isPlaceholderHint, Bool.or_eq_true, isBlankText_iff, List.contains_iff_mem]

theorem wants_base : Wants hint anchor (Ids.base hint anchor) := by
  unfold Ids.base
  split
  · rename_i given
    split
    · rename_i stands
      refine .placed fun _ word same trims => ?_
      obtain rfl := Option.some.inj same
      rw [← trim_eq_iff.mpr trims]
      exact isPlaceholderHint_some_iff.mp stands
    · rename_i genuine
      rw [isPlaceholderHint_some_iff, not_or] at genuine
      exact .hinted rfl (trim_eq_iff.mp rfl) genuine.1 genuine.2
  · exact .placed nofun

theorem Wants.base_eq (wants : Wants hint anchor stem) : Ids.base hint anchor = stem := by
  cases wants with
  | hinted given trims nonempty genuine =>
    subst given
    rw [← trim_eq_iff] at trims
    subst trims
    exact if_neg (by rw [isPlaceholderHint_some_iff]; exact not_or.mpr ⟨nonempty, genuine⟩)
  | placed stands =>
    cases hint with
    | none => rfl
    | some given =>
      exact if_pos (isPlaceholderHint_some_iff.mpr (stands given _ rfl (trim_eq_iff.mp rfl)))

/-! ### The search for a number -/

/-- The search from a number on: past the numbers whose ids are in use, to the first whose id is
not. -/
inductive Finds (existing : List Scalar) (stem : String) : Nat → Nat → Prop where
  | free {n : Nat} : .str (numbered stem n) ∉ existing → Finds existing stem n n
  | taken {n k : Nat} : .str (numbered stem n) ∈ existing → Finds existing stem (n + 1) k →
      Finds existing stem n k

theorem finds_firstFree (free : .str (numbered stem (firstFree existing stem fuel n)) ∉ existing) :
    Finds existing stem n (firstFree existing stem fuel n) := by
  induction fuel generalizing n with
  | zero => exact .free free
  | succ fuel ih =>
    rw [firstFree] at free ⊢
    split at free
    · rename_i inUse
      rw [if_pos inUse]
      exact .taken (List.contains_iff_mem.mp inUse) (ih free)
    · rename_i unused
      rw [if_neg unused]
      exact .free free

theorem Finds.isLeast (finds : Finds existing stem n k) :
    IsLeast {i | n ≤ i ∧ .str (numbered stem i) ∉ existing} k := by
  induction finds with
  | free unused => exact ⟨⟨le_rfl, unused⟩, fun i later => later.1⟩
  | taken inUse _ ih =>
    refine ⟨⟨Nat.le_of_succ_le ih.1.1, ih.1.2⟩, fun i ⟨from_n, unused⟩ => ih.2 ⟨?_, unused⟩⟩
    refine Nat.lt_of_le_of_ne from_n ?_
    rintro rfl
    exact unused inUse

/-! ### One id -/

/-- The id for a wanted name: the name itself if it is free, and otherwise the name with the least
free number from two on. -/
inductive Settles (existing : List Scalar) (stem : String) : String → Prop where
  | own : .str stem ∉ existing → Settles existing stem stem
  | counted {k : Nat} : .str stem ∈ existing →
      IsLeast {n | 2 ≤ n ∧ .str (numbered stem n) ∉ existing} k →
      Settles existing stem (numbered stem k)

theorem settles_generate :
    Settles existing (Ids.base hint anchor) (generate hint anchor existing) := by
  unfold generate
  simp only
  split
  · rename_i inUse
    exact .counted (List.contains_iff_mem.mp inUse) (finds_firstFree firstFree_not_mem).isLeast
  · rename_i unused
    exact .own (fun inUse => unused (List.contains_iff_mem.mpr inUse))

theorem Settles.unique (first : Settles existing stem id) (second : Settles existing stem s) :
    id = s := by
  cases first with
  | own unused =>
    cases second with
    | own => rfl
    | counted inUse => exact absurd inUse unused
  | counted inUse least =>
    cases second with
    | own unused => exact absurd inUse unused
    | counted _ least' => rw [least.unique least']

theorem Settles.generate_eq (settles : Settles existing stem id) (wants : Wants hint anchor stem) :
    generate hint anchor existing = id := by
  rw [← wants.base_eq] at settles
  exact settles_generate.unique settles

/-- What is asked of an id that is made. -/
structure IsMadeFor (existing : List Scalar) (hint : Option String) (anchor id : String) : Prop where
  fresh : .str id ∉ existing
  name : IsName id.toList
  settled : ∃ stem, Wants hint anchor stem ∧ Settles existing stem id

theorem isMadeFor_iff : IsMadeFor existing hint anchor id ↔ generate hint anchor existing = id := by
  constructor
  · rintro ⟨-, -, stem, wants, settles⟩
    exact settles.generate_eq wants
  · rintro rfl
    exact ⟨generate_not_mem, isName_generate, _, wants_base, settles_generate⟩

/-! ### One id after the other -/

/-- The ids for a wanted name in the order in which they are made: the name, and the name with the
numbers from two on. -/
def candidate (stem : String) : Nat → String
  | 0 => stem
  | i + 1 => numbered stem (i + 2)

theorem candidate_injective : Function.Injective (candidate stem) := by
  have longer (n : Nat) : numbered stem n ≠ stem := by
    intro same
    have lengths := congrArg String.length same
    rw [numbered, String.length_append, String.length_append] at lengths
    have line : "__".length = 2 := rfl
    omega
  intro i j same
  cases i <;> cases j
  · rfl
  · exact absurd same.symm (longer _)
  · exact absurd same (longer _)
  · rw [Nat.add_right_cancel (numbered_injective same)]

theorem settles_candidate (inUse : ∀ j < i, .str (candidate stem j) ∈ existing)
    (unused : .str (candidate stem i) ∉ existing) : Settles existing stem (candidate stem i) := by
  cases i with
  | zero => exact .own unused
  | succ i =>
    refine .counted (inUse 0 (Nat.succ_pos i)) ⟨⟨Nat.le_add_left 2 i, unused⟩, ?_⟩
    rintro n ⟨two, free⟩
    obtain ⟨j, rfl⟩ := Nat.exists_eq_add_of_le' two
    refine Nat.add_le_add_right (Nat.le_of_not_lt fun before => ?_) 2
    exact free (inUse (j + 1) (Nat.succ_lt_succ before))

/-- Ids made one after the other for the same hint, each of them beside an anchor and in use from
then on. -/
inductive Series (hint : Option String) : List Scalar → List String → List String → Prop where
  | nil {existing : List Scalar} : Series hint existing [] []
  | cons {existing later : List Scalar} {anchor : String} {anchors ids : List String} :
      (∀ id, id ∈ later ↔ id = .str (generate hint anchor existing) ∨ id ∈ existing) →
      Series hint later anchors ids →
      Series hint existing (anchor :: anchors) (generate hint anchor existing :: ids)

theorem exists_series (hint : Option String) (existing : List Scalar) (anchors : List String) :
    ∃ ids, Series hint existing anchors ids := by
  induction anchors generalizing existing with
  | nil => exact ⟨[], .nil⟩
  | cons anchor anchors ih =>
    obtain ⟨ids, series⟩ := ih (.str (generate hint anchor existing) :: existing)
    exact ⟨_, .cons (fun id => List.mem_cons) series⟩

theorem Series.eq_candidates (series : Series hint existing anchors ids)
    (wants : ∀ anchor ∈ anchors, Wants hint anchor stem)
    (inUse : ∀ j < i, .str (candidate stem j) ∈ existing)
    (unused : ∀ j < anchors.length, .str (candidate stem (i + j)) ∉ existing) :
    ids = (List.range' i anchors.length).map (candidate stem) := by
  -- each step takes the next candidate: those before it are in use, those behind it stay free
  induction series generalizing i with
  | nil => rfl
  | @cons existing later anchor anchors ids grown series ih =>
    obtain ⟨wanted, wants⟩ := List.forall_mem_cons.mp wants
    have made : generate hint anchor existing = candidate stem i :=
      (settles_candidate inUse (unused 0 (Nat.succ_pos _))).generate_eq wanted
    rw [made] at grown ⊢
    rw [List.length_cons, List.range'_succ, List.map_cons, ← ih wants]
    · intro j before
      rw [grown, Scalar.str.injEq]
      rcases Nat.lt_succ_iff_lt_or_eq.mp before with earlier | rfl
      · exact .inr (inUse j earlier)
      · exact .inl rfl
    · intro j bound
      rw [grown, Scalar.str.injEq, not_or]
      refine ⟨fun again => ?_, ?_⟩
      · exact absurd (candidate_injective again) (by omega)
      · have later := unused (j + 1) (Nat.succ_lt_succ bound)
        rwa [Nat.add_left_comm, Nat.add_comm] at later

/-- An id that is made is the wanted name or the wanted name with the least free number, at which the
search comes to its end. What is made one after the other for one hint are the wanted name and its
numbers in order, as long as they are free. -/
theorem generate_outcome (hint : Option String) (existing : List Scalar) :
    (∀ stem n, ∃ k, Finds existing stem n k ∧
      IsLeast {i | n ≤ i ∧ .str (numbered stem i) ∉ existing} k) ∧
    (∀ anchor id, IsMadeFor existing hint anchor id ↔ generate hint anchor existing = id) ∧
    (∀ s, slugify (slugify s) = slugify s ∧ (slugify s = s ↔ IsName s.toList)) ∧
    ∀ stem anchors, (∀ anchor ∈ anchors, Wants hint anchor stem) →
      (∀ i < anchors.length, .str (candidate stem i) ∉ existing) →
      ∀ ids, Series hint existing anchors ids ↔
        ids = (List.range anchors.length).map (candidate stem) := by
  refine ⟨fun stem n => ?_, fun _ _ => isMadeFor_iff,
    fun _ => ⟨slugify_slugify _, slugify_eq_self_iff⟩, fun stem anchors wants unused ids => ?_⟩
  · have finds : Finds existing stem n _ := finds_firstFree firstFree_not_mem
    exact ⟨_, finds, finds.isLeast⟩
  · have settled {ids : List String} (series : Series hint existing anchors ids) :
        ids = (List.range anchors.length).map (candidate stem) := by
      rw [List.range_eq_range']
      exact series.eq_candidates wants nofun (by simpa using unused)
    refine ⟨settled, ?_⟩
    rintro rfl
    obtain ⟨ids, series⟩ := exists_series hint existing anchors
    rwa [← settled series]

/-- One hint three times, and a hint that stands for no id where the id after the anchor and its
second number are in use. -/
theorem generate_outcome_fetch :
    (∀ anchor ∈ ["start", "say", "start"], Wants (some "\u00a0fetch url.v2 ") anchor "fetch_url_v2") ∧
    (∀ i < 3, .str (candidate "fetch_url_v2" i) ∉
      [Scalar.str "start", .int 3, .str "fetch_url_v2__4"]) ∧
    Series (some "\u00a0fetch url.v2 ") [.str "start", .int 3, .str "fetch_url_v2__4"]
      ["start", "say", "start"] ["fetch_url_v2", "fetch_url_v2__2", "fetch_url_v2__3"] ∧
    IsMadeFor [.str "say", .str "node__after__say", .str "node__after__say__2"] (some " STEP ") "say"
      "node__after__say__3" := by
  have wants : ∀ anchor ∈ ["start", "say", "start"],
      Wants (some "\u00a0fetch url.v2 ") anchor "fetch_url_v2" := fun _ _ => wants_base
  have unused : ∀ i < 3, .str (candidate "fetch_url_v2" i) ∉
      [Scalar.str "start", .int 3, .str "fetch_url_v2__4"] := by decide
  refine ⟨wants, unused, ?_, ?_⟩
  · exact ((generate_outcome _ _).2.2.2 "fetch_url_v2" _ wants unused _).mpr rfl
  · exact ((generate_outcome _ _).2.1 _ _).mpr (by decide)

end StepFlow.Ids
