import StepFlow.Proofs.Catalog.Loading

/-! Loading a catalog from files some of which are no manifests. Main statement: the components are
those of the manifests, in order, and a file that is none is left out; but a file whose reading fails
in a way that nobody expects takes the whole catalog along. -/
namespace StepFlow

open Outcome Files

variable {files : Files} {path bad : Path} {paths before after : List Path} {text : String} {value : Value}

namespace Manifest

/-- The data of a manifest name as its required fields something that has no items. -/
def IsItemless : Value → Prop
  | .map manifest => ∃ id schema, Members.get manifest "id" = .scalar (.str id) ∧
      Members.get manifest "config_schema" = .map schema ∧
      (Members.get schema "required").isTruthy = true ∧
      (Members.get schema "required").items? = .error (.misshapen .noItems)
  | _ => False

/-- Items are texts unless there are none, or an integer among them is too long. -/
theorem cases_of_itemTexts?_error {failure : Failure} (failed : value.itemTexts? = .error failure) :
    failure = .invalid .longInteger ∨ value.items? = .error (.misshapen .noItems) := by
  unfold Value.itemTexts? at failed
  cases items : value.items? with
  | error reason =>
    unfold Value.items? at items
    split at items <;> cases items
    exact .inr rfl
  | ok given =>
    rw [items] at failed
    change (requireWritable (given.all Value.isWritable) >>= fun _ => _) = _ at failed
    cases writable : given.all Value.isWritable with
    | true =>
      rw [writable] at failed
      cases failed
    | false =>
      rw [writable] at failed
      cases failed
      exact .inl rfl

theorem cases_of_component?_error {failure : Failure} (failed : component? value = .error failure) :
    failure = .invalid .longInteger ∨ IsItemless value := by
  unfold component? at failed
  split at failed
  · rename_i manifest
    split at failed
    · rename_i id isId
      cases required : requiredFields manifest with
      | ok fields =>
        rw [required] at failed
        cases failed
      | error reason =>
        rw [required] at failed
        cases failed
        unfold requiredFields at required
        split at required
        · rename_i schema isSchema
          unfold fieldNames at required
          split at required
          · rename_i given
            exact (cases_of_itemTexts?_error required).imp_right fun none =>
              ⟨id, schema, isId, isSchema, given, none⟩
          · cases required
        · cases required
    · cases failed
  · cases failed

theorem component?_of_itemless (itemless : IsItemless value) :
    component? value = .error (.misshapen .noItems) := by
  cases value with
  | map manifest =>
    obtain ⟨id, schema, isId, isSchema, given, none⟩ := itemless
    simp only [component?, isId, requiredFields, isSchema, fieldNames, given, if_true, Value.itemTexts?, none]
    rfl
  | _ => cases itemless

/-- What is no directory stands for itself. -/
theorem expand_eq_ok_iff {manifests : List Path} (single : files.holdsDirectory path = false) :
    expand files path = .ok manifests ↔ (∃ found, files.look? path = .ok found) ∧ manifests = [path] := by
  unfold expand Files.isDirectory
  cases seen : files.look? path with
  | error fault => simp [bind, Except.bind]
  | ok found =>
    have same : found.any Entry.isDirectory = files.holdsDirectory path := by
      unfold look? at seen
      unfold holdsDirectory
      cases looked : files.look path with
      | ok entry =>
        rw [looked] at seen
        cases seen
        rfl
      | error fault =>
        rw [looked] at seen
        cases absent : meansAbsent fault <;> simp [absent] at seen
        rw [← seen]
        rfl
    simp [same, single, bind, Except.bind, pure, Except.pure, eq_comm]

/-- Data are asked of a text only once it has been read. -/
theorem eq_outside_of_readText {failure : Yaml.Failure}
    (failed : files.readText path = .error (.data failure)) : failure = .outside := by
  unfold readText textOf at failed
  cases read : files.read path with
  | error fault =>
    rw [read] at failed
    cases failed
  | ok content =>
    rw [read] at failed
    cases decoded : Utf8.decode content with
    | error fault =>
      simp [decoded, Except.mapError, bind, Except.bind] at failed
    | ok text =>
      cases whole : Surrogate.isWhole text with
      | true => simp [decoded, whole, Except.mapError, bind, Except.bind, pure, Except.pure] at failed
      | false =>
        simp [decoded, whole, Except.mapError, bind, Except.bind] at failed
        exact (Failure.data.inj (Except.error.inj failed)).symm

variable [Installation]

/-- The component that a file declares. -/
def declared (files : Files) (path : Path) : Option Component :=
  match Manifest.read files path with
  | .ok (.ok component) => some component
  | _ => none

/-- The value that the text of a manifest spells, in the language of its name. -/
def Spells (path : Path) (text : String) (value : Value) : Prop :=
  if isYaml path then Yaml.read text = .ok value else Json.read text = .ok value

/-- The text of the file and the data in it can be held: no character of them stands in for half a
pair, and no collection contains itself. -/
def IsHeld (files : Files) (path : Path) : Prop :=
  Manifest.read files path ≠ .error (.data .outside)

/-- What is wrong with a file is nothing that loading is prepared for. -/
inductive Upsets (files : Files) (path : Path) : Prop where
  /-- Its name is too long to be looked for. -/
  | unseen {fault : FileFault} : files.look? path = .error fault → Upsets files path
  /-- A scalar is nothing that its tag could mean, or values are nested too deeply. -/
  | yaml {text : String} {fault : Yaml.ValueFault} : files.readText path = .ok text →
      isYaml path = true → Yaml.read text = .error (.value fault) → fault.isRefusal = false →
      Upsets files path
  /-- Values are nested too deeply. -/
  | json {text : String} {offset : Nat} : files.readText path = .ok text →
      isYaml path = false → Json.read text = .error ⟨.tooDeep, offset⟩ → Upsets files path
  | itemless {text : String} {value : Value} : files.readText path = .ok text →
      Spells path text value → IsItemless value → Upsets files path

/-! ### Reading a file -/

theorem dataOf_eq_ok_iff : dataOf path text = .ok (.ok value) ↔ Spells path text value := by
  unfold dataOf Spells
  split
  · cases Yaml.read text with
    | ok other => simp
    | error failure => by_cases refused : failure.isRefusal = true <;> simp [refused]
  · cases Json.read text with
    | ok other => simp
    | error fault =>
      obtain ⟨reason, offset⟩ := fault
      cases reason <;> simp

theorem exists_dataOf_error_iff (held : dataOf path text ≠ .error (.data .outside)) :
    (∃ failure, dataOf path text = .error failure) ↔
      (isYaml path = true ∧ ∃ fault, Yaml.read text = .error (.value fault) ∧ fault.isRefusal = false) ∨
        isYaml path = false ∧ ∃ offset, Json.read text = .error ⟨.tooDeep, offset⟩ := by
  unfold dataOf at held ⊢
  cases yaml : isYaml path with
  | true =>
    cases read : Yaml.read text with
    | ok value => simp
    | error failure =>
      cases failure with
      | value fault => cases blunt : fault.isRefusal <;> simp [Yaml.Failure.isRefusal, blunt]
      | outside => simp [yaml, read, Yaml.Failure.isRefusal] at held
      | _ => simp [Yaml.Failure.isRefusal]
  | false =>
    cases read : Json.read text with
    | ok value => simp
    | error fault =>
      obtain ⟨reason, offset⟩ := fault
      cases reason with
      | outside => simp [yaml, read] at held
      | _ => simp

theorem dataOf_ne_outside (held : IsHeld files path) (isText : files.readText path = .ok text) :
    dataOf path text ≠ .error (.data .outside) := by
  intro outside
  refine held ?_
  rw [Manifest.read, isText]
  simp only [outside, bind, Except.bind]

/-- What upsets though it can be looked for is read neither as a manifest nor as none. -/
theorem read_ne_ok {result : Except Skipped Component} (seen : ∃ found, files.look? path = .ok found)
    (held : IsHeld files path) (upsets : Upsets files path) : Manifest.read files path ≠ .ok result := by
  intro done
  cases upsets with
  | unseen unseen =>
    obtain ⟨found, seen⟩ := seen
    cases seen.symm.trans unseen
  | yaml isText yaml failed blunt =>
    obtain ⟨failure, unread⟩ := (exists_dataOf_error_iff (dataOf_ne_outside held isText)).mpr
      (.inl ⟨yaml, _, failed, blunt⟩)
    simp [Manifest.read, isText, unread, bind, Except.bind] at done
  | json isText json failed =>
    obtain ⟨failure, unread⟩ := (exists_dataOf_error_iff (dataOf_ne_outside held isText)).mpr
      (.inr ⟨json, _, failed⟩)
    simp [Manifest.read, isText, unread, bind, Except.bind] at done
  | itemless isText spelled itemless =>
    simp [Manifest.read, isText, dataOf_eq_ok_iff.mpr spelled, component?_of_itemless itemless, bind,
      Except.bind] at done

/-- A file that can be looked for is read, as a manifest or as none, unless it upsets. -/
theorem exists_read_iff (seen : ∃ found, files.look? path = .ok found) (held : IsHeld files path) :
    (∃ result, Manifest.read files path = .ok result) ↔ ¬ Upsets files path := by
  constructor
  · rintro ⟨result, done⟩ upsets
    exact read_ne_ok seen held upsets done
  · intro calm
    have apart {text : String} (isText : files.readText path = .ok text) := dataOf_ne_outside held isText
    unfold IsHeld at held
    simp only [Manifest.read, bind, Except.bind] at held ⊢
    cases isText : files.readText path with
    | error failure =>
      cases failure with
      | data failure =>
        obtain rfl := eq_outside_of_readText isText
        simp [isText] at held
      | _ => exact ⟨_, rfl⟩
    | ok text =>
      cases data : dataOf path text with
      | error failure =>
        rcases (exists_dataOf_error_iff (apart isText)).mp ⟨failure, data⟩ with
          ⟨yaml, fault, failed, blunt⟩ | ⟨json, offset, failed⟩
        · exact absurd (.yaml isText yaml failed blunt) calm
        · exact absurd (.json isText json failed) calm
      | ok read =>
        cases read with
        | error reason =>
          simp only [data]
          exact ⟨_, rfl⟩
        | ok value =>
          simp only [data]
          cases declares : component? value with
          | ok component => cases component <;> exact ⟨_, rfl⟩
          | error failure =>
            rcases cases_of_component?_error declares with rfl | itemless
            · exact ⟨_, rfl⟩
            · exact absurd (.itemless isText (dataOf_eq_ok_iff.mp data) itemless) calm

/-- A file that is left out is named by its path. -/
theorem path_of_read {skipped : Skipped} (left : Manifest.read files path = .ok (.error skipped)) :
    skipped.path = path := by
  rw [Manifest.read] at left
  split at left
  · cases left
  · cases left
    rfl
  · obtain ⟨read, -, left⟩ := bind_eq_ok.mp left
    split at left
    · cases left
      rfl
    · split at left <;> cases left <;> rfl

end Manifest

namespace Catalog

/-- The last of several components of one id is found. -/
theorem resolve_foldl_insert {components : List Component} {catalog : Catalog} {id : String} :
    (components.foldl insert catalog).resolve id =
      (components.reverse.find? (·.id = id)).or (catalog.resolve id) := by
  induction components generalizing catalog with
  | nil => simp
  | cons component components ih =>
    rw [List.foldl_cons, ih, resolve_insert, List.reverse_cons, List.find?_append, Option.or_assoc]
    by_cases same : component.id = id <;> simp [same]

section

variable [Installation]

theorem foldl_absorb_eq {results : List (Except Skipped Component)} (catalog : Catalog)
    (skipped : List Skipped)
    (read : List.Forall₂ (fun path result => Manifest.read files path = .ok result) paths results) :
    (results.foldl absorb (catalog, skipped)).1 =
        (paths.filterMap (Manifest.declared files)).foldl insert catalog ∧
      (results.foldl absorb (catalog, skipped)).2.map Skipped.path =
        skipped.map Skipped.path ++ paths.filter fun path => (Manifest.declared files path).isNone := by
  induction read generalizing catalog skipped with
  | nil => simp
  | @cons path result _ _ first _ ih =>
    cases result with
    | ok component =>
      have declares : Manifest.declared files path = some component := by rw [Manifest.declared, first]
      simpa [absorb, declares] using ih (catalog.insert component) skipped
    | error left =>
      have declares : Manifest.declared files path = none := by rw [Manifest.declared, first]
      simpa [absorb, declares, Manifest.path_of_read first] using ih catalog (skipped ++ [left])

section

variable (single : ∀ path ∈ paths, files.holdsDirectory path = false)

include single

omit [Installation] in
theorem mapM_expand_eq_ok_iff {manifests : List (List Path)} :
    paths.mapM (Manifest.expand files) = .ok manifests ↔
      (∀ path ∈ paths, ∃ found, files.look? path = .ok found) ∧ manifests = paths.map ([·]) := by
  induction paths generalizing manifests with
  | nil =>
    rw [List.mapM_nil, pure_eq_ok]
    simp [eq_comm]
  | cons path paths ih =>
    simp only [List.forall_mem_cons] at single
    simp only [List.mapM_cons, bind_eq_ok, pure_eq_ok, Manifest.expand_eq_ok_iff single.1, ih single.2,
      List.forall_mem_cons]
    constructor
    · rintro ⟨_, ⟨seen, rfl⟩, _, ⟨others, rfl⟩, rfl⟩
      exact ⟨⟨seen, others⟩, rfl⟩
    · rintro ⟨⟨seen, others⟩, rfl⟩
      exact ⟨_, ⟨seen, rfl⟩, _, ⟨others, rfl⟩, rfl⟩

/-- Files are looked for one by one, and then read one by one. -/
theorem load_eq_ok_iff {loaded : Catalog × List Skipped} : load files paths = .ok loaded ↔
    (∀ path ∈ paths, ∃ found, files.look? path = .ok found) ∧
      ∃ results, paths.mapM (Manifest.read files) = .ok results ∧
        results.foldl absorb (.empty, []) = loaded := by
  simp only [load, bind_eq_ok, pure_eq_ok, mapError_eq_ok, mapM_expand_eq_ok_iff single]
  have flat : (paths.map ([·])).flatten = paths := by simp [← List.flatMap_def]
  constructor
  · rintro ⟨_, ⟨seen, rfl⟩, results, read, absorbed⟩
    rw [flat] at read
    exact ⟨seen, results, read, absorbed⟩
  · rintro ⟨seen, results, read, absorbed⟩
    exact ⟨_, ⟨seen, rfl⟩, results, by rwa [flat], absorbed⟩

theorem exists_load_iff (held : ∀ path ∈ paths, Manifest.IsHeld files path) :
    (∃ loaded, load files paths = .ok loaded) ↔ ∀ path ∈ paths, ¬ Manifest.Upsets files path := by
  simp only [load_eq_ok_iff single]
  constructor
  · rintro ⟨loaded, seen, results, read, -⟩ path member
    exact (Manifest.exists_read_iff (seen path member) (held path member)).mp
      (exists_mapM_iff.mp ⟨results, read⟩ path member)
  · intro calm
    have seen : ∀ path ∈ paths, ∃ found, files.look? path = .ok found := by
      intro path member
      cases looked : files.look? path with
      | ok found => exact ⟨found, rfl⟩
      | error fault => exact absurd (.unseen looked) (calm path member)
    obtain ⟨results, read⟩ := exists_mapM_iff.mpr fun path member =>
      (Manifest.exists_read_iff (seen path member) (held path member)).mpr (calm path member)
    exact ⟨_, seen, results, read, rfl⟩

theorem eq_of_load {catalog : Catalog} {skipped : List Skipped}
    (loaded : load files paths = .ok (catalog, skipped)) :
    catalog = ofList (paths.filterMap (Manifest.declared files)) ∧
      skipped.map Skipped.path = paths.filter fun path => (Manifest.declared files path).isNone := by
  obtain ⟨-, results, read, absorbed⟩ := (load_eq_ok_iff single).mp loaded
  obtain ⟨components, left⟩ := foldl_absorb_eq .empty [] (mapM_eq_ok.mp read)
  rw [absorbed] at components left
  exact ⟨components, left⟩

end

/-- The files that declare a component make the catalog, as long as none of them upsets: the last of
several for one id counts, and those that declare none might as well not be there. -/
theorem load_files (single : ∀ path ∈ paths, files.holdsDirectory path = false)
    (held : ∀ path ∈ paths, Manifest.IsHeld files path) :
    ((∃ loaded, load files paths = .ok loaded) ↔ ∀ path ∈ paths, ¬ Manifest.Upsets files path) ∧
    (∀ catalog skipped, load files paths = .ok (catalog, skipped) →
      catalog = ofList (paths.filterMap (Manifest.declared files)) ∧
      (∀ id, catalog.resolve id =
        (paths.filterMap (Manifest.declared files)).reverse.find? (·.id = id)) ∧
      skipped.map Skipped.path = paths.filter fun path => (Manifest.declared files path).isNone) ∧
    ∀ before bad after, paths = before ++ bad :: after → Manifest.declared files bad = none →
      ¬ Manifest.Upsets files bad → ∀ catalog, (∃ skipped, load files paths = .ok (catalog, skipped)) ↔
        ∃ skipped, load files (before ++ after) = .ok (catalog, skipped) := by
  refine ⟨exists_load_iff single held, fun catalog skipped loaded => ?_, ?_⟩
  · obtain ⟨rfl, left⟩ := eq_of_load single loaded
    refine ⟨rfl, fun id => ?_, left⟩
    rw [ofList, resolve_foldl_insert]
    simp [resolve, empty]
  · rintro before bad after rfl bare calm catalog
    have same : (before ++ bad :: after).filterMap (Manifest.declared files) =
        (before ++ after).filterMap (Manifest.declared files) := by simp [bare]
    have amid : ∀ path ∈ before ++ after, path ∈ before ++ bad :: after := by
      intro path member
      simp only [List.mem_append, List.mem_cons] at member ⊢
      tauto
    have fewer : ∀ path ∈ before ++ after, files.holdsDirectory path = false :=
      fun path member => single path (amid path member)
    have loads : (∃ loaded, load files (before ++ bad :: after) = .ok loaded) ↔
        ∃ loaded, load files (before ++ after) = .ok loaded := by
      rw [exists_load_iff single held, exists_load_iff fewer fun path member => held path (amid path member)]
      simp only [List.forall_mem_append, List.forall_mem_cons]
      tauto
    constructor
    · rintro ⟨skipped, loaded⟩
      obtain ⟨⟨other, skipped'⟩, loaded'⟩ := loads.mp ⟨_, loaded⟩
      obtain rfl := (eq_of_load single loaded).1
      obtain rfl := (eq_of_load fewer loaded').1
      exact ⟨skipped', same ▸ loaded'⟩
    · rintro ⟨skipped, loaded⟩
      obtain ⟨⟨other, skipped'⟩, loaded'⟩ := loads.mpr ⟨_, loaded⟩
      obtain rfl := (eq_of_load fewer loaded).1
      obtain rfl := (eq_of_load single loaded').1
      exact ⟨skipped', same ▸ loaded'⟩

end

attribute [local instance] Installation.usual

/-- Two manifests of one id, with another file between them. -/
def tray (content : String) : Files :=
  ⟨[(["a.json"], .file "\x7b\"id\": \"ask.once\"\x7d".toUTF8),
    (["b.json"], .file content.toUTF8),
    (["c.json"], .file "\x7b\"id\": \"ask.once\", \"config_schema\": \x7b\"required\": [\"text\"]\x7d\x7d".toUTF8)]⟩

def earlier : Path := ⟨["a.json"]⟩
def between : Path := ⟨["b.json"]⟩
def later : Path := ⟨["c.json"]⟩

theorem load_files_tray : (∀ path ∈ [earlier, between, later], (tray "[]").holdsDirectory path = false) ∧
    (∀ path ∈ [earlier, between, later], Manifest.IsHeld (tray "[]") path) ∧
    load (tray "[]") [earlier, between, later] = .ok (⟨[⟨"ask.once", ["text"]⟩]⟩,
      [⟨between, .shape, "manifest must be a mapping with a string 'id'"⟩]) ∧
    ∃ skipped, load (tray "[]") [earlier, later] = .ok (⟨[⟨"ask.once", ["text"]⟩]⟩, skipped) := by
  have single : ∀ path ∈ [earlier, between, later], (tray "[]").holdsDirectory path = false := by decide +kernel
  have loaded : load (tray "[]") [earlier, between, later] = .ok (⟨[⟨"ask.once", ["text"]⟩]⟩,
      [⟨between, .shape, "manifest must be a mapping with a string 'id'"⟩]) := by decide +kernel
  have bare : Manifest.declared (tray "[]") between = none := by decide +kernel
  have held : ∀ path ∈ [earlier, between, later], Manifest.IsHeld (tray "[]") path := by
    unfold Manifest.IsHeld
    decide +kernel
  obtain ⟨loads, -, without⟩ := load_files single held
  have calm := loads.mp ⟨_, loaded⟩ between (by decide)
  exact ⟨single, held, loaded, (without [earlier] between [later] rfl bare calm _).mp ⟨_, loaded⟩⟩

/-- A manifest that requires a number, and one of the others that is not loaded for that. -/
theorem not_load_files_tray :
    let files := tray "\x7b\"id\": \"ask.twice\", \"config_schema\": \x7b\"required\": 5\x7d\x7d"
    Manifest.declared files between = none ∧ (∃ loaded, load files [earlier, later] = .ok loaded) ∧
      ∀ loaded, load files [earlier, between, later] ≠ .ok loaded := by
  intro files
  have failed : load files [earlier, between, later] = .error (.misshapen .noItems) := by decide +kernel
  have loaded : load files [earlier, later] = .ok (⟨[⟨"ask.once", ["text"]⟩]⟩, []) := by decide +kernel
  refine ⟨by decide +kernel, ⟨_, loaded⟩, fun loaded done => ?_⟩
  cases failed.symm.trans done

end Catalog

end StepFlow
