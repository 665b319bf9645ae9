import StepFlow.Edit.Options
import StepFlow.Proofs.Edit.Drafting

/-! The forms of a description. Main statements: what is made of a description is described by its
own fields again, and a description with a `tool` member comes to the same as one without. -/
namespace StepFlow

open Outcome Keyed

theorem optionalText_eq_ok_iff {value : Value} {fault : Failure} {text? : Option String} :
    optionalText value fault = .ok text? ↔ value = (text?.map Value.str).getD .null := by
  unfold optionalText
  split
  · cases text? <;> simp
  · cases text? <;> simp
  · rename_i noNull noText
    constructor
    · exact nofun
    · rintro rfl
      cases text? with
      | none => exact (noNull rfl).elim
      | some text => exact (noText text rfl).elim

namespace Draft

variable {draft result : Draft} {value payload : Value} {component : String}
  {members flat others other : Members} {packAlias operation : Option String} {routing : List Route}

/-! ### What a draft is made of -/

/-- The keys that may stand beside the one for the component. -/
def fieldNames : List String := ["pack_alias", "operation", "routing"]

/-- Whether a member stands beside the component. -/
def isField (member : Scalar × Value) : Bool :=
  fieldNames.any fun name => member.1.same name

theorem isField_str {key : String} : isField (.str key, value) = true ↔ key ∈ fieldNames := by
  simp [isField]

/-- The members for components, of which there is to be one. -/
def parts (members : Members) : Members :=
  members.filter fun member => !isField member

theorem parts_append : parts (members ++ others) = parts members ++ parts others :=
  List.filter_append ..

theorem parts_cons {key : String} (free : key ∉ fieldNames) :
    parts ((.str key, value) :: members) = (.str key, value) :: parts members := by
  have apart : ¬ isField (.str key, value) = true := mt isField_str.mp free
  exact List.filter_cons_of_pos (by simp [apart])

theorem parts_ofFields {fields : List (String × Option Value)}
    (side : ∀ name ∈ fields.map Prod.fst, name ∈ fieldNames) : parts (ofFields fields) = [] := by
  rw [parts, List.filter_eq_nil_iff]
  intro member isMember
  obtain ⟨name, value, isGiven, rfl⟩ := mem_ofFields.mp isMember
  simp [isField_str.mpr (side name (List.mem_map_of_mem isGiven))]

/-- Only the members for components are looked at. -/
theorem component?_congr (same : parts members = parts others) :
    component? members = component? others := by
  unfold component?
  simp only [parts, isField, fieldNames] at same ⊢
  rw [same]

theorem component?_of_parts {key : String} (lone : parts members = [(.str key, payload)]) :
    component? members = .ok (key, payload) := by
  unfold component?
  simp only [parts, isField, fieldNames] at lone ⊢
  rw [lone]

theorem parts_of_component? {key : String} (found : component? members = .ok (key, payload)) :
    parts members = [(.str key, payload)] := by
  unfold component? at found
  simp only [parts, isField, fieldNames] at found ⊢
  split at found
  · cases found
  · rename_i lone
    cases found
    exact lone
  · cases found
  · split at found <;> cases found

/-- The draft says what the members say, the operation in a payload left where it is. -/
structure IsSpelledBy (draft : Draft) (members : Members) : Prop where
  packAlias : Members.get members "pack_alias" = (draft.packAlias.map Value.str).getD .null
  operation : Members.get members "operation" = (draft.operation.map Value.str).getD .null
  routing : parseRouteList (Members.get members "routing") = .ok draft.routing
  part : parts members = [(.str draft.component, draft.payload)]

/-- What is made of the members once there is no tool among them. -/
def ofFlat (members : Members) : Except Failure Draft := do
  let field (key : String) :=
    optionalText (Members.get members key) (ShapeFault.notString key).onDraft
  let packAlias ← field "pack_alias"
  let operation ← field "operation"
  let routing ← atNode draftName (parseRouteList (Members.get members "routing"))
  let (component, payload) ← component? members
  if isValidComponentKey component then
    withOperation { component, packAlias, operation, payload, routing }
  else .error (ShapeFault.badKey component).onDraft

theorem ofValue?_map : ofValue? (.map members) = flatten members >>= ofFlat := rfl

theorem ofFlat_congr
    (same : ∀ name ∈ fieldNames, Keyed.get? members (.str name) = Keyed.get? others (.str name))
    (sameParts : parts members = parts others) : ofFlat members = ofFlat others := by
  simp only [ofFlat, Members.get, same "pack_alias" (by decide), same "operation" (by decide),
    same "routing" (by decide), component?_congr sameParts]

theorem ofFlat_eq_ok_iff : ofFlat members = .ok result ↔
    ∃ draft : Draft, draft.IsSpelledBy members ∧ isValidComponentKey draft.component = true ∧
      draft.withOperation = .ok result := by
  simp only [ofFlat, bind_eq_ok, optionalText_eq_ok_iff, atNode, mapError_eq_ok]
  constructor
  · rintro ⟨packAlias, isAlias, operation, isOperation, routing, parsed, ⟨component, payload⟩, found,
      done⟩
    simp only at done
    split at done
    · rename_i valid
      exact ⟨⟨component, packAlias, operation, payload, routing⟩,
        ⟨isAlias, isOperation, parsed, parts_of_component? found⟩, valid, done⟩
    · cases done
  · rintro ⟨⟨component, packAlias, operation, payload, routing⟩, spelled, valid, done⟩
    exact ⟨packAlias, spelled.packAlias, operation, spelled.operation, routing, spelled.routing,
      (component, payload), component?_of_parts spelled.part, (if_pos valid).trans done⟩

theorem flatten_of_untooled (untooled : Keyed.get? members "tool" = none) :
    flatten members = .ok members := by
  simp only [flatten, untooled]

/-- Without a tool a description is read as it stands. -/
theorem ofValue?_untooled (untooled : Keyed.get? members "tool" = none) :
    ofValue? (.map members) = ofFlat members := by
  rw [ofValue?_map, flatten_of_untooled untooled]
  rfl

/-- Keys of components are no fields, nor do they wrap anything. -/
theorem free_of_isValidComponentKey {key : String} (valid : isValidComponentKey key = true) :
    key ≠ "tool" ∧ key ∉ Node.sideKeys := by
  have pointless : ∀ key ∈ "tool" :: Node.sideKeys, '.' ∉ key.toList ∧ key ∉ builtinKeys := by decide
  have free : key ∉ "tool" :: Node.sideKeys := by
    intro side
    obtain ⟨noPoint, noBuiltin⟩ := pointless key side
    simp only [isValidComponentKey, Bool.or_eq_true, List.contains_iff_mem, noBuiltin,
      false_or] at valid
    exact noPoint (ComponentKey.point_mem_of_isPattern valid)
  simpa using free

theorem fieldNames_subset : fieldNames ⊆ Node.sideKeys := by
  decide

/-! ### The normal form -/

/-- What is given beside a component. -/
def fields (packAlias operation : Option String) (routing : Option Value) :
    List (String × Option Value) :=
  [("pack_alias", packAlias.map .str), ("operation", operation.map .str), ("routing", routing)]

/-- The description that spells out a draft. -/
def toMembers (draft : Draft) : Members :=
  (.str draft.component, draft.payload) ::
    ofFields (fields draft.packAlias draft.operation (RoutingOptions.routeValues draft.routing))

theorem get?_fields {given : Option Value} {name : String} {routing : Option Value}
    (isGiven : (name, given) ∈ fields packAlias operation routing) :
    Keyed.get? (ofFields (fields packAlias operation routing)) (.str name) = given :=
  get?_ofFields (by decide : fieldNames.Nodup) isGiven

theorem get?_cons_fields {given : Option Value} {name : String} {routing : Option Value}
    (free : component ∉ fieldNames) (isGiven : (name, given) ∈ fields packAlias operation routing) :
    Keyed.get? ((.str component, payload) :: ofFields (fields packAlias operation routing))
      (.str name) = given := by
  have isName : name ∈ fieldNames := List.mem_map_of_mem (f := Prod.fst) isGiven
  have differ : component ≠ name := fun same => free (same ▸ isName)
  rw [get?_cons, if_neg (by simpa using differ), get?_fields isGiven]

theorem parts_cons_fields {routing : Option Value} (free : component ∉ fieldNames) :
    parts ((.str component, payload) :: ofFields (fields packAlias operation routing)) =
      [(.str component, payload)] := by
  have side : ∀ name ∈ (fields packAlias operation routing).map Prod.fst, name ∈ fieldNames :=
    fun _ isName => isName
  rw [parts_cons free, parts_ofFields side]

theorem get?_tool_cons_fields {routing : Option Value} (untooled : component ≠ "tool") :
    Keyed.get? ((.str component, payload) :: ofFields (fields packAlias operation routing)) "tool" =
      none := by
  have absent : "tool" ∉ fieldNames := by decide
  rw [get?_cons, if_neg (by simpa using untooled), get?_ofFields_of_not_mem absent]

theorem isSpelledBy_toMembers (free : draft.component ∉ fieldNames)
    (texts : ∀ route ∈ draft.routing, route.LeadsByText) : draft.IsSpelledBy draft.toMembers where
  packAlias := by rw [Members.get, toMembers, get?_cons_fields free (.head _)]
  operation := by rw [Members.get, toMembers, get?_cons_fields free (.tail _ (.head _))]
  routing := by
    rw [Members.get, toMembers, get?_cons_fields free (.tail _ (.tail _ (.head _)))]
    exact parseRouteList_toMembers texts
  part := parts_cons_fields free

/-- An operation that is given is not looked for in the payload. -/
theorem takeOperation_of_given (given : (draft.operation.map isBlankText).getD true = false) :
    draft.takeOperation = draft := by
  unfold takeOperation
  split
  · rename_i none _
    simp [none] at given
  · rfl

/-- An operation that has been taken is there to stay. -/
theorem withOperation_idem (done : draft.withOperation = .ok result) :
    result.withOperation = .ok result := by
  obtain ⟨-, -, named⟩ := of_withOperation done
  rw [withOperation_eq]
  split
  · rfl
  · rename_i exec
    have given := named (not_not.mp exec)
    rw [takeOperation_of_given given, given]
    rfl

/-- A draft that was made is made again of the description that spells it out. -/
theorem ofValue?_toMembers (drafted : ofValue? value = .ok draft) :
    ofValue? (.map draft.toMembers) = .ok draft := by
  obtain ⟨valid, texts, -⟩ := of_ofValue? drafted
  obtain ⟨untooled, free⟩ := free_of_isValidComponentKey valid
  have notField : draft.component ∉ fieldNames := fun isField => free (fieldNames_subset isField)
  obtain ⟨members, rfl⟩ : ∃ members, value = .map members := by
    cases value with
    | map members => exact ⟨members, rfl⟩
    | scalar | list | pair | set => cases drafted
  rw [ofValue?_map] at drafted
  obtain ⟨flat, -, made⟩ := bind_eq_ok.mp drafted
  obtain ⟨start, -, -, done⟩ := ofFlat_eq_ok_iff.mp made
  rw [toMembers, ofValue?_untooled (get?_tool_cons_fields untooled), ofFlat_eq_ok_iff]
  exact ⟨draft, isSpelledBy_toMembers notField texts, valid, withOperation_idem done⟩

/-! ### The tool -/

/-- The description with the component's members wrapped. -/
def wrapped (component : String) (given : Members) (packAlias operation : Option String)
    (routing : Option Value) : Members :=
  ofFields [("tool", some (.map ((.str "component", .str component) ::
    (Node.strayMembers packAlias operation ++ given)))), ("routing", routing)]

/-- The same with everything under keys of its own. -/
def unwrapped (component : String) (given : Members) (packAlias operation : Option String)
    (routing : Option Value) : Members :=
  (.str component, .map given) :: ofFields (fields packAlias operation routing)

section

variable {nested : Members} {key : String}

theorem get?_hoist_self (unset : Keyed.get? members (.str key) = none) :
    Keyed.get? (hoist key nested members) (.str key) = Keyed.get? nested (.str key) := by
  unfold hoist
  split
  · rename_i value found
    rw [contains_eq_false_iff_get?.mpr unset, if_neg Bool.false_ne_true, get?_insert,
      if_pos (Scalar.same_refl _), found]
  · rename_i missing
    rw [unset, missing]

theorem parts_hoist (isName : key ∈ fieldNames) : parts (hoist key nested members) = parts members := by
  unfold hoist
  split
  · split
    · rfl
    · rename_i value _ unknown
      have side : parts [(.str key, value)] = [] :=
        List.filter_eq_nil_iff.mpr (by simp [isField_str.mpr isName])
      rw [insert_of_not_contains (Bool.eq_false_iff.mpr unknown), parts_append, side, List.append_nil]
  · rfl

theorem parts_insert (unset : Keyed.get? members (.str key) = none) (free : key ∉ fieldNames) :
    parts (Keyed.insert (.str key) value members) = parts members ++ [(.str key, value)] := by
  rw [insert_of_not_contains (contains_eq_false_iff_get?.mpr unset), parts_append, parts_cons free]
  rfl

end

/-- The fields of a tool beside its component, taken apart. -/
theorem flatten_wrapped {given : Members} {routing : Option Value}
    (named : isBlankText component = false) (free : component ≠ "routing")
    (apart : ∀ name ∈ ["component", "pack_alias", "operation"], Keyed.get? given (.str name) = none) :
    flatten (wrapped component given packAlias operation routing) =
      .ok (Keyed.insert component (.map given)
        (hoist "operation" (Node.strayMembers packAlias operation ++ given)
          (hoist "pack_alias" (Node.strayMembers packAlias operation ++ given)
            (ofFields [("routing", routing)])))) := by
  have alone : Keyed.erase (wrapped component given packAlias operation routing) "tool" =
      ofFields [("routing", routing)] := by
    cases routing <;> rfl
  have unnamed : contains (ofFields [("routing", routing)]) (.str component) = false :=
    contains_eq_false_iff_get?.mpr (get?_ofFields_of_not_mem (by simpa using free))
  have found : Keyed.get? (wrapped component given packAlias operation routing) "tool" =
      some (.map ((.str "component", .str component) ::
        (Node.strayMembers packAlias operation ++ given))) := rfl
  have keeps : ∀ name ∈ ["component", "pack_alias", "operation"],
      Keyed.erase given (.str name) = given := by
    intro name isName
    rw [Keyed.erase, List.filter_eq_self]
    simpa using get?_eq_none_iff.mp (apart name isName)
  have beside : Keyed.erase ((.str "component", .str component) ::
      (Node.strayMembers packAlias operation ++ given)) "component" =
        Node.strayMembers packAlias operation ++ given := by
    rw [erase_cons_self, erase_append, keeps "component" (by simp)]
    cases packAlias <;> cases operation <;> rfl
  have rest : Keyed.erase (Keyed.erase (Node.strayMembers packAlias operation ++ given) "pack_alias")
      "operation" = given := by
    rw [erase_append, erase_append, keeps "pack_alias" (by simp), keeps "operation" (by simp)]
    cases packAlias <;> cases operation <;> rfl
  have isName : Members.get ((.str "component", .str component) ::
      (Node.strayMembers packAlias operation ++ given)) "component" = .str component := rfl
  simp only [flatten, found, unwrapTool, isName, named, Bool.false_eq_true, if_false, alone, unnamed,
    beside, rest]

/-- Wrapped or not, the same is made of a description, or the same is wrong with it. -/
theorem ofValue?_wrapped {given : Members} {routing : Option Value}
    (named : isBlankText component = false) (free : component ∉ "tool" :: fieldNames)
    (apart : ∀ name ∈ ["component", "pack_alias", "operation"], Keyed.get? given (.str name) = none) :
    ofValue? (.map (wrapped component given packAlias operation routing)) =
      ofValue? (.map (unwrapped component given packAlias operation routing)) := by
  obtain ⟨untooled, notField⟩ : component ≠ "tool" ∧ component ∉ fieldNames := by simpa using free
  obtain ⟨notAlias, notOperation, notRouting⟩ :
      component ≠ "pack_alias" ∧ component ≠ "operation" ∧ component ≠ "routing" := by
    simpa [fieldNames] using notField
  have base {name : String} (differ : name ≠ "routing") :
      Keyed.get? (ofFields [("routing", routing)]) (.str name) = none :=
    get?_ofFields_of_not_mem (by simpa using differ)
  have beside {name : String} {text? : Option String} (isName : name ∈ ["pack_alias", "operation"])
      (isText : (name, text?.map Value.str) ∈
        [("pack_alias", packAlias.map Value.str), ("operation", operation.map Value.str)]) :
      Keyed.get? (Node.strayMembers packAlias operation ++ given) (.str name) =
        text?.map Value.str := by
    rw [get?_append, Node.strayMembers_eq_ofFields, get?_ofFields (by simp) isText,
      apart name (.tail _ isName), Option.or_none]
  rw [ofValue?_map, flatten_wrapped named notRouting apart, unwrapped,
    ofValue?_untooled (get?_tool_cons_fields untooled)]
  refine ofFlat_congr (fun name isName => ?_) ?_
  · have differ : component ≠ name := fun same => notField (same ▸ isName)
    rw [get?_insert, if_neg (by simpa using differ)]
    simp only [fieldNames, List.mem_cons, List.not_mem_nil, or_false] at isName
    rcases isName with rfl | rfl | rfl
    · rw [get?_hoist (by decide), get?_hoist_self (base (by decide)), beside (.head _) (.head _),
        get?_cons_fields notField (.head _)]
    · have unset : Keyed.get? (hoist "pack_alias" (Node.strayMembers packAlias operation ++ given)
          (ofFields [("routing", routing)])) (.str "operation") = none :=
        (get?_hoist (by decide)).trans (base (by decide))
      rw [get?_hoist_self unset, beside (.tail _ (.head _)) (.tail _ (.head _)),
        get?_cons_fields notField (.tail _ (.head _))]
    · rw [get?_hoist (by decide), get?_hoist (by decide), get?_ofFields (by simp) (.head _),
        get?_cons_fields notField (.tail _ (.tail _ (.head _)))]
  · have unset : Keyed.get? (hoist "operation" (Node.strayMembers packAlias operation ++ given)
        (hoist "pack_alias" (Node.strayMembers packAlias operation ++ given)
          (ofFields [("routing", routing)]))) (.str component) = none := by
      rw [get?_hoist notOperation.symm, get?_hoist notAlias.symm, base notRouting]
    rw [parts_insert unset notField, parts_hoist (by decide), parts_hoist (by decide),
      parts_ofFields (by simp [fieldNames]), parts_cons_fields notField]
    rfl

/-- A draft is its own normal form: spelled out, it is made again. And the tool is notation only. -/
theorem ofValue?_normal_form :
    (∀ value draft, ofValue? value = .ok draft → ofValue? (.map draft.toMembers) = .ok draft) ∧
    ∀ component given packAlias operation routing, isBlankText component = false →
      component ∉ "tool" :: fieldNames →
      (∀ name ∈ ["component", "pack_alias", "operation"], Keyed.get? given (.str name) = none) →
      ofValue? (.map (wrapped component given packAlias operation routing)) =
        ofValue? (.map (unwrapped component given packAlias operation routing)) :=
  ⟨fun _ _ drafted => ofValue?_toMembers drafted,
    fun _ _ _ _ _ named free apart => ofValue?_wrapped named free apart⟩

/-- A step that names its operation in its payload. -/
def rendering : Members :=
  [(.str "component.exec", .map [(.str "operation", .str " render "), (.str "input", .int 1)]),
    (.str "routing", .list [.map [(.str "to", .str "out"), (.str "status", .str "done")]])]

def renderDraft : Draft where
  component := "component.exec"
  packAlias := none
  operation := some "render"
  payload := .map [(.str "input", .int 1)]
  routing := [⟨some (.str "out"), false, some "done", false⟩]

theorem ofValue?_rendering : ofValue? (.map rendering) = .ok renderDraft := by
  rw [ofValue?_untooled rfl, ofFlat_eq_ok_iff]
  refine ⟨{ renderDraft with
    operation := none
    payload := .map [(.str "operation", .str " render "), (.str "input", .int 1)] },
    ⟨rfl, rfl, rfl, by decide⟩, ?_, by decide⟩
  change isValidComponentKey execKey = true
  simp [isValidComponentKey, ComponentKey.isPattern_execKey]

theorem ofValue?_normal_form_rendering :
    ofValue? (.map rendering) = .ok renderDraft ∧
    ofValue? (.map renderDraft.toMembers) = .ok renderDraft ∧
    isBlankText execKey = false ∧ execKey ∉ "tool" :: fieldNames ∧
    (∀ name ∈ ["component", "pack_alias", "operation"],
      Keyed.get? [(Scalar.str "input", Value.int 1)] (.str name) = none) ∧
    ofValue? (.map (wrapped execKey [(.str "input", .int 1)] none (some "render") none)) =
      ofValue? (.map (unwrapped execKey [(.str "input", .int 1)] none (some "render") none)) := by
  have named : isBlankText execKey = false := by decide
  have free : execKey ∉ "tool" :: fieldNames := by decide
  have apart : ∀ name ∈ ["component", "pack_alias", "operation"],
      Keyed.get? [(Scalar.str "input", Value.int 1)] (.str name) = none := by decide
  exact ⟨ofValue?_rendering, ofValue?_normal_form.1 _ _ ofValue?_rendering, named, free, apart,
    ofValue?_normal_form.2 _ _ _ _ _ named free apart⟩

end Draft

end StepFlow
