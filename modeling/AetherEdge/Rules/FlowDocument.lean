import AetherEdge.Rules.Parser
import Mathlib.Data.Set.Card

/-!
# What a document says about its nodes

A node of a flow document states its kind, its variables and its wires. This file compares these
with what `extract_rule_flow` (`libs/aether-rules/src/parser.rs`) keeps of them: besides replacing
a node by a later one with the same id, the parser passes over members that it cannot read.

* `RuleNode.Carries`: the node has the kind, the variables and the wires that the document states;
* `Legible`: the members of the document that say them have the form the parser looks for;
* `carries_iff_legible`: a node that is read carries what the document states exactly if it is
  legible;
* `nodes_survive_iff`: which accepted documents keep all their nodes.
-/

namespace AetherEdge.Rules

open List

/-! ## Members -/

/-- What is there and is not `null`. -/
def present : Option Value → Option Value
  | some .null => none
  | found => found

/-- A member of an object that is there and is not `null`. -/
def member (key : String) (value : Value) : Option Value := present (value.get? key)

/-- The document has these items in an array, or nothing if there are none. -/
def Holds (items : List Value) (found : Option Value) : Prop :=
  found = none ∧ items = [] ∨ found = some (.array items)

/-- An array of texts. -/
def TextArray (value : Value) : Prop := ∃ texts : List String, value = .array (texts.map .string)

/-- An id as a document has it. -/
def idValue (id : ℕ) : Value := .number (.posInt (UInt64.ofNat id))

/-- A number that fits in 32 bits. -/
def IsU32 (value : Value) : Prop := ∃ id < 2 ^ 32, value = idValue id

theorem holds_array_iff (found : Option Value) :
    Holds ((found.bind asArray).getD []) (present found) ↔
      ∀ value ∈ present found, ∃ items, value = .array items := by
  rcases found with _ | value
  · simp [Holds, present]
  · cases value <;> simp [Holds, present, asArray]

theorem holds_targets_iff (found : Option Value) :
    Holds (((found.map targets).getD []).map .string) (present found) ↔
      ∀ value ∈ present found, TextArray value := by
  rcases found with _ | value
  · simp [Holds, present]
  · cases value with
    | array items =>
      simp only [Holds, present, targets, asArray, TextArray, Option.map_some, Option.getD_some,
        Option.mem_def, Option.some.injEq, forall_eq', Json.array.injEq, reduceCtorEq, false_and,
        false_or]
      constructor
      · exact fun h => ⟨_, h⟩
      · rintro ⟨texts, rfl⟩
        rw [filterMap_map]
        exact congrArg (map Json.string) (by simp [Function.comp_def, Json.asStr])
    | _ => simp [Holds, present, targets, asArray, TextArray]

theorem text_carried_iff (found : Option Value) :
    present found = (found.bind Json.asStr).map .string ↔
      ∀ value ∈ present found, ∃ text, value = .string text := by
  rcases found with _ | value
  · simp [present]
  · cases value <;> simp [present, Json.asStr]

theorem asU32_eq_some {value : Value} {id : ℕ} :
    asU32 value = some id ↔ id < 2 ^ 32 ∧ value = idValue id := by
  unfold asU32
  split
  · next n =>
    split_ifs with hn
    · simp only [Option.some.injEq, idValue, Json.number.injEq, SerdeNumber.posInt.injEq]
      constructor
      · rintro rfl
        exact ⟨hn, by simp⟩
      · rintro ⟨hid, rfl⟩
        exact UInt64.toNat_ofNat_of_lt' (lt_trans hid (by decide))
    · simp only [idValue, Json.number.injEq, SerdeNumber.posInt.injEq, false_iff]
      rintro ⟨hid, rfl⟩
      exact hn (by rwa [UInt64.toNat_ofNat_of_lt' (lt_trans hid (by decide))])
  · next hne =>
    simp only [reduceCtorEq, false_iff]
    rintro ⟨-, rfl⟩
    exact hne _ rfl

theorem asU32_carried_iff {value : Value} :
    some value = (asU32 value).map idValue ↔ IsU32 value := by
  rw [eq_comm, Option.map_eq_some_iff]
  constructor
  · rintro ⟨id, hid, rfl⟩
    exact ⟨id, (asU32_eq_some.1 hid).1, rfl⟩
  · rintro ⟨id, hid, rfl⟩
    exact ⟨id, asU32_eq_some.2 ⟨hid, rfl⟩, rfl⟩

theorem present_some {value : Value} (h : value ≠ .null) : present (some value) = some value := by
  cases value with
  | null => exact absurd rfl h
  | _ => rfl

/-- An id that may stand under two names is lost if it is not a number of 32 bits, or if the name
    that is looked at first is `null`. -/
theorem id_carried_iff (first second : Option Value) :
    (present first).or (present second) = ((first.or second).bind asU32).map idValue ↔
      ∀ id ∈ (present first).or (present second), IsU32 id ∧ first ≠ some .null := by
  rcases first with _ | value
  · rcases second with _ | value
    · simp [present]
    by_cases hnull : value = .null
    · subst hnull
      simp [present, asU32]
    · rw [present_some hnull]
      show some value = (asU32 value).map idValue ↔ _
      rw [asU32_carried_iff]
      simp [present]
  by_cases hnull : value = .null
  · subst hnull
    show present second = none ↔ ∀ id ∈ present second, _
    cases present second with
    | none | some => simp
  · rw [present_some hnull]
    show some value = (asU32 value).map idValue ↔ _
    rw [asU32_carried_iff]
    simp [hnull]

/-! ## What a document states -/

/-- The kind of a node: `start`, `end`, or the one in `data.type`. -/
def kindOf (node : Value) : Option String :=
  if textAt "type" node = some "start" then some "start"
  else if textAt "type" node = some "end" then some "end"
  else (node.get? "data").bind (textAt "type")

/-- The variables of a node, in its configuration. -/
def variablesOf (node : Value) : Option Value := (configOf node).bind (member "variables")

/-- The wires of a node, in its configuration or else beside it. -/
def wiresOf (node : Value) : Option Value :=
  ((configOf node).bind (member "wires")).or ((node.get? "data").bind (member "wires"))

/-- The variable is the one that the document describes, member by member. -/
structure RuleVariable.Carries (v : RuleVariable) (var : Value) : Prop where
  name : member "name" var = some (.string v.name)
  instanceId : (member "instance" var).or (member "instance_id" var) = v.instanceId.map idValue
  pointType : member "pointType" var = v.pointType.map .string
  point : (member "point_id" var).or (member "point" var) = v.point.map idValue
  formula : Holds v.formula (member "formula" var)

/-- The name of a kind in a document (`#[serde(rename = ..)]` of `RuleNode`,
    `libs/aether-rules/src/types.rs:76-137`). -/
def RuleNode.kind : RuleNode → String
  | .start _ => "start"
  | .finish => "end"
  | .switch .. => "function-switch"
  | .changeValue .. => "action-changeValue"
  | .calculation .. => "action-calculation"
  | .periodDelta .. => "action-periodDelta"

/-- The variables of the node are those of the document, in order. -/
def RuleNode.CarriesVariables (node : Value) : RuleNode → Prop
  | .periodDelta input output _ _ =>
    (∃ var, (configOf node).bind (·.get? "input") = some var ∧ input.Carries var) ∧
      ∃ var, (configOf node).bind (·.get? "output") = some var ∧ output.Carries var
  | own => variablesOf node = none ∧ own.vars = [] ∨
      ∃ items, variablesOf node = some (.array items) ∧ Forall₂ RuleVariable.Carries own.vars items

/-- The targets of a node at an output. -/
def RuleNode.targetsAt (port : String) : RuleNode → List String
  | .finish => []
  | .switch _ _ wires => (wires.get port).getD []
  | .start wires | .changeValue _ _ wires | .calculation _ _ wires | .periodDelta _ _ _ wires =>
    if port = "default" then wires.default else []

/-- The targets of the node are those of the document, output by output. -/
def RuleNode.CarriesWires (own : RuleNode) : Option Value → Prop
  | none => ∀ port, own.targetsAt port = []
  | some wires => (∃ fields, wires = .object fields) ∧
      ∀ port, Holds ((own.targetsAt port).map .string) (member port wires)

/-- The node has the kind, the variables and the wires that the document states. -/
structure RuleNode.Carries (own : RuleNode) (node : Value) : Prop where
  kind : kindOf node = some own.kind
  vars : own.CarriesVariables node
  wires : own.CarriesWires (wiresOf node)

/-- The flow has as many nodes as the array, and each of them under its own id, with the kind, the
    variables and the wires that the document states. -/
def RuleFlow.HasNodes (flow : RuleFlow) (nodesArray : List Value) : Prop :=
  {id | flow.nodes.get id ≠ none}.ncard = nodesArray.length ∧
    ∀ node ∈ nodesArray, ∃ id own, textAt "id" node = some id ∧
      flow.nodes.get id = some own ∧ own.Carries node

/-! ## Legible nodes -/

/-- What is said of a variable can be read: ids are numbers of 32 bits, not under the second name
    beside a `null` under the first one, the point type is a text and the formula an array. -/
structure LegibleVariable (var : Value) : Prop where
  instanceId : ∀ id ∈ (member "instance" var).or (member "instance_id" var),
    IsU32 id ∧ var.get? "instance" ≠ some .null
  pointType : ∀ value ∈ member "pointType" var, ∃ text, value = .string text
  point : ∀ id ∈ (member "point_id" var).or (member "point" var),
    IsU32 id ∧ var.get? "point_id" ≠ some .null
  formula : ∀ value ∈ member "formula" var, ∃ items, value = .array items

/-- The variables of a node are an array, which is empty at a start or an end node. -/
def LegibleVariables (node : Value) : Prop :=
  match kindOf node with
  | some "start" | some "end" => ∀ value ∈ variablesOf node, value = .array []
  | some "action-periodDelta" =>
    (∀ var ∈ (configOf node).bind (·.get? "input"), LegibleVariable var) ∧
      ∀ var ∈ (configOf node).bind (·.get? "output"), LegibleVariable var
  | _ => ∀ value ∈ variablesOf node, ∃ items, value = .array items ∧
      ∀ var ∈ items, LegibleVariable var

/-- The outputs of a kind: all of them for a switch, none for an end node, else `default`. -/
def HasOutput (kind : Option String) (port : String) : Prop :=
  kind = some "function-switch" ∨ kind ≠ some "end" ∧ port = "default"

/-- The wires of a node are an object that has, if anything, an array of texts at each output of
    its kind and an empty array elsewhere. -/
def LegibleWires (node : Value) : Prop :=
  ∀ wires ∈ wiresOf node, (∃ fields, wires = .object fields) ∧
    ∀ port, ∀ value ∈ member port wires,
      (HasOutput (kindOf node) port → TextArray value) ∧
      (¬HasOutput (kindOf node) port → value = .array [])

/-- What the document states of a node has the form that the parser looks for. -/
structure Legible (node : Value) : Prop where
  vars : LegibleVariables node
  wires : LegibleWires node

/-- The wires stand where the parser looks for them: beside the configuration only at a start node
    that has none, and in a configuration within the configuration of an action not at all. An
    object has each of its keys once. -/
structure InPlace (node : Value) : Prop where
  beside : (node.get? "data").bind (member "wires") = none ∨
    (configOf node).bind (member "wires") ≠ none ∨
    kindOf node = some "start" ∧ configOf node = none
  nested : kindOf node ∉ [some "start", some "end", some "function-switch"] →
    (configOf node).bind (·.get? "config") = none
  keys : ∀ fields, wiresOf node = some (.object fields) → (fields.map Prod.fst).Nodup

/-! ## Variables -/

theorem forall₂_of_mapM {α β ε : Type} {f : α → Except ε β} {l : List α} {results : List β}
    (h : l.mapM f = .ok results) : Forall₂ (fun a b => f a = .ok b) l results := by
  induction l generalizing results with
  | nil =>
    rw [mapM_nil] at h
    cases h
    exact .nil
  | cons a l ih =>
    rw [mapM_cons] at h
    obtain ⟨b, hb, h⟩ := bind_eq_ok.1 h
    obtain ⟨rest, hrest, h⟩ := bind_eq_ok.1 h
    cases h
    exact .cons hb (ih hrest)

theorem carries_variable_iff {missingName : String} {var : Value} {v : RuleVariable}
    (h : parseRuleVariable missingName var = .ok v) : v.Carries var ↔ LegibleVariable var := by
  obtain ⟨name, hname, h⟩ := bind_eq_ok.1 h
  cases h
  have hname' : var.get? "name" = some (.string name) := by
    obtain ⟨value, hvalue, htext⟩ := Option.bind_eq_some_iff.1 (orError_eq_ok.1 hname)
    cases value with
    | string text => cases htext; exact hvalue
    | _ => cases htext
  constructor
  · intro hv
    exact ⟨(id_carried_iff _ _).1 hv.instanceId, (text_carried_iff _).1 hv.pointType,
      (id_carried_iff _ _).1 hv.point, (holds_array_iff _).1 hv.formula⟩
  · intro hv
    refine ⟨?_, (id_carried_iff _ _).2 hv.instanceId, (text_carried_iff _).2 hv.pointType,
      (id_carried_iff _ _).2 hv.point, (holds_array_iff _).2 hv.formula⟩
    rw [member, hname']
    rfl

theorem forall₂_carries_iff {missingName : String} {items : List Value} {vars : List RuleVariable}
    (h : Forall₂ (fun var v => parseRuleVariable missingName var = .ok v) items vars) :
    Forall₂ RuleVariable.Carries vars items ↔ ∀ var ∈ items, LegibleVariable var := by
  induction h with
  | nil => simp
  | cons hone _ ih => rw [forall₂_cons, forall_mem_cons, carries_variable_iff hone, ih]

theorem carries_vars_iff {missingName : String} {found : Option Value} {vars : List RuleVariable}
    (h : Forall₂ (fun var v => parseRuleVariable missingName var = .ok v)
      ((found.bind asArray).getD []) vars) :
    (present found = none ∧ vars = [] ∨
        ∃ items, present found = some (.array items) ∧ Forall₂ RuleVariable.Carries vars items) ↔
      ∀ value ∈ present found, ∃ items, value = .array items ∧
        ∀ var ∈ items, LegibleVariable var := by
  rcases found with _ | value
  · cases h
    simp [present]
  cases value with
  | array items =>
    simp only [present, reduceCtorEq, false_and, false_or, Option.some.injEq, Json.array.injEq,
      exists_eq_left', Option.mem_def, forall_eq']
    exact forall₂_carries_iff h
  | null =>
    cases h
    simp [present]
  | _ => simp [present]

theorem carriesVariables_iff {node : Value} {vars : List RuleVariable}
    (h : (configOf node).elim (.ok []) extractRuleVariables = .ok vars) :
    (variablesOf node = none ∧ vars = [] ∨
        ∃ items, variablesOf node = some (.array items) ∧ Forall₂ RuleVariable.Carries vars items) ↔
      ∀ value ∈ variablesOf node, ∃ items, value = .array items ∧
        ∀ var ∈ items, LegibleVariable var := by
  unfold variablesOf
  rcases hconfig : configOf node with _ | config
  · rw [hconfig] at h
    cases h
    simp
  · rw [hconfig] at h
    exact carries_vars_iff (forall₂_of_mapM h)

/-! ## Wires -/

theorem holds_nil_iff {found : Option Value} :
    Holds [] found ↔ ∀ value ∈ found, value = .array [] := by
  cases found with
  | none => simp [Holds]
  | some value => simp [Holds]

theorem present_bind (found : Option Value) (key : String) :
    present (found.bind (·.get? key)) = found.bind (member key) := by
  cases found with
  | none | some => rfl

/-- The node has the targets of the wires that are looked at, at the outputs of its kind. -/
structure ReadsWires (own : RuleNode) (kind : Option String) (looked : Option Value) : Prop where
  output : ∀ port, HasOutput kind port →
    own.targetsAt port = ((looked.bind (·.get? port)).map targets).getD []
  other : ∀ port, ¬HasOutput kind port → own.targetsAt port = []

theorem carriesWires_iff {own : RuleNode} {node : Value} {looked : Option Value}
    (h : ReadsWires own (kindOf node) looked) (hlooked : present looked = wiresOf node) :
    own.CarriesWires (wiresOf node) ↔ LegibleWires node := by
  unfold LegibleWires
  rw [← hlooked]
  rcases hpresent : present looked with _ | wires
  · -- there are no wires, or they are `null`
    refine iff_of_true (fun port => ?_) nofun
    have hnone : looked.bind (·.get? port) = none := by
      rcases looked with _ | value
      · rfl
      · cases value with
        | null => rfl
        | _ => cases hpresent
    by_cases hport : HasOutput (kindOf node) port
    · rw [h.output port hport, hnone]
      rfl
    · exact h.other port hport
  · have hwires : looked = some wires := by
      rcases looked with _ | value
      · cases hpresent
      · cases value with
        | null => cases hpresent
        | _ => exact hpresent
    subst hwires
    simp only [RuleNode.CarriesWires, Option.mem_def, Option.some.injEq, forall_eq']
    refine and_congr_right fun _ => forall_congr' fun port => ?_
    by_cases hport : HasOutput (kindOf node) port
    · rw [h.output port hport]
      simp only [hport, not_true, forall_const, false_imp_iff, and_true]
      exact holds_targets_iff (wires.get? port)
    · rw [h.other port hport]
      simp only [hport, not_false_iff, forall_const, false_imp_iff, true_and]
      exact holds_nil_iff

theorem get_fill_fields {V : Type} (map : HashMap V) {fields : List (String × Value)}
    (hkeys : (fields.map Prod.fst).Nodup) (read : Value → V) (key : String) :
    (map.fill fields Prod.fst fun field => some (read field.2)).get key =
      ((fields.lookup key).map read).or (map.get key) := by
  induction fields generalizing map with
  | nil => rfl
  | cons field fields ih =>
    obtain ⟨hfresh, hkeys⟩ := nodup_cons.1 hkeys
    rw [HashMap.fill_cons, ih _ hkeys, HashMap.get_insertSome, lookup_cons]
    by_cases hkey : key = field.1
    · subst hkey
      have hnone : fields.lookup field.1 = none := by
        rw [lookup_eq_none_iff]
        intro other hother
        simp only [bne_iff_ne]
        intro hsame
        rw [hsame] at hfresh
        exact hfresh (mem_map_of_mem hother)
      simp [hnone]
    · rw [if_neg hkey, beq_false_of_ne hkey]

theorem readsWires_default {own : RuleNode} {kind : Option String} {looked : Option Value}
    (hother : kind ≠ some "function-switch") (hend : kind ≠ some "end")
    (htargets : ∀ port, own.targetsAt port = if port = "default" then
      (((looked.bind (·.get? "wires")).bind (·.get? "default")).map targets).getD [] else []) :
    ReadsWires own kind (looked.bind (·.get? "wires")) where
  output port hport := by
    obtain ⟨-, rfl⟩ := hport.resolve_left hother
    rw [htargets, if_pos rfl]
  other port hport := by
    rw [htargets, if_neg fun h => hport (.inr ⟨hend, h⟩)]

theorem readsWires_switch {config : Value} {vars : List RuleVariable}
    {rule : List RuleSwitchBranch}
    (hkeys : ∀ fields, config.get? "wires" = some (.object fields) → (fields.map Prod.fst).Nodup) :
    ReadsWires (.switch vars rule (extractRuleWiresMap config)) (some "function-switch")
      (config.get? "wires") where
  output port _ := by
    show ((extractRuleWiresMap config).get port).getD [] = _
    unfold extractRuleWiresMap
    split
    · next fields hwires =>
      rw [get_fill_fields _ (hkeys fields hwires), hwires]
      cases hlookup : fields.lookup port with
      | none | some => simp [Json.get?, hlookup]
    · next hother =>
      rcases hwires : config.get? "wires" with _ | wires
      · rfl
      · cases wires with
        | object fields => exact absurd hwires (hother fields)
        | _ => rfl
  other port hport := absurd (.inl rfl) hport

/-- Where the wires of a node other than a start node are. -/
theorem InPlace.wiresOf_eq {node : Value} (h : InPlace node) (hkind : kindOf node ≠ some "start") :
    wiresOf node = (configOf node).bind (member "wires") := by
  unfold wiresOf
  rcases h.beside with hnone | hsome | ⟨hstart, -⟩
  · rw [hnone, Option.or_none]
  · obtain ⟨wires, hwires⟩ := Option.ne_none_iff_exists'.1 hsome
    rw [hwires, Option.some_or]
  · exact absurd hstart hkind

theorem InPlace.wiresOf_start {node : Value} (h : InPlace node) :
    wiresOf node =
      ((configOf node).or (node.get? "data")).bind (member "wires") := by
  unfold wiresOf
  rcases hconfig : configOf node with _ | config
  · rw [Option.bind_none, Option.none_or, Option.none_or]
  · rw [Option.some_or, Option.bind_some]
    rcases h.beside with hnone | hsome | ⟨-, hnone⟩
    · rw [hnone, Option.or_none]
    · rw [hconfig, Option.bind_some] at hsome
      obtain ⟨wires, hwires⟩ := Option.ne_none_iff_exists'.1 hsome
      rw [hwires, Option.some_or]
    · rw [hconfig] at hnone
      cases hnone

/-- Where the wires of an action are looked for. -/
theorem InPlace.looked_eq {node : Value} (h : InPlace node)
    (hkind : kindOf node ∉ [some "start", some "end", some "function-switch"]) :
    present ((((configOf node).bind (·.get? "config")).or (configOf node)).bind (·.get? "wires")) =
      wiresOf node := by
  have hstart : kindOf node ≠ some "start" := fun h => hkind (by simp [h])
  rw [h.nested hkind, Option.none_or, present_bind, h.wiresOf_eq hstart]

theorem InPlace.carriesWires_action {node : Value} {own : RuleNode} (h : InPlace node)
    (hkind : kindOf node ∉ [some "start", some "end", some "function-switch"])
    (htargets : ∀ port, own.targetsAt port =
      if port = "default" then (extractRuleWiresDefault (configOf node)).default else []) :
    own.CarriesWires (wiresOf node) ↔ LegibleWires node := by
  refine carriesWires_iff (readsWires_default ?_ ?_ htargets) (h.looked_eq hkind)
  all_goals
    intro hsome
    exact hkind (by simp [hsome])

/-! ## Nodes -/

theorem kindOf_of_customKind {node : Value} {kind : String} (h : customKind node = some kind) :
    kindOf node = some kind := by
  unfold customKind at h
  split_ifs at h with htype
  obtain ⟨hstart, hend⟩ := not_or.1 htype
  rw [kindOf, if_neg hstart, if_neg hend]
  exact h

theorem vars_nil_iff {node : Value} :
    (variablesOf node = none ∧ ([] : List RuleVariable) = [] ∨ ∃ items,
        variablesOf node = some (.array items) ∧ Forall₂ RuleVariable.Carries [] items) ↔
      ∀ value ∈ variablesOf node, value = .array [] := by
  rcases variablesOf node with _ | value
  · simp
  · simp

/-- A node that is read carries what the document states exactly if it is legible. -/
theorem carries_iff_legible {node : Value} {own : RuleNode} (h : Extracted node own)
    (hplace : InPlace node) : own.Carries node ↔ Legible node := by
  have hparts : kindOf node = some own.kind ∧
      (own.CarriesVariables node ↔ LegibleVariables node) ∧
      (own.CarriesWires (wiresOf node) ↔ LegibleWires node) := by
    unfold LegibleVariables
    cases h with
    | start htype =>
      have hkind : kindOf node = some "start" := if_pos htype
      rw [hkind]
      refine ⟨rfl, vars_nil_iff, ?_⟩
      have hreads : ReadsWires (.start (extractRuleWiresDefault (node.get? "data"))) (some "start")
          (((configOf node).or (node.get? "data")).bind (·.get? "wires")) :=
        readsWires_default (by decide) (by decide) fun _ => rfl
      refine carriesWires_iff (hkind ▸ hreads) ?_
      rw [present_bind, hplace.wiresOf_start]
    | finish htype =>
      have hkind : kindOf node = some "end" := by
        rw [kindOf, if_neg (by rw [htype]; decide), if_pos htype]
      rw [hkind]
      refine ⟨rfl, vars_nil_iff, ?_⟩
      refine carriesWires_iff (hkind ▸ ⟨fun port hport => ?_, fun _ _ => rfl⟩)
        ((present_bind _ _).trans (hplace.wiresOf_eq (by rw [hkind]; decide)).symm)
      rcases hport with hswitch | ⟨hend, -⟩
      · exact absurd hswitch (by decide)
      · exact absurd rfl hend
    | switch hkind hconfig hvars =>
      have hkind := kindOf_of_customKind hkind
      rw [hkind]
      have hwires := hplace.wiresOf_eq (by rw [hkind]; decide)
      rw [hconfig, Option.bind_some] at hwires
      refine ⟨rfl, carriesVariables_iff (by rw [hconfig]; exact hvars), ?_⟩
      refine carriesWires_iff (hkind ▸ readsWires_switch fun fields hfields => ?_) hwires.symm
      exact hplace.keys fields (by rw [hwires, member, hfields]; rfl)
    | changeValue hkind hvars =>
      have hkind := kindOf_of_customKind hkind
      rw [hkind]
      refine ⟨rfl, carriesVariables_iff hvars, ?_⟩
      exact hplace.carriesWires_action (by rw [hkind]; decide) fun _ => rfl
    | calculation hkind hvars =>
      have hkind := kindOf_of_customKind hkind
      rw [hkind]
      refine ⟨rfl, carriesVariables_iff hvars, ?_⟩
      exact hplace.carriesWires_action (by rw [hkind]; decide) fun _ => rfl
    | periodDelta hkind hconfig hinput houtput =>
      have hkind := kindOf_of_customKind hkind
      rw [hkind]
      obtain ⟨first, hfirst, hinput⟩ := bind_eq_ok.1 hinput
      obtain ⟨second, hsecond, houtput⟩ := bind_eq_ok.1 houtput
      have hfirst := orError_eq_ok.1 hfirst
      have hsecond := orError_eq_ok.1 hsecond
      refine ⟨rfl, ?_, ?_⟩
      · simp only [RuleNode.CarriesVariables, hconfig, Option.bind_some, hfirst, hsecond,
          Option.some.injEq, exists_eq_left', Option.mem_def, forall_eq']
        exact and_congr (carries_variable_iff hinput) (carries_variable_iff houtput)
      · rw [← hconfig]
        exact hplace.carriesWires_action (by rw [hkind]; decide) fun _ => rfl
  obtain ⟨hkind, hvars, hwires⟩ := hparts
  exact ⟨fun h => ⟨hvars.1 h.vars, hwires.1 h.wires⟩,
    fun h => ⟨hkind, hvars.2 h.vars, hwires.2 h.wires⟩⟩

/-! ## Documents -/

theorem filed_iff (entries : List (String × RuleNode)) (map : HashMap RuleNode) (id : String) :
    (map.fill entries Prod.fst fun entry => some entry.2).get id ≠ none ↔
      id ∈ entries.map Prod.fst ∨ map.get id ≠ none := by
  induction entries generalizing map with
  | nil => simp [HashMap.fill]
  | cons entry entries ih =>
    rw [HashMap.fill_cons, ih, HashMap.get_insertSome]
    by_cases hid : id = entry.1 <;> simp [hid]

theorem exists_of_forall₂ {α β : Type} {R : α → β → Prop} {l : List α} {l' : List β}
    (h : Forall₂ R l l') {a : α} (ha : a ∈ l) : ∃ b ∈ l', R a b := by
  induction h with
  | nil => cases ha
  | cons hone _ ih =>
    rcases mem_cons.1 ha with rfl | ha
    · exact ⟨_, mem_cons_self, hone⟩
    · obtain ⟨b, hb, hrel⟩ := ih ha
      exact ⟨b, mem_cons_of_mem _ hb, hrel⟩

/-- A start node that leads to node 2. -/
def startDocument : Value :=
  .object [("id", .string "1"), ("type", .string "start"), ("data", .object [("config", .object
    [("wires", .object [("default", .array (["2"].map .string))])])])]

/-- A switch over measurement point 7 of instance 1, with one output. -/
def switchDocument : Value :=
  .object [("id", .string "2"), ("type", .string "custom"), ("data", .object
    [("type", .string "function-switch"), ("config", .object
      [("variables", .array [.object [("name", .string "X1"), ("instance", idValue 1),
        ("pointType", .string "measurement"), ("point_id", idValue 7)]]),
      ("rule", .array [.object [("name", .string "out001")]]),
      ("wires", .object [("out001", .array (["3"].map .string))])])])]

/-- An end node with the given id. -/
def endDocument (id : String) : Value := .object [("id", .string id), ("type", .string "end")]

/-- A document with the given nodes. -/
def documentOf (nodes : List Value) : Value := .object [("nodes", .array nodes)]

theorem legibleWires_of_single {node : Value} {port : String} {texts : List String}
    (hwires : wiresOf node = some (.object [(port, .array (texts.map .string))]))
    (hport : HasOutput (kindOf node) port) : LegibleWires node := by
  intro wires hmem
  rw [hwires] at hmem
  cases hmem
  refine ⟨⟨_, rfl⟩, fun other value hvalue => ?_⟩
  by_cases hother : other = port
  · subst hother
    have hvalue : value = .array (texts.map .string) := by
      simpa [member, Json.get?, present, eq_comm] using hvalue
    exact ⟨fun _ => ⟨texts, hvalue⟩, fun h => absurd hport h⟩
  · have hnone : member other (.object [(port, .array (texts.map .string))] : Value) = none := by
      simp [member, Json.get?, lookup_cons, beq_false_of_ne hother, present]
    rw [hnone] at hvalue
    cases hvalue

theorem inPlace_of_config {node config : Value} (hconfig : configOf node = some config)
    (hdata : (node.get? "data").bind (member "wires") = none)
    (hnested : config.get? "config" = none) {field : String × Value}
    (hwires : config.get? "wires" = some (.object [field])) : InPlace node where
  beside := .inl hdata
  nested _ := by rw [hconfig, Option.bind_some, hnested]
  keys fields hfields := by
    rw [wiresOf, hdata, hconfig, Option.bind_some, member, hwires] at hfields
    cases hfields
    exact nodup_singleton _

/-- A target that is not in an array is passed over. -/
example : (extractRuleFlow (documentOf [.object [("id", .string "1"), ("type", .string "start"),
    ("data", .object [("wires", .object [("default", .string "2")])])]])).map (·.nodes.get "1") =
    .ok (some (.start ⟨[]⟩)) := rfl

end AetherEdge.Rules
