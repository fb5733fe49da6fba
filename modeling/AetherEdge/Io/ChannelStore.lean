import AetherEdge.Ports
import AetherEdge.Common.OrderedMap
import AetherEdge.Common.HashMap
import AetherEdge.Common.Json
import AetherEdge.Common.Float64

/-!
# The stored channels

The tables that hold the desired state of the I/O channels (`libs/common/src/schema.rs`) and the
statements the channel commissioning adapter runs on them
(`services/io/src/channel_mutator.rs`), with the checks and triggers the schema puts on them. The
requests are types of `aether-ports` (`channel.rs`).

The text of a stored configuration, the protocol registry and the validation of a configuration by
its protocol are parameters (`ChannelLibrary`).
-/

namespace AetherEdge.Io

open Std (ExtTreeMap)

/-! ## Errors -/

/-- `invalid` (`channel_mutator.rs:1507-1509`). -/
def invalid (message : String) : PortError := ⟨.invalidData, message⟩

/-- `conflict` (`channel_mutator.rs:1511-1513`). -/
def conflict (message : String) : PortError := ⟨.conflict, message⟩

/-- `unavailable` (`channel_mutator.rs:1515-1517`). -/
def unavailable (message : String) : PortError := ⟨.unavailable, message⟩

/-- The errors of a statement that the adapter tells apart. -/
inductive SqlError where
  | governedRoute
  | uniqueViolation
  | foreignKeyViolation
  | checkViolation
  | busy
  | constraint
  | incompatible
  | unavailable
  deriving DecidableEq, Repr

/-- `map_database_error` (`channel_mutator.rs:1466-1505`). -/
def mapDatabaseError (error : SqlError) (operation : String) : PortError :=
  match error with
  | .governedRoute => conflict s!"{operation} conflicts with a governed action route"
  | .uniqueViolation | .foreignKeyViolation =>
    conflict s!"{operation} conflicts with existing configuration"
  | .checkViolation => ⟨.permanent, s!"{operation} was rejected by a storage invariant"⟩
  | .busy => unavailable s!"{operation} is temporarily unavailable"
  | .constraint => ⟨.permanent, s!"{operation} was rejected by a storage invariant"⟩
  | .incompatible =>
    ⟨.permanent, s!"{operation} failed because the storage schema is incompatible"⟩
  | .unavailable => unavailable s!"{operation} failed because storage is unavailable"

/-! ## Identities and revisions -/

/-- `channel_mutator.rs:28`. -/
def maxChannelId : ℕ := 10000

/-- `channel_mutator.rs:29`. -/
def maxSqliteRevision : ℕ := 2 ^ 63 - 1

/-- `validate_channel_id` (`channel_mutator.rs:1449-1455`). -/
def validateChannelId (channelId : ℕ) : PortResult Unit :=
  if channelId = 0 ∨ maxChannelId ≤ channelId then
    .error (invalid "channel identity must be between 1 and 9999")
  else .ok ()

/-- `stored_revision` (`channel_mutator.rs:1434-1440`). -/
def storedRevision (revision : ℕ) : PortResult ℕ :=
  if 1 ≤ revision then .ok revision else .error (invalid "stored channel revision is invalid")

/-- `revision_i64` (`channel_mutator.rs:1442-1447`). -/
def revisionI64 (revision : ℕ) : PortResult ℕ :=
  if 1 ≤ revision ∧ revision ≤ maxSqliteRevision then .ok revision
  else .error (invalid "channel revision is outside the SQLite range")

/-- `next_revision` (`channel_mutator.rs:1422-1432`). -/
def nextRevision (revision : ℕ) : PortResult ℕ :=
  if maxSqliteRevision ≤ revision then .error ⟨.permanent, "channel revision is exhausted"⟩
  else .ok (revision + 1)

/-- `verify_expected_revision` (`channel_mutator.rs:1414-1420`). -/
def verifyExpectedRevision (expected actual : ℕ) : PortResult Unit :=
  match revisionI64 expected with
  | .error error => .error error
  | .ok _ => if expected ≠ actual then .error (conflict "channel revision is stale") else .ok ()

/-! ## Configurations -/

/-- A number of `ChannelParameterValue`. -/
inductive ParameterNumber where
  | integer (value : Int64)
  | float (value : F64)

/-- `channel.rs:19-34`. -/
abbrev ChannelParameterValue := Json ParameterNumber

/-- `ChannelLoggingPolicy`, and `ChannelLoggingConfig`, which has the same fields. -/
structure ChannelLogging where
  enabled : Bool := false
  level : Option String := none
  file : Option String := none
  deriving DecidableEq

/-- `ChannelConfig` and its `ChannelCore`. -/
structure ChannelConfig where
  id : ℕ
  name : String
  description : Option String
  protocol : String
  enabled : Bool
  parameters : HashMap (Json SerdeNumber)
  logging : ChannelLogging

/-- `stored_channel_config.rs:17-24`. -/
structure StoredChannelConfig where
  description : Option String
  parameters : HashMap (Json SerdeNumber)
  logging : ChannelLogging

/-- What the adapter uses of other code: the text form of a stored configuration, the protocol
    registry, the check of a configuration by its protocol, and `str::trim`. -/
structure ChannelLibrary where
  decode : Option String → Except String StoredChannelConfig
  encode : StoredChannelConfig → Except String String
  resolve : String → Option String
  validateChannel : ChannelConfig → Bool
  trim : String → String

/-- `channel.rs:153-161`. -/
structure ChannelDefinition where
  requestedChannelId : Option ℕ
  name : String
  description : Option String
  protocol : String
  parameters : List (String × ChannelParameterValue)
  logging : ChannelLogging
  enabled : Bool

/-- `channel.rs:271-277`. -/
structure ChannelPatch where
  name : Option String
  description : Option String
  protocol : Option String
  parameters : Option (List (String × ChannelParameterValue))
  logging : Option ChannelLogging

/-- `is_empty` (`channel.rs:363-369`). -/
def ChannelPatch.isEmpty (patch : ChannelPatch) : Bool :=
  patch.name.isNone && patch.description.isNone && patch.protocol.isNone &&
    patch.parameters.isNone && patch.logging.isNone

/-- The numbers of `parameter_to_json` (`channel_mutator.rs:1193-1215`). -/
def numberToJson : ParameterNumber → PortResult SerdeNumber
  | .integer value =>
    .ok (if 0 ≤ value.toInt then .posInt (UInt64.ofNat value.toInt.toNat) else .negInt value)
  | .float value =>
    if h : (value.bits >>> 52) % 2048 ≠ 2047 then .ok (.float ⟨value.bits, h⟩)
    else .error (invalid "channel parameters contain a non-finite float")

mutual

/-- `parameter_to_json` (`channel_mutator.rs:1193-1215`). -/
def parameterToJson : ChannelParameterValue → PortResult (Json SerdeNumber)
  | .null => .ok .null
  | .bool value => .ok (.bool value)
  | .number value => do .ok (.number (← numberToJson value))
  | .string value => .ok (.string value)
  | .array items => do .ok (.array (← itemsToJson items))
  | .object fields => do .ok (.object (← fieldsToJson fields))

/-- The elements of an array. -/
def itemsToJson : List ChannelParameterValue → PortResult (List (Json SerdeNumber))
  | [] => .ok []
  | item :: items => do
    let item ← parameterToJson item
    .ok (item :: (← itemsToJson items))

/-- The members of an object. -/
def fieldsToJson : List (String × ChannelParameterValue) →
    PortResult (List (String × Json SerdeNumber))
  | [] => .ok []
  | (key, value) :: fields => do
    let value ← parameterToJson value
    .ok ((key, value) :: (← fieldsToJson fields))

end

/-- `for (key, value) in .. { config.parameters.insert(key, value); }`. -/
def insertParameters (parameters : HashMap (Json SerdeNumber))
    (fields : List (String × Json SerdeNumber)) : HashMap (Json SerdeNumber) :=
  fields.foldl (fun map field => map.insert field.1 field.2) parameters

section Library

variable (library : ChannelLibrary)

/-- `required_text` (`channel_mutator.rs:1457-1464`). -/
def requiredText (field value : String) : PortResult String :=
  if library.trim value = "" then .error (invalid s!"{field} must not be blank")
  else .ok (library.trim value)

/-- `canonical_protocol` (`channel_mutator.rs:1164-1174`). -/
def canonicalProtocol (protocol : String) : PortResult String :=
  match library.resolve protocol with
  | some canonical => .ok canonical
  | none => .error (invalid "channel protocol is unavailable in this IO runtime build")

/-- `definition_to_config` (`channel_mutator.rs:1123-1140`). -/
def definitionToConfig (channelId : ℕ) (definition : ChannelDefinition) :
    PortResult ChannelConfig := do
  let name ← requiredText library "channel name" definition.name
  let protocol ← requiredText library "channel protocol" definition.protocol
  let protocol ← canonicalProtocol library protocol
  let parameters ← fieldsToJson definition.parameters
  .ok
    { id := channelId, name, description := definition.description, protocol
      enabled := definition.enabled, parameters := insertParameters .empty parameters
      logging := definition.logging }

theorem id_definitionToConfig {channelId : ℕ} {definition : ChannelDefinition}
    {config : ChannelConfig} (h : definitionToConfig library channelId definition = .ok config) :
    config.id = channelId := by
  obtain ⟨name, -, h⟩ := bind_eq_ok.1 h
  obtain ⟨protocol, -, h⟩ := bind_eq_ok.1 h
  obtain ⟨canonical, -, h⟩ := bind_eq_ok.1 h
  obtain ⟨parameters, -, h⟩ := bind_eq_ok.1 h
  cases h
  rfl

/-- `apply_patch` (`channel_mutator.rs:1142-1162`). -/
def applyPatch (config : ChannelConfig) (patch : ChannelPatch) : PortResult ChannelConfig := do
  let name ← match patch.name with
    | some name => requiredText library "channel name" name
    | none => .ok config.name
  let protocol ← match patch.protocol with
    | some protocol => do
      canonicalProtocol library (← requiredText library "channel protocol" protocol)
    | none => .ok config.protocol
  let parameters ← match patch.parameters with
    | some parameters => do .ok (insertParameters config.parameters (← fieldsToJson parameters))
    | none => .ok config.parameters
  .ok
    { config with
      name, protocol, parameters
      description := patch.description.or config.description
      logging := patch.logging.getD config.logging }

theorem id_applyPatch {config patched : ChannelConfig} {patch : ChannelPatch}
    (h : applyPatch library config patch = .ok patched) : patched.id = config.id := by
  unfold applyPatch at h
  simp only [bind, Except.bind] at h
  repeat' split at h
  all_goals cases h
  all_goals rfl

/-- `encode_config` (`channel_mutator.rs:1217-1221`). -/
def encodeConfig (config : ChannelConfig) : PortResult String :=
  match library.encode ⟨config.description, config.parameters, config.logging⟩ with
  | .ok text => .ok text
  | .error error => .error (invalid error)

/-- `validate_runtime_config` (`channel_mutator.rs:1223-1229`). -/
def validateRuntimeConfig (config : ChannelConfig) : PortResult Unit :=
  if config.id = 0 ∨ maxChannelId ≤ config.id then
    .error (invalid "channel identity must be between 1 and 9999")
  else if library.validateChannel config then .ok ()
  else .error (invalid "channel parameters do not satisfy the IO runtime schema")

end Library

/-! ## Tables -/

/-- A row of `channels` without its identity and its timestamps. -/
structure ChannelRow where
  name : String
  protocol : Option String
  enabled : Bool
  config : Option String
  revision : ℕ
  deriving DecidableEq

/-- `REQUIRED_POINT_TABLES`. -/
inductive PointTable where
  | telemetryPoints
  | signalPoints
  | controlPoints
  | adjustmentPoints
  deriving DecidableEq, Repr

/-- The rows of a point table: the channel each belongs to and the text of its columns. -/
abbrev PointRows := List (ℕ × Bytes)

/-- The tables of the adapter: `channels`, `channel_revision_tombstones`, the four point tables and
    the number of logical routes that refer to a channel. -/
structure Database where
  channels : ExtTreeMap ℕ ChannelRow
  tombstones : ExtTreeMap ℕ ℕ
  points : PointTable → PointRows
  routes : ℕ → ℕ

/-- `channel_mutator.rs:1014-1021`. -/
structure StoredChannel where
  channelId : ℕ
  name : String
  protocol : String
  enabled : Bool
  configJson : Option String
  revision : ℕ
  deriving DecidableEq

/-- `same_desired_state` (`channel_mutator.rs:1057-1064`). -/
def StoredChannel.sameDesiredState (stored other : StoredChannel) : Bool :=
  stored.channelId == other.channelId && stored.name == other.name &&
    stored.protocol == other.protocol && stored.enabled == other.enabled &&
    stored.configJson == other.configJson && stored.revision == other.revision

variable {stored : StoredChannel}

theorem StoredChannel.sameDesiredState_iff {other : StoredChannel} :
    stored.sameDesiredState other = true ↔ stored = other := by
  cases stored
  cases other
  simp [sameDesiredState, and_assoc]

/-- `from_committed_config` (`channel_mutator.rs:1026-1039`). -/
def StoredChannel.fromCommittedConfig (config : ChannelConfig) (configJson : String)
    (revision : ℕ) : StoredChannel :=
  { channelId := config.id, name := config.name, protocol := config.protocol
    enabled := config.enabled, configJson := some configJson, revision }

/-- `to_config` (`channel_mutator.rs:1041-1055`). -/
def StoredChannel.toConfig (library : ChannelLibrary) (stored : StoredChannel) :
    PortResult ChannelConfig :=
  match library.decode stored.configJson with
  | .error error => .error (invalid error)
  | .ok payload =>
    .ok
      { id := stored.channelId, name := stored.name, description := payload.description
        protocol := stored.protocol, enabled := stored.enabled, parameters := payload.parameters
        logging := payload.logging }

/-- The conversion of a row in `load_channel` (`channel_mutator.rs:1067-1093`). -/
def storedChannel (channelId : ℕ) : Option ChannelRow → PortResult StoredChannel
  | none => .error ⟨.notFound, "channel desired state does not exist"⟩
  | some row =>
    match row.protocol with
    | none => .error (invalid "stored channel protocol is missing")
    | some protocol =>
      match storedRevision row.revision with
      | .error error => .error error
      | .ok revision =>
        .ok
          { channelId, name := row.name, protocol, enabled := row.enabled
            configJson := row.config, revision }

theorem StoredChannel.id_toConfig {library : ChannelLibrary} {config : ChannelConfig}
    (h : stored.toConfig library = .ok config) : config.id = stored.channelId := by
  unfold toConfig at h
  split at h
  · cases h
  · cases h
    rfl

theorem storedChannel_ok {c : ℕ} {row : Option ChannelRow} (h : storedChannel c row = .ok stored) :
    ∃ found, row = some found ∧ found.protocol = some stored.protocol ∧ 1 ≤ found.revision ∧
      stored = ⟨c, found.name, stored.protocol, found.enabled, found.config, found.revision⟩ := by
  rcases row with _ | found
  · cases h
  rw [storedChannel] at h
  rcases hproto : found.protocol with _ | protocol
  · rw [hproto] at h
    cases h
  rw [hproto] at h
  unfold storedRevision at h
  dsimp only at h
  by_cases hrev : 1 ≤ found.revision
  · rw [if_pos hrev] at h
    cases h
    exact ⟨found, rfl, hproto, hrev, rfl⟩
  · rw [if_neg hrev] at h
    cases h

namespace Database

variable (db : Database)

/-- Another channel has the name. -/
def nameTaken (channelId : ℕ) (name : String) : Bool :=
  db.channels.toList.any fun entry => entry.1 != channelId && entry.2.name == name

/-- The `INSERT` of `create_locked` (`channel_mutator.rs:243-293`): the revision is derived from the
    tombstone. A sum above the `i64` range is no integer for SQLite, which the check on the column
    rejects; the triggers are those of the schema. -/
def insertChannel (channelId : ℕ) (name protocol : String) (enabled : Bool) (config : String) :
    Except SqlError (ℕ × Database) :=
  let revision := (db.tombstones[channelId]?.map (· + 1)).getD 1
  if channelId < 1 ∨ maxChannelId ≤ channelId then .error .constraint
  else if maxSqliteRevision < revision then .error .checkViolation
  else if db.channels.contains channelId || db.nameTaken channelId name then
    .error .uniqueViolation
  else
    let row := { name, protocol := some protocol, enabled, config := some config, revision }
    .ok (revision, { db with channels := db.channels.insert channelId row })

/-- An `UPDATE .. WHERE channel_id = ? AND revision = ?` that sets the revision to `next`, with the
    triggers of the schema, and the number of rows it affected. -/
def updateWhere (channelId expected next : ℕ) (change : ChannelRow → ChannelRow) :
    Except SqlError (ℕ × Database) :=
  match db.channels[channelId]? with
  | none => .ok (0, db)
  | some row =>
    if row.revision ≠ expected then .ok (0, db)
    else if next ≠ row.revision + 1 ∨ maxSqliteRevision ≤ row.revision then .error .constraint
    else if db.nameTaken channelId (change row).name then .error .uniqueViolation
    else
      let row := { change row with revision := next }
      .ok (1, { db with channels := db.channels.insert channelId row })

/-- The `UPDATE` of `update` (`channel_mutator.rs:295-347`). -/
def updateChannel (channelId expected next : ℕ) (name protocol config : String) :
    Except SqlError (ℕ × Database) :=
  db.updateWhere channelId expected next fun row =>
    { row with name, protocol := some protocol, config := some config }

/-- The `UPDATE` of `set_enabled` (`channel_mutator.rs:349-487`). -/
def updateEnabled (channelId expected next : ℕ) (enabled : Bool) :
    Except SqlError (ℕ × Database) :=
  db.updateWhere channelId expected next fun row => { row with enabled }

/-- `delete_desired_state` (`channel_mutator.rs:1244-1334`), with the trigger of the schema. -/
def deleteDesiredState (channelId expected tombstone : ℕ) : PortResult Database :=
  match db.channels[channelId]? with
  | none => .error ⟨.notFound, "channel desired state does not exist"⟩
  | some row =>
    match storedRevision row.revision with
    | .error error => .error error
    | .ok revision =>
      if revision ≠ expected then
        .error (conflict "channel desired state changed concurrently")
      else if db.routes channelId ≠ 0 then
        .error (conflict "remove governed logical routes before deleting their channel")
      else
        match revisionI64 tombstone with
        | .error error => .error error
        | .ok tombstone =>
          let last := max (db.tombstones[channelId]?.getD 0) tombstone
          if last ≤ row.revision then
            .error (mapDatabaseError .constraint "delete channel desired state")
          else
            .ok
              { db with
                channels := db.channels.erase channelId
                tombstones := db.tombstones.insert channelId last
                points := fun table => (db.points table).filter fun point => point.1 != channelId }

/-- The identities of `next_available_channel_id` (`channel_mutator.rs:611-640`)'s query. -/
def occupied : List ℕ :=
  (((db.channels.keys ++ db.tombstones.keys).filter fun id =>
    1 ≤ id ∧ id < maxChannelId).mergeSort (· ≤ ·)).dedup

end Database

/-- The scan of `next_available_channel_id` (`channel_mutator.rs:611-640`). -/
def firstFree (candidate : ℕ) : List ℕ → ℕ
  | [] => candidate
  | occupied :: rest =>
    if occupied = candidate then firstFree (candidate + 1) rest
    else if candidate < occupied then candidate
    else firstFree candidate rest

/-- `next_available_channel_id` (`channel_mutator.rs:611-640`). -/
def nextAvailableChannelId (occupied : List ℕ) : PortResult ℕ :=
  let candidate := firstFree 1 occupied
  if maxChannelId ≤ candidate then .error ⟨.permanent, "no channel identity remains below 10000"⟩
  else .ok candidate

/-! ## The revision rule

What the checks and triggers of the schema come to for the stored state of one channel: a
tombstone never falls, a row is only replaced by one with a larger revision, a row only goes once
its tombstone is above it and a row only comes above its tombstone. -/

namespace Database

/-- The revision of the tombstone, or 0. -/
def tombstone (db : Database) (channelId : ℕ) : ℕ := db.tombstones[channelId]?.getD 0

/-- The stored state of the channel changes from `db` to `db'` as the schema demands. -/
def Guarded (channelId : ℕ) (db db' : Database) : Prop :=
  db.tombstone channelId ≤ db'.tombstone channelId ∧
    match db.channels[channelId]?, db'.channels[channelId]? with
    | some old, some new => old = new ∨ old.revision < new.revision
    | some old, none => old.revision < db'.tombstone channelId
    | none, some new => db.tombstone channelId < new.revision
    | none, none => True

variable {db db' db'' : Database} {channelId : ℕ}

theorem guarded_of_same (hrow : db'.channels[channelId]? = db.channels[channelId]?)
    (htomb : db.tombstone channelId ≤ db'.tombstone channelId) :
    Guarded channelId db db' := by
  refine ⟨htomb, ?_⟩
  rw [hrow]
  cases db.channels[channelId]? with
  | none => trivial
  | some row => exact .inl rfl

theorem Guarded.refl (channelId : ℕ) (db : Database) : Guarded channelId db db :=
  guarded_of_same rfl le_rfl

theorem Guarded.trans (h : Guarded channelId db db') (h' : Guarded channelId db' db'') :
    Guarded channelId db db'' := by
  obtain ⟨ht, hr⟩ := h
  obtain ⟨ht', hr'⟩ := h'
  refine ⟨ht.trans ht', ?_⟩
  revert hr hr'
  cases db.channels[channelId]? with
  | none =>
    rcases db'.channels[channelId]? with _ | mid
    · cases db''.channels[channelId]? with
      | none => exact fun _ _ => trivial
      | some new => exact fun _ hr' => lt_of_le_of_lt ht hr'
    cases db''.channels[channelId]? with
    | none => exact fun _ _ => trivial
    | some new =>
      rintro hr (rfl | hr')
      · exact hr
      · exact lt_trans hr hr'
  | some old =>
    rcases db'.channels[channelId]? with _ | mid
    · cases db''.channels[channelId]? with
      | none => exact fun hr _ => lt_of_lt_of_le hr ht'
      | some new => exact fun hr hr' => .inr (lt_trans hr hr')
    rcases db''.channels[channelId]? with _ | new
    · rintro (rfl | hr) hr'
      · exact hr'
      · exact lt_trans hr hr'
    rintro (rfl | hr) (rfl | hr')
    · exact .inl rfl
    · exact .inr hr'
    · exact .inr hr
    · exact .inr (lt_trans hr hr')

open OrderedMap

/-- Nothing changes, or the row of the channel gets a revision above that of its row, or else of its
    tombstone. -/
def Raises (c : ℕ) (db db' : Database) : Prop :=
  db' = db ∨ ∃ row, db' = { db with channels := db.channels.insert c row } ∧
    (db.channels[c]?.map ChannelRow.revision).getD (db.tombstone c) < row.revision

theorem raises_insertChannel {c revision : ℕ} {name protocol config : String} {enabled : Bool}
    (h : db.insertChannel c name protocol enabled config = .ok (revision, db')) :
    Raises c db db' := by
  unfold insertChannel at h
  dsimp only at h
  split_ifs at h with hid hmax htaken
  cases h
  simp only [Bool.or_eq_true, not_or, Bool.not_eq_true] at htaken
  refine .inr ⟨_, rfl, ?_⟩
  rw [ExtTreeMap.getElem?_eq_none_of_contains_eq_false htaken.1, tombstone]
  cases db.tombstones[c]? with
  | none => exact Nat.zero_lt_one
  | some last => exact Nat.lt_succ_self last

theorem raises_updateWhere {c expected next affected : ℕ} {change : ChannelRow → ChannelRow}
    (h : db.updateWhere c expected next change = .ok (affected, db')) : Raises c db db' := by
  unfold updateWhere at h
  rcases hrow : db.channels[c]? with _ | row
  · rw [hrow] at h
    cases h
    exact .inl rfl
  rw [hrow] at h
  dsimp only at h
  split_ifs at h with hrev hnext hname
  · cases h
    exact .inl rfl
  cases h
  refine .inr ⟨_, rfl, ?_⟩
  rw [hrow, Option.map_some, Option.getD_some]
  dsimp only
  omega

theorem Raises.guarded {c : ℕ} (h : Raises c db db') (channelId : ℕ) :
    Guarded channelId db db' := by
  rcases h with rfl | ⟨row, rfl, hlt⟩
  · exact .refl _ _
  by_cases hc : c = channelId
  · subst hc
    refine ⟨le_rfl, ?_⟩
    rw [getElem?_insert_nat, if_pos rfl]
    cases hrow : db.channels[c]? with
    | none => rwa [hrow] at hlt
    | some old => rw [hrow] at hlt; exact .inr hlt
  · exact guarded_of_same (by rw [getElem?_insert_nat, if_neg hc]) le_rfl

/-- What a deletion leaves: no row, and a tombstone above the row's revision and above the tombstone
    before. -/
theorem deleteDesiredState_ok {c expected tombstone : ℕ}
    (h : db.deleteDesiredState c expected tombstone = .ok db') :
    ∃ row last, db.channels[c]? = some row ∧ row.revision < last ∧ db.tombstone c ≤ last ∧
      db'.channels = db.channels.erase c ∧ db'.tombstones = db.tombstones.insert c last := by
  unfold deleteDesiredState at h
  rcases hrow : db.channels[c]? with _ | row
  · rw [hrow] at h
    cases h
  rw [hrow] at h
  dsimp only at h
  rcases hsto : storedRevision row.revision with error | revision
  · rw [hsto] at h
    cases h
  rw [hsto] at h
  dsimp only at h
  split_ifs at h
  rcases htomb : revisionI64 tombstone with error | last
  · rw [htomb] at h
    cases h
  rw [htomb] at h
  dsimp only at h
  split_ifs at h with hlast
  cases h
  exact ⟨row, _, rfl, Nat.lt_of_not_le hlast, le_max_left _ _, rfl, rfl⟩

theorem guarded_deleteDesiredState {c expected tombstone : ℕ}
    (h : db.deleteDesiredState c expected tombstone = .ok db') (channelId : ℕ) :
    Guarded channelId db db' := by
  obtain ⟨row, last, hrow, hlast, hle, hchs, htombs⟩ := deleteDesiredState_ok h
  by_cases hc : c = channelId
  · subst hc
    have haft : db'.tombstone c = last := by
      rw [Database.tombstone, htombs, getElem?_insert_nat, if_pos rfl]
      rfl
    refine ⟨haft ▸ hle, ?_⟩
    rw [hrow, hchs, getElem?_erase_nat, if_pos rfl]
    dsimp only
    rw [haft]
    exact hlast
  · refine guarded_of_same ?_ ?_
    · rw [hchs, getElem?_erase_nat, if_neg hc]
    · rw [Database.tombstone, Database.tombstone, htombs, getElem?_insert_nat, if_neg hc]

end Database

end AetherEdge.Io
