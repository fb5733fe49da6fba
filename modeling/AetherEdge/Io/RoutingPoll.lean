import AetherEdge.Common.Transition
import AetherEdge.Domain

/-!
# Polling the routing tables

Model of the task that keeps the routing cache of the service (`services/io/src/main.rs`,
`libs/aether-routing/src/loader.rs`, `routing_cache.rs`). Every two seconds it reads three tables of
the database, and any of the reads may fail. An error of the third is taken for an old database
without the table: what the other two have returned then replaces the whole cache, and every route
between channels is gone until the next poll.

The text in which the loader hands over keys and targets (`"ch:type:point"`), which the cache parses
back, is left out, and so is the reverse index of the first table.

* `poll_eq_complete_iff`: what one poll does to a cache that holds the last complete poll;
* `cache_holds_complete_polls_iff`: over every sequence of polls, when the cache keeps to the polls
  whose reads have all succeeded.
-/

namespace AetherEdge.Io

open Transition Domain

/-- `StructuredRouteKey`. -/
abbrev RouteKey := UInt32 × PointKind × UInt32

/-- `routing_cache.rs:34-39`. -/
structure C2MTarget where
  instanceId : UInt32
  pointId : UInt32
  deriving DecidableEq

/-- `routing_cache.rs:53-64`. -/
structure C2CTarget where
  target : RouteKey
  scale : F64
  offset : F64
  deriving DecidableEq

/-- A hash map under route keys. -/
abbrev RouteTable (α : Type) := RouteKey → Option α

/-- A row in `load_c2m_routes` (`loader.rs:95-147`). -/
structure MeasurementRoutingRow where
  instanceId : UInt32
  channelId : UInt32
  channelType : String
  channelPointId : UInt32
  measurementId : UInt32

/-- A row in `load_m2c_routes` (`loader.rs:150-202`). -/
structure ActionRoutingRow where
  instanceId : UInt32
  actionId : UInt32
  channelId : UInt32
  channelType : String
  channelPointId : UInt32

/-- A row in `load_c2c_routes` (`loader.rs:207-270`). -/
structure ChannelRoutingRow where
  sourceChannelId : UInt32
  sourceType : String
  sourcePointId : UInt32
  targetChannelId : UInt32
  targetType : String
  targetPointId : UInt32
  scale : F64
  offset : F64

/-- `parse_channel_point_kind` (`loader.rs:38-50`). -/
def parseChannelPointKind (value : String) : Option PointKind :=
  let upper := value.toList.map Char.toUpper
  if upper = ['T'] ∨ upper = ['Y', 'C'] then some .telemetry
  else if upper = ['S'] ∨ upper = ['Y', 'X'] then some .status
  else if upper = ['C'] ∨ upper = ['Y', 'K'] then some .command
  else if upper = ['A'] ∨ upper = ['Y', 'T'] then some .action
  else none

/-- The loop over the rows of a table: a row without a route is skipped. -/
def insertRoutes {ρ α : Type} (route : ρ → Option (RouteKey × α)) (rows : List ρ) : RouteTable α :=
  rows.foldl (fun table row =>
    match route row with
    | none => table
    | some (key, target) => Function.update table key (some target)) fun _ => none

/-- `load_c2m_routes` (`loader.rs:95-147`), once the rows are there. -/
def loadC2mRoutes : List MeasurementRoutingRow → RouteTable C2MTarget :=
  insertRoutes fun row => (parseChannelPointKind row.channelType).map fun kind =>
    ((row.channelId, kind, row.channelPointId), ⟨row.instanceId, row.measurementId⟩)

/-- `load_m2c_routes` (`loader.rs:150-202`), once the rows are there. -/
def loadM2cRoutes : List ActionRoutingRow → RouteTable RouteKey :=
  insertRoutes fun row => (parseChannelPointKind row.channelType).map fun kind =>
    ((row.instanceId, .action, row.actionId), (row.channelId, kind, row.channelPointId))

/-- `load_c2c_routes` (`loader.rs:207-270`), once the rows are there. The identity is not written
    out. -/
def loadC2cRoutes : List ChannelRoutingRow → RouteTable C2CTarget :=
  insertRoutes fun row => do
    let source ← parseChannelPointKind row.sourceType
    let target ← parseChannelPointKind row.targetType
    let identity := row.scale.eq .one && row.offset.eq .zero
    some ((row.sourceChannelId, source, row.sourcePointId),
      ⟨(row.targetChannelId, target, row.targetPointId),
        if identity then .one else row.scale, if identity then .zero else row.offset⟩)

/-- `RoutingMaps`, and the three tables of the cache built from it. -/
structure RoutingMaps where
  c2m : RouteTable C2MTarget
  m2c : RouteTable RouteKey
  c2c : RouteTable C2CTarget

/-- What the three reads of a poll return. -/
structure Reads (ε : Type) where
  c2m : Except ε (List MeasurementRoutingRow)
  m2c : Except ε (List ActionRoutingRow)
  c2c : Except ε (List ChannelRoutingRow)

variable {ε : Type}

/-- `load_routing_maps` (`loader.rs:70-92`). -/
def loadRoutingMaps (reads : Reads ε) : Except ε RoutingMaps := do
  let c2m ← reads.c2m
  let m2c ← reads.m2c
  let c2c := match reads.c2c with
    | .ok rows => rows
    | .error _ => []
  .ok ⟨loadC2mRoutes c2m, loadM2cRoutes m2c, loadC2cRoutes c2c⟩

/-- A round of the loop, with `update` (`routing_cache.rs:371-384`). -/
def pollRoutes (cache : RoutingMaps) (reads : Reads ε) : RoutingMaps :=
  match loadRoutingMaps reads with
  | .ok maps => maps
  | .error _ => cache

/-! ## Complete polls -/

/-- The routes of a poll whose reads have all succeeded. -/
def Reads.routes (reads : Reads ε) : Option RoutingMaps :=
  match reads.c2m, reads.m2c, reads.c2c with
  | .ok c2m, .ok m2c, .ok c2c => some ⟨loadC2mRoutes c2m, loadM2cRoutes m2c, loadC2cRoutes c2c⟩
  | _, _, _ => none

/-- The cache, and the routes of the last complete poll. -/
structure RoutingState where
  cache : RoutingMaps
  complete : RoutingMaps

/-- The transition function. -/
def routingStep (s : RoutingState) (reads : Reads ε) : RoutingState :=
  ⟨pollRoutes s.cache reads, reads.routes.getD s.complete⟩

/-- The cache as it was loaded at the start. -/
def RoutingState.loaded (maps : RoutingMaps) : RoutingState := ⟨maps, maps⟩

/-- If only the read of the routes between channels fails, the other two return what the last
    complete poll has found, and that had no route between channels. -/
def FailsUnnoticed (complete : RoutingMaps) (reads : Reads ε) : Prop :=
  ∀ c2m m2c error, reads.c2m = .ok c2m → reads.m2c = .ok m2c → reads.c2c = .error error →
    complete = ⟨loadC2mRoutes c2m, loadM2cRoutes m2c, fun _ => none⟩

theorem poll_eq_complete_iff {s : RoutingState} (h : s.cache = s.complete) (reads : Reads ε) :
    (routingStep s reads).cache = (routingStep s reads).complete ↔
      FailsUnnoticed s.complete reads := by
  obtain ⟨c2m, m2c, c2c⟩ := reads
  unfold routingStep pollRoutes loadRoutingMaps Reads.routes FailsUnnoticed
  cases c2m with
  | error e => exact iff_of_true h fun _ _ _ hc2m => by cases hc2m
  | ok c2m =>
    cases m2c with
    | error e => exact iff_of_true h fun _ _ _ _ hm2c => by cases hm2c
    | ok m2c =>
      cases c2c with
      | ok c2c => exact iff_of_true rfl fun _ _ _ _ _ hc2c => by cases hc2c
      | error e =>
        constructor
        · rintro heq _ _ _ ⟨⟩ ⟨⟩ -
          exact heq.symm
        · intro hfl
          exact (hfl c2m m2c e rfl rfl rfl).symm

/-- After each poll the cache holds the routes of the last poll whose reads have all succeeded, and
    a poll with a failed read leaves it alone, exactly if every failure of the third read alone goes
    unnoticed. -/
theorem cache_holds_complete_polls_iff (initial : RoutingMaps) (polls : List (Reads ε)) :
    EveryState routingStep (fun s => s.cache = s.complete) (.loaded initial) polls ∧
        EveryStep routingStep (fun s reads => reads.routes = none →
          pollRoutes s.cache reads = s.cache) (.loaded initial) polls ↔
      EveryStep routingStep (fun s reads => FailsUnnoticed s.complete reads) (.loaded initial)
        polls := by
  have hiff : EveryState routingStep (fun s => s.cache = s.complete) (.loaded initial) polls ↔
      EveryStep routingStep (fun s reads => FailsUnnoticed s.complete reads) (.loaded initial)
        polls :=
    everyState_iff_everyStep (fun s reads h => (poll_eq_complete_iff h reads).2) (fun _ h => h)
      (fun s reads h hnot heq => hnot ((poll_eq_complete_iff h reads).1 heq)) rfl polls
  rw [← hiff, and_iff_left_iff_imp]
  intro hstate n reads hn hnone
  obtain ⟨hlt, -⟩ := List.getElem?_eq_some_iff.1 hn
  have hbefore := hstate n (Nat.le_of_lt hlt)
  have hafter := hstate (n + 1) hlt
  rw [run_take_succ hn] at hafter
  calc pollRoutes _ reads = (routingStep _ reads).complete := hafter
    _ = (run routingStep (.loaded initial) (polls.take n)).complete := by
      rw [routingStep, hnone]
      rfl
    _ = _ := hbefore.symm

/-- A route between two channels, read by the first poll; the second cannot read that table. -/
def interruptedPolls : List (Reads String) :=
  [⟨.ok [], .ok [], .ok [⟨1, "T", 5, 2, "T", 6, .one, .zero⟩]⟩,
    ⟨.ok [], .ok [], .error "database is locked"⟩]

/-- The route is gone although no complete poll has seen it removed. -/
theorem route_lost_by_failed_read :
    let s := run routingStep (.loaded ⟨fun _ => none, fun _ => none, fun _ => none⟩) interruptedPolls
    s.complete.c2c (1, .telemetry, 5) = some ⟨(2, .telemetry, 6), .one, .zero⟩ ∧
      s.cache.c2c (1, .telemetry, 5) = none := by
  decide +kernel

end AetherEdge.Io
