import ForgeErp.Desktop.Cache
import ForgeErp.Desktop.CommandQueue

/-!
This module contains the sync manager of the desktop client. The server is a parameter; what becomes
of a request and of its response on the way is up to the network.
-/

namespace ForgeErp

inductive ConflictResolution where
  | useLocal
  | useRemote
  | merge
  deriving DecidableEq, Repr

structure Conflict where
  aggregateType : String
  aggregateId : AggregateId
  localVersion : Option UInt64
  remoteVersion : UInt64
  resolution : ConflictResolution

structure SyncResult where
  syncedCommands : List Uuid
  syncedReadModels : List (String × AggregateId)
  conflicts : List Conflict

inductive SyncReadModelResult where
  | conflict (conflict : Conflict)
  | synced (aggregateType : String) (aggregateId : AggregateId)

inductive SyncError where
  | offline
  | network (msg : String)
  | api (status : Nat) (text : String)
  | parse (msg : String)
  | cache (msg : String)
  | conflict (text : String)

def SyncError.toString (self : SyncError) : String :=
  match self with
  | .offline => "client is offline"
  | .network msg => s!"network error: {msg}"
  | .api status text => s!"API error ({status}): {text}"
  | .parse msg => s!"parse error: {msg}"
  | .cache msg => s!"cache error: {msg}"
  | .conflict text => s!"conflict: {text}"

inductive CommandEndpoint where
  | adjustItem (id : AggregateId)
  | items
  | item (id : AggregateId)
  | orders
  | order (id : AggregateId)
  | products
  | product (id : AggregateId)
  | command (id : AggregateId)
  deriving DecidableEq

structure HttpResponse where
  status : Nat
  text : String

def HttpResponse.isSuccess (self : HttpResponse) : Bool :=
  200 ≤ self.status && self.status < 300

/--
What a server does with a `POST`.
-/
structure Api (σ : Type) where
  post : σ → CommandEndpoint → JsonValue → HttpResponse × σ

inductive Delivery where
  | requestLost (error : String)
  -- somebody on the way answers, and the server sees nothing
  | intercepted (response : HttpResponse)
  | responseLost (error : String)
  -- the server does its part, but something else is answered
  | replaced (response : HttpResponse)
  | delivered

/--
A `POST` that has reached the server.
-/
structure Exchange (σ : Type) where
  cmd : QueuedCommand
  before : σ
  after : σ
  response : HttpResponse

/--
The server, and what has reached it so far.
-/
structure Wire (σ : Type) where
  server : σ
  log : List (Exchange σ)

structure HeaderMap where
  etag : Option String
  xStreamVersion : Option String

inductive ReadReply where
  | failed (error : String)
  | response (status : Nat) (headers : HeaderMap) (text : String) (json : Except String JsonValue)

-- `HeaderValue::to_str`
def headerToStr (value : String) : Option String :=
  if value.toList.all fun c => (32 ≤ c.toNat && c.toNat < 127) || c == '\t'
    then some value else none

-- `str::parse::<u64>`
def parseU64 (s : String) : Option UInt64 :=
  let digits :=
    match s.toList with
    | '+' :: digits => digits
    | digits => digits
  if digits ≠ [] ∧ digits.all Char.isDigit then
    let n := digits.foldl (fun n c => n * 10 + (c.toNat - '0'.toNat)) 0
    if n < 2 ^ 64 then some (.ofNat n) else none
  else
    none

-- `str::strip_prefix("v")`
def stripV (s : String) : Option String :=
  match s.toList with
  | 'v' :: rest => some (.ofList rest)
  | _ => none

-- `body.get(name).and_then(|v| v.as_u64())`
def getU64 (body : JsonValue) (name : String) : Option UInt64 :=
  match body with
  | .object fields =>
    match fields.lookup name with
    | some (.number n) => if 0 ≤ n ∧ n < 2 ^ 64 then some (.ofNat n.toNat) else none
    | _ => none
  | _ => none

-- `DateTime::timestamp`, cast to a `u64`
def timestampU64 (now : DateTime) : UInt64 :=
  .ofInt (now.nanos / 10 ^ 9)

-- What surrounds the synchronisation of one command.
structure CommandSurroundings where
  deliveries : Nat → Delivery
  now : DateTime
  read : ReadReply
  readAt : DateTime

namespace SyncManager

variable {σ : Type}

def isPrefix (p s : String) : Bool :=
  p.toList.isPrefixOf s.toList

-- `str::contains`
def contains (s p : String) : Bool :=
  s.toList.tails.any p.toList.isPrefixOf

def commandEndpoint (commandType : String) (aggregateId : AggregateId) : CommandEndpoint :=
  if isPrefix "inventory." commandType then
    if contains commandType "adjust" then .adjustItem aggregateId
    else if contains commandType "create" then .items
    else .item aggregateId
  else if isPrefix "sales." commandType then
    if contains commandType "create" then .orders else .order aggregateId
  else if isPrefix "products." commandType then
    if contains commandType "create" then .products else .product aggregateId
  else
    .command aggregateId

def aggregateTypeFromCommandType (commandType : String) : String :=
  match String.ofList (commandType.toList.takeWhile (· ≠ '.')) with
  | "inventory" => "inventory_item"
  | "sales" => "sales_order"
  | "products" => "product"
  | other => other

-- A request that reaches the server.
def post (api : Api σ) (cmd : QueuedCommand) (wire : Wire σ) : HttpResponse × Wire σ :=
  let (response, server) := api.post wire.server (commandEndpoint cmd.commandType cmd.aggregateId)
    cmd.payload
  let exchange := { cmd, before := wire.server, after := server, response }
  (response, { server, log := wire.log ++ [exchange] })

def send (api : Api σ) (cmd : QueuedCommand) (delivery : Delivery) (wire : Wire σ)
    : Except String HttpResponse × Wire σ :=
  match delivery with
  | .requestLost error => (.error error, wire)
  | .intercepted response => (.ok response, wire)
  | .responseLost error => (.error error, (post api cmd wire).2)
  | .replaced response => (.ok response, (post api cmd wire).2)
  | .delivered =>
    let (response, wire) := post api cmd wire
    (.ok response, wire)

-- The attempts from number `attempt` on, of which `retries` may be retried.
def attempts (api : Api σ) (cmd : QueuedCommand) (deliveries : Nat → Delivery)
    (attempt retries : Nat)
    (wire : Wire σ)
    : Except SyncError Unit × Wire σ :=
  match send api cmd (deliveries attempt) wire with
  | (.ok response, wire) =>
    if response.isSuccess then
      (.ok (), wire)
    else if response.status = 409 then
      (.error (.conflict response.text), wire)
    else
      match retries with
      | 0 => (.error (.api response.status response.text), wire)
      | retries + 1 => attempts api cmd deliveries (attempt + 1) retries wire
  | (.error error, wire) =>
    match retries with
    | 0 => (.error (.network error), wire)
    | retries + 1 => attempts api cmd deliveries (attempt + 1) retries wire

-- A request with a JSON body can always be cloned.
def syncCommand (api : Api σ) (cmd : QueuedCommand) (deliveries : Nat → Delivery) (wire : Wire σ)
    : Except SyncError Unit × Wire σ :=
  attempts api cmd deliveries 0 3 wire

def extractVersionFromBody (body : JsonValue) (headers : HeaderMap) (now : DateTime) : UInt64 :=
  let fromEtag := ((headers.etag.bind headerToStr).bind stripV).bind parseU64
  let fromHeader := (headers.xStreamVersion.bind headerToStr).bind parseU64
  match fromEtag with
  | some version => version
  | none =>
    match fromHeader with
    | some version => version
    | none =>
      match getU64 body "stream_version" with
      | some version => version
      | none => timestampU64 now

def applyResolution (resolution : ConflictResolution) (cache : LocalCache) (key : ReadModelKey)
    (body : JsonValue) (remoteVersion : UInt64) (now : DateTime)
    : LocalCache :=
  match resolution with
  | .useRemote => cache.cacheReadModelWithVersion key body (some remoteVersion) now
  | .useLocal => cache
  | .merge => cache.cacheReadModelWithVersion key body (some remoteVersion) now

def syncReadModel (cache : LocalCache) (key : ReadModelKey) (reply : ReadReply) (now : DateTime)
    : Except SyncError (Option SyncReadModelResult) × LocalCache :=
  let localVersion := cache.getReadModelVersion key
  match reply with
  | .failed error => (.error (.network error), cache)
  | .response status headers text json =>
    if !(HttpResponse.mk status text).isSuccess then
      (.error (.api status text), cache)
    else
      match json with
      | .error e => (.error (.parse s!"Failed to parse read model: {e}"), cache)
      | .ok body =>
        let remoteVersion := extractVersionFromBody body headers now
        if localVersion.any fun localVer => localVer < remoteVersion then
          let conflict := {
            aggregateType := key.aggregateType
            aggregateId := key.aggregateId
            localVersion
            remoteVersion
            resolution := .useRemote
          }
          (.ok (some (.conflict conflict)),
            applyResolution conflict.resolution cache key body remoteVersion now)
        else
          (.ok (some (.synced key.aggregateType key.aggregateId)),
            cache.cacheReadModelWithVersion key body (some remoteVersion) now)

structure State (σ : Type) where
  queue : CommandQueue
  cache : LocalCache
  wire : Wire σ

def addReadModel (result : SyncResult) (read : Except SyncError (Option SyncReadModelResult))
    : SyncResult :=
  match read with
  | .ok (some (.conflict conflict)) => { result with conflicts := result.conflicts ++ [conflict] }
  | .ok (some (.synced aggregateType aggregateId)) =>
    { result with syncedReadModels := result.syncedReadModels ++ [(aggregateType, aggregateId)] }
  | _ => result

def syncOne (api : Api σ) (tenantId : TenantId) (surroundings : CommandSurroundings)
    (s : SyncResult × State σ) (cmd : QueuedCommand)
    : SyncResult × State σ :=
  let (result, s) := s
  match syncCommand api cmd surroundings.deliveries s.wire with
  | (.ok (), wire) =>
    let queue := s.queue.markSynced cmd.id surroundings.now
    let result := { result with syncedCommands := result.syncedCommands ++ [cmd.id] }
    let key := {
      tenantId
      aggregateType := aggregateTypeFromCommandType cmd.commandType
      aggregateId := cmd.aggregateId
    }
    let (read, cache) := syncReadModel s.cache key surroundings.read surroundings.readAt
    (addReadModel result read, { queue, cache, wire })
  | (.error (.network _), wire) => (result, { s with queue := s.queue.markSyncing cmd.id, wire })
  | (.error .offline, wire) => (result, { s with queue := s.queue.markSyncing cmd.id, wire })
  | (.error e, wire) => (result, { s with queue := s.queue.markFailed cmd.id e.toString, wire })

-- A command comes up once in a round, so that its surroundings go by its identifier.
def syncTenant (api : Api σ) (tenantId : TenantId) (surroundings : Uuid → CommandSurroundings)
    (s : State σ)
    : SyncResult × State σ :=
  (s.queue.listPending tenantId).foldl
    (fun s cmd => syncOne api tenantId (surroundings cmd.id) s cmd)
    (⟨[], [], []⟩, s)

end SyncManager

end ForgeErp
