import ForgeErp.Core.Basic
import ForgeErp.Library.Json
import ForgeErp.Library.KeyMap

/-!
This module contains the local cache: the table `read_models`, as long as the database answers. The
integers of SQLite are signed.
-/

namespace ForgeErp

structure ReadModelKey where
  tenantId : TenantId
  aggregateType : String
  aggregateId : AggregateId
  deriving DecidableEq

structure CachedReadModel where
  data : JsonValue
  cachedAt : DateTime
  version : Option Int64

structure LocalCache where
  readModels : KeyMap ReadModelKey CachedReadModel

namespace LocalCache

def new : LocalCache :=
  ⟨.empty⟩

def cacheReadModelWithVersion (self : LocalCache) (key : ReadModelKey) (model : JsonValue)
    (version : Option UInt64) (now : DateTime)
    : LocalCache :=
  ⟨self.readModels.insert key {
    data := model
    cachedAt := now
    version := version.map UInt64.toInt64
  }⟩

def getReadModelVersion (self : LocalCache) (key : ReadModelKey) : Option UInt64 :=
  match self.readModels.get key with
  | some row => row.version.map Int64.toUInt64
  | none => none

end LocalCache

end ForgeErp
