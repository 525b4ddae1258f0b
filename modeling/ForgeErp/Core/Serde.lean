import ForgeErp.Core.Basic
import ForgeErp.Library.Json

/-!
This module contains the JSON form of the identifiers and time stamps. Their texts are made by the
`uuid` and `chrono` crates and enter as `TextFormat` parameters; the newtypes are transparent.
-/

namespace ForgeErp

variable [TextFormat Uuid] [TextFormat DateTime]

instance : Codec Uuid :=
  Codec.ofText "a UUID string"

instance : Codec DateTime :=
  Codec.ofText "an RFC 3339 formatted date and time string"

instance : Codec TenantId :=
  Codec.transparent TenantId.asUuid TenantId.mk (fun _ => rfl)

instance : Codec AggregateId :=
  Codec.transparent AggregateId.asUuid AggregateId.mk (fun _ => rfl)

end ForgeErp
