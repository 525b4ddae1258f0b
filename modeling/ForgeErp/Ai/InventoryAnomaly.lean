import ForgeErp.Core.Basic
import ForgeErp.Library.Json

/-!
This module contains the detection of unusual stock movements. `usize` has 64 bits and `none` is a
panic: a sum that overflows in a build with overflow checks, or a range that is not one of the
slice.
-/

namespace ForgeErp

-- How `f64` is printed: `{}` and `{:.2}`.
class FloatText where
  display : Float → String
  fixed2 : Float → String

namespace Concrete

def fixed2 (x : Float) : String :=
  let cents := (x.abs * 100.0).round.toUInt64.toNat
  let sign := if x < 0.0 then "-" else ""
  let whole := cents / 100
  let tenths := cents / 10 % 10
  let hundredths := cents % 10
  s!"{sign}{whole}.{tenths}{hundredths}"

scoped instance : FloatText where
  display := Float.toString
  fixed2 := fixed2

end Concrete

inductive AiError where
  | invalidInput (msg : String)
  | inferenceFailed (msg : String)
  | internal (msg : String)
  deriving DecidableEq, Repr

structure AiResult where
  score : Float
  confidence : Float
  explanation : Option String
  metadata : JsonValue

namespace AiResult

def new (score confidence : Float) : AiResult where
  score
  confidence
  explanation := none
  metadata := .null

def withExplanation (self : AiResult) (explanation : String) : AiResult :=
  { self with explanation := some explanation }

def withMetadata (self : AiResult) (metadata : JsonValue) : AiResult :=
  { self with metadata }

end AiResult

structure InventoryItemSnapshot where
  itemId : String
  quantity : Int64
  historicalTrend : List Int64

structure InventorySnapshot where
  tenantId : TenantId
  items : List InventoryItemSnapshot

structure AnomalyDetected where
  itemId : String
  severity : Float
  explanation : String

namespace InventoryAnomaly

def addUsize (overflowChecks : Bool) (a b : UInt64) : Option UInt64 :=
  if overflowChecks && decide (2 ^ 64 ≤ a.toNat + b.toNat) then
    none
  else
    some (a + b)

-- `&xs[start..end]`
def sliceOf {α : Type} (xs : List α) (start stop : Nat) : Option (List α) :=
  if start ≤ stop ∧ stop ≤ xs.length then
    some ((xs.drop start).take (stop - start))
  else
    none

-- `f64::EPSILON`
def epsilon : Float := 2.220446049250313e-16

def sumOf (xs : List Float) : Float :=
  xs.foldl (· + ·) 0.0

def mean (xs : List Float) : Float :=
  if xs.isEmpty then 0.0 else sumOf xs / Float.ofNat xs.length

def stddevSample (xs : List Float) (mean : Float) : Float :=
  if xs.length < 2 then
    0.0
  else
    let var := sumOf (xs.map fun x =>
      let d := x - mean
      d * d) / Float.ofNat (xs.length - 1)
    var.sqrt

-- The loop over `1..historical_trend.len()`, with the two reads of each round.
def deltasOf (historicalTrend : List Int64) : Option (List Float) :=
  (List.range' 1 (historicalTrend.length - 1)).mapM fun i =>
    match historicalTrend[i - 1]?, historicalTrend[i]? with
    | some prev, some cur => some (cur.toFloat - prev.toFloat)
    | _, _ => none

variable [FloatText]

-- What `detect_item_anomaly` makes of the last delta once it has its baseline.
def assess (itemId : String) (zThreshold lastDelta : Float) (baseline : List Float)
    : Option AnomalyDetected :=
  let mean := mean baseline
  let std := stddevSample baseline mean
  let lastDeltaText := FloatText.fixed2 lastDelta
  let meanText := FloatText.fixed2 mean
  if std ≤ epsilon then
    if (lastDelta - mean).abs > 0.0 then
      some {
        itemId
        severity := 1.0
        explanation := s!"item {itemId} moved by {lastDeltaText} units; "
          ++ s!"baseline movement is constant at {meanText} (std≈0)"
      }
    else
      none
  else
    let z := (lastDelta - mean) / std
    let az := z.abs
    if az < zThreshold then
      none
    else
      let stdText := FloatText.fixed2 std
      let zText := FloatText.fixed2 z
      let thresholdText := FloatText.fixed2 zThreshold
      some {
        itemId
        severity := az / zThreshold
        explanation := s!"item {itemId} moved by {lastDeltaText} units; "
          ++ s!"baseline mean={meanText}, std={stdText}, z={zText} (threshold={thresholdText})"
      }

variable (overflowChecks : Bool)

def detectItemAnomaly (item : InventoryItemSnapshot) (window : UInt64) (zThreshold : Float)
    : Option (Option AnomalyDetected) :=
  match addUsize overflowChecks window 2 with
  | none => none
  | some needed =>
    if item.historicalTrend.length < needed.toNat then
      some none
    else
      match deltasOf item.historicalTrend with
      | none => none
      | some deltas =>
        let lastDelta := deltas.getLast?.getD 0.0
        match addUsize overflowChecks window 1 with
        | none => none
        | some width =>
          -- both subtractions saturate
          let start := deltas.length - width.toNat
          let stop := deltas.length - 1
          match sliceOf deltas start stop with
          | none => none
          | some baseline => some (assess item.itemId zThreshold lastDelta baseline)

def detectAll (items : List InventoryItemSnapshot) (window : UInt64) (zThreshold : Float)
    : Option (List AnomalyDetected) :=
  match items with
  | [] => some []
  | item :: items =>
    match detectItemAnomaly overflowChecks item window zThreshold with
    | none => none
    | some found => (detectAll items window zThreshold).map (found.toList ++ ·)

end InventoryAnomaly

structure InventoryAnomalyJob where
  tenantId : TenantId
  input : InventorySnapshot
  window : UInt64
  zThreshold : Float

namespace InventoryAnomalyJob

variable [FloatText] (overflowChecks : Bool)

def new (tenantId : TenantId) (input : InventorySnapshot) : InventoryAnomalyJob where
  tenantId
  input
  window := 10
  zThreshold := 3.0

def withWindow (self : InventoryAnomalyJob) (window : UInt64) : InventoryAnomalyJob :=
  { self with window }

def withZThreshold (self : InventoryAnomalyJob) (zThreshold : Float) : InventoryAnomalyJob :=
  { self with zThreshold }

-- `json!` of a number that is not finite is null.
def floatValue (x : Float) : JsonValue :=
  if x.isFinite then .float x.toBits.toBitVec else .null

def anomalyValue (a : AnomalyDetected) : JsonValue :=
  .object [
    ("item_id", .string a.itemId),
    ("severity", floatValue a.severity),
    ("explanation", .string a.explanation)]

-- The checks that `run` makes first.
def check (self : InventoryAnomalyJob) : Except AiError Unit :=
  if self.input.tenantId ≠ self.tenantId then
    .error (.invalidInput "tenant_id mismatch between job and snapshot")
  else if self.window < 2 then
    .error (.invalidInput "window must be >= 2 to compute standard deviation")
  else if !(self.zThreshold.isFinite && decide (self.zThreshold > 0.0)) then
    .error (.invalidInput "z_threshold must be a finite positive number")
  else
    .ok ()

def run [TextFormat Uuid] (self : InventoryAnomalyJob) : Option (Except AiError AiResult) :=
  match self.check with
  | .error err => some (.error err)
  | .ok () =>
    match InventoryAnomaly.detectAll overflowChecks self.input.items self.window self.zThreshold
      with
    | none => none
    | some anomalies =>
      let score := Float.ofNat anomalies.length
      let confidence := if anomalies.isEmpty then 1.0 else 0.8
      let count := anomalies.length
      let threshold := FloatText.display self.zThreshold
      let window := self.window.toNat
      let explanation := s!"detected {count} anomalous inventory movement(s) "
        ++ s!"using rolling z-score (window={window}, threshold={threshold})"
      some (.ok (((AiResult.new score confidence).withExplanation explanation).withMetadata
        (.object [
          ("kind", .string "inventory.anomaly_detection"),
          ("tenant_id", .string (TextFormat.print self.tenantId.asUuid)),
          ("window", .number window),
          ("z_threshold", floatValue self.zThreshold),
          ("anomalies", .array (anomalies.map anomalyValue))])))

end InventoryAnomalyJob

end ForgeErp
