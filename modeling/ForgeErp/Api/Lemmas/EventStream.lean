import ForgeErp.Api.EventStream

/-!
This module contains the verification of the payload previews. The cut is made at a byte, whether or
not a character ends there.
-/

namespace ForgeErp

namespace EventStream

section Previews

variable [FloatJson] {payload : JsonValue} {preview : String}

/--
The whole text, or a prefix of it that ends between two characters, with three dots.
-/
def IsPreview (text preview : String) : Prop :=
  if text.utf8ByteSize ≤ 500 then
    preview = text
  else
    ∃ head rest, text = head ++ rest ∧ head.utf8ByteSize ≤ 500 ∧ preview = head ++ "..."

def Previewed (payload : JsonValue) : Prop :=
  ∃ preview, truncatePayload payload = some preview ∧ IsPreview payload.text preview

def Cuttable (text : String) : Prop :=
  text.utf8ByteSize ≤ 500 ∨ (⟨500⟩ : String.Pos.Raw).IsValid text

theorem truncatePayload_short (h : payload.text.utf8ByteSize ≤ 500)
    : truncatePayload payload = some payload.text :=
  if_neg (Nat.not_lt.mpr h)

theorem truncatePayload_long (h : ¬ payload.text.utf8ByteSize ≤ 500)
    : truncatePayload payload = (payload.text.prefixBytes 500).map fun head => head ++ "..." :=
  if_pos (Nat.not_le.mp h)

theorem isPreview_of_truncatePayload (h : truncatePayload payload = some preview)
    : IsPreview payload.text preview := by
  unfold IsPreview
  by_cases hshort : payload.text.utf8ByteSize ≤ 500
  . rw [truncatePayload_short hshort] at h
    rw [if_pos hshort]
    exact (Option.some.inj h).symm
  . rw [truncatePayload_long hshort, Option.map_eq_some_iff] at h
    rcases h with ⟨head, hhead, hpreview⟩
    rcases String.prefixBytes_eq_some hhead with ⟨_, hsize, rest, happend⟩
    rw [if_neg hshort]
    exact ⟨head, rest, happend, Nat.le_of_eq hsize, hpreview.symm⟩

theorem truncatePayload_eq_none : truncatePayload payload = none ↔ ¬ Cuttable payload.text := by
  unfold Cuttable
  by_cases hshort : payload.text.utf8ByteSize ≤ 500
  . rw [truncatePayload_short hshort]
    constructor
    . intro h
      cases h
    . intro h
      exact absurd (Or.inl hshort) h
  . rw [truncatePayload_long hshort, Option.map_eq_none_iff, not_or]
    constructor
    . intro hnone
      refine ⟨hshort, ?_⟩
      intro hvalid
      rcases String.prefixBytes_of_isValid hvalid with ⟨head, hhead⟩
      rw [hnone] at hhead
      cases hhead
    . rintro ⟨_, hinside⟩
      exact String.prefixBytes_eq_none hinside

theorem previewed_iff_cuttable : Previewed payload ↔ Cuttable payload.text := by
  constructor
  . rintro ⟨preview, hpreview, _⟩
    by_contra hcut
    rw [truncatePayload_eq_none.mpr hcut] at hpreview
    cases hpreview
  . intro hcut
    cases htruncate : truncatePayload payload with
    | none => exact absurd hcut (truncatePayload_eq_none.mp htruncate)
    | some preview => exact ⟨preview, htruncate, isPreview_of_truncatePayload htruncate⟩

end Previews

section Forwarding

theorem send_ne_panicked (connection : Connection) (r : Reception) (event : SseEvent)
    : send connection r event ≠ .panicked := by
  unfold send
  split
  . intro h
    cases h
  . intro h
    cases h

variable [FloatJson] [Uppercase] [TextFormat Uuid] [Rfc3339] {tenantId : TenantId}

-- A payload of the tenant whose byte 500 is inside of a character.
def Kills (tenantId : TenantId) (r : Reception) : Prop :=
  ∃ envelope, r.received = .envelope envelope
    ∧ envelope.tenantId = tenantId
    ∧ ¬ Cuttable envelope.payload.text

theorem receive_eq_panicked {connection : Connection} {r : Reception}
    : receive tenantId connection r = .panicked ↔ Kills tenantId r := by
  unfold receive Kills
  cases hreceived : r.received with
  | timeout =>
    constructor
    . intro h
      dsimp only at h
      split at h
      . exact absurd h (send_ne_panicked _ _ _)
      . cases h
    . rintro ⟨envelope, henvelope, _⟩
      cases henvelope
  | disconnected =>
    constructor
    . intro h
      cases h
    . rintro ⟨envelope, henvelope, _⟩
      cases henvelope
  | envelope envelope =>
    dsimp only
    by_cases htenant : envelope.tenantId = tenantId
    . rw [if_neg (not_not_intro htenant)]
      constructor
      . intro h
        split at h
        . next hnone => exact ⟨envelope, rfl, htenant, truncatePayload_eq_none.mp hnone⟩
        . exact absurd h (send_ne_panicked _ _ _)
      . rintro ⟨envelope', henvelope, _, hcut⟩
        cases henvelope
        rw [truncatePayload_eq_none.mpr hcut]
    . rw [if_pos htenant]
      constructor
      . intro h
        cases h
      . rintro ⟨envelope', henvelope, htenant', _⟩
        cases henvelope
        exact absurd htenant' htenant

theorem run_append (task : Task) (before after : List Reception)
    : run tenantId task (before ++ after) = run tenantId (run tenantId task before) after :=
  List.foldl_append

-- Neither an end nor a panic is left again.
theorem run_panicked (receptions : List Reception)
    : run tenantId .panicked receptions = .panicked := by
  induction receptions with
  | nil => rfl
  | cons r receptions ih => exact ih

theorem run_ended (connection : Connection) (receptions : List Reception)
    : run tenantId (.ended connection) receptions = .ended connection := by
  induction receptions with
  | nil => rfl
  | cons r receptions ih => exact ih

theorem run_eq_panicked {connection : Connection} {receptions : List Reception}
    : run tenantId (.running connection) receptions = .panicked
        ↔ ∃ before r after connection', receptions = before ++ r :: after
            ∧ run tenantId (.running connection) before = .running connection'
            ∧ Kills tenantId r := by
  induction receptions generalizing connection with
  | nil =>
    constructor
    . intro h
      cases h
    . rintro ⟨before, r, after, _, happend, _⟩
      cases before with
      | nil => cases happend
      | cons _ _ => cases happend
  | cons r receptions ih =>
    have hstep : run tenantId (.running connection) (r :: receptions)
        = run tenantId (receive tenantId connection r) receptions := rfl
    constructor
    . intro h
      rw [hstep] at h
      cases hreceive : receive tenantId connection r with
      | panicked =>
        exact ⟨[], r, receptions, connection, rfl, rfl, receive_eq_panicked.mp hreceive⟩
      | ended connection' =>
        rw [hreceive, run_ended] at h
        cases h
      | running connection' =>
        rw [hreceive] at h
        rcases ih.mp h with ⟨before, r', after, connection'', happend, hbefore, hkills⟩
        refine ⟨r :: before, r', after, connection'', ?_, ?_, hkills⟩
        . rw [happend, List.cons_append]
        . change run tenantId (receive tenantId connection r) before = _
          rw [hreceive]
          exact hbefore
    . rintro ⟨before, r', after, connection', happend, hbefore, hkills⟩
      rw [happend, run_append, hbefore]
      change run tenantId (receive tenantId connection' r') after = .panicked
      rw [receive_eq_panicked.mpr hkills]
      exact run_panicked after

theorem stream_survives_iff (tenantId : TenantId) (connection : Connection)
    : (∀ payload, Previewed payload ↔ Cuttable payload.text)
      ∧ ∀ receptions, run tenantId (.running connection) receptions = .panicked
          ↔ ∃ before r after connection', receptions = before ++ r :: after
              ∧ run tenantId (.running connection) before = .running connection'
              ∧ Kills tenantId r :=
  ⟨fun _ => previewed_iff_cuttable, fun _ => run_eq_panicked⟩

end Forwarding

section Accents

scoped instance : FloatJson := ⟨fun _ => "0.5"⟩

-- Between its quotes the text has 500 bytes, so that the last character takes the bytes 499 and
-- 500.
def accented : String :=
  String.ofList (List.replicate 498 'a') ++ String.singleton 'é'

def opened : String :=
  "\"" ++ String.ofList (List.replicate 498 'a')

theorem text_accented
    : (JsonValue.string accented).text = opened ++ (String.singleton 'é' ++ "\"") := by
  have hplain : ∀ c ∈ accented.toList, JsonValue.escape c = String.singleton c := by
    intro c hc
    unfold accented at hc
    rw [String.toList_append, String.toList_ofList, String.toList_singleton, List.mem_append,
      List.mem_singleton] at hc
    rcases hc with hc | rfl
    . rw [List.eq_of_mem_replicate hc]
      rfl
    . rfl
  change JsonValue.quote accented = _
  rw [JsonValue.quote_of_plain hplain]
  unfold accented opened
  rw [String.append_assoc, String.append_assoc]

theorem utf8ByteSize_opened : opened.utf8ByteSize = 499 := by
  have hletters : (String.ofList (List.replicate 498 'a')).utf8ByteSize = 498 := by
    rw [String.utf8ByteSize_ofList, String.utf8Len_replicate]
    rfl
  unfold opened
  rw [String.utf8ByteSize_append, hletters]
  rfl

theorem accent_kills_stream
    : ¬ Previewed (.string accented) ∧ truncatePayload (.string accented) = none := by
  have hcut : ¬ Cuttable (JsonValue.string accented).text := by
    unfold Cuttable
    rw [text_accented, not_or]
    constructor
    . rw [String.utf8ByteSize_append, String.utf8ByteSize_append, utf8ByteSize_opened]
      decide
    . apply String.not_isValid_inside
      . rw [utf8ByteSize_opened]
        decide
      . rw [utf8ByteSize_opened]
        decide
  exact ⟨fun hpreviewed => hcut (previewed_iff_cuttable.mp hpreviewed),
    truncatePayload_eq_none.mpr hcut⟩

end Accents

end EventStream

end ForgeErp
