import ForgeErp.Api.Lemmas.ReadModels
import ForgeErp.Projections.Lemmas.Guarded
import ForgeErp.Projections.Lemmas.Users

/-!
This module contains tenant isolation of the read models: an envelope changes rows and cursors of
its own tenant only, and what it does there depends on nothing else.
-/

namespace ForgeErp

namespace CursorProjection

variable {K R E : Type} (P : CursorProjection K R E) {t : TenantId} {st st' : Projection K R}

def SameFor (t : TenantId) (st st' : Projection K R) : Prop :=
  ∀ key : StreamKey, key.tenantId = t → P.view st key = P.view st' key

variable {P}

theorem SameFor.get (h : P.SameFor t st st') (k : K) : st.store.get t k = st'.store.get t k :=
  (P.view_ext h).1 k

variable [DecidableEq K] [Codec E] {fresh : AggregateId} {envelope : EventEnvelope JsonValue}

theorem applyEnvelope_fst_congr (h : st.getCursor envelope.key = st'.getCursor envelope.key)
    : (P.applyEnvelope fresh st envelope).1 = (P.applyEnvelope fresh st' envelope).1 := by
  unfold applyEnvelope
  rw [h]
  dsimp only
  repeat' split
  all_goals rfl

theorem SameFor.applyEnvelope (h : P.SameFor t st st') (htenant : envelope.tenantId = t)
    : (P.applyEnvelope fresh st envelope).1 = (P.applyEnvelope fresh st' envelope).1
      ∧ P.SameFor t (P.applyEnvelope fresh st envelope).2
          (P.applyEnvelope fresh st' envelope).2 := by
  have hcursor : st.getCursor envelope.key = st'.getCursor envelope.key :=
    congrArg View.cursor (h envelope.key htenant)
  refine ⟨applyEnvelope_fst_congr hcursor, ?_⟩
  by_cases haccepts : ∃ ev, P.Accepts st envelope ev
  . rcases haccepts with ⟨ev, haccepts⟩
    have haccepts' : P.Accepts st' envelope ev := ⟨haccepts.carries, hcursor ▸ haccepts.gate⟩
    intro key hkey
    rw [P.applyEnvelope_of_accepts haccepts, P.applyEnvelope_of_accepts haccepts',
      P.view_write fresh st haccepts, P.view_write fresh st' haccepts', h key hkey]
  . have hrefused : ∀ ev, ¬ P.Accepts st envelope ev := fun ev hev => haccepts ⟨ev, hev⟩
    have hrefused' : ∀ ev, ¬ P.Accepts st' envelope ev :=
      fun ev hev => haccepts ⟨ev, hev.carries, hcursor ▸ hev.gate⟩
    rw [P.applyEnvelope_of_not_accepts hrefused, P.applyEnvelope_of_not_accepts hrefused']
    exact h

end CursorProjection

namespace AccountBalancesProjection

variable {store store' : InMemoryTenantStore String AccountBalance} {t tenantId : TenantId}

theorem get_applyLine (line : JournalEntryLine) (code : String)
    : (applyLine store tenantId line).get t code
        =
      if t = tenantId ∧ code = line.account.code then
        let rm := (store.get tenantId line.account.code).getD (vacant line)
        some { rm with balance := addI128 rm.balance (delta line) }
      else
        store.get t code :=
  InMemoryTenantStore.get_upsert store tenantId t line.account.code code _

theorem get_applyLines_congr (h : ∀ code, store.get t code = store'.get t code)
    (lines : List JournalEntryLine) (code : String)
    : (applyLines store t lines).get t code = (applyLines store' t lines).get t code := by
  induction lines generalizing store store' with
  | nil => exact h code
  | cons line lines ih =>
    apply @ih (applyLine store t line) (applyLine store' t line)
    intro code
    rw [get_applyLine, get_applyLine, h, h]

structure SameFor (t : TenantId) (st st' : ProjectionWith String AccountBalance Unit) : Prop where
  rows : ∀ code, st.store.get t code = st'.store.get t code
  cursors : ∀ aggregateId, st.getCursor ⟨t, aggregateId⟩ = st'.getCursor ⟨t, aggregateId⟩

variable [TextFormat Uuid] [TextFormat DateTime]
  {st st' : ProjectionWith String AccountBalance Unit}
  {now : DateTime} {envelope : EventEnvelope JsonValue}

theorem applyEnvelope_fst_congr (h : st.getCursor envelope.key = st'.getCursor envelope.key)
    : (projection.applyEnvelope now st envelope).1
        = (projection.applyEnvelope now st' envelope).1 := by
  unfold GuardedProjection.applyEnvelope
  rw [h]
  dsimp only
  repeat' split
  all_goals rfl

theorem SameFor.applyEnvelope (h : SameFor t st st') (htenant : envelope.tenantId = t)
    : (projection.applyEnvelope now st envelope).1 = (projection.applyEnvelope now st' envelope).1
      ∧ SameFor t (projection.applyEnvelope now st envelope).2
          (projection.applyEnvelope now st' envelope).2 := by
  subst htenant
  have hcursor : st.getCursor envelope.key = st'.getCursor envelope.key :=
    h.cursors envelope.aggregateId
  refine ⟨applyEnvelope_fst_congr hcursor, ?_⟩
  by_cases haccepts : ∃ ev, projection.Accepts st envelope ev
  . rcases haccepts with ⟨ev, haccepts⟩
    have haccepts' : projection.Accepts st' envelope ev :=
      ⟨haccepts.carries, hcursor ▸ haccepts.gate⟩
    rw [projection.applyEnvelope_of_accepts haccepts, projection.applyEnvelope_of_accepts haccepts']
    constructor
    . exact get_applyLines_congr h.rows ev.lines
    . intro aggregateId
      rw [projection.getCursor_write, projection.getCursor_write, h.cursors]
  . rw [projection.applyEnvelope_of_not_accepts, projection.applyEnvelope_of_not_accepts]
    . exact h
    . exact fun ev hev => haccepts ⟨ev, hev.carries, hcursor ▸ hev.gate⟩
    . exact fun ev hev => haccepts ⟨ev, hev⟩

end AccountBalancesProjection

namespace UsersProjection

variable {t : TenantId} {users users' : UsersProjection}

def SameFor (t : TenantId) (users users' : UsersProjection) : Prop :=
  ∀ userId, users.get t userId = users'.get t userId

theorem SameFor.modify (h : SameFor t users users') (userId : UserId) (occurredAt : DateTime)
    (f : UserReadModel → UserReadModel)
    : SameFor t (users.modify t userId occurredAt f) (users'.modify t userId occurredAt f) := by
  intro userId'
  rw [get_modify, get_modify, h]

theorem SameFor.applyEvent (h : SameFor t users users') (ev : UserEvent)
    : SameFor t (users.applyEvent t ev) (users'.applyEvent t ev) := by
  cases ev with
  | created e =>
    intro userId
    unfold UsersProjection.applyEvent applyCreated UsersProjection.get
    dsimp only
    rw [InMemoryTenantStore.get_upsert, InMemoryTenantStore.get_upsert]
    split
    . rfl
    . exact h userId
  | roleAssigned e => exact h.modify _ _ _
  | roleRevoked e => exact h.modify _ _ _
  | suspended e => exact h.modify _ _ _
  | activated e => exact h.modify _ _ _

variable [TextFormat Uuid] [TextFormat DateTime] {envelope : EventEnvelope JsonValue}

theorem SameFor.applyEnvelope (h : SameFor t users users') (htenant : envelope.tenantId = t)
    : (users.applyEnvelope envelope).1 = (users'.applyEnvelope envelope).1
      ∧ SameFor t (users.applyEnvelope envelope).2 (users'.applyEnvelope envelope).2 := by
  subst htenant
  unfold UsersProjection.applyEnvelope
  split
  . exact ⟨rfl, h⟩
  . cases (Codec.dec envelope.payload : Except String UserEvent) with
    | error err => exact ⟨rfl, h⟩
    | ok ev => exact ⟨rfl, h.applyEvent ev⟩

end UsersProjection

namespace ReadModels

variable {t : TenantId} {readModels readModels' : ReadModels}

structure SameFor (t : TenantId) (readModels readModels' : ReadModels) : Prop where
  inventory : InventoryStockProjection.projection.SameFor t readModels.inventory
    readModels'.inventory
  parties : PartyDirectoryProjection.projection.SameFor t readModels.parties readModels'.parties
  products : ProductCatalogProjection.projection.SameFor t readModels.products readModels'.products
  sales : SalesOrdersProjection.projection.SameFor t readModels.sales readModels'.sales
  invoices : InvoicesProjection.projection.SameFor t readModels.invoices readModels'.invoices
  arAging : InvoiceAgingProjection.projection.SameFor t readModels.arAging readModels'.arAging
  purchases : PurchaseOrdersProjection.projection.SameFor t readModels.purchases
    readModels'.purchases
  ledger : AccountBalancesProjection.SameFor t readModels.ledger readModels'.ledger
  users : UsersProjection.SameFor t readModels.users readModels'.users

theorem SameFor.trans {readModels'' : ReadModels} (h : SameFor t readModels readModels')
    (h' : SameFor t readModels' readModels'') : SameFor t readModels readModels'' where
  inventory key hkey := (h.inventory key hkey).trans (h'.inventory key hkey)
  parties key hkey := (h.parties key hkey).trans (h'.parties key hkey)
  products key hkey := (h.products key hkey).trans (h'.products key hkey)
  sales key hkey := (h.sales key hkey).trans (h'.sales key hkey)
  invoices key hkey := (h.invoices key hkey).trans (h'.invoices key hkey)
  arAging key hkey := (h.arAging key hkey).trans (h'.arAging key hkey)
  purchases key hkey := (h.purchases key hkey).trans (h'.purchases key hkey)
  ledger := ⟨fun code => (h.ledger.rows code).trans (h'.ledger.rows code),
    fun aggregateId => (h.ledger.cursors aggregateId).trans (h'.ledger.cursors aggregateId)⟩
  users userId := (h.users userId).trans (h'.users userId)

theorem SameFor.read (h : SameFor t readModels readModels') {query : Query}
    (htenant : query.tenantId = t)
    : readModels.read query = readModels'.read query := by
  subst htenant
  cases query with
  | inventoryGet tenantId itemId => exact h.inventory.get itemId
  | productsGet tenantId productId => exact h.products.get productId
  | partiesGet tenantId partyId => exact h.parties.get partyId
  | salesGet tenantId orderId => exact h.sales.get orderId
  | invoicesGet tenantId invoiceId => exact h.invoices.get invoiceId
  | purchasesGet tenantId orderId => exact h.purchases.get orderId
  | ledgerBalanceGet tenantId code => exact h.ledger.rows code
  | usersGet tenantId userId => exact h.users userId
  | usersEffectivePermissions tenantId userId rolePermissions =>
    have hget : readModels.users.get tenantId userId = readModels'.users.get tenantId userId :=
      h.users userId
    unfold ReadModels.read UsersProjection.effectivePermissions
    dsimp only
    rw [hget]

variable [TextFormat Uuid] [TextFormat DateTime] {fresh : AggregateId} {now : DateTime}
  {env : EventEnvelope JsonValue}

theorem ledger_applyEnvelope (self : ReadModels)
    : (self.applyEnvelope fresh now env).2.ledger
        =
      (AccountBalancesProjection.projection.applyEnvelope now self.ledger env).2 := by
  by_cases htype : env.aggregateType = "accounting.ledger"
  . unfold applyEnvelope
    rw [htype]
    rfl
  . rw [GuardedProjection.applyEnvelope_of_not_accepts _ (fun ev hev => htype hev.carries.type_eq)]
    unfold applyEnvelope
    split <;> first | rfl | (split <;> rfl) | exact absurd ‹_› htype

theorem applied_congr (h : SameFor t readModels readModels') (htenant : env.tenantId = t)
    : (readModels.applyEnvelope fresh now env).1 = (readModels'.applyEnvelope fresh now env).1 := by
  unfold applyEnvelope
  split
  . exact congrArg Except.toBool (h.inventory.applyEnvelope htenant).1
  . exact congrArg Except.toBool (h.parties.applyEnvelope htenant).1
  . exact congrArg Except.toBool (h.products.applyEnvelope htenant).1
  . exact congrArg Except.toBool (h.sales.applyEnvelope htenant).1
  . have hinvoices : (InvoicesProjection.projection.applyEnvelope fresh readModels.invoices env).1
        = (InvoicesProjection.projection.applyEnvelope fresh readModels'.invoices env).1 :=
      (h.invoices.applyEnvelope htenant).1
    generalize InvoicesProjection.projection.applyEnvelope fresh readModels.invoices env
      = result at hinvoices
    generalize InvoicesProjection.projection.applyEnvelope fresh readModels'.invoices env
      = result' at hinvoices
    rcases result with ⟨applied, invoices⟩
    rcases result' with ⟨applied', invoices'⟩
    dsimp only at hinvoices
    subst hinvoices
    cases applied with
    | error err => rfl
    | ok => exact congrArg Except.toBool (h.arAging.applyEnvelope htenant).1
  . exact congrArg Except.toBool (h.purchases.applyEnvelope htenant).1
  . exact congrArg Except.toBool (h.ledger.applyEnvelope htenant).1
  . exact congrArg Except.toBool (h.users.applyEnvelope htenant).1
  . rfl

theorem SameFor.applyEnvelope (h : SameFor t readModels readModels') (htenant : env.tenantId = t)
    : (readModels.applyEnvelope fresh now env).1 = (readModels'.applyEnvelope fresh now env).1
      ∧ SameFor t (readModels.applyEnvelope fresh now env).2
          (readModels'.applyEnvelope fresh now env).2 := by
  refine ⟨applied_congr h htenant, ?_⟩
  constructor
  . rw [inventory_applyEnvelope, inventory_applyEnvelope]
    exact (h.inventory.applyEnvelope htenant).2
  . rw [parties_applyEnvelope, parties_applyEnvelope]
    exact (h.parties.applyEnvelope htenant).2
  . rw [products_applyEnvelope, products_applyEnvelope]
    exact (h.products.applyEnvelope htenant).2
  . rw [sales_applyEnvelope, sales_applyEnvelope]
    exact (h.sales.applyEnvelope htenant).2
  . rw [invoices_applyEnvelope, invoices_applyEnvelope]
    exact (h.invoices.applyEnvelope htenant).2
  . rw [arAging_applyEnvelope, arAging_applyEnvelope, (h.invoices.applyEnvelope htenant).1]
    split
    . exact (h.arAging.applyEnvelope htenant).2
    . exact h.arAging
  . rw [purchases_applyEnvelope, purchases_applyEnvelope]
    exact (h.purchases.applyEnvelope htenant).2
  . rw [ledger_applyEnvelope, ledger_applyEnvelope]
    exact (h.ledger.applyEnvelope htenant).2
  . rw [users_applyEnvelope, users_applyEnvelope]
    split
    . exact (h.users.applyEnvelope htenant).2
    . exact h.users

theorem SameFor.project (h : SameFor t readModels readModels') (htenant : env.tenantId = t)
    : (readModels.project fresh now env).1 = (readModels'.project fresh now env).1
      ∧ SameFor t (readModels.project fresh now env).2 (readModels'.project fresh now env).2 := by
  rcases @SameFor.applyEnvelope t readModels readModels' _ _ fresh now env h htenant
      with ⟨happlied, hnext⟩
  unfold ReadModels.project
  dsimp only
  rw [happlied]
  exact ⟨rfl, hnext⟩

theorem tenantId_of_project {self : ReadModels} {message : RealtimeMessage}
    (h : message ∈ (self.project fresh now env).1) : message.tenantId = env.tenantId := by
  unfold ReadModels.project at h
  dsimp only at h
  split at h
  . rw [List.mem_singleton.mp h]
    rfl
  . cases h

end ReadModels

end ForgeErp
