import ForgeErp.Ai.InventoryAnomaly
import ForgeErp.Ai.InventoryAnomalyRunner
import ForgeErp.Ai.Lemmas.InventoryAnomaly
import ForgeErp.Ai.Lemmas.InventoryAnomalyRunner
import ForgeErp.Api.Admin
import ForgeErp.Api.Authentication
import ForgeErp.Api.Dto
import ForgeErp.Api.EventStream
import ForgeErp.Api.Explain
import ForgeErp.Api.Lemmas.Admin
import ForgeErp.Api.Lemmas.Answers
import ForgeErp.Api.Lemmas.EventStream
import ForgeErp.Api.Lemmas.Explain
import ForgeErp.Api.Lemmas.Handlers
import ForgeErp.Api.Lemmas.Purchases
import ForgeErp.Api.Lemmas.ReadModels
import ForgeErp.Api.Lemmas.Requests
import ForgeErp.Api.Lemmas.Serial
import ForgeErp.Api.Lemmas.Server
import ForgeErp.Api.Lemmas.Settled
import ForgeErp.Api.Lemmas.Stranded
import ForgeErp.Api.Lemmas.TenantRows
import ForgeErp.Api.Lemmas.Tenants
import ForgeErp.Api.Lemmas.Views
import ForgeErp.Api.Purchases
import ForgeErp.Api.Routes
import ForgeErp.Api.Server
import ForgeErp.Api.Services
import ForgeErp.Core.Basic
import ForgeErp.Core.Serde
import ForgeErp.Core.Text
import ForgeErp.Desktop.Cache
import ForgeErp.Desktop.Client
import ForgeErp.Desktop.CommandQueue
import ForgeErp.Desktop.ItemServer
import ForgeErp.Desktop.Lemmas.AtMostOnce
import ForgeErp.Desktop.Lemmas.Cache
import ForgeErp.Desktop.Lemmas.ItemServer
import ForgeErp.Desktop.Lemmas.Lossless
import ForgeErp.Desktop.Lemmas.Order
import ForgeErp.Desktop.Lemmas.SyncTenant
import ForgeErp.Desktop.SyncManager
import ForgeErp.Dispatcher.Basic
import ForgeErp.Dispatcher.Calls
import ForgeErp.Dispatcher.Concurrent
import ForgeErp.Dispatcher.Lemmas.Accounted
import ForgeErp.Dispatcher.Lemmas.Authentic
import ForgeErp.Dispatcher.Lemmas.Concurrent
import ForgeErp.Dispatcher.Lemmas.Decide
import ForgeErp.Dispatcher.Lemmas.Identity
import ForgeErp.Dispatcher.Lemmas.Isolation
import ForgeErp.Dispatcher.Lemmas.Optimistic
import ForgeErp.Dispatcher.Lemmas.Persistent
import ForgeErp.Dispatcher.Lemmas.Publish
import ForgeErp.Dispatcher.Lemmas.Rehydration
import ForgeErp.Dispatcher.Lemmas.Retry
import ForgeErp.Dispatcher.Lemmas.Sequential
import ForgeErp.Dispatcher.Lemmas.Serial
import ForgeErp.Dispatcher.Persistent
import ForgeErp.Dispatcher.WriteSide
import ForgeErp.Domain.Accounting
import ForgeErp.Domain.Ids
import ForgeErp.Domain.Inventory
import ForgeErp.Domain.Invoicing
import ForgeErp.Domain.Kinds
import ForgeErp.Domain.Lemmas.Accounting
import ForgeErp.Domain.Lemmas.Catalog
import ForgeErp.Domain.Lemmas.Decisions
import ForgeErp.Domain.Lemmas.Histories
import ForgeErp.Domain.Lemmas.Identity
import ForgeErp.Domain.Lemmas.Inventory
import ForgeErp.Domain.Lemmas.InvoiceRuns
import ForgeErp.Domain.Lemmas.InvoiceTotals
import ForgeErp.Domain.Lemmas.Invoicing
import ForgeErp.Domain.Lemmas.Orders
import ForgeErp.Domain.Lemmas.Produced
import ForgeErp.Domain.Lemmas.Repeat
import ForgeErp.Domain.Lemmas.Users
import ForgeErp.Domain.Parties
import ForgeErp.Domain.Products
import ForgeErp.Domain.Purchasing
import ForgeErp.Domain.Runs
import ForgeErp.Domain.Sales
import ForgeErp.Domain.Users
import ForgeErp.EventBus.Lemmas.Deliveries
import ForgeErp.EventBus.Lemmas.Filters
import ForgeErp.EventBus.Lemmas.Polling
import ForgeErp.EventBus.Lemmas.RedisStreams
import ForgeErp.EventBus.RedisStreams
import ForgeErp.EventStore.Basic
import ForgeErp.EventStore.Impl.Calls
import ForgeErp.EventStore.Impl.InMemory
import ForgeErp.EventStore.Impl.Postgres
import ForgeErp.EventStore.Impl.Publishing
import ForgeErp.EventStore.Impl.Query
import ForgeErp.EventStore.Impl.Transactions
import ForgeErp.EventStore.Lemmas.Agreement
import ForgeErp.EventStore.Lemmas.InMemory
import ForgeErp.EventStore.Lemmas.Isolation
import ForgeErp.EventStore.Lemmas.Postgres
import ForgeErp.EventStore.Lemmas.Progress
import ForgeErp.EventStore.Lemmas.Query
import ForgeErp.EventStore.Lemmas.Transactions
import ForgeErp.Events.Basic
import ForgeErp.Events.Lemmas.Runner
import ForgeErp.Events.Runner
import ForgeErp.Jobs.Calls
import ForgeErp.Jobs.Concurrent
import ForgeErp.Jobs.Executor
import ForgeErp.Jobs.Lemmas.Agreement
import ForgeErp.Jobs.Lemmas.Attempts
import ForgeErp.Jobs.Lemmas.Calls
import ForgeErp.Jobs.Lemmas.Claiming
import ForgeErp.Jobs.Lemmas.Concurrent
import ForgeErp.Jobs.Lemmas.Conservation
import ForgeErp.Jobs.Lemmas.Handlers
import ForgeErp.Jobs.Lemmas.Isolation
import ForgeErp.Jobs.Lemmas.Store
import ForgeErp.Jobs.Lemmas.Terminal
import ForgeErp.Jobs.Store
import ForgeErp.Jobs.Types
import ForgeErp.Library.ConsumerGroup
import ForgeErp.Library.Json
import ForgeErp.Library.JsonText
import ForgeErp.Library.KeyMap
import ForgeErp.Library.Machine
import ForgeErp.Library.Numbered
import ForgeErp.Library.Paging
import ForgeErp.Library.Program
import ForgeErp.Library.Refold
import ForgeErp.Library.Relay
import ForgeErp.Library.Table
import ForgeErp.Library.TextPrefix
import ForgeErp.Library.Totals
import ForgeErp.Library.Unwinding
import ForgeErp.Library.View
import ForgeErp.Projections.Impl.Basic
import ForgeErp.Projections.Impl.Guarded
import ForgeErp.Projections.Impl.Live
import ForgeErp.Projections.Impl.Members
import ForgeErp.Projections.Impl.Replay
import ForgeErp.Projections.Impl.Restart
import ForgeErp.Projections.Impl.StockPath
import ForgeErp.Projections.Impl.Summaries
import ForgeErp.Projections.Impl.Users
import ForgeErp.Projections.Lemmas.AccountNames
import ForgeErp.Projections.Lemmas.Accounting
import ForgeErp.Projections.Lemmas.Basic
import ForgeErp.Projections.Lemmas.CustomerBalances
import ForgeErp.Projections.Lemmas.CustomerBookings
import ForgeErp.Projections.Lemmas.CustomerBooks
import ForgeErp.Projections.Lemmas.CustomerRebuild
import ForgeErp.Projections.Lemmas.CustomerReplay
import ForgeErp.Projections.Lemmas.Delivery
import ForgeErp.Projections.Lemmas.Genuine
import ForgeErp.Projections.Lemmas.Guarded
import ForgeErp.Projections.Lemmas.Interrupted
import ForgeErp.Projections.Lemmas.InvoiceRows
import ForgeErp.Projections.Lemmas.Live
import ForgeErp.Projections.Lemmas.Loading
import ForgeErp.Projections.Lemmas.OpenInvoices
import ForgeErp.Projections.Lemmas.OrderRows
import ForgeErp.Projections.Lemmas.Rebuild
import ForgeErp.Projections.Lemmas.Replay
import ForgeErp.Projections.Lemmas.Restart
import ForgeErp.Projections.Lemmas.RunReplay
import ForgeErp.Projections.Lemmas.StockPath
import ForgeErp.Projections.Lemmas.UserRedelivery
import ForgeErp.Projections.Lemmas.Users
import ForgeErp.Projections.Lemmas.Valuation
import ForgeErp.Saga.Basic
import ForgeErp.Saga.Lemmas.Persistence
import ForgeErp.Saga.Lemmas.Posting
import ForgeErp.Saga.Lemmas.Rehydration
import ForgeErp.Saga.Lemmas.Routing
import ForgeErp.Saga.Runner
import ForgeErp.Saga.SalesAr
