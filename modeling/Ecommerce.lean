import Ecommerce.Lib.Async
import Ecommerce.Lib.Triple
import Ecommerce.Lib.Runs
import Ecommerce.Lib.Pool
import Ecommerce.Lib.Table
import Ecommerce.Lib.Number
import Ecommerce.Lib.Numeric
import Ecommerce.Lib.Json
import Ecommerce.Lib.KeyValue
import Ecommerce.Lib.Rely
import Ecommerce.Lib.Forest
import Ecommerce.Lib.EventLoop
import Ecommerce.Lib.Tickets
import Ecommerce.Lib.Paging
import Ecommerce.Lib.Calendar
import Ecommerce.Lib.Schema
import Ecommerce.Shared.RpcProtocol
import Ecommerce.Shared.Consumers
import Ecommerce.Shared.Query
import Ecommerce.Inventory.Books
import Ecommerce.Inventory.Messaging
import Ecommerce.Inventory.Endpoints
import Ecommerce.Inventory.Concurrency
import Ecommerce.Inventory.Redelivery
import Ecommerce.Inventory.Failure
import Ecommerce.Inventory.Settlements
import Ecommerce.Order.Ledger
import Ecommerce.Order.Compensation
import Ecommerce.Order.Money
import Ecommerce.Order.Backing
import Ecommerce.Order.Cancelling
import Ecommerce.Order.Overlap
import Ecommerce.Order.Timeout
import Ecommerce.Order.Privacy
import Ecommerce.Order.Events
import Ecommerce.Order.Storefront
import Ecommerce.Order.Snapshot
import Ecommerce.Order.Bookkeeping
import Ecommerce.Gateway.Session
import Ecommerce.Gateway.Lockout
import Ecommerce.Gateway.Roles
import Ecommerce.Gateway.OAuthState
import Ecommerce.Gateway.TokenKinds
import Ecommerce.Gateway.Registration
import Ecommerce.Catalog.Race
import Ecommerce.Catalog.Hierarchy
import Ecommerce.Catalog.Walk
import Ecommerce.Catalog.Absence
import Ecommerce.Catalog.Announcements
import Ecommerce.Notification.Service
import Ecommerce.Notification.Retention
import Ecommerce.Notification.Sockets
import Ecommerce.Notification.ErrorCleanup
import Ecommerce.Gateway.Bodies
import Ecommerce.Gateway.Retry
import Ecommerce.Gateway.Discovery
import Ecommerce.Gateway.RateLimit
import Ecommerce.Gateway.Cluster
import Ecommerce.Shared.RpcSystem
import Ecommerce.Catalog.Backoffice
