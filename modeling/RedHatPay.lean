import RedHatPay.Java
import RedHatPay.Lib.Checked
import RedHatPay.Domain.Money
import RedHatPay.Domain.MoneyArithmetic
import RedHatPay.Domain.Token
import RedHatPay.Domain.Point
import RedHatPay.Domain.Wallet
import RedHatPay.Domain.TopUps
import RedHatPay.Domain.PaymentOrder
import RedHatPay.Lib.Program
import RedHatPay.Lib.Run
import RedHatPay.Lib.Interleave
import RedHatPay.Lib.Termination
import RedHatPay.Lib.Ghost
import RedHatPay.Lib.Beside
import RedHatPay.Lib.Replay
import RedHatPay.Lib.Transaction
import RedHatPay.Lib.Loop
import RedHatPay.Lib.Delivery
import RedHatPay.Lib.Deferred
import RedHatPay.Lib.Decimal
import RedHatPay.Usecase
import RedHatPay.Outline
import RedHatPay.Store
import RedHatPay.Ledger
import RedHatPay.Unreliable
import RedHatPay.Monolith.Database
import RedHatPay.Monolith.PaymentResource
import RedHatPay.Monolith.InitializeResource
import RedHatPay.Monolith.TokenLifecycle
import RedHatPay.Monolith.Atomicity
import RedHatPay.Monolith.RowLocks
import RedHatPay.Monolith.Serializability
import RedHatPay.Monolith.Deadlock
import RedHatPay.Specification
import RedHatPay.PaymentRuns
import RedHatPay.Grid.Caches
import RedHatPay.Grid.PaymentFunction
import RedHatPay.Grid.Callers
import RedHatPay.Grid.Attempts
import RedHatPay.Grid.NoDoubleCharge
import RedHatPay.Grid.StrictSerializability
import RedHatPay.Grid.PaymentTask
import RedHatPay.Grid.Affinity
import RedHatPay.Grid.Overtaken
import RedHatPay.Grid.ConcurrentTasks
import RedHatPay.Grid.Uncontended
import RedHatPay.Quarkus.Client
import RedHatPay.Quarkus.PaymentResource
import RedHatPay.Quarkus.AsynchronousPuts
import RedHatPay.Quarkus.Initialization
import RedHatPay.Quarkus.Answers
import RedHatPay.Quarkus.PaymentIdentity
import RedHatPay.Points.Cache
import RedHatPay.Points.Granting
import RedHatPay.Points.Accounts
import RedHatPay.Points.Consumer
import RedHatPay.Points.Pipeline
import RedHatPay.Points.ConcurrentTasks
import RedHatPay.Points.Deliveries
import RedHatPay.Loadable
import RedHatPay.Deployments
import RedHatPay.Quarkus.Screens
import RedHatPay.Quarkus.CashRegister
import RedHatPay.Quarkus.VisitPrograms
import RedHatPay.Quarkus.ConcurrentVisits
import RedHatPay.TokenCreation
import RedHatPay.Agreement
import RedHatPay.Confluence
import RedHatPay.WholeSystem
