import Turnstile.Main
import Turnstile.Simulation.Rehearsal
import Turnstile.Simulation.Session
import Turnstile.Proofs.Store.Serializability
import Turnstile.Proofs.Workload.Bank
import Turnstile.Proofs.Workload.Log
import Turnstile.Proofs.Workload.Opening
import Turnstile.Proofs.Workload.Arbitration
import Turnstile.Proofs.Cluster.Startup
import Turnstile.Proofs.Http.Effects
import Turnstile.Proofs.Cluster.Incarnations
import Turnstile.Proofs.Net.Address
import Turnstile.Proofs.Membership.Identity
import Turnstile.Proofs.Tasks.Isolation
import Turnstile.Proofs.Tasks.Tracing
import Turnstile.Proofs.Http.Initialization
import Turnstile.Proofs.Edn.Lexing
import Turnstile.Proofs.Edn.Writing
import Turnstile.Proofs.Edn.Grammar
import Turnstile.Proofs.Edn.Recognition
import Turnstile.Proofs.Workload.Bodies
import Turnstile.Proofs.Batch
import Turnstile.Proofs.Batch.Grammar
import Turnstile.Proofs.Workload.Decoding
import Turnstile.Proofs.Store.Closing
import Turnstile.Proofs.Cluster.Election
import Turnstile.Proofs.Cluster.Settling
import Turnstile.Proofs.Http.Marking
import Turnstile.Proofs.Metrics.Registry
import Turnstile.Proofs.Tasks.Ending
import Turnstile.Proofs.Metrics.Meter
import Turnstile.Proofs.Workload.Concession
import Turnstile.Proofs.Http.Accounting
import Turnstile.Proofs.Http.Metering
import Turnstile.Proofs.Store.Update
import Turnstile.Proofs.Workload.Movement
import Turnstile.Proofs.Workload.Interpretation
import Turnstile.Proofs.Cluster.Promotion
import Turnstile.Proofs.Server.Schema
import Turnstile.Proofs.Duration
import Turnstile.Proofs.Metrics.Consistency
import Turnstile.Proofs.Workload.Mentions
import Turnstile.Proofs.Config.Contacts
import Turnstile.Proofs.Client.Waiting
import Turnstile.Proofs.Store.Coercion
