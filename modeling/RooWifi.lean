import RooWifi.Network
import RooWifi.Configuration
import RooWifi.Lib.Run
import RooWifi.Lib.Audit
import RooWifi.Lib.Storage
import RooWifi.Lib.Driver
import RooWifi.Lib.BoundedInsertion
import RooWifi.Lib.Base64Url
import RooWifi.Lib.Bitmask
import RooWifi.Lib.Timeout
import RooWifi.Store.Format
import RooWifi.Store.Codec
import RooWifi.Store.Inverse
import RooWifi.Store.FieldStore
import RooWifi.Store.Load
import RooWifi.Store.Enumeration
import RooWifi.Store.Keys
import RooWifi.Store.Mutation
import RooWifi.Store.Outcomes
import RooWifi.Store.Refinement
import RooWifi.Store.Convergence
import RooWifi.Store.Interruption
import RooWifi.Store.Isolation
import RooWifi.Store.Recovery
import RooWifi.Store.Listing
import RooWifi.Store.PrefsStore
import RooWifi.OrderedInterface.Code
import RooWifi.OrderedInterface.Attribution
import RooWifi.Controller.State
import RooWifi.Controller.Code
import RooWifi.Controller.Run
import RooWifi.Controller.Core
import RooWifi.Controller.Refinement
import RooWifi.Controller.Exclusion
import RooWifi.Controller.Authorisation
import RooWifi.Controller.Backoff
import RooWifi.Controller.Contract
import RooWifi.Controller.BoundedWork
import RooWifi.Controller.Reconciliation
import RooWifi.Controller.Atoms
import RooWifi.Controller.LinkIdentity
import RooWifi.Controller.Effects
import RooWifi.Controller.Deadlines
import RooWifi.Controller.PendingRetry
import RooWifi.Controller.StableReset
import RooWifi.Controller.LastProfile
import RooWifi.Controller.ScanPublication
import RooWifi.Controller.Invalidation
import RooWifi.Controller.RetryDelay
import RooWifi.Controller.Response
import RooWifi.System.Persistence
import RooWifi.OrderedInterface.Session
import RooWifi.OrderedInterface.Accounting
import RooWifi.OrderedInterface.LinkTrace
import RooWifi.OrderedInterface.Native
import RooWifi.OrderedInterface.Attempts
import RooWifi.OrderedInterface.Frame
import RooWifi.OrderedInterface.Reattachment
import RooWifi.OrderedInterface.Queue
import RooWifi.OrderedInterface.Overflow
import RooWifi.OrderedInterface.Credentials
import RooWifi.Esp32.Station
import RooWifi.Esp32.Cache
import RooWifi.Esp32.Policy
import RooWifi.Esp32.Cooldown
import RooWifi.Esp32.Strongest
import RooWifi.Esp32.Candidates
import RooWifi.Esp32.Addressing
import RooWifi.Esp32.Interface
import RooWifi.System.Credentials
import RooWifi.System.Radio
import RooWifi.System.Belief
import RooWifi.System.Coherence
import RooWifi.System.Reconciliation
import RooWifi.System.Programming
import RooWifi.System.Association
