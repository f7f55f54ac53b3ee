import LoginThrottle.Main
import LoginThrottle.Admin.Server
import LoginThrottle.Wait.Timeline
import LoginThrottle.Proofs.Ledger
import LoginThrottle.Proofs.Ledger.History
import LoginThrottle.Proofs.Delay.Formula
import LoginThrottle.Proofs.Coordinator
import LoginThrottle.Proofs.Component.Run
import LoginThrottle.Proofs.Component.History
import LoginThrottle.Proofs.Component.Agreement
import LoginThrottle.Proofs.Component.Isolation
import LoginThrottle.Proofs.Component.Session
import LoginThrottle.Proofs.Component.Limits
import LoginThrottle.Proofs.Host.Transcript
import LoginThrottle.Proofs.Host.Registry
import LoginThrottle.Proofs.Component.Loading
import LoginThrottle.Proofs.Component.Registration
import LoginThrottle.Proofs.Interleaving.Moves
import LoginThrottle.Proofs.Interleaving.Linearization
import LoginThrottle.Proofs.Ledger.Reading
import LoginThrottle.Proofs.Coordinator.Ownership
import LoginThrottle.Proofs.Coordinator.Announcement
import LoginThrottle.Proofs.Component.Clients
import LoginThrottle.Proofs.Component.Change
import LoginThrottle.Proofs.Interleaving.Disabled
import LoginThrottle.Proofs.Wait.Vigil
import LoginThrottle.Proofs.Wait.Switchboard
import LoginThrottle.Proofs.Account.Order
import LoginThrottle.Proofs.Host.Group
import LoginThrottle.Proofs.Coordinator.Policy
import LoginThrottle.Proofs.Text.Blank
import LoginThrottle.Proofs.Setting.Name
import LoginThrottle.Proofs.Text.Decimal
import LoginThrottle.Proofs.Admin.Address
import LoginThrottle.Proofs.Admin.Client
import LoginThrottle.Proofs.Admin.Session
import LoginThrottle.Proofs.Admin.Settings
import LoginThrottle.Proofs.Admin.Events
import LoginThrottle.Proofs.Component.Adoption
import LoginThrottle.Proofs.Text.Utf8
import LoginThrottle.Proofs.Startup.Environment
import LoginThrottle.Proofs.Metrics.Traffic
