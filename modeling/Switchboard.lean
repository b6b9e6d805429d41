import Switchboard.Gateway.Traffic
import Switchboard.Sample.Behaviour
import Switchboard.Sample.Bench
import Switchboard.Stream.Rehearsal
import Switchboard.Proofs.Cache.Expiring
import Switchboard.Proofs.Gateway.Closed
import Switchboard.Proofs.Gateway.Faithful
import Switchboard.Proofs.Gateway.Conserved
import Switchboard.Proofs.Gateway.Exchange
import Switchboard.Proofs.Stream.Expiry
import Switchboard.Proofs.Reverse.Correlation
import Switchboard.Proofs.Server.Breaks
import Switchboard.Proofs.Stream.Gate
import Switchboard.Proofs.Stream.Grammar
import Switchboard.Proofs.Stream.ImplicitClose
import Switchboard.Proofs.Stream.Isolation
import Switchboard.Proofs.Stream.Registry
import Switchboard.Proofs.Reverse.Withdrawal
import Switchboard.Proofs.Gateway.Outcome
import Switchboard.Proofs.Metadata.Lines
import Switchboard.Proofs.Gateway.Startup
import Switchboard.Proofs.Gateway.Escape
