import EventLoop.Failure
import EventLoop.Main
import EventLoop.Proofs.Callable.Drops
import EventLoop.Proofs.Drafting
import EventLoop.Proofs.Echo.Capitals
import EventLoop.Proofs.Independence
import EventLoop.Proofs.Iteration
import EventLoop.Proofs.Pool.Demand
import EventLoop.Proofs.Pool.Shutdown
import EventLoop.Proofs.Queue.Clearing
import EventLoop.Proofs.ReadinessPanics
import EventLoop.Proofs.Refusals
import EventLoop.Proofs.Release.Releases
import EventLoop.Proofs.Reversal
import EventLoop.Proofs.Timer.Delays
import EventLoop.Proofs.Timer.Plain
import EventLoop.Reactor.Builder
import EventLoop.Session.Calling
import EventLoop.Session.Drafts
import EventLoop.Session.Echoing
import EventLoop.Session.Polling
import EventLoop.Session.Pooling
import EventLoop.Session.Reacting
import EventLoop.Session.Scheduling
