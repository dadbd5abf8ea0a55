import TokenBroker.Daemon.Server
import TokenBroker.Endpoint.Host
/-!
# Starting the daemon

A daemon opens its registry, binds its endpoint and starts to serve.  `Daemon.start` gives the
running daemon, or the reason why there is none; what was done until then stays done.
-/

set_option autoImplicit false

namespace TokenBroker

/-- What the daemon needs to know to start. -/
structure DaemonPlan where
  root : String
  maxObjectSize : Nat
  endpoint : String
  maxConnections : Nat
  idle : Option Nat
  scope : IdentityScope
  deriving DecidableEq

/-- Why the daemon does not start. -/
inductive StartError where
  | registry (root : String) (error : StorageError)
  | endpoint (error : IoError)
  | binding (endpoint : String) (error : IoError)
  /-- There are more connections allowed than can be counted: the daemon aborts. -/
  | tooManyConnections (limit : Nat)
  deriving DecidableEq

namespace StartError

/-- The error in words, the outermost first and then what each is due to.  The daemon leaves no
words when it aborts. -/
def chain : StartError → List String
  | registry root (.io cause) =>
    ["opening registry at " ++ root, (StorageError.io cause).message, cause.message]
  | registry root cause => ["opening registry at " ++ root, cause.message]
  | endpoint cause => [cause.message]
  | binding place cause => ["binding " ++ place, cause.message]
  | tooManyConnections _ => []

end StartError

namespace Daemon

/-- The largest number of permits that can be counted. -/
def maxPermits : Nat := (1 <<< 61) - 1

/-- A daemon that is running. -/
structure Running (σ : Type) where
  endpoint : Endpoint
  listener : Nat
  service : Service σ
  server : Server

/-- Bind an endpoint and serve on it. -/
def serve {σ : Type} (h : Host) (endpoint : Endpoint) (service : Service σ) (maxConnections : Nat) :
    Except StartError (Running σ) × Host :=
  match h.bind endpoint with
  | (.error e, h) => (.error (.binding endpoint.display e), h)
  | (.ok listener, h) =>
    if maxConnections > maxPermits then
      (.error (.tooManyConnections maxConnections), h.release listener)
    else (.ok ⟨endpoint, listener, service, .ofLimit maxConnections⟩, h)

/-- Open the registry, then bind the endpoint, then serve. -/
def start (h : Host) (plan : DaemonPlan) : Except StartError (Running Tree) × Host :=
  match Registry.open h.tree plan.root plan.maxObjectSize with
  | (.error e, t) => (.error (.registry plan.root e), { h with tree := t })
  | (.ok registry, t) =>
    let h := { h with tree := t }
    match Endpoint.parse plan.endpoint with
    | .error e => (.error (.endpoint e), h)
    | .ok endpoint =>
      let service := registry.service plan.maxObjectSize plan.idle plan.scope
      serve h endpoint service plan.maxConnections

/-- What is left of a host when a daemon has stopped: the listener is gone, and its socket file is
removed. -/
def afterStop {σ : Type} (h : Host) (r : Running σ) : Host :=
  (h.release r.listener).cleanup r.endpoint

end Daemon
end TokenBroker
