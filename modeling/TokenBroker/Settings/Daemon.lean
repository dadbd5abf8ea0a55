import TokenBroker.Client.Settings
import TokenBroker.Daemon.Start
import TokenBroker.Files.Path
import TokenBroker.Settings.Field
import TokenBroker.Toml.Document
/-!
# Daemon settings

The settings of the daemon in three sections: the server, the registry and monitoring.

* `DaemonSettings.decode` reads them from a document.
* `DaemonSettings.merge` lays one set of settings over another: a field that differs from its
  default wins, and monitoring once enabled stays so.
-/

set_option autoImplicit false

namespace TokenBroker

/-- How clients are served. -/
structure ServerSettings where
  endpoint : String := defaultEndpoint
  maxConnections : Nat := 64
  /-- How long to wait for a client, in milliseconds; zero is for ever. -/
  idleTimeoutMs : Nat := 0
  deriving DecidableEq

/-- Where tokens are kept, and how large they may be. -/
structure RegistrySettings where
  root : String := "/data/vendor/teebroker/registry"
  scope : IdentityScope := .caller
  maxObjectSize : Nat := defaultMaxPayload
  deriving DecidableEq

/-- Where metrics are served, if they are. -/
structure MonitoringSettings where
  bind : SocketAddress := .v4 127 0 0 1 9464
  enabled : Bool := false
  deriving DecidableEq

/-- All settings of the daemon. -/
structure DaemonSettings where
  server : ServerSettings := {}
  registry : RegistrySettings := {}
  monitoring : MonitoringSettings := {}
  deriving DecidableEq

/-- How long to wait for a client. -/
def ServerSettings.idleTimeout (s : ServerSettings) : Option Nat := timeoutOfMs s.idleTimeoutMs

/-- The largest token that the storage takes. -/
def RegistrySettings.storageLimit (s : RegistrySettings) : Nat := s.maxObjectSize

/-! ## Reading -/

open Settings

/-- The server settings of a section. -/
def ServerSettings.ofSection (s : Settings.Section) : Option ServerSettings := do
  let base : ServerSettings := {}
  let endpoint ← s.field 0 "endpoint" textOf? base.endpoint
  let maxConnections ← s.field 1 "max_connections" (naturalOf? max64) base.maxConnections
  let idleTimeoutMs ← s.field 2 "idle_timeout_ms" (naturalOf? max64) base.idleTimeoutMs
  return ⟨endpoint, maxConnections, idleTimeoutMs⟩

/-- The registry settings of a section. -/
def RegistrySettings.ofSection (s : Settings.Section) : Option RegistrySettings := do
  let base : RegistrySettings := {}
  let root ← s.field 0 "root" textOf? base.root
  let scope ← s.field 1 "scope" scopeOf? base.scope
  let maxObjectSize ← s.field 2 "max_object_size" (naturalOf? max64) base.maxObjectSize
  return ⟨root, scope, maxObjectSize⟩

/-- The monitoring settings of a section. -/
def MonitoringSettings.ofSection (s : Settings.Section) : Option MonitoringSettings := do
  let base : MonitoringSettings := {}
  let bind ← s.field 0 "prometheus_bind" addressOf? base.bind
  let enabled ← s.field 1 "prometheus_enabled" flagOf? base.enabled
  return ⟨bind, enabled⟩

namespace DaemonSettings

/-- The settings of the entries of a document. -/
def ofEntries (entries : Toml.Entries) : Option DaemonSettings := do
  let server ← (← Section.ofEntry? entries "server") |> ServerSettings.ofSection
  let registry ← (← Section.ofEntry? entries "registry") |> RegistrySettings.ofSection
  let monitoring ← (← Section.ofEntry? entries "monitoring") |> MonitoringSettings.ofSection
  return ⟨server, registry, monitoring⟩

/-- The settings that a text holds. -/
def decode (text : String) : Option DaemonSettings := (Toml.parse text).bind ofEntries

/-! ## Laying over -/

/-- A value that is laid over another one unless it is the default. -/
def overlay {α : Type} [DecidableEq α] (default base other : α) : α :=
  if other = default then base else other

/-- Lay other settings over these.  The root counts as the default if it is the same path, however
it is written. -/
def merge (base other : DaemonSettings) : DaemonSettings :=
  let default : DaemonSettings := {}
  { server :=
      { endpoint := overlay default.server.endpoint base.server.endpoint other.server.endpoint
        maxConnections :=
          overlay default.server.maxConnections base.server.maxConnections
            other.server.maxConnections
        idleTimeoutMs :=
          overlay default.server.idleTimeoutMs base.server.idleTimeoutMs
            other.server.idleTimeoutMs }
    registry :=
      { root :=
          if Path.same other.registry.root default.registry.root then base.registry.root
          else other.registry.root
        scope := overlay default.registry.scope base.registry.scope other.registry.scope
        maxObjectSize :=
          overlay default.registry.maxObjectSize base.registry.maxObjectSize
            other.registry.maxObjectSize }
    monitoring :=
      { bind := overlay default.monitoring.bind base.monitoring.bind other.monitoring.bind
        enabled := base.monitoring.enabled || other.monitoring.enabled } }

/-- What the daemon needs of its settings to start. -/
def plan (s : DaemonSettings) : DaemonPlan where
  root := s.registry.root
  maxObjectSize := s.registry.storageLimit
  endpoint := s.server.endpoint
  maxConnections := s.server.maxConnections
  idle := s.server.idleTimeout
  scope := s.registry.scope

end DaemonSettings
end TokenBroker
