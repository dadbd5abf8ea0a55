import TokenBroker.Client.Settings
import TokenBroker.Settings.Field
import TokenBroker.Toml.Document
/-!
# Client settings from a document

The settings of a client are the entries of the document itself.
-/

set_option autoImplicit false

namespace TokenBroker

open Settings in
/-- The settings of the entries of a document. -/
def ClientSettings.ofEntries (entries : Toml.Entries) : Option ClientSettings := do
  let s := Section.named entries
  let base : ClientSettings := {}
  let endpoint ← s.field 0 "endpoint" textOf? base.endpoint
  let responseTimeoutMs ←
    s.field 1 "response_timeout_ms" (naturalOf? max64) base.responseTimeoutMs
  let maxPayload ← s.field 2 "max_payload" (naturalOf? max64) base.maxPayload
  let initial ← s.field 3 "initial_command_id" (naturalOf? max32) base.initialCommandId.toNat
  return ⟨endpoint, responseTimeoutMs, maxPayload, UInt32.ofNat initial⟩

/-- The settings that a text holds. -/
def ClientSettings.decode (text : String) : Option ClientSettings :=
  (Toml.parse text).bind ofEntries

end TokenBroker
