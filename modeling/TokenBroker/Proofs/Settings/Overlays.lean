import Mathlib.Data.List.Induction
import TokenBroker.Settings.Load
/-!
# Settings laid over one another

The daemon takes settings from a file and lays those of any number of further files over them.  What
comes of that can be read off the files without doing it, one setting at a time.

* `Setting` names the seven that an overlay replaces unless it has the default there.  The eighth is
  whether metrics are served, which an overlay can only turn on.
* `Setting.value_foldl` says that the last overlay decides in which the setting is not the default.
* `eq_of_values` says that settings are nothing but these eight values.  That overlays can be laid
  over one another beforehand (`merge_merge`), and laid twice as well as once (`merge_self`), is
  then a matter of one value at a time.
* `default_of_decode` says that a field that a document leaves out has its default, so that an
  overlay changes only what it names (`merge_of_leavesOut`).
* `layAll_settles` is all of this for files, of which some may hold no settings.
-/

set_option autoImplicit false

namespace TokenBroker
namespace DaemonSettings

/-- A setting that an overlay replaces, unless the overlay has the default there. -/
inductive Setting where
  | endpoint
  | maxConnections
  | idleTimeoutMs
  | root
  | scope
  | maxObjectSize
  | prometheusBind

namespace Setting

/-- What values a setting has. -/
abbrev Value : Setting → Type
  | endpoint => String
  | maxConnections => Nat
  | idleTimeoutMs => Nat
  | root => String
  | scope => IdentityScope
  | maxObjectSize => Nat
  | prometheusBind => SocketAddress

/-- The value of a setting. -/
def value : (setting : Setting) → DaemonSettings → setting.Value
  | endpoint, s => s.server.endpoint
  | maxConnections, s => s.server.maxConnections
  | idleTimeoutMs, s => s.server.idleTimeoutMs
  | root, s => s.registry.root
  | scope, s => s.registry.scope
  | maxObjectSize, s => s.registry.maxObjectSize
  | prometheusBind, s => s.monitoring.bind

/-- Whether a value is the default.  Of the root another spelling of the default is one, too. -/
def isDefault : (setting : Setting) → setting.Value → Bool
  | endpoint, text => decide (text = defaultEndpoint)
  | maxConnections, n => decide (n = 64)
  | idleTimeoutMs, n => decide (n = 0)
  | root, text => Path.same text "/data/vendor/teebroker/registry"
  | scope, whose => decide (whose = IdentityScope.caller)
  | maxObjectSize, n => decide (n = defaultMaxPayload)
  | prometheusBind, address => decide (address = SocketAddress.v4 127 0 0 1 9464)

end Setting

theorem overlay_eq {α : Type} [DecidableEq α] (default base other : α) :
    overlay default base other = if decide (other = default) = true then base else other := by
  simp only [overlay, decide_eq_true_eq]

namespace Setting

variable (setting : Setting)

/-- What an overlay does to a setting. -/
theorem value_merge (base other : DaemonSettings) :
    setting.value (base.merge other)
      = if setting.isDefault (setting.value other) then setting.value base
        else setting.value other := by
  cases setting with
  | root => rfl
  | _ => exact overlay_eq _ _ _

/-- The value that the last of some overlays gives in which the setting is not the default, or else
the value at the start. -/
def last (overlays : List DaemonSettings) (start : DaemonSettings) : setting.Value :=
  ((overlays.map setting.value).reverse.find? fun v => !setting.isDefault v).getD
    (setting.value start)

theorem last_concat (overlays : List DaemonSettings) (start other : DaemonSettings) :
    setting.last (overlays ++ [other]) start
      = if setting.isDefault (setting.value other) then setting.last overlays start
        else setting.value other := by
  rw [last, List.map_append, List.map_singleton, List.reverse_append, List.reverse_singleton,
    List.singleton_append]
  by_cases hdefault : setting.isDefault (setting.value other) = true
  · rw [if_pos hdefault, List.find?_cons_of_neg (by simpa using hdefault), last]
  · rw [if_neg hdefault, List.find?_cons_of_pos (by simpa using hdefault), Option.getD_some]

/-- The last overlay decides in which a setting is not the default. -/
theorem value_foldl (overlays : List DaemonSettings) (start : DaemonSettings) :
    setting.value (overlays.foldl merge start) = setting.last overlays start := by
  induction overlays using List.reverseRecOn with
  | nil => rfl
  | append_singleton overlays other ih =>
    rw [List.foldl_append, List.foldl_cons, List.foldl_nil, setting.value_merge, ih,
      setting.last_concat]

end Setting

/-! ## All settings -/

/-- Settings are the seven that can be replaced, and whether metrics are served. -/
theorem eq_of_values {s t : DaemonSettings}
    (hvalues : ∀ setting : Setting, setting.value s = setting.value t)
    (henabled : s.monitoring.enabled = t.monitoring.enabled) : s = t := by
  have hendpoint := hvalues .endpoint
  have hconnections := hvalues .maxConnections
  have hidle := hvalues .idleTimeoutMs
  have hroot := hvalues .root
  have hscope := hvalues .scope
  have hsize := hvalues .maxObjectSize
  have hbind := hvalues .prometheusBind
  obtain ⟨⟨_, _, _⟩, ⟨_, _, _⟩, ⟨_, _⟩⟩ := s
  obtain ⟨⟨_, _, _⟩, ⟨_, _, _⟩, ⟨_, _⟩⟩ := t
  dsimp only [Setting.value] at hendpoint hconnections hidle hroot hscope hsize hbind henabled
  subst hendpoint hconnections hidle hroot hscope hsize hbind henabled
  rfl

theorem enabled_foldl (overlays : List DaemonSettings) (start : DaemonSettings) :
    (overlays.foldl merge start).monitoring.enabled = true
      ↔ start.monitoring.enabled = true ∨ ∃ other ∈ overlays, other.monitoring.enabled = true := by
  induction overlays generalizing start with
  | nil => simp
  | cons first rest ih =>
    rw [List.foldl_cons, ih, merge]
    simp only [Bool.or_eq_true, List.mem_cons, exists_eq_or_imp, or_assoc]

/-- Overlays can be laid over one another beforehand. -/
theorem merge_merge (base first second : DaemonSettings) :
    (base.merge first).merge second = base.merge (first.merge second) := by
  refine eq_of_values (fun setting => ?_) (Bool.or_assoc _ _ _)
  by_cases hdefault : setting.isDefault (setting.value second) = true
  · simp only [setting.value_merge, if_pos hdefault]
  · simp only [setting.value_merge, if_neg hdefault]

/-- An overlay laid twice is laid once. -/
theorem merge_self (base other : DaemonSettings) :
    (base.merge other).merge other = base.merge other := by
  refine eq_of_values (fun setting => ?_) ?_
  · by_cases hdefault : setting.isDefault (setting.value other) = true
    · simp only [setting.value_merge, if_pos hdefault]
    · simp only [setting.value_merge, if_neg hdefault]
  · simp only [merge, Bool.or_assoc, Bool.or_self]

/-- Settings that are all the default, the root perhaps in another spelling. -/
structure IsNeutral (s : DaemonSettings) : Prop where
  values : ∀ setting : Setting, setting.isDefault (setting.value s) = true
  enabled : s.monitoring.enabled = false

theorem isNeutral_default : IsNeutral {} where
  values setting := by cases setting <;> decide
  enabled := rfl

theorem IsNeutral.merge_eq {other : DaemonSettings} (hneutral : other.IsNeutral)
    (base : DaemonSettings) : base.merge other = base := by
  refine eq_of_values (fun setting => ?_) ?_
  · rw [setting.value_merge, if_pos (hneutral.values setting)]
  · simp only [merge, hneutral.enabled, Bool.or_false]

theorem merge_foldl (base first : DaemonSettings) (overlays : List DaemonSettings) :
    base.merge (overlays.foldl merge first) = overlays.foldl merge (base.merge first) := by
  induction overlays generalizing first with
  | nil => rfl
  | cons other rest ih => rw [List.foldl_cons, List.foldl_cons, ih, merge_merge]

/-! ## Fields that a document leaves out -/

/-- Where a field stands in a document. -/
structure FieldPosition where
  sectionName : String
  /-- The number of the field, in a section that is a list. -/
  index : Nat
  name : String

/-- Where a setting stands. -/
def Setting.position : Setting → FieldPosition
  | endpoint => ⟨"server", 0, "endpoint"⟩
  | maxConnections => ⟨"server", 1, "max_connections"⟩
  | idleTimeoutMs => ⟨"server", 2, "idle_timeout_ms"⟩
  | root => ⟨"registry", 0, "root"⟩
  | scope => ⟨"registry", 1, "scope"⟩
  | maxObjectSize => ⟨"registry", 2, "max_object_size"⟩
  | prometheusBind => ⟨"monitoring", 0, "prometheus_bind"⟩

/-- How a setting is read. -/
def Setting.read? : (setting : Setting) → Toml.Value → Option setting.Value
  | endpoint => Settings.textOf?
  | maxConnections => Settings.naturalOf? Settings.max64
  | idleTimeoutMs => Settings.naturalOf? Settings.max64
  | root => Settings.textOf?
  | scope => Settings.scopeOf?
  | maxObjectSize => Settings.naturalOf? Settings.max64
  | prometheusBind => Settings.addressOf?

/-- Where it stands whether metrics are served. -/
def enabledPosition : FieldPosition := ⟨"monitoring", 1, "prometheus_enabled"⟩

/-- A document leaves a field out: it does not have the section, or the section does not have the
field. -/
def LeavesOut (entries : Toml.Entries) (position : FieldPosition) : Prop :=
  ∀ s, Settings.Section.ofEntry? entries position.sectionName = some s →
    s.value? position.index position.name = none

section

variable {entries : Toml.Entries} {s : DaemonSettings}

/-- Settings are read section by section. -/
theorem sections_of_ofEntries (hread : ofEntries entries = some s) :
    (∃ found, Settings.Section.ofEntry? entries "server" = some found
      ∧ ServerSettings.ofSection found = some s.server)
    ∧ (∃ found, Settings.Section.ofEntry? entries "registry" = some found
      ∧ RegistrySettings.ofSection found = some s.registry)
    ∧ ∃ found, Settings.Section.ofEntry? entries "monitoring" = some found
      ∧ MonitoringSettings.ofSection found = some s.monitoring := by
  simp only [ofEntries, Option.bind_eq_bind, Option.bind_eq_some_iff, Option.pure_def,
    Option.some.injEq] at hread
  obtain ⟨first, hfirst, server, hserver, second, hsecond, registry, hregistry, third, hthird,
    monitoring, hmonitoring, rfl⟩ := hread
  exact ⟨⟨first, hfirst, hserver⟩, ⟨second, hsecond, hregistry⟩, ⟨third, hthird, hmonitoring⟩⟩

/-- **A setting is read where it stands**, as a value of its kind, and has its default if there is
nothing. -/
theorem field_of_ofEntries (hread : ofEntries entries = some s) (setting : Setting) :
    ∃ found, Settings.Section.ofEntry? entries setting.position.sectionName = some found
      ∧ found.field setting.position.index setting.position.name setting.read? (setting.value {})
        = some (setting.value s) := by
  obtain ⟨⟨server, hserver, hserved⟩, ⟨registry, hregistry, hkept⟩, monitoring, hmonitoring,
    hwatched⟩ := sections_of_ofEntries hread
  simp only [ServerSettings.ofSection, RegistrySettings.ofSection, MonitoringSettings.ofSection,
    Option.bind_eq_bind, Option.bind_eq_some_iff, Option.pure_def, Option.some.injEq]
    at hserved hkept hwatched
  obtain ⟨endpoint, hendpoint, connections, hconnections, idle, hidle, hserved⟩ := hserved
  obtain ⟨root, hroot, scope, hscope, size, hsize, hkept⟩ := hkept
  obtain ⟨bind, hbind, enabled, -, hwatched⟩ := hwatched
  obtain ⟨_, _, _⟩ := s
  dsimp only at hserved hkept hwatched
  subst hserved hkept hwatched
  cases setting with
  | endpoint => exact ⟨server, hserver, hendpoint⟩
  | maxConnections => exact ⟨server, hserver, hconnections⟩
  | idleTimeoutMs => exact ⟨server, hserver, hidle⟩
  | root => exact ⟨registry, hregistry, hroot⟩
  | scope => exact ⟨registry, hregistry, hscope⟩
  | maxObjectSize => exact ⟨registry, hregistry, hsize⟩
  | prometheusBind => exact ⟨monitoring, hmonitoring, hbind⟩

theorem value_of_leavesOut (hread : ofEntries entries = some s) {setting : Setting}
    (hout : LeavesOut entries setting.position) : setting.value s = setting.value {} := by
  obtain ⟨found, hfound, hfield⟩ := field_of_ofEntries hread setting
  rw [Settings.Section.field, hout found hfound] at hfield
  exact (Option.some.inj hfield).symm

theorem enabled_of_leavesOut (hread : ofEntries entries = some s)
    (hout : LeavesOut entries enabledPosition) : s.monitoring.enabled = false := by
  obtain ⟨-, -, found, hfound, hwatched⟩ := sections_of_ofEntries hread
  simp only [MonitoringSettings.ofSection, Option.bind_eq_bind, Option.bind_eq_some_iff,
    Option.pure_def, Option.some.injEq] at hwatched
  obtain ⟨bind, -, enabled, henabled, hwatched⟩ := hwatched
  have hnone : found.value? 1 "prometheus_enabled" = none := hout found hfound
  rw [Settings.Section.field, hnone] at henabled
  rw [← hwatched]
  exact (Option.some.inj henabled).symm

/-- **A text decodes to the default of every field that it leaves out.** -/
theorem default_of_decode {text : String} (hdecode : decode text = some s) :
    ∃ entries, Toml.parse text = some entries
      ∧ (∀ setting : Setting, LeavesOut entries setting.position →
        setting.value s = setting.value {})
      ∧ (LeavesOut entries enabledPosition → s.monitoring.enabled = false) := by
  obtain ⟨entries, hparse, hread⟩ := Option.bind_eq_some_iff.1 hdecode
  exact ⟨entries, hparse, fun setting => value_of_leavesOut hread, enabled_of_leavesOut hread⟩

example : decode "[server]\nmax_connections = 8\n" = some { server.maxConnections := 8 } := by
  decide +kernel

/-- A document without sections holds the defaults. -/
theorem ofEntries_of_get? (hserver : entries.get? "server" = none)
    (hregistry : entries.get? "registry" = none) (hmonitoring : entries.get? "monitoring" = none) :
    ofEntries entries = some {} := by
  simp only [ofEntries, Settings.Section.ofEntry?, hserver, hregistry, hmonitoring]
  rfl

/-- An overlay changes nothing that it leaves out. -/
theorem merge_of_leavesOut (hread : ofEntries entries = some s) (base : DaemonSettings) :
    (∀ setting : Setting, LeavesOut entries setting.position →
      setting.value (base.merge s) = setting.value base)
    ∧ (LeavesOut entries enabledPosition →
      (base.merge s).monitoring.enabled = base.monitoring.enabled) := by
  refine ⟨fun setting hout => ?_, fun hout => ?_⟩
  · rw [setting.value_merge, value_of_leavesOut hread hout,
      if_pos (isNeutral_default.values setting)]
  · simp only [merge, enabled_of_leavesOut hread hout, Bool.or_false]

end

/-! ## Files -/

/-- A file that is there, is a text, and holds settings. -/
def Holds (file : Except IoError Bytes) (s : DaemonSettings) : Prop :=
  ∃ bytes text, file = .ok bytes ∧ String.fromUTF8? (ByteArray.mk bytes.toArray) = some text
    ∧ decode text = some s

theorem load_eq_ok_iff {file : Except IoError Bytes} {s : DaemonSettings} :
    load file = .ok s ↔ Holds file s := by
  cases file with
  | error e =>
    refine ⟨fun hload => ?_, fun ⟨_, _, hfile, _⟩ => ?_⟩
    · cases hload
    · cases hfile
  | ok bytes =>
    rw [load, Settings.load, Settings.textOfFile]
    cases htext : String.fromUTF8? (ByteArray.mk bytes.toArray) with
    | none => simp [Holds, htext]
    | some text =>
      cases hdecode : decode text with
      | none => simp [Holds, htext, hdecode]
      | some other => simp [Holds, htext, hdecode]

theorem loadMerge_of_holds {file : Except IoError Bytes} {other : DaemonSettings}
    (hholds : Holds file other) (s : DaemonSettings) :
    s.loadMerge file = (.ok (), s.merge other) := by
  rw [loadMerge, load_eq_ok_iff.2 hholds]

/-- A file that holds no settings changes none. -/
theorem loadMerge_of_not_holds {file : Except IoError Bytes}
    (hholds : ∀ other, ¬ Holds file other) (s : DaemonSettings) :
    ∃ e, s.loadMerge file = (.error e, s) := by
  rw [loadMerge]
  cases hload : load file with
  | error e => exact ⟨e, rfl⟩
  | ok other => exact absurd (load_eq_ok_iff.1 hload) (hholds other)

/-- The settings of those files that hold any. -/
def readable (files : List (Except IoError Bytes)) : List DaemonSettings :=
  files.filterMap fun file => (load file).toOption

theorem mem_readable {files : List (Except IoError Bytes)} {other : DaemonSettings} :
    other ∈ readable files ↔ ∃ file ∈ files, Holds file other := by
  have hload : ∀ file, (load file).toOption = some other ↔ Holds file other := fun file => by
    rw [← load_eq_ok_iff]
    cases load file <;> simp [Except.toOption]
  simp only [readable, List.mem_filterMap, hload]

/-- Lay the settings of files over others, one after the other, whether that fails or not. -/
def layAll (start : DaemonSettings) (files : List (Except IoError Bytes)) : DaemonSettings :=
  files.foldl (fun s file => (s.loadMerge file).2) start

theorem layAll_eq (start : DaemonSettings) (files : List (Except IoError Bytes)) :
    layAll start files = (readable files).foldl merge start := by
  induction files generalizing start with
  | nil => rfl
  | cons file rest ih =>
    rw [layAll, List.foldl_cons, ← layAll, ih]
    cases hload : load file with
    | error e => simp only [readable, List.filterMap_cons, loadMerge, hload, Except.toOption]
    | ok other =>
      simp only [readable, List.filterMap_cons, loadMerge, hload, Except.toOption, List.foldl_cons]

/-- **What comes of laying files over settings.**  Each setting has the value of the last file that
holds settings in which it is not the default, and metrics are served if anybody asks for that.  A
file that holds no settings changes nothing, nor does one that holds the defaults; a second time
changes nothing; and files may be laid over one another beforehand. -/
theorem layAll_settles (start : DaemonSettings) (files : List (Except IoError Bytes)) :
    (∀ setting : Setting,
      setting.value (layAll start files) = setting.last (readable files) start)
    ∧ ((layAll start files).monitoring.enabled = true ↔ start.monitoring.enabled = true
        ∨ ∃ other ∈ readable files, other.monitoring.enabled = true)
    ∧ (∀ other, other ∈ readable files ↔ ∃ file ∈ files, Holds file other)
    ∧ (∀ file, (∀ other, ¬ Holds file other) → ∃ e, start.loadMerge file = (.error e, start))
    ∧ (∀ file other, Holds file other → other.IsNeutral → start.loadMerge file = (.ok (), start))
    ∧ (∀ file, (start.loadMerge file).2.loadMerge file = start.loadMerge file)
    ∧ start.merge (layAll {} files) = layAll start files
    ∧ ∀ first, start.merge (layAll first files) = layAll (start.merge first) files := by
  have hbefore : ∀ first, start.merge (layAll first files) = layAll (start.merge first) files :=
    fun first => by rw [layAll_eq, layAll_eq, merge_foldl]
  refine ⟨fun setting => ?_, ?_, fun other => mem_readable, fun file hholds => ?_,
    fun file other hholds hneutral => ?_, fun file => ?_, ?_, hbefore⟩
  · rw [layAll_eq, setting.value_foldl]
  · rw [layAll_eq, enabled_foldl]
  · exact loadMerge_of_not_holds hholds start
  · rw [loadMerge_of_holds hholds, hneutral.merge_eq]
  · by_cases hholds : ∃ other, Holds file other
    · obtain ⟨other, hother⟩ := hholds
      rw [loadMerge_of_holds hother, loadMerge_of_holds hother, merge_self]
    · obtain ⟨e, hfailed⟩ := loadMerge_of_not_holds (not_exists.1 hholds) start
      rw [hfailed, hfailed]
  · rw [hbefore, isNeutral_default.merge_eq]

end DaemonSettings
end TokenBroker
