import TokenBroker.Proofs.Registry.Isolation
/-!
# Tokens within the limit

A registry takes no token above its limit, but may stand on a disk where there are larger ones.  If
there are none, there never will be.

* `Within` says that whatever can be read is within a limit.
* `Within.dispatch` says that it stays so, and `Within.reply` that then no reply is larger.
-/

set_option autoImplicit false

namespace TokenBroker
namespace Registry

variable {r : Registry} {t t' : Tree} {key other : IdentityKey} {limit : Nat}

/-- Whatever can be read is within a limit. -/
def Within (r : Registry) (t : Tree) (limit : Nat) : Prop :=
  ∀ key blob, r.read t key = .ok blob → blob.length ≤ limit

/-- What is read is the blob of a sound record. -/
theorem of_read_ok {blob : Bytes} (h : r.read t key = .ok blob) :
    ∃ mode content record, t.find? (r.entryPlace key) = some (.file mode content)
      ∧ Record.decode content = .ok record ∧ record.blob = blob := by
  rw [read_eq] at h
  cases hstat : t.stat (r.entryPlace key) with
  | error errno =>
    rw [hstat] at h
    cases errno <;> cases h
  | ok e =>
    rw [hstat] at h
    cases e with
    | directory mode => cases h
    | socket mode id => cases h
    | file mode content =>
      rw [readOutcome] at h
      cases hdecode : Record.decode content with
      | error defect =>
        rw [hdecode] at h
        cases h
      | ok record =>
        rw [hdecode] at h
        exact ⟨mode, content, record, Tree.find?_of_stat hstat, hdecode, Except.ok.inj h⟩

/-- A token that can be read after a store was stored, or could be read before. -/
theorem read_store (h : r.Ready t) {blob found : Bytes} {now : UInt64}
    (hread : r.read (r.store t key blob now).2 other = .ok found) :
    (found = blob ∧ blob.length ≤ r.maxObjectSize) ∨ r.read t other = .ok found := by
  have hready := h.store key blob now
  by_cases hkey : other = key
  · obtain ⟨t', heq, ⟨hok, content, -, hdecode, hstored⟩ | ⟨-, hsame⟩⟩ := store_spec h key blob now
    · refine .inl ⟨?_, ?_⟩
      · obtain ⟨mode, content', record, hfind, hdecode', rfl⟩ := of_read_ok hread
        rw [heq, hkey, hstored, if_pos rfl] at hfind
        obtain ⟨-, rfl⟩ := Entry.file.inj (Option.some.inj hfind)
        rw [hdecode] at hdecode'
        rw [← Except.ok.inj hdecode']
        rfl
      · by_contra hlarge
        rw [storeOutcome, if_pos (Nat.not_le.1 hlarge)] at hok
        cases hok
    · refine .inr ?_
      rw [heq] at hread hready
      rwa [← read_congr hready h fun q _ => by rw [hsame]]
  · have hbelow := store_frame h hkey blob now
    exact .inr (by rwa [← read_congr hready h hbelow])

/-- A token that can be read after a removal could be read before. -/
theorem read_delete (h : r.Ready t) {found : Bytes}
    (hread : r.read (r.delete t key).2 other = .ok found) : r.read t other = .ok found := by
  have hready := h.delete key
  by_cases hkey : other = key
  · obtain ⟨t', heq, ⟨-, -, herased⟩ | ⟨-, rfl⟩⟩ := delete_spec r t key
    · obtain ⟨mode, content, record, hfind, -, -⟩ := of_read_ok hread
      rw [heq, hkey, herased, if_pos rfl] at hfind
      cases hfind
    · rwa [heq] at hread
  · rwa [← read_congr hready h (delete_frame hkey t)]

/-- **Tokens within the limit stay so**, if the one that may be stored is within it. -/
theorem Within.dispatch (h : r.Ready t) (hwithin : r.Within t limit) {payload : Bytes}
    (hmax : payload.length ≤ r.maxObjectSize → payload.length ≤ limit) (now : Nat)
    (key : IdentityKey) (command : Command) :
    r.Within (r.dispatch now key command payload t).2 limit := by
  intro other found hread
  cases command with
  | readAuthToken =>
    rw [Registry.dispatch] at hread
    split at hread <;> exact hwithin other found hread
  | writeAuthToken =>
    rcases read_store h hread with ⟨rfl, hle⟩ | hbefore
    · exact hmax hle
    · exact hwithin other found hbefore
  | deleteAuthToken => exact hwithin other found (read_delete h hread)

theorem payload_ofOutcome (result : Except StorageError Unit) :
    (Reply.ofOutcome result).payload = [] := by
  cases result <;> rfl

/-- No reply is larger than the tokens that can be read. -/
theorem Within.reply (hwithin : r.Within t limit) (now : Nat) (key : IdentityKey)
    (command : Command) (payload : Bytes) :
    (r.dispatch now key command payload t).1.payload.length ≤ limit := by
  cases command with
  | readAuthToken =>
    rw [Registry.dispatch]
    split
    · next blob hread => exact hwithin key blob hread
    · exact Nat.zero_le _
  | writeAuthToken =>
    show (Reply.ofOutcome _).payload.length ≤ limit
    rw [payload_ofOutcome]
    exact Nat.zero_le _
  | deleteAuthToken =>
    show (Reply.ofOutcome _).payload.length ≤ limit
    rw [payload_ofOutcome]
    exact Nat.zero_le _

end Registry
end TokenBroker
