import TokenBroker.Daemon.Start
import TokenBroker.Proofs.Endpoint.Host
import TokenBroker.Proofs.Files.Contents
import TokenBroker.Proofs.Registry.Limits
import TokenBroker.Proofs.Registry.Opening
/-!
# How large the tokens on a disk are

A registry writes no token above its own limit, but it reads whatever stands on the disk.  So the
tokens there are no larger than those that stood there at first and the largest limit under which
any was written.

* `Record.Within` says so of the record in a file, and `Tree.Hold (Record.Within limit)` of all
  files of a tree.
* `hold_dispatch` keeps that through the commands of a registry whose limit is no larger,
  `hold_start` through the start of a daemon and `hold_afterStop` through its end.
-/

set_option autoImplicit false

namespace TokenBroker

/-- If a file holds a record, the token of it is within a limit. -/
def Record.Within (limit : Nat) (content : Bytes) : Prop :=
  ∀ record, Record.decode content = .ok record → record.blob.length ≤ limit

namespace Record

variable {limit : Nat}

theorem within_nil (limit : Nat) : Record.Within limit [] := by
  intro record hdecode
  cases hdecode

theorem Within.mono {limit' : Nat} {content : Bytes} (hle : limit ≤ limit')
    (h : Record.Within limit content) : Record.Within limit' content :=
  fun record hdecode => Nat.le_trans (h record hdecode) hle

theorem within_encode {blob content : Bytes} {now : UInt64}
    (hencode : (Record.ofBlob blob now).encode = .ok content) (hle : blob.length ≤ limit) :
    Record.Within limit content := by
  intro record hdecode
  by_cases hrep : Representable blob
  · obtain ⟨content', hencode', hdecode'⟩ := decode_encode_ofBlob hrep now
    obtain rfl := Except.ok.inj (hencode'.symm.trans hencode)
    obtain rfl := Except.ok.inj (hdecode'.symm.trans hdecode)
    exact hle
  · rw [encode_ofBlob_of_not hrep] at hencode
    cases hencode

end Record

/-- Tokens that are within a limit are within a larger one. -/
theorem Tree.Hold.widen {t : Tree} {limit limit' : Nat} (h : t.Hold (Record.Within limit))
    (hle : limit ≤ limit') : t.Hold (Record.Within limit') :=
  h.mono fun _ hwithin => hwithin.mono hle

namespace Registry

variable {P : Bytes → Prop} {r : Registry} {t : Tree} {limit : Nat}

theorem hold_open (h : t.Hold P) (hempty : P []) (root : String) (max : Nat) :
    (Registry.open t root max).2.Hold P := by
  have hmade := h.makePath hempty root
  rcases open_cases t root max with ⟨e, heq⟩ | ⟨t₁, p, hmake, -, hran⟩
  · rw [heq]
    exact hmade
  · rw [hmake] at hmade
    have hopened : (t₁.run (openSteps t₁ p)).2.Hold P := by
      refine Tree.Hold.run hmade hempty fun step hstep => ?_
      rcases List.mem_cons.1 hstep with rfl | hunlink
      · rfl
      · obtain ⟨q, -, rfl⟩ := List.mem_map.1 hunlink
        rfl
    rcases hran with ⟨t', hrun, heq⟩ | ⟨errno, t', hrun, heq⟩ <;>
    · rw [hrun] at hopened
      rw [heq]
      exact hopened

/-- The steps of a store write the record and nothing else. -/
theorem hold_storeSteps (h : t.Hold P) (hempty : P []) (directory : Place) {content : Bytes}
    (hcontent : P content) : (t.run (storeSteps t directory content)).2.Hold P := by
  have hquiet : ∀ step ∈ directorySteps t directory, step.writes = false := by
    intro step hstep
    rw [directorySteps] at hstep
    split at hstep
    · cases hstep
    · rcases List.mem_append.1 hstep with hmake | hmode
      · exact Tree.writes_of_mem_makeDirectories hmake
      · rw [List.mem_singleton.1 hmode]
        rfl
  have hrest : ∀ step ∈ [FileStep.sync (freeTemporary t directory),
      .rename (freeTemporary t directory) (directory ++ [entryName]), .sync directory],
      step.writes = false := by
    intro step hstep
    simp only [List.mem_cons, List.not_mem_nil, or_false] at hstep
    rcases hstep with rfl | rfl | rfl <;> rfl
  have hmade := h.run hempty hquiet
  rw [storeSteps, Tree.run_append]
  split
  · next t₁ heq =>
    rw [heq] at hmade
    exact hmade.write hempty _ _ hcontent hrest
  · next heq =>
    rw [heq] at hmade
    exact hmade

theorem hold_store (h : t.Hold (Record.Within limit)) (hmax : r.maxObjectSize ≤ limit)
    (key : IdentityKey) (blob : Bytes) (now : UInt64) :
    (r.store t key blob now).2.Hold (Record.Within limit) := by
  have hempty := Record.within_nil limit
  rw [store]
  split
  · exact h
  · next hsmall =>
    split
    · exact h
    · next content hencode =>
      have hcontent : Record.Within limit content :=
        Record.within_encode hencode (Nat.le_trans (Nat.not_lt.1 hsmall) hmax)
      have hstored := hold_storeSteps h hempty (r.entryDirectory key) hcontent
      dsimp only
      split <;> next heq =>
        rw [heq] at hstored
        first
          | exact hstored
          | exact Tree.Hold.discard hstored hempty _

theorem hold_delete (h : t.Hold P) (hempty : P []) (key : IdentityKey) :
    (r.delete t key).2.Hold P := by
  rw [tree_delete]
  refine h.run hempty fun step hstep => ?_
  simp only [List.mem_cons, List.not_mem_nil, or_false] at hstep
  rcases hstep with rfl | rfl <;> rfl

/-- **Tokens that are within a limit that no store exceeds stay so.** -/
theorem hold_dispatch (h : t.Hold (Record.Within limit)) (hmax : r.maxObjectSize ≤ limit)
    (now : Nat) (key : IdentityKey) (command : Command) (payload : Bytes) :
    (r.dispatch now key command payload t).2.Hold (Record.Within limit) := by
  cases command with
  | readAuthToken =>
    rw [dispatch]
    split <;> exact h
  | writeAuthToken => exact hold_store h hmax key payload _
  | deleteAuthToken => exact hold_delete h (Record.within_nil limit) key

/-- Only a token that was read makes a reply that is not empty, and it is one of those on the
disk. -/
theorem reply_of_hold (h : t.Hold (Record.Within limit)) (now : Nat) (key : IdentityKey)
    (command : Command) (payload : Bytes) :
    let reply := (r.dispatch now key command payload t).1
    reply.payload = [] ∨ (command = .readAuthToken ∧ reply.result = .ok
      ∧ reply.payload.length ≤ limit) := by
  cases command with
  | readAuthToken =>
    rw [dispatch]
    split
    · next blob hread =>
      obtain ⟨mode, content, record, hfind, hdecode, rfl⟩ := of_read_ok hread
      exact .inr ⟨rfl, rfl, h _ mode content hfind record hdecode⟩
    · exact .inl rfl
  | writeAuthToken => exact .inl (payload_ofOutcome _)
  | deleteAuthToken => exact .inl (payload_ofOutcome _)

end Registry

/-! ## Starting and stopping -/

namespace Host

variable {P : Bytes → Prop} {t : Tree} {h : Host}

theorem hold_removeStaleSocket (ht : t.Hold P) (hempty : P []) (text : String) :
    (removeStaleSocket t text).2.Hold P := by
  rw [removeStaleSocket]
  split
  · exact ht
  · exact ht
  · split
    · exact ht.runSteps hempty fun step hstep => by rw [List.mem_singleton.1 hstep]; rfl
    · exact ht

theorem hold_provideParent (ht : t.Hold P) (hempty : P []) (text : String) :
    (provideParent t text).2.Hold P := by
  rw [provideParent]
  split
  · exact ht
  · split
    · exact ht
    · exact ht.makePrivatePath hempty _ _

theorem hold_makeSocketFile (ht : t.Hold P) (hempty : P []) (text : String) (id : Nat) :
    (makeSocketFile t text id).2.Hold P := by
  rw [makeSocketFile]
  split
  · exact ht
  · exact ht
  · exact ht
  · refine ht.runSteps hempty fun step hstep => ?_
    simp only [List.mem_cons, List.not_mem_nil, or_false] at hstep
    rcases hstep with rfl | rfl <;> rfl

theorem hold_bindFile (ht : h.tree.Hold P) (hempty : P []) (text : String) :
    (h.bindFile text).2.tree.Hold P := by
  have hmade := hold_makeSocketFile ht hempty text h.nextListener
  rw [bindFile]
  split
  · exact ht
  · rw [tree_bindName]
    exact ht
  · split <;> next heq =>
      rw [heq] at hmade
      exact hmade

/-- Listening on an endpoint puts nothing into files. -/
theorem hold_bind (ht : h.tree.Hold P) (hempty : P []) (endpoint : Endpoint) :
    (h.bind endpoint).2.tree.Hold P := by
  cases endpoint with
  | name text => exact (tree_bindName h _).symm ▸ ht
  | path text =>
    have hparent := hold_provideParent ht hempty text
    rw [bind, bindPath]
    split
    · next heq =>
      rw [heq] at hparent
      exact hparent
    · next t₁ heq =>
      rw [heq] at hparent
      have hremoved := hold_removeStaleSocket hparent hempty text
      split <;> next heq' =>
        rw [heq'] at hremoved
        first
          | exact hremoved
          | exact hold_bindFile (h := { h with tree := _ }) hremoved hempty text

theorem hold_cleanup (ht : h.tree.Hold P) (hempty : P []) (endpoint : Endpoint) :
    (h.cleanup endpoint).tree.Hold P := by
  cases endpoint with
  | name text => exact ht
  | path text => exact hold_removeStaleSocket ht hempty text

end Host

namespace Daemon

variable {P : Bytes → Prop} {h : Host}

theorem hold_serve {σ : Type} (ht : h.tree.Hold P) (hempty : P []) (endpoint : Endpoint)
    (service : Service σ) (maxConnections : Nat) :
    (serve h endpoint service maxConnections).2.tree.Hold P := by
  have hbound := Host.hold_bind ht hempty endpoint
  rw [serve]
  split
  · next heq =>
    rw [heq] at hbound
    exact hbound
  · next heq =>
    rw [heq] at hbound
    split <;> exact hbound

/-- Starting a daemon puts nothing into files, whether it succeeds or not. -/
theorem hold_start (ht : h.tree.Hold P) (hempty : P []) (plan : DaemonPlan) :
    (start h plan).2.tree.Hold P := by
  have hopened := Registry.hold_open ht hempty plan.root plan.maxObjectSize
  rw [start]
  split
  · next heq =>
    rw [heq] at hopened
    exact hopened
  · next heq =>
    rw [heq] at hopened
    dsimp only
    split
    · exact hopened
    · exact hold_serve (h := { h with tree := _ }) hopened hempty _ _ _

/-- A daemon that stops puts nothing into files. -/
theorem hold_afterStop {σ : Type} (ht : h.tree.Hold P) (hempty : P []) (running : Running σ) :
    (afterStop h running).tree.Hold P :=
  Host.hold_cleanup (h := h.release running.listener) ht hempty running.endpoint

/-- A daemon that started serves a registry with the limit that it was started with. -/
theorem service_of_start {host : Host} {plan : DaemonPlan} {running : Running Tree}
    (hstart : start h plan = (.ok running, host)) :
    ∃ r : Registry, r.maxObjectSize = plan.maxObjectSize
      ∧ running.service = r.service plan.maxObjectSize plan.idle plan.scope
      ∧ running.server = .ofLimit plan.maxConnections := by
  rw [start] at hstart
  split at hstart
  · cases (Prod.mk.inj hstart).1
  · next r t hopen =>
    have hmax : r.maxObjectSize = plan.maxObjectSize := by rw [(Registry.of_open_ok hopen).1]
    dsimp only at hstart
    split at hstart
    · cases (Prod.mk.inj hstart).1
    · rw [serve] at hstart
      split at hstart
      · cases (Prod.mk.inj hstart).1
      · split at hstart
        · cases (Prod.mk.inj hstart).1
        · obtain rfl := Except.ok.inj (Prod.mk.inj hstart).1
          exact ⟨r, hmax, rfl, rfl⟩

end Daemon
end TokenBroker
