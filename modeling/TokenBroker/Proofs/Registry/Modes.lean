import TokenBroker.Proofs.Registry.Confinement
import TokenBroker.Proofs.Registry.Interruptions
import TokenBroker.Proofs.Registry.Isolation
import TokenBroker.Proofs.Registry.Sweeping
/-!
# Who may read a token

The file of a token is closed to others whoever made the file before it.  Of its directory a store
sets the mode only when it makes the directory itself.

* `run_replaceSteps_ok` and `run_directorySteps_ok` tell of the two halves of a store what they
  leave when they succeed, on any tree at all, and `of_store_ok` puts them together.
* `store_modes` is what a store leaves of both modes.
* `Private` is what keeps directories closed; `Private.performAll` says that whole operations keep
  it, and `Private.store` what it is good for.
* `store_in_abandoned_directory` is a store cut off after it made the directory: neither opening the
  registry nor another store closes that directory to others.
-/

set_option autoImplicit false

namespace TokenBroker

namespace Tree

variable {t t' : Tree}

/-- Steps succeed if each does. -/
theorem run_cons_ok {step : FileStep} {rest : List FileStep}
    (h : t.run (step :: rest) = (.ok (), t')) :
    ∃ t₁, step.apply t = .ok t₁ ∧ t₁.run rest = (.ok (), t') := by
  rw [run] at h
  cases happly : step.apply t with
  | error errno =>
    rw [happly] at h
    cases (Prod.mk.inj h).1
  | ok t₁ =>
    rw [happly] at h
    exact ⟨t₁, rfl, h⟩

theorem run_append_ok {first rest : List FileStep}
    (h : t.run (first ++ rest) = (.ok (), t')) :
    ∃ t₁, t.run first = (.ok (), t₁) ∧ t₁.run rest = (.ok (), t') := by
  rw [run_append] at h
  generalize t.run first = ran at h
  obtain ⟨result, t₁⟩ := ran
  cases result with
  | error errno => cases (Prod.mk.inj h).1
  | ok done => exact ⟨t₁, rfl, h⟩

end Tree

namespace Registry

variable {r : Registry} {t t' : Tree} {key : IdentityKey} {directory : Place} {name : String}
  {content : Bytes}

/-! ## The two halves of a store -/

/-- When the steps that replace an entry succeed, the entry is a new file, and lies in a
directory. -/
theorem run_replaceSteps_ok
    (h : t.run (replaceSteps directory (directory ++ [name]) content) = (.ok (), t')) :
    t.isDirectory directory = true
      ∧ t'.find? (directory ++ [entryName]) = some (.file entryMode content)
      ∧ t'.find? directory = t.find? directory := by
  rw [replaceSteps] at h
  obtain ⟨created, hcreate, h⟩ := Tree.run_cons_ok h
  obtain ⟨written, happend, h⟩ := Tree.run_cons_ok h
  obtain ⟨synced, hsync, h⟩ := Tree.run_cons_ok h
  obtain ⟨renamed, hrename, h⟩ := Tree.run_cons_ok h
  obtain ⟨last, hlast, h⟩ := Tree.run_cons_ok h
  obtain ⟨-, rfl⟩ := Prod.mk.inj h
  obtain ⟨hdir, rfl⟩ : t.isDirectory directory = true
      ∧ t.insert (directory ++ [name]) (.file entryMode []) = created := by
    cases Tree.effect_of_apply hcreate with
    | createFile hstat hway =>
      exact ⟨((Tree.of_blocked?_eq_none hway).2 directory name rfl).isDirectory, rfl⟩
  obtain ⟨mode, old, hold, rfl⟩ : ∃ mode old,
      (t.insert (directory ++ [name]) (.file entryMode [])).find? (directory ++ [name])
        = some (.file mode old)
      ∧ (t.insert (directory ++ [name]) (.file entryMode [])).insert (directory ++ [name])
        (.file mode (old ++ content)) = written := by
    cases Tree.effect_of_apply happend with
    | append hstat => exact ⟨_, _, Tree.find?_of_stat hstat, rfl⟩
  rw [Tree.find?_insert, if_pos rfl] at hold
  obtain ⟨rfl, rfl⟩ := Entry.file.inj (Option.some.inj hold)
  cases Tree.effect_of_apply hsync
  cases Tree.effect_of_apply hlast
  cases Tree.effect_of_apply hrename with
  | rename hstat hway htarget =>
    have hfound := Tree.find?_of_stat hstat
    rw [Tree.find?_insert, if_pos rfl] at hfound
    refine ⟨hdir, ?_, ?_⟩
    · rw [Tree.find?_insert, if_pos rfl, ← hfound]
      rfl
    · have hout : ∀ name, directory ≠ directory ++ [name] := fun name => by simp
      rw [Tree.find?_insert, if_neg (hout _), Tree.find?_erase, if_neg (hout _),
        Tree.find?_insert, if_neg (hout _), Tree.find?_insert, if_neg (hout _)]

/-- When the steps that make a directory succeed, it was there already, or its mode was set. -/
theorem run_directorySteps_ok (h : t.run (directorySteps t directory) = (.ok (), t')) :
    (t.has directory = true ∧ t' = t)
      ∨ (t.has directory = false
        ∧ ∃ e : Entry, t'.find? directory = some (e.withMode directoryMode)) := by
  rw [directorySteps] at h
  split at h
  · next hthere => exact .inl ⟨hthere, (Prod.mk.inj h).2.symm⟩
  · next hnone =>
    obtain ⟨made, -, hset⟩ := Tree.run_append_ok h
    obtain ⟨closed, hclose, hset⟩ := Tree.run_cons_ok hset
    obtain ⟨-, rfl⟩ := Prod.mk.inj hset
    refine .inr ⟨Bool.eq_false_iff.2 hnone, ?_⟩
    cases Tree.effect_of_apply hclose with
    | setMode hstat => exact ⟨_, by rw [Tree.find?_insert, if_pos rfl]⟩

/-- A store that succeeds has taken its steps. -/
theorem run_of_store_ok {blob : Bytes} {now : UInt64} (h : (r.store t key blob now).1 = .ok ()) :
    ∃ content, (Record.ofBlob blob now).encode = .ok content
      ∧ t.run (storeSteps t (r.entryDirectory key) content)
        = (.ok (), (r.store t key blob now).2) := by
  rw [store] at h ⊢
  split at h
  · cases h
  next hsize =>
  rw [if_neg hsize]
  cases hencode : (Record.ofBlob blob now).encode with
  | error text =>
    rw [hencode] at h
    cases h
  | ok content =>
    rw [hencode] at h
    refine ⟨content, rfl, ?_⟩
    dsimp only at h ⊢
    generalize t.run (storeSteps t (r.entryDirectory key) content) = ran at h
    obtain ⟨result, t'⟩ := ran
    cases result with
    | error errno => cases h
    | ok done => rfl

/-- A store that succeeds has its directory made, if need be, and then a new entry in it. -/
theorem of_store_ok {blob : Bytes} {now : UInt64} (h : (r.store t key blob now).1 = .ok ()) :
    ∃ made content, t.run (directorySteps t (r.entryDirectory key)) = (.ok (), made)
      ∧ made.isDirectory (r.entryDirectory key) = true
      ∧ (r.store t key blob now).2.find? (r.entryPlace key) = some (.file entryMode content)
      ∧ (r.store t key blob now).2.find? (r.entryDirectory key)
        = made.find? (r.entryDirectory key) := by
  obtain ⟨content, -, hrun⟩ := run_of_store_ok h
  obtain ⟨n, htemp, -⟩ := freeTemporary_spec t (r.entryDirectory key)
  rw [storeSteps, htemp] at hrun
  obtain ⟨made, hmake, hreplace⟩ := Tree.run_append_ok hrun
  exact ⟨made, content, hmake, run_replaceSteps_ok hreplace⟩

/-! ## One store -/

/-- **The file of a token that was stored is closed to others, and so is its directory if the store
made it.  A directory that was there keeps its mode.** -/
theorem store_modes {blob : Bytes} {now : UInt64} (h : (r.store t key blob now).1 = .ok ()) :
    (∃ content, (r.store t key blob now).2.find? (r.entryPlace key)
        = some (.file entryMode content))
      ∧ ∃ mode, (r.store t key blob now).2.find? (r.entryDirectory key) = some (.directory mode)
        ∧ (t.has (r.entryDirectory key) = false ∧ mode = directoryMode
          ∨ t.has (r.entryDirectory key) = true
            ∧ t.find? (r.entryDirectory key) = some (.directory mode)) := by
  obtain ⟨made, content, hmake, hdir, hentry, hsame⟩ := of_store_ok h
  obtain ⟨mode, hmode⟩ := Tree.isDirectory_eq_true_iff.1 hdir
  refine ⟨⟨content, hentry⟩, mode, hsame.trans hmode, ?_⟩
  rcases run_directorySteps_ok hmake with ⟨hthere, rfl⟩ | ⟨hnone, e, hclosed⟩
  · exact .inr ⟨hthere, hmode⟩
  · rw [hmode] at hclosed
    refine .inl ⟨hnone, ?_⟩
    cases e with
    | directory old => exact Entry.directory.inj (Option.some.inj hclosed)
    | file | socket => cases hclosed

/-- A store into a directory that was there. -/
theorem store_modes_mirror :
    let r : Registry := ⟨"r", ["r"], 4⟩
    let key : IdentityKey := ⟨"k", by decide⟩
    let t : Tree := ⟨[([], .directory 0o755), (["r"], .directory 0o700),
      (["r", "k"], .directory 0o700), (["r", "k", "auth_token.so"], .file 0o644 [])]⟩
    (r.store t key [7] 5).1 = .ok ()
      ∧ (∃ content, (r.store t key [7] 5).2.find? (r.entryPlace key) = some (.file 0o600 content))
      ∧ ∃ mode, (r.store t key [7] 5).2.find? (r.entryDirectory key) = some (.directory mode) := by
  intro r key t
  have hok : (r.store t key [7] 5).1 = .ok () := by decide +kernel
  obtain ⟨hentry, mode, hdir, -⟩ := store_modes hok
  exact ⟨hok, hentry, mode, hdir⟩

/-! ## Any number of whole operations -/

/-- A registry between two operations, with the directories of all keys closed to others. -/
structure Private (r : Registry) (t : Tree) : Prop extends r.Ready t where
  /-- The path of the root leads there. -/
  located : t.locate r.root = .ok r.place
  closed : ∀ (key : IdentityKey) (mode : Nat),
    t.find? (r.entryDirectory key) = some (.directory mode) → mode = directoryMode

namespace Private

/-- An operation that leaves directories alone, and makes none but closed ones, keeps it so. -/
theorem of_kept (h : r.Private t) (hready : r.Ready t')
    (hkeep : ∀ q, t.isDirectory q = true → t'.isDirectory q = true)
    (hclosed : ∀ key : IdentityKey, t'.find? (r.entryDirectory key)
        = t.find? (r.entryDirectory key)
      ∨ t'.find? (r.entryDirectory key) = some (.directory directoryMode)) : r.Private t' where
  toReady := hready
  located := Tree.locate_mono hkeep h.located h.rooted
  closed key mode hmode := by
    rcases hclosed key with hsame | hmade
    · exact h.closed key mode (hsame ▸ hmode)
    · rw [hmade] at hmode
      exact (Entry.directory.inj (Option.some.inj hmode)).symm

theorem afterStore (h : r.Private t) (key : IdentityKey) (blob : Bytes) (now : UInt64) :
    r.Private (r.store t key blob now).2 := by
  refine h.of_kept (h.toReady.store key blob now) (fun q hq => ?_) fun other => ?_
  · obtain ⟨mode, hmode⟩ := Tree.isDirectory_eq_true_iff.1 hq
    exact Tree.isDirectory_eq_true_iff.2
      ⟨mode, store_keeps h.toReady hmode (.inr rfl) blob now⟩
  · obtain ⟨t', heq, ⟨-, content, -, -, hstored⟩ | ⟨-, hsame⟩⟩ :=
      store_spec h.toReady key blob now
    · rw [heq, hstored, if_neg (entryPlace_ne_entryDirectory r key other).symm]
      split
      · next hdir =>
        rw [← hdir]
        cases t.find? (r.entryDirectory other) with
        | none => exact .inr rfl
        | some e => exact .inl rfl
      · exact .inl rfl
    · rw [heq]
      exact .inl (hsame _)

theorem afterDelete (h : r.Private t) (key : IdentityKey) : r.Private (r.delete t key).2 := by
  refine h.of_kept (h.toReady.delete key) (fun q hq => ?_) fun other => .inl ?_
  · obtain ⟨mode, hmode⟩ := Tree.isDirectory_eq_true_iff.1 hq
    exact Tree.isDirectory_eq_true_iff.2 ⟨mode, delete_keeps hmode (.inr rfl)⟩
  · rcases delete_any r t key with ⟨-, herased⟩ | ⟨-, hsame⟩
    · rw [herased, if_neg (entryPlace_ne_entryDirectory r key other).symm]
    · rw [hsame]

/-- **A whole operation leaves the directories of all keys closed to others.** -/
theorem perform (h : r.Private t) (op : Operation) :
    (r.perform t op).2.1.Private (r.perform t op).2.2 := by
  cases op with
  | store key blob now => exact h.afterStore key blob now
  | read key => exact h
  | delete key => exact h.afterDelete key
  | contains key => exact h
  | reopen max =>
    obtain ⟨t', hopen, hfind⟩ := h.toReady.open_again h.located max
    obtain ⟨hready, -, -, -, hlocated⟩ := open_ok h.wellFormed hopen
    rw [Registry.perform, hopen]
    refine ⟨hready, hlocated, fun key mode hmode => h.closed key mode ?_⟩
    have hne : r.entryDirectory key ≠ r.place := by simp [entryDirectory]
    rw [← hmode]
    exact ((hfind _).trans (if_neg hne)).symm

/-- As long as no operation is cut off, the directories of all keys stay closed to others. -/
theorem performAll (h : r.Private t) (ops : List Operation) :
    (r.performAll t ops).2.1.Private (r.performAll t ops).2.2 := by
  induction ops generalizing r t with
  | nil => exact h
  | cons op rest ih => exact ih (h.perform op)

/-- Where all directories are closed to others, a token that was stored is its owner's alone. -/
theorem store (h : r.Private t) {blob : Bytes} {now : UInt64}
    (hok : (r.store t key blob now).1 = .ok ()) :
    (∃ content, (r.store t key blob now).2.find? (r.entryPlace key)
        = some (.file entryMode content))
      ∧ (r.store t key blob now).2.find? (r.entryDirectory key)
        = some (.directory directoryMode) := by
  obtain ⟨made, content, -, hdir, hentry, hsame⟩ := of_store_ok hok
  obtain ⟨mode, hmode⟩ := Tree.isDirectory_eq_true_iff.1 hdir
  rw [← hsame] at hmode
  obtain rfl := (h.afterStore key blob now).closed key mode hmode
  exact ⟨⟨content, hentry⟩, hmode⟩

end Private

/-! ## A store that was cut off -/

/-- **A directory stays open to others once a store was cut off between making it and setting its
mode.**  The registry is opened again, the token is stored after all, and everybody can look into
the directory. -/
theorem store_in_abandoned_directory :
    let r : Registry := ⟨"r", ["r"], 4⟩
    let key : IdentityKey := ⟨"k", by decide⟩
    let bare : Tree := ⟨[([], .directory 0o755), (["r"], .directory 0o700)]⟩
    let t := (r.undergo bare (.cut (.store key [7] 5) 1 0 [] 4)).2.2
    (r.undergo bare (.cut (.store key [7] 5) 1 0 [] 4)).1.isError = false
      ∧ (r.store t key [7] 6).1 = .ok ()
      ∧ (r.store t key [7] 6).2.find? (r.entryDirectory key) = some (.directory 0o755) :=
  ⟨by decide +kernel, by decide +kernel, by decide +kernel⟩

end Registry
end TokenBroker
