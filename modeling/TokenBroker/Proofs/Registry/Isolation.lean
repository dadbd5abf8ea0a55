import TokenBroker.Daemon.Dispatcher
import TokenBroker.Proofs.Registry.Operations
/-!
# One key does not see another

What the operations of a registry do for one key depends on the directory of that key alone, and
changes nothing outside of it.

* `SameBelow` compares two trees below a place, the times of storing aside.
* `dispatch_congr` says that a command is answered alike on trees that agree below the directory of
  its key, whatever the time, and leaves them so.
* `dispatch_frame` says that it leaves alone what is below the directory of any other key.
* `forUid_injective` says that different callers have different keys.
-/

set_option autoImplicit false

namespace TokenBroker

/-! ## Keys of callers -/

theorem IdentityKey.forUid_injective {uid uid' : UInt32}
    (h : IdentityKey.forUid uid = IdentityKey.forUid uid') : uid = uid' := by
  have htext : uidText uid = uidText uid' := congrArg IdentityKey.text h
  have hdigits := List.append_cancel_left (String.ofList_injective htext)
  have hnat : uid.toNat = uid'.toNat := by
    rw [← Nat.ofDigitChars_ten_toDigits (n := uid.toNat), hdigits, Nat.ofDigitChars_ten_toDigits]
  exact UInt32.toNat_inj.1 hnat

/-! ## Trees that agree below a place -/

/-- An entry with the time of storing blotted out. -/
def Entry.timeless : Entry → Entry
  | .file mode content => .file mode (Record.timeless content)
  | .directory mode => .directory mode
  | .socket mode id => .socket mode id

/-- Two trees agree at a place and below it, the times of storing aside. -/
def Tree.SameBelow (p : Place) (t t' : Tree) : Prop :=
  ∀ q, p <+: q → (t.find? q).map Entry.timeless = (t'.find? q).map Entry.timeless

namespace Tree

variable {p : Place} {t t' t₁ t₂ : Tree}

theorem SameBelow.refl (p : Place) (t : Tree) : SameBelow p t t := fun _ _ => rfl

theorem SameBelow.symm (h : SameBelow p t t') : SameBelow p t' t := fun q hq => (h q hq).symm

theorem SameBelow.trans (h : SameBelow p t t₁) (h' : SameBelow p t₁ t₂) : SameBelow p t t₂ :=
  fun q hq => (h q hq).trans (h' q hq)

theorem SameBelow.narrow {q : Place} (h : SameBelow p t t') (hq : p <+: q) : SameBelow q t t' :=
  fun q' hq' => h q' (hq.trans hq')

end Tree

namespace Registry

variable {r : Registry} {t t' t₁ t₂ : Tree} {key other : IdentityKey} {p : Place}

theorem entryDirectory_prefix_entryPlace (r : Registry) (key : IdentityKey) :
    r.entryDirectory key <+: r.entryPlace key := List.prefix_append _ _

/-- What an access to an entry finds, the time of storing aside, is a matter of what is below the
directory of its key. -/
theorem stat_entryPlace_timeless (h₁ : r.Ready t₁) (h₂ : r.Ready t₂)
    (hsame : Tree.SameBelow (r.entryDirectory key) t₁ t₂) :
    (t₁.stat (r.entryPlace key)).map Entry.timeless
      = (t₂.stat (r.entryPlace key)).map Entry.timeless := by
  have hkind : ∀ e : Entry, e.timeless.isDirectory = e.isDirectory := fun e => by cases e <;> rfl
  have hdir := hsame _ List.prefix_rfl
  have hentry := hsame _ (entryDirectory_prefix_entryPlace r key)
  rw [h₁.stat_entryPlace, h₂.stat_entryPlace]
  cases hfind₁ : t₁.find? (r.entryDirectory key) with
  | none =>
    rw [hfind₁, Option.map_none, eq_comm, Option.map_eq_none_iff] at hdir
    rw [hdir]
  | some e₁ =>
    rw [hfind₁, Option.map_some, eq_comm, Option.map_eq_some_iff] at hdir
    obtain ⟨e₂, hfind₂, heq⟩ := hdir
    rw [hfind₂]
    dsimp only
    rw [← hkind e₁, ← heq, hkind e₂]
    split
    · cases hget₁ : t₁.find? (r.entryPlace key) with
      | none =>
        rw [hget₁, Option.map_none, eq_comm, Option.map_eq_none_iff] at hentry
        rw [hentry]
      | some e₁ =>
        rw [hget₁, Option.map_some, eq_comm, Option.map_eq_some_iff] at hentry
        obtain ⟨e₂, hget₂, heq⟩ := hentry
        rw [hget₂]
        exact congrArg Except.ok heq.symm
    · rfl

/-! ## What is answered -/

theorem storeFault?_timeless (found : Except Errno Entry) :
    storeFault? (found.map Entry.timeless) = storeFault? found := by
  cases found with
  | error errno => rfl
  | ok e => cases e <;> rfl

theorem deleteOutcome_timeless (key : IdentityKey) (found : Except Errno Entry) :
    deleteOutcome key (found.map Entry.timeless) = deleteOutcome key found := by
  cases found with
  | error errno => rfl
  | ok e => cases e <;> rfl

/-- What is read, as it follows from what an access to the entry finds. -/
def readOutcome (key : IdentityKey) : Except Errno Entry → Except StorageError Bytes
  | .ok (.file _ content) =>
    match (Record.decode content).map (·.blob) with
    | .error defect => .error (.corrupt defect)
    | .ok blob => .ok blob
  | .ok (.directory _) => .error (.io (.os .isDirectory))
  | .ok (.socket _ _) => .error (.io (.os .noSuchDevice))
  | .error .noEntry => .error (.notFound key)
  | .error errno => .error (.io (.os errno))

theorem read_eq (r : Registry) (t : Tree) (key : IdentityKey) :
    r.read t key = readOutcome key (t.stat (r.entryPlace key)) := by
  rw [read, load, Tree.readFile]
  cases t.stat (r.entryPlace key) with
  | error errno => cases errno <;> rfl
  | ok e =>
    cases e with
    | directory mode => rfl
    | socket mode id => rfl
    | file mode content =>
      simp only [readOutcome]
      cases Record.decode content <;> rfl

theorem readOutcome_timeless (key : IdentityKey) (found : Except Errno Entry) :
    readOutcome key (found.map Entry.timeless) = readOutcome key found := by
  cases found with
  | error errno => rfl
  | ok e =>
    cases e with
    | directory mode => rfl
    | socket mode id => rfl
    | file mode content =>
      rw [show (Except.ok (.file mode content) : Except Errno Entry).map Entry.timeless
        = .ok (.file mode (Record.timeless content)) from rfl, readOutcome, readOutcome,
        Record.decode_timeless_blob]

/-! ## On trees that agree -/

theorem read_congr (h₁ : r.Ready t₁) (h₂ : r.Ready t₂)
    (hsame : Tree.SameBelow (r.entryDirectory key) t₁ t₂) : r.read t₁ key = r.read t₂ key := by
  rw [read_eq, read_eq, ← readOutcome_timeless, stat_entryPlace_timeless h₁ h₂ hsame,
    readOutcome_timeless]

theorem store_congr (h₁ : r.Ready t₁) (h₂ : r.Ready t₂) (hp : p <+: r.entryDirectory key)
    (hsame : Tree.SameBelow p t₁ t₂) (blob : Bytes) (now later : UInt64) :
    (r.store t₁ key blob now).1 = (r.store t₂ key blob later).1
      ∧ Tree.SameBelow p (r.store t₁ key blob now).2 (r.store t₂ key blob later).2 := by
  obtain ⟨t₁', heq₁, hcases₁⟩ := store_spec h₁ key blob now
  obtain ⟨t₂', heq₂, hcases₂⟩ := store_spec h₂ key blob later
  have houtcome : r.storeOutcome (t₁.stat (r.entryPlace key)) blob
      = r.storeOutcome (t₂.stat (r.entryPlace key)) blob := by
    rw [storeOutcome, storeOutcome, ← storeFault?_timeless,
      stat_entryPlace_timeless h₁ h₂ (hsame.narrow hp), storeFault?_timeless]
  rw [heq₁, heq₂]
  refine ⟨houtcome, fun q hq => ?_⟩
  rw [houtcome] at hcases₁
  rcases hcases₁ with ⟨hok, content₁, hencode₁, -, hstored₁⟩ | ⟨hfail, hsame₁⟩
  · obtain ⟨-, content₂, hencode₂, -, hstored₂⟩ := hcases₂.resolve_right fun hne => hne.1 hok
    rw [hstored₁, hstored₂]
    split
    · simp only [Option.map_some, Entry.timeless, Record.timeless_encode hencode₁ hencode₂]
    · split
      · have hdir := hsame _ hp
        cases hfind₁ : t₁.find? (r.entryDirectory key) with
        | none =>
          rw [hfind₁, Option.map_none, eq_comm, Option.map_eq_none_iff] at hdir
          rw [hdir]
        | some e₁ =>
          rw [hfind₁, Option.map_some, eq_comm, Option.map_eq_some_iff] at hdir
          obtain ⟨e₂, hfind₂, heq⟩ := hdir
          rw [hfind₂, Option.getD_some, Option.getD_some, Option.map_some, Option.map_some, heq]
      · exact hsame q hq
  · obtain ⟨-, hsame₂⟩ := hcases₂.resolve_left fun hok => hfail hok.1
    rw [hsame₁, hsame₂]
    exact hsame q hq

theorem delete_congr (h₁ : r.Ready t₁) (h₂ : r.Ready t₂) (hp : p <+: r.entryDirectory key)
    (hsame : Tree.SameBelow p t₁ t₂) :
    (r.delete t₁ key).1 = (r.delete t₂ key).1
      ∧ Tree.SameBelow p (r.delete t₁ key).2 (r.delete t₂ key).2 := by
  obtain ⟨t₁', heq₁, hcases₁⟩ := delete_spec r t₁ key
  obtain ⟨t₂', heq₂, hcases₂⟩ := delete_spec r t₂ key
  have houtcome : deleteOutcome key (t₁.stat (r.entryPlace key))
      = deleteOutcome key (t₂.stat (r.entryPlace key)) := by
    rw [← deleteOutcome_timeless, stat_entryPlace_timeless h₁ h₂ (hsame.narrow hp),
      deleteOutcome_timeless]
  rw [heq₁, heq₂]
  refine ⟨houtcome, fun q hq => ?_⟩
  rw [houtcome] at hcases₁
  rcases hcases₁ with ⟨hok, -, herased₁⟩ | ⟨hfail, rfl⟩
  · obtain ⟨-, -, herased₂⟩ := hcases₂.resolve_right fun hne => hne.1 hok
    rw [herased₁, herased₂]
    split
    · rfl
    · exact hsame q hq
  · obtain ⟨-, rfl⟩ := hcases₂.resolve_left fun hok => hfail hok.1
    exact hsame q hq

/-! ## For another key -/

/-- What lies below the directory of a key is no place of another key. -/
theorem ne_of_below (hne : other ≠ key) {q : Place} (hq : r.entryDirectory other <+: q) :
    q ≠ r.entryDirectory key ∧ q ≠ r.entryPlace key := by
  have hkeys : ∀ {place : Place}, place = r.entryDirectory other →
      place ≠ r.entryDirectory key := by
    rintro _ rfl heq
    exact hne (IdentityKey.ext (List.singleton_inj.1 (List.append_inj' heq rfl).2))
  have hlen : (r.entryDirectory other).length = (r.entryDirectory key).length := by
    simp [entryDirectory]
  constructor
  · rintro rfl
    exact hkeys rfl (hq.eq_of_length hlen)
  · rintro rfl
    exact hkeys rfl (List.prefix_of_prefix_length_le hq (entryDirectory_prefix_entryPlace r key)
      (Nat.le_of_eq hlen) |>.eq_of_length hlen)

theorem store_frame (h : r.Ready t) (hne : other ≠ key) (blob : Bytes) (now : UInt64) :
    Tree.SameBelow (r.entryDirectory other) (r.store t key blob now).2 t := by
  intro q hq
  obtain ⟨hdir, hentry⟩ := ne_of_below hne hq
  obtain ⟨t', heq, ⟨-, content, -, -, hstored⟩ | ⟨-, hsame⟩⟩ := store_spec h key blob now
  · rw [heq, hstored, if_neg hentry, if_neg hdir]
  · rw [heq, hsame]

theorem delete_frame (hne : other ≠ key) (t : Tree) :
    Tree.SameBelow (r.entryDirectory other) (r.delete t key).2 t := by
  intro q hq
  obtain ⟨t', heq, ⟨-, -, herased⟩ | ⟨-, rfl⟩⟩ := delete_spec r t key
  · rw [heq, herased, if_neg (ne_of_below hne hq).2]
  · rw [heq]

/-! ## Elsewhere -/

/-- A store replaces nothing but a file in the place of the entry. -/
theorem store_keeps (h : r.Ready t) {e : Entry} (hfind : t.find? p = some e)
    (hp : p ≠ r.entryPlace key ∨ e.isDirectory = true) (blob : Bytes) (now : UInt64) :
    (r.store t key blob now).2.find? p = some e := by
  obtain ⟨t', heq, ⟨hok, content, -, -, hstored⟩ | ⟨-, hsame⟩⟩ := store_spec h key blob now
  · rw [heq, hstored]
    by_cases hentry : p = r.entryPlace key
    · obtain ⟨mode, rfl⟩ : ∃ mode, e = .directory mode := by
        have hdir := hp.resolve_left (not_not_intro hentry)
        cases e <;> simp_all [Entry.isDirectory]
      have hstat := h.wellFormed.stat_of_find? hfind
      rw [storeOutcome, ← hentry, hstat] at hok
      split at hok
      · cases hok
      · split at hok <;> cases hok
    · rw [if_neg hentry]
      split
      · next hdir => rw [← hdir, hfind, Option.getD_some]
      · exact hfind
  · rw [heq, hsame, hfind]

theorem delete_keeps {e : Entry} (hfind : t.find? p = some e)
    (hp : p ≠ r.entryPlace key ∨ e.isDirectory = true) :
    (r.delete t key).2.find? p = some e := by
  obtain ⟨t', heq, ⟨-, hfile, herased⟩ | ⟨-, rfl⟩⟩ := delete_spec r t key
  · have hentry : p ≠ r.entryPlace key := by
      rcases hp with hne | hdir
      · exact hne
      · rintro rfl
        rw [Tree.isDirectory, hfind] at hfile
        exact absurd hdir (by simpa using hfile)
    rw [heq, herased, if_neg hentry, hfind]
  · rw [heq, hfind]

/-! ## Commands -/

/-- A command takes away or replaces nothing but a file in the place of an entry. -/
theorem dispatch_keeps (h : r.Ready t) {e : Entry} (hfind : t.find? p = some e)
    (hp : p ≠ r.entryPlace key ∨ e.isDirectory = true) (now : Nat) (command : Command)
    (payload : Bytes) : (r.dispatch now key command payload t).2.find? p = some e := by
  cases command with
  | readAuthToken =>
    rw [dispatch]
    split <;> exact hfind
  | writeAuthToken => exact store_keeps h hfind hp payload _
  | deleteAuthToken => exact delete_keeps hfind hp

theorem dispatch_isDirectory (h : r.Ready t) (now : Nat) (command : Command) (payload : Bytes)
    {q : Place} (hq : t.isDirectory q = true) :
    (r.dispatch now key command payload t).2.isDirectory q = true := by
  obtain ⟨mode, hmode⟩ := Tree.isDirectory_eq_true_iff.1 hq
  exact Tree.isDirectory_eq_true_iff.2 ⟨mode, dispatch_keeps h hmode (.inr rfl) now command payload⟩

theorem dispatch_ready (h : r.Ready t) (now : Nat) (key : IdentityKey) (command : Command)
    (payload : Bytes) : r.Ready (r.dispatch now key command payload t).2 := by
  cases command with
  | readAuthToken =>
    rw [dispatch]
    split <;> exact h
  | writeAuthToken => exact h.store key payload _
  | deleteAuthToken => exact h.delete key

/-- **A command is answered alike on trees that agree below the directory of its key, and leaves
them so.** -/
theorem dispatch_congr (h₁ : r.Ready t₁) (h₂ : r.Ready t₂) (hp : p <+: r.entryDirectory key)
    (hsame : Tree.SameBelow p t₁ t₂) (now later : Nat) (command : Command) (payload : Bytes) :
    (r.dispatch now key command payload t₁).1 = (r.dispatch later key command payload t₂).1
      ∧ Tree.SameBelow p (r.dispatch now key command payload t₁).2
          (r.dispatch later key command payload t₂).2 := by
  cases command with
  | readAuthToken =>
    simp only [dispatch, read_congr h₁ h₂ (hsame.narrow hp)]
    split <;> exact ⟨rfl, hsame⟩
  | writeAuthToken =>
    obtain ⟨houtcome, hsame'⟩ :=
      store_congr h₁ h₂ hp hsame payload (UInt64.ofNat now) (UInt64.ofNat later)
    exact ⟨congrArg Reply.ofOutcome houtcome, hsame'⟩
  | deleteAuthToken =>
    obtain ⟨houtcome, hsame'⟩ := delete_congr h₁ h₂ hp hsame
    exact ⟨congrArg Reply.ofOutcome houtcome, hsame'⟩

/-- **A command leaves alone what is below the directory of another key.** -/
theorem dispatch_frame (h : r.Ready t) (hne : other ≠ key) (now : Nat) (command : Command)
    (payload : Bytes) :
    Tree.SameBelow (r.entryDirectory other) (r.dispatch now key command payload t).2 t := by
  cases command with
  | readAuthToken =>
    rw [dispatch]
    split <;> exact .refl _ t
  | writeAuthToken => exact store_frame h hne payload _
  | deleteAuthToken => exact delete_frame hne t

end Registry
end TokenBroker
