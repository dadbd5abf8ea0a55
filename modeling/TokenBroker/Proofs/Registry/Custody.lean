import TokenBroker.Proofs.Files.Writing
import TokenBroker.Proofs.Registry.Confinement
import TokenBroker.Proofs.Registry.Limits
/-!
# What a registry keeps for a key

A key has a token or none, and its owner also writes to files outside of the registry.

* `Holds` says what a key has.  `Holds.store` and `Holds.delete` are the two ways in which that
  changes, and `Holds.absent` says that there is nothing to remove where there is no token.
* `Passes` says what all of this leaves alone, in the registry and outside of it.
-/

set_option autoImplicit false

namespace TokenBroker
namespace Registry

variable {r : Registry} {t t' : Tree} {key : IdentityKey} {blob : Bytes} {p : Place}
  {targets : Place → Prop}

/-! ## A token or none -/

/-- A key has a token, or none. -/
def Holds (r : Registry) (t : Tree) (key : IdentityKey) (token : Option Bytes) : Prop :=
  r.read t key = match token with
    | some blob => .ok blob
    | none => .error (.notFound key)

/-- Nothing but an entry is in the place of the entry of a key: there may be none, and the one there
is may be of any content. -/
structure Admits (r : Registry) (t : Tree) (key : IdentityKey) : Prop where
  directory : ∀ e, t.find? (r.entryDirectory key) = some e → e.isDirectory = true
  entry : t.isDirectory (r.entryPlace key) = false

theorem Admits.storeFault? (h : r.Admits t key) (hready : r.Ready t) :
    storeFault? (t.stat (r.entryPlace key)) = none := by
  rw [hready.storeFault?_stat]
  cases hdir : t.find? (r.entryDirectory key) with
  | none => rfl
  | some e =>
    dsimp only
    rw [if_pos (h.directory e hdir), h.entry, if_neg Bool.false_ne_true]

/-- A token that was stored is there, and there is a record of it. -/
theorem Holds.of_stored (hready : r.Ready t) {now : UInt64}
    (hok : (r.store t key blob now).1 = .ok ()) :
    r.Holds (r.store t key blob now).2 key (some blob) ∧ Record.Representable blob := by
  have hready' := hready.store key blob now
  obtain ⟨t', heq, ⟨houtcome, content, -, hdecode, hstored⟩ | ⟨hfailed, -⟩⟩ :=
    store_spec hready key blob now
  · rw [heq] at hready' ⊢
    have hfind : t'.find? (r.entryPlace key) = some (.file entryMode content) := by
      rw [hstored, if_pos rfl]
    refine ⟨?_, ?_⟩
    · rw [Holds, read_eq, hready'.wellFormed.stat_of_find? hfind, readOutcome, hdecode]
      rfl
    · rw [storeOutcome] at houtcome
      split at houtcome
      · cases houtcome
      · split at houtcome
        · cases houtcome
        · next hrep => exact not_not.1 hrep
  · rw [heq] at hok
    exact absurd hok hfailed

/-- **A token that is stored is there**, whatever entry there was before. -/
theorem Holds.store (hadmits : r.Admits t key) (hready : r.Ready t)
    (hfits : blob.length ≤ r.maxObjectSize) (hrep : Record.Representable blob) (now : UInt64) :
    (r.store t key blob now).1 = .ok () ∧ r.Holds (r.store t key blob now).2 key (some blob) := by
  have hok : (r.store t key blob now).1 = .ok () := by
    obtain ⟨t', heq, -⟩ := store_spec hready key blob now
    rw [heq, storeOutcome, if_neg (Nat.not_lt.2 hfits), if_neg (not_not_intro hrep),
      hadmits.storeFault? hready]
  exact ⟨hok, (Holds.of_stored hready hok).1⟩

/-- **A token that is there is removed**, and then there is none. -/
theorem Holds.delete (h : r.Holds t key (some blob)) (hready : r.Ready t) :
    (r.delete t key).1 = .ok () ∧ r.Holds (r.delete t key).2 key none := by
  have hready' := hready.delete key
  obtain ⟨mode, content, record, hfind, -, -⟩ := of_read_ok h
  have hstat := hready.wellFormed.stat_of_find? hfind
  obtain ⟨t', heq, ⟨-, -, herased⟩ | ⟨hfailed, -⟩⟩ := delete_spec r t key
  · rw [heq] at hready' ⊢
    refine ⟨by rw [hstat]; rfl, ?_⟩
    have hgone : t'.stat (r.entryPlace key) = .error .noEntry := by
      rw [hready'.stat_entryPlace, herased (r.entryPlace key), if_pos rfl, herased,
        if_neg (entryPlace_ne_entryDirectory r key key).symm]
      have hdir := hready.wellFormed.inside _ _ (hfind ▸ rfl :
        (t.find? (r.entryDirectory key ++ [entryName])).isSome = true)
      obtain ⟨mode', hmode'⟩ := Tree.isDirectory_eq_true_iff.1 hdir
      rw [hmode']
      rfl
    rw [Holds, read_eq, hgone]
    rfl
  · rw [hstat] at hfailed
    exact absurd rfl hfailed

/-- Where there is no token, there is nothing to remove. -/
theorem Holds.absent (h : r.Holds t key none) : r.delete t key = (.error (.notFound key), t) := by
  have hstat : t.stat (r.entryPlace key) = .error .noEntry := by
    rw [Holds, read_eq] at h
    cases hstat : t.stat (r.entryPlace key) with
    | ok e =>
      rw [hstat] at h
      cases e with
      | file mode content =>
        rw [readOutcome] at h
        split at h <;> cases h
      | directory | socket => cases h
    | error errno =>
      rw [hstat] at h
      cases errno <;> first | rfl | cases h
  obtain ⟨t', heq, ⟨hok, -⟩ | ⟨-, rfl⟩⟩ := delete_spec r t key
  · rw [hstat] at hok
    cases hok
  · rw [heq, hstat]
    rfl

/-! ## What is left alone -/

/-- What an owner of tokens leaves alone who also writes files in some places outside of the
registry. -/
structure Passes (r : Registry) (targets : Place → Prop) (t t' : Tree) : Prop where
  ready : r.Ready t'
  directories : ∀ q, t.isDirectory q = true → t'.isDirectory q = true
  /-- Outside of the registry nothing else changes. -/
  elsewhere : ∀ q, ¬ r.place <+: q → ¬ targets q → t'.find? q = t.find? q
  /-- Outside of the registry there is nothing new but files. -/
  files : ∀ q, ¬ r.place <+: q → (∀ e, t.find? q = some e → e.isFile = true) →
    ∀ e, t'.find? q = some e → e.isFile = true
  /-- A socket file stays, unless it is in the place of an entry. -/
  sockets : ∀ q mode id, (∀ key, q ≠ r.entryPlace key) → t.find? q = some (.socket mode id) →
    t'.find? q = some (.socket mode id)

theorem Passes.refl (hready : r.Ready t) : r.Passes targets t t :=
  ⟨hready, fun _ => id, fun _ _ _ => rfl, fun _ _ => id, fun _ _ _ _ => id⟩

theorem not_prefix_of_outside (hp : ¬ r.place <+: p) (key : IdentityKey) :
    p ≠ r.entryDirectory key ∧ p ≠ r.entryPlace key := by
  constructor <;> rintro rfl
  · exact hp (List.prefix_append _ _)
  · exact hp ((List.prefix_append _ _).trans (List.prefix_append _ _))

/-- What changes nothing but the entry of a key and its directory leaves alone what it should, if it
keeps directories and whatever is no entry. -/
theorem Passes.of_entry (hready' : r.Ready t')
    (hkeep : ∀ {q e}, t.find? q = some e → q ≠ r.entryPlace key ∨ e.isDirectory = true →
      t'.find? q = some e)
    (helse : ∀ q, q ≠ r.entryDirectory key → q ≠ r.entryPlace key → t'.find? q = t.find? q) :
    r.Passes targets t t' where
  ready := hready'
  directories := fun q hq => by
    obtain ⟨mode, hmode⟩ := Tree.isDirectory_eq_true_iff.1 hq
    exact Tree.isDirectory_eq_true_iff.2 ⟨mode, hkeep hmode (.inr rfl)⟩
  elsewhere := fun q hq _ => by
    obtain ⟨hdir, hentry⟩ := not_prefix_of_outside hq key
    exact helse q hdir hentry
  files := fun q hq hfile => by
    obtain ⟨hdir, hentry⟩ := not_prefix_of_outside hq key
    rwa [helse q hdir hentry]
  sockets := fun q mode id hq hfind => hkeep hfind (.inl (hq key))

theorem Passes.store (h : r.Ready t) (key : IdentityKey) (blob : Bytes) (now : UInt64) :
    r.Passes targets t (r.store t key blob now).2 :=
  .of_entry (h.store key blob now) (fun hfind hq => store_keeps h hfind hq blob now)
    (Confined.store h.wellFormed h.rooted key blob now).elsewhere

theorem Passes.delete (h : r.Ready t) (key : IdentityKey) :
    r.Passes targets t (r.delete t key).2 :=
  .of_entry (h.delete key) delete_keeps (Confined.delete r t key).elsewhere

/-! ## Files outside of the registry -/

section
variable {path : String} (htakes : t.Takes path p) (hout : ¬ r.place <+: p) (mode : Nat)
  (content : Bytes)
include htakes hout

/-- A tree is ready after a file was written outside of the registry. -/
theorem Ready.insert (h : r.Ready t) : r.Ready (t.insert p (.file mode content)) where
  wellFormed := htakes.wellFormed_insert h.wellFormed mode content
  rooted := htakes.isDirectory_insert mode content h.rooted
  swept := fun name file hfile => by
    have hne : r.place ++ [name] ++ [file] ≠ p := by
      rintro rfl
      exact hout ((List.prefix_append _ _).trans (List.prefix_append _ _))
    rw [Tree.find?_insert, if_neg hne, h.swept name file hfile]

theorem Passes.insert (h : r.Ready t) (htarget : targets p) :
    r.Passes targets t (t.insert p (.file mode content)) where
  ready := h.insert htakes hout mode content
  directories := fun q => htakes.isDirectory_insert mode content
  elsewhere := fun q _ hq => by
    have hne : q ≠ p := by
      rintro rfl
      exact hq htarget
    rw [Tree.find?_insert, if_neg hne]
  files := fun q _ hfile e he => by
    rw [Tree.find?_insert] at he
    split at he
    · rw [← Option.some.inj he]
      rfl
    · exact hfile e he
  sockets := fun q socketMode id _ hfind => by
    have hne : q ≠ p := by
      rintro rfl
      cases htakes.file _ hfind
    rw [Tree.find?_insert, if_neg hne, hfind]

theorem Holds.insert {token : Option Bytes} (h : r.Ready t) (hholds : r.Holds t key token) :
    r.Holds (t.insert p (.file mode content)) key token := by
  have hsame : Tree.SameBelow (r.entryDirectory key) (t.insert p (.file mode content)) t := by
    intro q hq
    have hne : q ≠ p := by
      rintro rfl
      exact hout ((List.prefix_append _ _).trans hq)
    rw [Tree.find?_insert, if_neg hne]
  exact (read_congr (h.insert htakes hout mode content) h hsame).trans hholds

end

end Registry
end TokenBroker
