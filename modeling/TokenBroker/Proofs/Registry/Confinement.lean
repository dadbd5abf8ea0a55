import Mathlib.Data.List.Perm.Subperm
import TokenBroker.Proofs.Registry.Refinement
/-!
# Operations keep to the entry of their key

Whatever stands in the root of a registry, files where directories belong, directories where files
belong, files of others and remains of interrupted stores: an operation for a key changes nothing
but the entry of that key, and if it fails, not even that.

* `freeTemporary_spec` says that a store builds its record where nothing is, so what it takes away
  afterwards is its own.
* `store_any` tells of a store on any tree what it changes, by how it ended.
* `perform_confined` says it of all operations.
-/

set_option autoImplicit false

namespace TokenBroker

/-! ## Names of temporary files -/

namespace Hex

/-- The number that a hexadecimal digit stands for. -/
def value (c : Char) : Nat := (digitValue? (UInt8.ofNat c.toNat)).getD 0

/-- The number that hexadecimal digits stand for. -/
def number (digits : List Char) : Nat := digits.foldl (fun n c => 16 * n + value c) 0

theorem value_digitChar : ∀ {n : Nat}, n < 16 → value (Nat.digitChar n) = n := by decide

theorem number_concat (digits : List Char) (c : Char) :
    number (digits ++ [c]) = 16 * number digits + value c := by
  rw [number, List.foldl_append]
  rfl

/-- Leading zeros do not count. -/
theorem number_replicate_append (n : Nat) (digits : List Char) :
    number (List.replicate n '0' ++ digits) = number digits := by
  induction n with
  | zero => rfl
  | succ n ih => exact ih

theorem number_toDigits (n : Nat) : number (Nat.toDigits 16 n) = n := by
  induction n using Nat.strongRecOn with
  | ind n ih =>
    rcases Nat.lt_or_ge n 16 with hlt | hge
    · rw [Nat.toDigits_of_lt_base hlt]
      exact (Nat.zero_add _).trans (value_digitChar hlt)
    · rw [Nat.toDigits_of_base_le (by decide) hge, number_concat, ih _ (by omega),
        value_digitChar (Nat.mod_lt n (by decide))]
      omega

theorem padded_injective (width : Nat) : Function.Injective (padded width) := by
  intro m n h
  have hdigits := congrArg number (String.ofList_injective h)
  rwa [number_replicate_append, number_replicate_append, number_toDigits, number_toDigits]
    at hdigits

end Hex

/-- Nothing lies below a place where nothing is. -/
theorem Tree.WellFormed.find?_below {t : Tree} {p q : Place} (h : t.WellFormed)
    (hp : t.find? p = none) (hq : p <+: q) : t.find? q = none := by
  obtain ⟨rest, rfl⟩ := hq
  induction rest using List.reverseRecOn with
  | nil => rwa [List.append_nil]
  | append_singleton rest name ih =>
    cases hfind : t.find? (p ++ (rest ++ [name])) with
    | none => rfl
    | some e =>
      rw [← List.append_assoc] at hfind
      have hdir := h.inside (p ++ rest) name (by rw [hfind]; rfl)
      rw [Tree.isDirectory, ih] at hdir
      cases hdir

namespace Registry

variable {r : Registry} {t t' : Tree} {key : IdentityKey} {directory q : Place} {name : String}

theorem temporaryName_injective : Function.Injective temporaryName := by
  intro m n h
  have hlists := congrArg String.toList h
  simp only [temporaryName, String.toList_append] at hlists
  exact Hex.padded_injective 6
    (String.toList_injective (List.append_cancel_left (List.append_cancel_right hlists)))

theorem temporaryName_ne_entryName (n : Nat) : temporaryName n ≠ entryName := by
  intro h
  have hhead := congrArg (fun name => name.toList.head?) h
  simp [temporaryName, temporaryStart, entryName] at hhead

/-- The place of a new temporary file is free: there are more candidates than entries. -/
theorem freeTemporary_spec (t : Tree) (directory : Place) :
    ∃ n, freeTemporary t directory = directory ++ [temporaryName n]
      ∧ t.find? (directory ++ [temporaryName n]) = none := by
  have hinj : Function.Injective fun n => directory ++ [temporaryName n] := fun m n h =>
    temporaryName_injective (List.singleton_inj.1 (List.append_cancel_left h))
  rw [freeTemporary]
  generalize hcandidates : (List.range (t.entries.length + 1)).map
    (fun n => directory ++ [temporaryName n]) = candidates
  cases hfind : candidates.find? fun p => (t.find? p).isNone with
  | some p =>
    have hmem := List.mem_of_find?_eq_some hfind
    rw [← hcandidates] at hmem
    obtain ⟨n, -, rfl⟩ := List.mem_map.1 hmem
    have hfree := List.find?_some hfind
    exact ⟨n, rfl, Option.isNone_iff_eq_none.1 hfree⟩
  | none =>
    have htaken : candidates ⊆ t.entries.map (·.1) := fun p hp => by
      have hsome := List.find?_eq_none.1 hfind p hp
      exact Tree.isSome_find?_iff.1 (by simpa [Option.isSome_iff_ne_none] using hsome)
    have hnodup : candidates.Nodup := hcandidates ▸ List.nodup_range.map hinj
    have hlength := (List.subperm_of_subset hnodup htaken).length_le
    rw [← hcandidates, List.length_map, List.length_range, List.length_map] at hlength
    omega

/-! ## Storing on any tree -/

/-- The steps that replace an entry either do so, or leave nothing but the temporary file. -/
theorem run_replaceSteps_any (hdir : t.Enterable directory)
    (hentry : Tree.isOverlong (directory ++ [entryName]) = false) (hne : name ≠ entryName)
    (hfree : t.find? (directory ++ [name]) = none) (content : Bytes) :
    (∃ t', t.run (replaceSteps directory (directory ++ [name]) content) = (.ok (), t')
      ∧ ∀ q, t'.find? q
        = if q = directory ++ [entryName] then some (.file entryMode content) else t.find? q)
    ∨ ∃ errno t', t.run (replaceSteps directory (directory ++ [name]) content) = (.error errno, t')
      ∧ ∀ q, (t'.discard (directory ++ [name])).find? q = t.find? q := by
  cases hname : Tree.isOverlong (directory ++ [name]) with
  | true =>
    have hstat : t.stat (directory ++ [name]) = .error .nameTooLong := by
      obtain ⟨mode, hmode⟩ := hdir
      simp only [Tree.stat_concat, hmode, Entry.isDirectory, hname, if_true]
    refine .inr ⟨.nameTooLong, t, ?_, fun q => ?_⟩
    · simp only [replaceSteps, Tree.run, FileStep.apply, hstat]
    · simp only [Tree.discard, FileStep.apply, hstat]
  | false =>
    obtain ⟨built, hreach, hbuilt, hrun⟩ := run_replaceSteps hdir hname hentry hne hfree content
    cases hkind : t.isDirectory (directory ++ [entryName]) with
    | true =>
      have hstat : built.stat (directory ++ [name]) = .ok (.file entryMode content) := by
        rw [hreach.stat_concat hname, hbuilt, if_pos rfl]
      rw [hkind, if_pos rfl] at hrun
      refine .inr ⟨_, built, hrun, find?_discard hstat hfree fun q hq => ?_⟩
      rw [hbuilt, if_neg hq]
    | false =>
      rw [hkind, if_neg Bool.false_ne_true] at hrun
      refine .inl ⟨_, hrun, fun q => ?_⟩
      rw [Tree.find?_insert, Tree.find?_erase, hbuilt]
      by_cases htemp : q = directory ++ [name]
      · rw [if_pos htemp, htemp, hfree]
      · rw [if_neg htemp, if_neg htemp]

/-- A tree differs from another one by an empty directory of a key at most. -/
def Abandoned (r : Registry) (t : Tree) (key : IdentityKey) (t' : Tree) : Prop :=
  (∀ q, t'.find? q = t.find? q)
  ∨ t.find? (r.entryDirectory key) = none
    ∧ ∀ q, t'.find? q
      = if q = r.entryDirectory key then some (.directory directoryMode) else t.find? q

/-- The steps of a store on any tree. -/
theorem run_storeSteps_any (hwf : t.WellFormed) (hrooted : t.isDirectory r.place = true)
    (key : IdentityKey) (content : Bytes) :
    (∃ t', t.run (storeSteps t (r.entryDirectory key) content) = (.ok (), t')
      ∧ r.Stored t key content t')
    ∨ ∃ errno t', t.run (storeSteps t (r.entryDirectory key) content) = (.error errno, t')
      ∧ r.Abandoned t key (t'.discard (freeTemporary t (r.entryDirectory key))) := by
  obtain ⟨n, htemp, hfree⟩ := freeTemporary_spec t (r.entryDirectory key)
  have hplace : t.Enterable r.place := hwf.enterable hrooted
  have hne := temporaryName_ne_entryName n
  have hentry := isOverlong_entryPlace r key
  rw [entryPlace] at hentry
  rw [storeSteps, htemp, Tree.run_append]
  cases hdir : t.find? (r.entryDirectory key) with
  | none =>
    -- the directory is made, and the record is built in it
    obtain ⟨made, hreach, hmade, hrun⟩ :=
      run_directorySteps hplace (isOverlong_entryDirectory r key) hdir
    rw [← entryDirectory] at hreach hrun
    have hmade' : ∀ q, made.find? q
        = if q = r.entryDirectory key then some (.directory directoryMode) else t.find? q := hmade
    have hfree' : made.find? (r.entryDirectory key ++ [temporaryName n]) = none := by
      rw [hmade', if_neg (by simp), hfree]
    rw [hrun]
    rcases run_replaceSteps_any hreach hentry hne hfree' content with
      ⟨t', hreplace, hstored⟩ | ⟨errno, t', hreplace, hsame⟩
    · refine .inl ⟨t', hreplace, fun q => ?_⟩
      rw [hstored, hmade', hdir]
      rfl
    · refine .inr ⟨errno, t', hreplace, .inr ⟨hdir, fun q => ?_⟩⟩
      rw [hsame, hmade']
  | some e =>
    have hstat : t.stat (r.entryDirectory key) = .ok e := hwf.stat_of_find? hdir
    have hthere : directorySteps t (r.entryDirectory key) = [] := by
      rw [directorySteps, Tree.has, hstat]
      rfl
    rw [hthere, Tree.run]
    cases hkind : e.isDirectory with
    | false =>
      -- nothing can be made below what is no directory
      have hblocked :
          t.stat (r.entryDirectory key ++ [temporaryName n]) = .error .notDirectory := by
        simp only [Tree.stat_concat, hstat, hkind, Bool.false_eq_true, if_false]
      refine .inr ⟨.notDirectory, t, ?_, .inl fun q => ?_⟩
      · simp only [replaceSteps, Tree.run, FileStep.apply, hblocked]
      · simp only [Tree.discard, FileStep.apply, hblocked]
    | true =>
      have hisdir : t.isDirectory (r.entryDirectory key) = true := by
        rw [Tree.isDirectory_of_stat hstat, hkind]
      rcases run_replaceSteps_any (hwf.enterable hisdir) hentry hne hfree content with
        ⟨t', hreplace, hstored⟩ | ⟨errno, t', hreplace, hsame⟩
      · refine .inl ⟨t', hreplace, fun q => ?_⟩
        rw [hstored, entryPlace]
        split
        · rfl
        · split
          · next heq => rw [heq, hdir, Option.getD_some]
          · rfl
      · exact .inr ⟨errno, t', hreplace, .inl hsame⟩

/-- A store on any tree replaces the entry of its key, or leaves what was there. -/
theorem store_any (hwf : t.WellFormed) (hrooted : t.isDirectory r.place = true)
    (key : IdentityKey) (blob : Bytes) (now : UInt64) :
    ((r.store t key blob now).1 = .ok ()
      ∧ ∃ content, (Record.ofBlob blob now).encode = .ok content
        ∧ r.Stored t key content (r.store t key blob now).2)
    ∨ (∃ e, (r.store t key blob now).1 = .error e)
      ∧ r.Abandoned t key (r.store t key blob now).2 := by
  rw [store]
  split
  · exact .inr ⟨⟨_, rfl⟩, .inl fun _ => rfl⟩
  split
  · exact .inr ⟨⟨_, rfl⟩, .inl fun _ => rfl⟩
  next content hencode =>
  rcases run_storeSteps_any hwf hrooted key content with
    ⟨t', hrun, hstored⟩ | ⟨errno, t', hrun, habandoned⟩
  · dsimp only
    rw [hrun]
    exact .inl ⟨rfl, content, hencode, hstored⟩
  · dsimp only
    rw [hrun]
    exact .inr ⟨⟨_, rfl⟩, habandoned⟩

/-- A removal on any tree takes the entry of its key away, or leaves what was there. -/
theorem delete_any (r : Registry) (t : Tree) (key : IdentityKey) :
    ((r.delete t key).1 = .ok ()
      ∧ ∀ q, (r.delete t key).2.find? q = if q = r.entryPlace key then none else t.find? q)
    ∨ (∃ e, (r.delete t key).1 = .error e) ∧ (r.delete t key).2 = t := by
  obtain ⟨t', heq, ⟨hok, -, herased⟩ | ⟨hfailed, hsame⟩⟩ := delete_spec r t key
  · rw [heq]
    exact .inl ⟨hok, herased⟩
  · rw [heq]
    refine .inr ⟨?_, hsame⟩
    cases hend : deleteOutcome key (t.stat (r.entryPlace key)) with
    | ok result => exact absurd hend hfailed
    | error e => exact ⟨e, rfl⟩

/-! ## Confinement -/

/-- The key that an operation is for, if it is for one. -/
def Operation.key? : Operation → Option IdentityKey
  | store key _ _ => some key
  | read key => some key
  | delete key => some key
  | contains key => some key
  | reopen _ => none

/-- Whether an operation only looks. -/
def Operation.looks : Operation → Bool
  | read _ => true
  | contains _ => true
  | _ => false

/-- Whether an operation stores something. -/
def Operation.isStore : Operation → Bool
  | store _ _ _ => true
  | _ => false

/-- Whether the answer is an error. -/
def Answer.isError : Answer → Bool
  | outcome (.error _) => true
  | token (.error _) => true
  | _ => false

/-- What an operation for a key leaves of a tree, by how it was answered. -/
structure Confined (r : Registry) (key : IdentityKey) (op : Operation) (answer : Answer)
    (t t' : Tree) : Prop where
  /-- All but the entry and its directory is as it was, temporary files included. -/
  elsewhere : ∀ q, q ≠ r.entryDirectory key → q ≠ r.entryPlace key → t'.find? q = t.find? q
  /-- So is the directory, if there was one; a store may have made it. -/
  directory : t'.find? (r.entryDirectory key) = t.find? (r.entryDirectory key)
    ∨ op.isStore = true ∧ t.find? (r.entryDirectory key) = none
      ∧ t'.find? (r.entryDirectory key) = some (.directory directoryMode)
  /-- An operation that looks changes nothing. -/
  looked : op.looks = true → t' = t
  /-- An operation that fails leaves the entry, and nothing in a directory it made. -/
  failed : answer.isError = true → t'.find? (r.entryPlace key) = t.find? (r.entryPlace key)
    ∧ (t'.find? (r.entryDirectory key) ≠ t.find? (r.entryDirectory key) →
      ∀ q, r.entryDirectory key <+: q → q ≠ r.entryDirectory key → t'.find? q = none)
  /-- A store that succeeds leaves a record of what was stored. -/
  stored : ∀ blob now, op = .store key blob now → answer.isError = false →
    ∃ content, (Record.ofBlob blob now).encode = .ok content
      ∧ t'.find? (r.entryPlace key) = some (.file entryMode content)
  /-- A removal that succeeds leaves no entry. -/
  deleted : op = .delete key → answer.isError = false → t'.find? (r.entryPlace key) = none

namespace Confined

theorem of_looks {op : Operation} {answer : Answer} (h : op.looks = true) :
    r.Confined key op answer t t where
  elsewhere := fun _ _ _ => rfl
  directory := .inl rfl
  looked := fun _ => rfl
  failed := fun _ => ⟨rfl, fun hne => absurd rfl hne⟩
  stored := by
    rintro blob now rfl
    cases h
  deleted := by
    rintro rfl
    cases h

/-- An operation that fails and leaves all as it was. -/
theorem of_error {op : Operation} {e : StorageError} (hlooks : op.looks = false)
    (hsame : ∀ q, t'.find? q = t.find? q) : r.Confined key op (.outcome (.error e)) t t' where
  elsewhere := fun q _ _ => hsame q
  directory := .inl (hsame _)
  looked := fun h => by rw [hlooks] at h; cases h
  failed := fun _ => ⟨hsame _, fun hne => absurd (hsame _) hne⟩
  stored := fun _ _ _ h => by cases h
  deleted := fun _ h => by cases h

theorem store (hwf : t.WellFormed) (hrooted : t.isDirectory r.place = true) (key : IdentityKey)
    (blob : Bytes) (now : UInt64) : r.Confined key (.store key blob now)
      (.outcome (r.store t key blob now).1) t (r.store t key blob now).2 := by
  have hne := entryPlace_ne_entryDirectory r key key
  rcases store_any hwf hrooted key blob now with
    ⟨hok, content, hencode, hstored⟩ | ⟨⟨e, herror⟩, habandoned⟩
  · generalize r.store t key blob now = result at hok hstored
    obtain ⟨answer, t'⟩ := result
    cases hok
    exact {
      elsewhere := fun q hdir hentry => by rw [hstored, if_neg hentry, if_neg hdir]
      directory := by
        rw [hstored, if_neg hne.symm, if_pos rfl]
        cases t.find? (r.entryDirectory key) with
        | none => exact .inr ⟨rfl, rfl, rfl⟩
        | some e => exact .inl rfl
      looked := fun h => by cases h
      failed := fun h => by cases h
      stored := by
        rintro blob' now' hop -
        cases hop
        exact ⟨content, hencode, by rw [hstored, if_pos rfl]⟩
      deleted := fun h => by cases h }
  · generalize r.store t key blob now = result at herror habandoned
    obtain ⟨answer, t'⟩ := result
    cases herror
    obtain hsame | ⟨hdir, hmade⟩ := habandoned
    · exact of_error rfl hsame
    · exact {
        elsewhere := fun q hne _ => by rw [hmade, if_neg hne]
        directory := .inr ⟨rfl, hdir, by rw [hmade, if_pos rfl]⟩
        looked := fun h => by cases h
        failed := fun _ => ⟨by rw [hmade, if_neg hne],
          fun _ q hbelow hother => by rw [hmade, if_neg hother, hwf.find?_below hdir hbelow]⟩
        stored := fun _ _ _ h => by cases h
        deleted := fun _ h => by cases h }

theorem delete (r : Registry) (t : Tree) (key : IdentityKey) :
    r.Confined key (.delete key) (.outcome (r.delete t key).1) t (r.delete t key).2 := by
  have hne := entryPlace_ne_entryDirectory r key key
  rcases delete_any r t key with ⟨hok, herased⟩ | ⟨⟨e, herror⟩, hsame⟩
  · generalize r.delete t key = result at hok herased
    obtain ⟨answer, t'⟩ := result
    cases hok
    exact {
      elsewhere := fun q hdir hentry => by rw [herased, if_neg hentry]
      directory := .inl (by rw [herased, if_neg hne.symm])
      looked := fun h => by cases h
      failed := fun h => by cases h
      stored := fun blob now hop => by cases hop
      deleted := fun _ _ => by rw [herased, if_pos rfl] }
  · generalize r.delete t key = result at herror hsame
    obtain ⟨answer, t'⟩ := result
    cases herror
    exact of_error rfl fun q => by rw [hsame]

end Confined

/-- **An operation for a key changes nothing but the entry of that key, and if it fails, not even
that**, whatever stands where the registry keeps its entries.  An operation can fail for that alone:
modes are not enforced, there are no links, and the last step of a store or of a removal, which lets
the directory reach the disk, does not fail once the entry was moved or taken away. -/
theorem perform_confined (hwf : t.WellFormed) (hrooted : t.isDirectory r.place = true)
    {op : Operation} (hkey : op.key? = some key) :
    r.Confined key op (r.perform t op).1 t (r.perform t op).2.2 := by
  cases op with
  | store other blob now =>
    cases hkey
    exact Confined.store hwf hrooted key blob now
  | read other => exact Confined.of_looks rfl
  | delete other =>
    cases hkey
    exact Confined.delete r t key
  | contains other => exact Confined.of_looks rfl
  | reopen max => cases hkey

/-- A tree with a directory where the entry of one key belongs, a file where the directory of
another one does, and a file with the name of the first temporary file. -/
def cluttered : Tree :=
  ⟨[([], .directory 0o755), (["r"], .directory 0o755), (["r", "k"], .directory 0o700),
    (["r", "k", "auth_token.so"], .directory 0o755), (["r", "k", "auth_token.so", "x"], .file 0 []),
    (["r", "k", ".auth_token.000000.tmp"], .file 0o644 [7]), (["r", "l"], .file 0o600 [1, 2])]⟩

/-- A store that finds a directory in the place of the entry fails, and takes away no file but its
own. -/
theorem perform_confined_cluttered :
    let r : Registry := ⟨"r", ["r"], 4⟩
    let key : IdentityKey := ⟨"k", by decide⟩
    (r.perform cluttered (.store key [1] 5)).1.isError = true
      ∧ r.Confined key (.store key [1] 5) (r.perform cluttered (.store key [1] 5)).1 cluttered
        (r.perform cluttered (.store key [1] 5)).2.2 :=
  ⟨by decide +kernel, perform_confined (.of_entries rfl (by decide)) rfl rfl⟩

end Registry
end TokenBroker
