import TokenBroker.Proofs.Files.WellFormed
import TokenBroker.Proofs.Record.RoundTrip
import TokenBroker.Registry.Basic
/-!
# What the operations of a registry do

Between two operations a registry stands on a tree that is `Registry.Ready`: its root is a
directory, and no temporary file is left in the directory of any key.  On such a tree each operation
is told by what an access to the entry of its key finds, and says what is found anywhere afterwards.

* `store_spec` tells how a store ends and what it changes, `delete_spec` the same of a removal.
* `Ready.store` and `Ready.delete` say that the tree is ready for the next operation.
-/

set_option autoImplicit false

namespace TokenBroker

/-! ## Short names -/

/-- A text of one-byte characters has as many bytes as characters. -/
theorem utf8ByteSize_ofList {chars : List Char} (h : ∀ c ∈ chars, c.utf8Size = 1) :
    (String.ofList chars).utf8ByteSize = chars.length := by
  induction chars with
  | nil => rfl
  | cons c rest ih =>
    rw [String.ofList_cons, String.utf8ByteSize_append, String.utf8ByteSize_singleton,
      h c (.head _), ih fun d hd => h d (.tail _ hd), List.length_cons, Nat.add_comm]

namespace IdentityKey

theorem utf8Size_of_isAllowed {c : Char} (h : isAllowed c = true) : c.utf8Size = 1 := by
  rw [Char.utf8Size_eq_one_iff]
  have halphanum : c.isAlphanum = (decide (c.val ≥ 'A'.val ∧ c.val ≤ 'Z'.val)
      || (decide (c.val ≥ 'a'.val) && decide (c.val ≤ 'z'.val)) || c.isDigit) := rfl
  simp only [isAllowed, halphanum, Char.isDigit, Bool.or_eq_true, Bool.and_eq_true,
    decide_eq_true_eq, ge_iff_le] at h
  rcases h with (((((⟨-, h⟩ | ⟨-, h⟩) | ⟨-, h⟩) | h) | h) | h)
  · exact UInt32.le_trans h (by decide)
  · exact UInt32.le_trans h (by decide)
  · exact UInt32.le_trans h (by decide)
  · exact h ▸ by decide
  · exact h ▸ by decide
  · exact h ▸ by decide

theorem utf8ByteSize_text_le (key : IdentityKey) : key.text.utf8ByteSize ≤ maxLength := by
  have hvalid := key.valid
  simp only [isValid, Bool.and_eq_true, decide_eq_true_eq, List.all_eq_true] at hvalid
  obtain ⟨⟨⟨-, hlength⟩, -⟩, hall⟩ := hvalid
  rw [← String.ofList_toList (s := key.text),
    utf8ByteSize_ofList fun c hc => utf8Size_of_isAllowed (hall c hc)]
  exact hlength

end IdentityKey

namespace Tree

theorem isOverlong_concat (p : Place) (name : String) :
    isOverlong (p ++ [name]) = decide (maxNameLength < name.utf8ByteSize) := by
  rw [isOverlong, List.getLast?_concat]
  rfl

end Tree

namespace Registry

variable {r : Registry} {t t' : Tree} {key : IdentityKey} {q : Place}

theorem isOverlong_entryDirectory (r : Registry) (key : IdentityKey) :
    Tree.isOverlong (r.entryDirectory key) = false := by
  have hle := key.utf8ByteSize_text_le
  rw [entryDirectory, Tree.isOverlong_concat, decide_eq_false_iff_not, Nat.not_lt]
  exact Nat.le_trans hle (by decide)

theorem isOverlong_entryPlace (r : Registry) (key : IdentityKey) :
    Tree.isOverlong (r.entryPlace key) = false := by
  rw [entryPlace, Tree.isOverlong_concat]
  decide

/-- Where a store builds the file that becomes the entry. -/
def temporaryPlace (r : Registry) (key : IdentityKey) : Place :=
  r.entryDirectory key ++ [temporaryName 0]

theorem isOverlong_temporaryPlace (r : Registry) (key : IdentityKey) :
    Tree.isOverlong (r.temporaryPlace key) = false := by
  rw [temporaryPlace, Tree.isOverlong_concat]
  decide

theorem isTemporaryName_temporaryName_zero : isTemporaryName (temporaryName 0) = true := by
  decide

theorem isTemporaryName_entryName : isTemporaryName entryName = false := by decide

/-! ## Trees between two operations -/

/-- A tree on which a registry stands while none of its operations is under way. -/
structure Ready (r : Registry) (t : Tree) : Prop where
  wellFormed : t.WellFormed
  /-- The root is a directory. -/
  rooted : t.isDirectory r.place = true
  /-- No temporary file is left over. -/
  swept : ∀ name file, isTemporaryName file = true → t.find? (r.place ++ [name] ++ [file]) = none

namespace Ready

theorem find?_temporaryPlace (h : r.Ready t) (key : IdentityKey) :
    t.find? (r.temporaryPlace key) = none :=
  h.swept key.text _ isTemporaryName_temporaryName_zero

/-- The first name of a temporary file is free. -/
theorem freeTemporary (h : r.Ready t) (key : IdentityKey) :
    freeTemporary t (r.entryDirectory key) = r.temporaryPlace key := by
  have hfree := h.find?_temporaryPlace key
  rw [temporaryPlace] at hfree
  simp only [Registry.freeTemporary, List.range_succ_eq_map, List.map_cons, List.find?_cons, hfree,
    Option.isNone_none, Option.getD_some, temporaryPlace]

theorem enterable_place (h : r.Ready t) : t.Enterable r.place := h.wellFormed.enterable h.rooted

/-- What an access finds at the directory of a key. -/
theorem stat_entryDirectory (h : r.Ready t) (key : IdentityKey) :
    t.stat (r.entryDirectory key) = match t.find? (r.entryDirectory key) with
      | none => .error .noEntry
      | some e => .ok e :=
  h.enterable_place.stat_concat (isOverlong_entryDirectory r key)

/-- What an access finds at the entry of a key. -/
theorem stat_entryPlace (h : r.Ready t) (key : IdentityKey) :
    t.stat (r.entryPlace key) = match t.find? (r.entryDirectory key) with
      | none => .error .noEntry
      | some e =>
        if e.isDirectory then
          match t.find? (r.entryPlace key) with
          | none => .error .noEntry
          | some e => .ok e
        else .error .notDirectory := by
  rw [entryPlace, Tree.stat_concat, h.stat_entryDirectory]
  cases t.find? (r.entryDirectory key) with
  | none => rfl
  | some e =>
    have hshort := isOverlong_entryPlace r key
    rw [entryPlace] at hshort
    dsimp only
    rw [hshort]
    cases t.find? (r.entryDirectory key ++ [entryName]) <;> rfl

/-- Nothing lies below what is no directory. -/
theorem find?_below (h : r.Ready t) (hdir : t.isDirectory (r.entryDirectory key) = false)
    (name : String) : t.find? (r.entryDirectory key ++ [name]) = none := by
  cases hfind : t.find? (r.entryDirectory key ++ [name]) with
  | none => rfl
  | some e =>
    have := h.wellFormed.inside _ name (by rw [hfind]; rfl)
    rw [hdir] at this
    cases this

end Ready

/-! ## Steps of a store -/

section Steps

variable {directory : Place} {name : String}

/-- The steps that replace an entry succeed, unless a directory stands in its place. -/
theorem run_replaceSteps (hdir : t.Enterable directory)
    (hname : Tree.isOverlong (directory ++ [name]) = false)
    (hentry : Tree.isOverlong (directory ++ [entryName]) = false) (hne : name ≠ entryName)
    (hfree : t.find? (directory ++ [name]) = none) (content : Bytes) :
    ∃ built : Tree, built.Enterable directory
      ∧ (∀ q, built.find? q
        = if q = directory ++ [name] then some (.file entryMode content) else t.find? q)
      ∧ t.run (replaceSteps directory (directory ++ [name]) content)
        = if t.isDirectory (directory ++ [entryName]) then (.error .isDirectory, built)
          else (.ok (), (built.erase (directory ++ [name])).insert (directory ++ [entryName])
            (.file entryMode content)) := by
  have hout := Tree.not_prefix_concat directory name
  have hcreate : (FileStep.createFile (directory ++ [name]) entryMode).apply t
      = .ok (t.insert (directory ++ [name]) (.file entryMode [])) := by
    simp only [FileStep.apply, hdir.stat_concat hname, hfree, hdir.blocked?_concat hname, if_true]
  have hdir₁ := hdir.insert hout (.file entryMode [])
  generalize hcreated : t.insert (directory ++ [name]) (.file entryMode []) = created
    at hcreate hdir₁
  have hstat₁ : created.stat (directory ++ [name]) = .ok (.file entryMode []) := by
    rw [hdir₁.stat_concat hname, ← hcreated, Tree.find?_insert, if_pos rfl]
  have happend : (FileStep.append (directory ++ [name]) content).apply created
      = .ok (created.insert (directory ++ [name]) (.file entryMode content)) := by
    simp only [FileStep.apply, hstat₁, List.nil_append]
  have hdir₂ := hdir₁.insert hout (.file entryMode content)
  generalize hbuilt : created.insert (directory ++ [name]) (.file entryMode content) = built
    at happend hdir₂
  have hfind : ∀ q, built.find? q
      = if q = directory ++ [name] then some (.file entryMode content) else t.find? q := by
    intro q
    rw [← hbuilt, ← hcreated, Tree.find?_insert, Tree.find?_insert]
    split <;> rfl
  have hstat₂ : built.stat (directory ++ [name]) = .ok (.file entryMode content) := by
    rw [hdir₂.stat_concat hname, hfind, if_pos rfl]
  have htarget : built.isDirectory (directory ++ [entryName])
      = t.isDirectory (directory ++ [entryName]) := by
    have hother : directory ++ [entryName] ≠ directory ++ [name] := by simp [Ne.symm hne]
    rw [Tree.isDirectory, hfind, if_neg hother, Tree.isDirectory]
  have hdir₃ := (hdir₂.erase hout).insert (Tree.not_prefix_concat directory entryName)
    (.file entryMode content)
  obtain ⟨mode, hstat₃⟩ := hdir₃
  refine ⟨built, hdir₂, hfind, ?_⟩
  rw [replaceSteps, Tree.run, hcreate]
  dsimp only
  rw [Tree.run, happend]
  dsimp only
  rw [Tree.run, FileStep.apply, hstat₂]
  dsimp only
  rw [Tree.run, FileStep.apply, hstat₂]
  dsimp only
  rw [hdir₂.blocked?_concat hentry]
  dsimp only
  rw [htarget]
  cases t.isDirectory (directory ++ [entryName]) with
  | true => rfl
  | false =>
    simp only [Bool.false_eq_true, if_false, Tree.run, FileStep.apply, hstat₃]

/-- Where only the last directory is missing, one step makes it. -/
theorem makeDirectories_concat (hroot : t.Enterable directory)
    (hfree : t.find? (directory ++ [name]) = none) :
    t.makeDirectories (directory ++ [name]) = [.makeDirectory (directory ++ [name])] := by
  have habove : ∀ q ∈ Tree.ancestors (directory ++ [name]),
      ∃ mode, t.find? q = some (.directory mode) := by
    intro q hq
    obtain ⟨hpre, hne⟩ := Tree.mem_ancestors.1 hq
    have hq : q <+: directory := (List.prefix_concat_iff.1 hpre).resolve_left hne
    exact Tree.isDirectory_eq_true_iff.1 (hroot.above hq).isDirectory
  rw [Tree.makeDirectories, List.filter_append, List.filter_eq_nil_iff.2]
  · simp [hfree]
  · intro q hq
    obtain ⟨mode, hmode⟩ := habove q hq
    simp [hmode, Entry.isDirectory]

/-- The steps that make a missing directory succeed. -/
theorem run_directorySteps (hroot : t.Enterable directory)
    (hname : Tree.isOverlong (directory ++ [name]) = false)
    (hfree : t.find? (directory ++ [name]) = none) :
    ∃ made : Tree, made.Enterable (directory ++ [name])
      ∧ (∀ q, made.find? q
        = if q = directory ++ [name] then some (.directory directoryMode) else t.find? q)
      ∧ t.run (directorySteps t (directory ++ [name])) = (.ok (), made) := by
  have hout := Tree.not_prefix_concat directory name
  have hstat : t.stat (directory ++ [name]) = .error .noEntry := by
    rw [hroot.stat_concat hname, hfree]
  have hmake : (FileStep.makeDirectory (directory ++ [name])).apply t
      = .ok (t.insert (directory ++ [name]) (.directory Tree.defaultDirectoryMode)) := by
    simp only [FileStep.apply, hstat, hroot.blocked?_concat hname, if_true]
  have hroot₁ := hroot.insert hout (.directory Tree.defaultDirectoryMode)
  generalize hmade : t.insert (directory ++ [name]) (.directory Tree.defaultDirectoryMode) = made
    at hmake hroot₁
  have hstat₁ : made.stat (directory ++ [name]) = .ok (.directory Tree.defaultDirectoryMode) := by
    rw [hroot₁.stat_concat hname, ← hmade, Tree.find?_insert, if_pos rfl]
  have hroot₂ := hroot₁.insert hout (.directory directoryMode)
  refine ⟨made.insert (directory ++ [name]) (.directory directoryMode),
    ⟨directoryMode, ?_⟩, fun q => ?_, ?_⟩
  · rw [hroot₂.stat_concat hname, Tree.find?_insert, if_pos rfl]
  · rw [← hmade, Tree.find?_insert, Tree.find?_insert]
    split <;> rfl
  · rw [directorySteps, Tree.has, hstat, makeDirectories_concat hroot hfree]
    simp only [Except.isOk, Except.toBool, Bool.false_eq_true, if_false, List.cons_append,
      List.nil_append, Tree.run, hmake]
    simp only [FileStep.apply, hstat₁, Entry.withMode]

end Steps

/-! ## Storing -/

/-- Why the steps of a store fail, by what an access to the entry finds. -/
def storeFault? : Except Errno Entry → Option Errno
  | .ok (.directory _) => some .isDirectory
  | .ok _ => none
  | .error .noEntry => none
  | .error errno => some errno

/-- A tree differs from another one by the entry of a key, and by the directory of the key if there
was none. -/
def Stored (r : Registry) (t : Tree) (key : IdentityKey) (content : Bytes) (t' : Tree) : Prop :=
  ∀ q, t'.find? q = if q = r.entryPlace key then some (.file entryMode content)
    else if q = r.entryDirectory key then
      some ((t.find? (r.entryDirectory key)).getD (.directory directoryMode))
    else t.find? q

/-- Taking the temporary file away again leaves what was there before. -/
theorem find?_discard {built : Tree} {p : Place} {mode : Nat} {content : Bytes}
    (hstat : built.stat p = .ok (.file mode content)) (hfree : t.find? p = none)
    (hbuilt : ∀ q, q ≠ p → built.find? q = t.find? q) (q : Place) :
    (built.discard p).find? q = t.find? q := by
  simp only [Tree.discard, FileStep.apply, hstat, Entry.isDirectory, Bool.false_eq_true, if_false]
  rw [Tree.find?_erase]
  split
  · next heq => rw [heq, hfree]
  · next hne => exact hbuilt q hne

/-- A store fails if a directory stands in the place of the entry, or something else in the place
of the directory of the key. -/
theorem Ready.storeFault?_stat (h : r.Ready t) (key : IdentityKey) :
    storeFault? (t.stat (r.entryPlace key)) = match t.find? (r.entryDirectory key) with
      | none => none
      | some e =>
        if e.isDirectory then
          if t.isDirectory (r.entryPlace key) then some .isDirectory else none
        else some .notDirectory := by
  rw [h.stat_entryPlace]
  cases t.find? (r.entryDirectory key) with
  | none => rfl
  | some e =>
    cases e with
    | file | socket => rfl
    | directory mode =>
      rw [Tree.isDirectory]
      cases t.find? (r.entryPlace key) with
      | none => rfl
      | some found => cases found <;> rfl

theorem Ready.directorySteps (h : r.Ready t) {e : Entry}
    (hdir : t.find? (r.entryDirectory key) = some e) :
    directorySteps t (r.entryDirectory key) = [] := by
  rw [Registry.directorySteps, Tree.has, h.stat_entryDirectory, hdir]
  rfl

/-- Moving the built file over the entry leaves the tree with the new entry alone. -/
theorem stored_of_built {built : Tree} {content : Bytes}
    (hfree : t.find? (r.temporaryPlace key) = none)
    (hbuilt : ∀ q, q ≠ r.temporaryPlace key → built.find? q
      = if q = r.entryDirectory key then
          some ((t.find? (r.entryDirectory key)).getD (.directory directoryMode))
        else t.find? q) :
    r.Stored t key content ((built.erase (r.temporaryPlace key)).insert (r.entryPlace key)
      (.file entryMode content)) := by
  intro q
  rw [Tree.find?_insert]
  by_cases hentry : q = r.entryPlace key
  · rw [if_pos hentry, if_pos hentry]
  rw [if_neg hentry, if_neg hentry, Tree.find?_erase]
  by_cases htemp : q = r.temporaryPlace key
  · have hdir : q ≠ r.entryDirectory key := by
      rw [htemp, temporaryPlace]
      simp
    rw [if_pos htemp, if_neg hdir, htemp, hfree]
  · rw [if_neg htemp, hbuilt q htemp]

/-- Where nothing is in the way, the steps of a store succeed and replace the entry. -/
theorem run_storeSteps (h : r.Ready t) (hfree : storeFault? (t.stat (r.entryPlace key)) = none)
    (content : Bytes) :
    ∃ t', t.run (storeSteps t (r.entryDirectory key) content) = (.ok (), t')
      ∧ r.Stored t key content t' := by
  have hne : temporaryName 0 ≠ entryName := by decide
  have htemp := h.find?_temporaryPlace key
  rw [h.storeFault?_stat] at hfree
  rw [storeSteps, h.freeTemporary]
  cases hdir : t.find? (r.entryDirectory key) with
  | none =>
    obtain ⟨made, hreach, hmade, hrun⟩ := run_directorySteps h.enterable_place
      (isOverlong_entryDirectory r key) hdir
    have hbelow : ∀ name, made.find? (r.entryDirectory key ++ [name]) = none := by
      intro name
      rw [hmade, ← entryDirectory, if_neg (by simp),
        h.find?_below (by simp [Tree.isDirectory, hdir])]
    obtain ⟨built, -, hbuilt, hreplace⟩ := run_replaceSteps hreach
      (isOverlong_temporaryPlace r key) (isOverlong_entryPlace r key) hne (hbelow _) content
    have hentry : made.isDirectory (r.entryDirectory key ++ [entryName]) = false := by
      rw [Tree.isDirectory, hbelow]
      rfl
    rw [← entryDirectory] at hreplace hrun
    rw [hentry, if_neg Bool.false_ne_true] at hreplace
    refine ⟨_, by rw [Tree.run_append, hrun]; exact hreplace,
      stored_of_built htemp fun q hq => ?_⟩
    rw [hbuilt, ← entryDirectory, ← temporaryPlace, if_neg hq, hmade, hdir]
    rfl
  | some e =>
    rw [hdir] at hfree
    have hmode : ∃ mode, e = .directory mode := by
      cases e <;> simp_all [Entry.isDirectory]
    obtain ⟨mode, rfl⟩ := hmode
    have hentry : t.isDirectory (r.entryPlace key) = false := by
      simpa [Entry.isDirectory] using hfree
    obtain ⟨built, -, hbuilt, hreplace⟩ := run_replaceSteps
      ⟨mode, by rw [h.stat_entryDirectory, hdir]⟩
      (isOverlong_temporaryPlace r key) (isOverlong_entryPlace r key) hne htemp content
    rw [← entryPlace, hentry, if_neg Bool.false_ne_true] at hreplace
    refine ⟨_, by rw [h.directorySteps hdir, List.nil_append]; exact hreplace,
      stored_of_built htemp fun q hq => ?_⟩
    rw [hbuilt, ← temporaryPlace, if_neg hq, hdir]
    split
    · next heq => rw [heq, hdir]; rfl
    · rfl

/-- Where something is in the way, the steps of a store fail, and nothing but the temporary file
tells of them. -/
theorem run_storeSteps_of_fault (h : r.Ready t) {errno : Errno}
    (hfault : storeFault? (t.stat (r.entryPlace key)) = some errno) (content : Bytes) :
    ∃ t', t.run (storeSteps t (r.entryDirectory key) content) = (.error errno, t')
      ∧ ∀ q, (t'.discard (r.temporaryPlace key)).find? q = t.find? q := by
  have hne : temporaryName 0 ≠ entryName := by decide
  have htemp := h.find?_temporaryPlace key
  rw [h.storeFault?_stat] at hfault
  rw [storeSteps, h.freeTemporary]
  cases hdir : t.find? (r.entryDirectory key) with
  | none =>
    rw [hdir] at hfault
    cases hfault
  | some e =>
    rw [hdir] at hfault
    have hstat : t.stat (r.entryDirectory key) = .ok e := by rw [h.stat_entryDirectory, hdir]
    rw [h.directorySteps hdir, List.nil_append]
    cases hkind : e.isDirectory with
    | false =>
      have hblocked : t.stat (r.temporaryPlace key) = .error .notDirectory := by
        simp only [temporaryPlace, Tree.stat_concat, hstat, hkind, Bool.false_eq_true, if_false]
      simp only [hkind, Bool.false_eq_true, if_false, Option.some.injEq] at hfault
      subst hfault
      refine ⟨t, ?_, fun q => ?_⟩
      · simp only [replaceSteps, Tree.run, FileStep.apply, hblocked]
      · simp only [Tree.discard, FileStep.apply, hblocked]
    | true =>
      obtain ⟨mode, rfl⟩ : ∃ mode, e = .directory mode := by
        cases e <;> simp_all [Entry.isDirectory]
      obtain ⟨built, hreach, hbuilt, hreplace⟩ := run_replaceSteps ⟨mode, hstat⟩
        (isOverlong_temporaryPlace r key) (isOverlong_entryPlace r key) hne htemp content
      have hstat : built.stat (r.temporaryPlace key) = .ok (.file entryMode content) := by
        rw [temporaryPlace, hreach.stat_concat (isOverlong_temporaryPlace r key), hbuilt,
          if_pos rfl]
      rw [← entryPlace] at hreplace
      cases hentry : t.isDirectory (r.entryPlace key) with
      | false => simp [hkind, hentry] at hfault
      | true =>
        simp only [hkind, hentry, if_true, Option.some.injEq] at hfault
        subst hfault
        rw [hentry, if_pos rfl] at hreplace
        refine ⟨built, hreplace, find?_discard hstat htemp fun q hq => ?_⟩
        rw [hbuilt, ← temporaryPlace, if_neg hq]

/-- How a store ends, by what an access to the entry finds. -/
def storeOutcome (r : Registry) (found : Except Errno Entry) (blob : Bytes) :
    Except StorageError Unit :=
  if blob.length > r.maxObjectSize then .error (.tooLarge blob.length r.maxObjectSize)
  else if ¬ Record.Representable blob then .error (.serialization Record.unrepresentable)
  else
    match storeFault? found with
    | some errno => .error (.io (.os errno))
    | none => .ok ()

/-- **A store either replaces the entry of its key by a sound record of the blob or leaves
everything as it was.** -/
theorem store_spec (h : r.Ready t) (key : IdentityKey) (blob : Bytes) (now : UInt64) :
    ∃ t', r.store t key blob now = (r.storeOutcome (t.stat (r.entryPlace key)) blob, t')
      ∧ ((r.storeOutcome (t.stat (r.entryPlace key)) blob = .ok ()
          ∧ ∃ content, (Record.ofBlob blob now).encode = .ok content
            ∧ Record.decode content = .ok (Record.ofBlob blob now) ∧ r.Stored t key content t')
        ∨ (r.storeOutcome (t.stat (r.entryPlace key)) blob ≠ .ok ()
          ∧ ∀ q, t'.find? q = t.find? q)) := by
  rw [store, storeOutcome]
  by_cases hlarge : blob.length > r.maxObjectSize
  · rw [if_pos hlarge, if_pos hlarge]
    exact ⟨t, rfl, .inr ⟨fun hok => (by cases hok), fun _ => rfl⟩⟩
  rw [if_neg hlarge, if_neg hlarge]
  by_cases hrep : Record.Representable blob
  · obtain ⟨content, hencode, hdecode⟩ := Record.decode_encode_ofBlob hrep now
    rw [hencode, if_neg (not_not_intro hrep)]
    dsimp only
    cases hfault : storeFault? (t.stat (r.entryPlace key)) with
    | none =>
      obtain ⟨t', hrun, hstored⟩ := run_storeSteps h hfault content
      rw [hrun]
      exact ⟨t', rfl, .inl ⟨rfl, content, rfl, hdecode, hstored⟩⟩
    | some errno =>
      obtain ⟨t', hrun, hsame⟩ := run_storeSteps_of_fault h hfault content
      rw [hrun, h.freeTemporary]
      exact ⟨_, rfl, .inr ⟨fun hok => (by cases hok), hsame⟩⟩
  · rw [Record.encode_ofBlob_of_not hrep, if_pos hrep]
    exact ⟨t, rfl, .inr ⟨fun hok => (by cases hok), fun _ => rfl⟩⟩

/-! ## Removing -/

/-- How a removal ends, by what an access to the entry finds. -/
def deleteOutcome (key : IdentityKey) : Except Errno Entry → Except StorageError Unit
  | .ok (.directory _) => .error (.io (.os .isDirectory))
  | .ok _ => .ok ()
  | .error .noEntry => .error (.notFound key)
  | .error errno => .error (.io (.os errno))

/-- What a removal leaves is what its two steps leave. -/
theorem tree_delete (r : Registry) (t : Tree) (key : IdentityKey) :
    (r.delete t key).2 = (t.run [.unlink (r.entryPlace key), .sync (r.entryDirectory key)]).2 := by
  simp only [delete, Tree.runSteps, Tree.run]
  cases (FileStep.unlink (r.entryPlace key)).apply t with
  | error errno => cases errno <;> rfl
  | ok t' =>
    dsimp only
    cases (FileStep.sync (r.entryDirectory key)).apply t' <;> rfl

/-- **A removal either takes the entry away or leaves everything as it was.** -/
theorem delete_spec (r : Registry) (t : Tree) (key : IdentityKey) :
    ∃ t', r.delete t key = (deleteOutcome key (t.stat (r.entryPlace key)), t')
      ∧ ((deleteOutcome key (t.stat (r.entryPlace key)) = .ok ()
          ∧ t.isDirectory (r.entryPlace key) = false
          ∧ ∀ q, t'.find? q = if q = r.entryPlace key then none else t.find? q)
        ∨ (deleteOutcome key (t.stat (r.entryPlace key)) ≠ .ok () ∧ t' = t)) := by
  rw [delete, Tree.run, FileStep.apply]
  cases hstat : t.stat (r.entryPlace key) with
  | error errno => cases errno <;> exact ⟨t, rfl, .inr ⟨fun hok => (by cases hok), rfl⟩⟩
  | ok e =>
    cases hkind : e.isDirectory with
    | true =>
      cases e with
      | directory mode => exact ⟨t, rfl, .inr ⟨fun hok => (by cases hok), rfl⟩⟩
      | file | socket => cases hkind
    | false =>
      obtain ⟨hshort, habove⟩ := Tree.of_blocked?_eq_none (Tree.blocked?_of_stat hstat)
      have hout := Tree.not_prefix_concat (r.entryDirectory key) entryName
      obtain ⟨mode, hdir⟩ := (habove _ entryName rfl).erase hout
      rw [← entryPlace] at hdir
      refine ⟨t.erase (r.entryPlace key), ?_, .inl ⟨?_, ?_, fun q => Tree.find?_erase t _ q⟩⟩
      · have hok : deleteOutcome key (.ok e) = .ok () := by
          cases e with
          | directory mode => cases hkind
          | file | socket => rfl
        simp only [hkind, Bool.false_eq_true, if_false, Tree.runSteps, Tree.run, FileStep.apply,
          hdir, hok]
      · cases e with
        | directory mode => cases hkind
        | file | socket => rfl
      · rw [Tree.isDirectory_of_stat hstat, hkind]

/-! ## Ready for the next operation -/

theorem Ready.congr (h : r.Ready t) (hsame : ∀ q, t'.find? q = t.find? q) : r.Ready t' := by
  have hdir : ∀ q, t'.isDirectory q = t.isDirectory q := fun q => by
    rw [Tree.isDirectory, hsame, Tree.isDirectory]
  refine ⟨⟨(hdir []).trans h.wellFormed.root, fun q hq => ?_, fun q name hq => ?_⟩, ?_,
    fun name file hfile => ?_⟩
  · exact h.wellFormed.short q (hsame q ▸ hq)
  · rw [hdir]
    exact h.wellFormed.inside q name (hsame _ ▸ hq)
  · rw [hdir, h.rooted]
  · rw [hsame, h.swept name file hfile]

theorem entryPlace_ne_temporary (r : Registry) (key : IdentityKey) {name file : String}
    (hfile : isTemporaryName file = true) : r.place ++ [name] ++ [file] ≠ r.entryPlace key := by
  intro heq
  obtain ⟨-, hlast⟩ := List.append_inj' heq rfl
  rw [List.singleton_inj.1 hlast, isTemporaryName_entryName] at hfile
  cases hfile

theorem entryDirectory_ne_of_length (r : Registry) (key : IdentityKey) (name file : String) :
    r.place ++ [name] ++ [file] ≠ r.entryDirectory key := by
  intro heq
  have := congrArg List.length heq
  simp [entryDirectory] at this

/-- The tree is ready after a store that succeeded. -/
theorem Ready.of_stored (h : r.Ready t) {content : Bytes}
    (hfree : storeFault? (t.stat (r.entryPlace key)) = none) (hstored : r.Stored t key content t') :
    r.Ready t' := by
  rw [h.storeFault?_stat] at hfree
  have hentry : t.isDirectory (r.entryPlace key) = false := by
    cases hdir : t.find? (r.entryDirectory key) with
    | none =>
      rw [Tree.isDirectory, entryPlace, h.find?_below (by rw [Tree.isDirectory, hdir]; rfl)]
      rfl
    | some e =>
      rw [hdir] at hfree
      by_contra hne
      simp only [Bool.not_eq_false] at hne
      cases hkind : e.isDirectory <;> simp [hkind, hne] at hfree
  have hkey : ((t.find? (r.entryDirectory key)).getD (.directory directoryMode)).isDirectory
      = true := by
    cases hdir : t.find? (r.entryDirectory key) with
    | none => rfl
    | some e =>
      rw [hdir] at hfree
      cases hkind : e.isDirectory with
      | true => rwa [Option.getD_some]
      | false => simp [hkind] at hfree
  have hne : r.entryDirectory key ≠ r.entryPlace key := by simp [entryPlace]
  have hdirectory : t'.isDirectory (r.entryDirectory key) = true := by
    rw [Tree.isDirectory, hstored, if_neg hne, if_pos rfl, Option.any_some, hkey]
  have hmono : ∀ q, t.isDirectory q = true → t'.isDirectory q = true := by
    intro q hq
    by_cases hq' : q = r.entryDirectory key
    · rw [hq', hdirectory]
    · have hq'' : q ≠ r.entryPlace key := by
        rintro rfl
        rw [hentry] at hq
        cases hq
      rwa [Tree.isDirectory, hstored, if_neg hq'', if_neg hq']
  refine ⟨⟨hmono _ h.wellFormed.root, fun q hq => ?_, fun q name hq => ?_⟩, hmono _ h.rooted,
    fun name file hfile => ?_⟩
  · rw [hstored] at hq
    split at hq
    · next heq => rw [heq, isOverlong_entryPlace]
    · split at hq
      · next heq => rw [heq, isOverlong_entryDirectory]
      · exact h.wellFormed.short q hq
  · rw [hstored] at hq
    split at hq
    · next heq => rw [(List.append_inj' heq rfl).1, hdirectory]
    · split at hq
      · next heq => rw [(List.append_inj' heq rfl).1]; exact hmono _ h.rooted
      · exact hmono _ (h.wellFormed.inside q name hq)
  · rw [hstored, if_neg (entryPlace_ne_temporary r key hfile),
      if_neg (entryDirectory_ne_of_length r key name file), h.swept name file hfile]

theorem Ready.store (h : r.Ready t) (key : IdentityKey) (blob : Bytes) (now : UInt64) :
    r.Ready (r.store t key blob now).2 := by
  obtain ⟨t', heq, ⟨hok, content, -, -, hstored⟩ | ⟨-, hsame⟩⟩ := store_spec h key blob now
  · rw [heq]
    refine h.of_stored ?_ hstored
    rw [storeOutcome] at hok
    cases hfault : storeFault? (t.stat (r.entryPlace key)) with
    | none => rfl
    | some errno =>
      rw [hfault] at hok
      split at hok
      · cases hok
      · split at hok <;> cases hok
  · rw [heq]
    exact h.congr hsame

theorem Ready.delete (h : r.Ready t) (key : IdentityKey) : r.Ready (r.delete t key).2 := by
  obtain ⟨t', heq, ⟨-, hfile, herased⟩ | ⟨-, hsame⟩⟩ := delete_spec r t key
  · rw [heq]
    have hmono : ∀ q, t.isDirectory q = true → t'.isDirectory q = true := by
      intro q hq
      have hne : q ≠ r.entryPlace key := by
        rintro rfl
        rw [hfile] at hq
        cases hq
      rwa [Tree.isDirectory, herased, if_neg hne]
    have hsub : ∀ q, (t'.find? q).isSome = true → (t.find? q).isSome = true := by
      intro q hq
      rw [herased] at hq
      split at hq
      · cases hq
      · exact hq
    refine ⟨⟨hmono _ h.wellFormed.root, fun q hq => h.wellFormed.short q (hsub q hq),
      fun q name hq => hmono q (h.wellFormed.inside q name (hsub _ hq))⟩, hmono _ h.rooted,
      fun name file hfile => ?_⟩
    rw [herased, if_neg (entryPlace_ne_temporary r key hfile), h.swept name file hfile]
  · rw [heq, hsame]
    exact h

end Registry
end TokenBroker
