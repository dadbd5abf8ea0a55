import TokenBroker.Proofs.Registry.Opening
/-!
# What opening a registry takes away

Opening walks through the directories right below the root, where the tokens are, and removes what
bears the name of a temporary file.  Of such a walk it matters what it leaves alone.

* `Temporary` says which places it is about: two names below the root, neither more nor less.
* `find?_run_openSteps` tells of the steps of opening what they can change, however far they get.
* `open_sweeps` puts together what an opening leaves, whether it succeeds or fails.
-/

set_option autoImplicit false

namespace TokenBroker

namespace Tree

variable {t t' : Tree} {p q : Place}

/-- Removals, however many of them succeed, take away nothing but their own files. -/
theorem find?_run_unlinks (t : Tree) (places : List Place) (q : Place) :
    (t.run (places.map .unlink)).2.find? q = t.find? q
      ∨ q ∈ places ∧ t.isDirectory q = false ∧ (t.run (places.map .unlink)).2.find? q = none := by
  induction places generalizing t with
  | nil => exact .inl rfl
  | cons p rest ih =>
    rw [List.map_cons, run]
    cases happly : (FileStep.unlink p).apply t with
    | error errno => exact .inl rfl
    | ok t₁ =>
      obtain ⟨e, hstat, hfile, rfl⟩ : ∃ e, t.stat p = .ok e ∧ e.isDirectory = false
          ∧ t.erase p = t₁ := by
        cases effect_of_apply happly with
        | unlink hstat hfile => exact ⟨_, hstat, hfile, rfl⟩
      have hrest := ih (t.erase p)
      rw [find?_erase, isDirectory_erase] at hrest
      by_cases hq : q = p
      · subst hq
        rw [if_pos rfl, if_pos rfl] at hrest
        have hgone : ((t.erase q).run (rest.map .unlink)).2.find? q = none :=
          hrest.elim id fun hmem => hmem.2.2
        exact .inr ⟨.head _, by rw [isDirectory_of_stat hstat, hfile], hgone⟩
      · rw [if_neg hq, if_neg hq] at hrest
        rcases hrest with hsame | ⟨hmem, hgone⟩
        · exact .inl hsame
        · exact .inr ⟨.tail _ hmem, hgone⟩

end Tree

namespace Registry

variable {r : Registry} {t t₁ t' : Tree} {root : String} {p q : Place} {max : Nat}

/-- The places that a registry at a root sweeps: right below a directory that lies right below the
root, and with the name of a temporary file. -/
def Temporary (p q : Place) : Prop :=
  ∃ name file, q = p ++ [name] ++ [file] ∧ isTemporaryName file = true

theorem temporary_of_mem (h : q ∈ temporaries t p) : Temporary p q := by
  obtain ⟨name, file, hplace, hfile, -⟩ := mem_temporaries.1 h
  exact ⟨name, file, hplace, hfile⟩

theorem Temporary.ne_root (h : Temporary p q) : q ≠ p := by
  obtain ⟨name, file, rfl, -⟩ := h
  simp

/-- No entry is swept, whatever its key. -/
theorem not_temporary_entry (p : Place) (name : String) :
    ¬ Temporary p (p ++ [name] ++ [entryName]) := by
  rintro ⟨name', file, hplace, hfile⟩
  obtain ⟨-, hlast⟩ := List.append_inj' hplace rfl
  rw [← List.singleton_inj.1 hlast, isTemporaryName_entryName] at hfile
  cases hfile

/-! ## The steps of opening -/

/-- The steps of opening, however far they get, close the root to others, take away temporary files
and change nothing else. -/
theorem find?_run_openSteps (hp : t.isDirectory p = true) (q : Place) :
    (t.run (openSteps t p)).2.find? q = t.find? q
      ∨ q = p ∧ (t.run (openSteps t p)).2.find? q = some (.directory directoryMode)
      ∨ Temporary p q ∧ t.isDirectory q = false ∧ (t.run (openSteps t p)).2.find? q = none := by
  rw [openSteps, Tree.run]
  cases happly : (FileStep.setMode p directoryMode).apply t with
  | error errno => exact .inl rfl
  | ok t₁ =>
    have hclosed := find?_closed happly hp q
    rcases Tree.find?_run_unlinks t₁ (temporaries t p) q with hsame | ⟨hmem, hfile, hgone⟩
    · dsimp only
      rw [hsame, hclosed]
      split
      · next heq => exact .inr (.inl ⟨heq, rfl⟩)
      · exact .inl rfl
    · have htemp := temporary_of_mem hmem
      rw [if_neg htemp.ne_root] at hclosed
      rw [Tree.isDirectory, hclosed] at hfile
      exact .inr (.inr ⟨htemp, hfile, hgone⟩)

theorem isDirectory_run_openSteps (hp : t.isDirectory p = true)
    (hq : t.isDirectory q = true) : (t.run (openSteps t p)).2.isDirectory q = true := by
  rcases find?_run_openSteps hp q with hsame | ⟨-, hclosed⟩ | ⟨-, hfile, -⟩
  · rwa [Tree.isDirectory, hsame]
  · rw [Tree.isDirectory, hclosed]
    rfl
  · rw [hq] at hfile
    cases hfile

/-! ## Openings that succeed -/

/-- What an opening that succeeds makes of a tree. -/
structure Swept (t : Tree) (p : Place) (t' : Tree) : Prop where
  /-- The root is closed to others. -/
  closed : t'.find? p = some (.directory directoryMode)
  /-- No temporary file is left. -/
  gone : ∀ q, Temporary p q → t'.find? q = none
  /-- Whatever else there was is as it was, at every depth. -/
  kept : ∀ q e, t.find? q = some e → q ≠ p → ¬ Temporary p q → t'.find? q = some e
  /-- Nothing else is new but directories that lead to the root. -/
  made : ∀ q, t.find? q = none → q ≠ p →
    t'.find? q = none ∨ t'.find? q = some (.directory Tree.defaultDirectoryMode)

theorem swept_of_run (ht : t₁.WellFormed) (hgrown : t.Grown t₁) (hp : t₁.isDirectory p = true)
    (hrun : t₁.run (openSteps t₁ p) = (.ok (), t')) : Swept t p t' := by
  have hfind := (run_openSteps_ok hrun hp).2
  have hroot : p ∉ temporaries t₁ p := fun hmem => (temporary_of_mem hmem).ne_root rfl
  refine ⟨by rw [hfind, if_neg hroot, if_pos rfl], ?_, fun q e hq hne htemp => ?_,
    fun q hq hne => ?_⟩
  · rintro q ⟨name, file, rfl, hfile⟩
    rw [hfind]
    split
    · rfl
    · next hnot => rw [if_neg (by simp), find?_swept ht hfile hnot]
  · have hnot : q ∉ temporaries t₁ p := fun hmem => htemp (temporary_of_mem hmem)
    rw [hfind, if_neg hnot, if_neg hne, hgrown.find? hq]
  · rw [hfind]
    split
    · exact .inl rfl
    · exact (hgrown q).imp (fun hsame => by rw [hsame, hq]) fun hmade => hmade.2

/-- Opening again finds nothing to do. -/
theorem Ready.open_again (h : r.Ready t) (hlocate : t.locate r.root = .ok r.place) (max : Nat) :
    ∃ t', Registry.open t r.root max = (.ok ⟨r.root, r.place, max⟩, t')
      ∧ ∀ q, t'.find? q = if q = r.place then some (.directory directoryMode) else t.find? q := by
  obtain ⟨mode, hmode⟩ := Tree.isDirectory_eq_true_iff.1 h.rooted
  have happly : (FileStep.setMode r.place directoryMode).apply t
      = .ok (t.insert r.place (.directory directoryMode)) := by
    simp only [FileStep.apply, h.wellFormed.stat_of_find? hmode, Entry.withMode]
  refine ⟨_, ?_, Tree.find?_insert t r.place (.directory directoryMode)⟩
  rw [Registry.open, Tree.makePath_of_located hlocate h.enterable_place]
  simp only [hlocate, Tree.runSteps, openSteps, h.temporaries, List.map_nil, Tree.run, happly]

/-! ## Openings that fail -/

/-- What an opening that fails can make of a tree. -/
structure Spared (t : Tree) (root : String) (t' : Tree) : Prop where
  /-- Whatever there was is as it was, but for the mode of the root and for temporary files. -/
  kept : ∀ q e, t.find? q = some e → t'.find? q = some e
    ∨ ∃ p, t'.locate root = .ok p
      ∧ (q = p ∧ e.isDirectory = true ∧ t'.find? q = some (.directory directoryMode)
        ∨ Temporary p q ∧ e.isDirectory = false ∧ t'.find? q = none)
  /-- Nothing is new but directories. -/
  made : ∀ q, t.find? q = none → t'.find? q = none ∨ t'.isDirectory q = true

theorem spared_of_grown (h : t.Grown t') : Spared t root t' where
  kept _ _ hq := .inl (h.find? hq)
  made q hq := by
    rcases h q with hsame | ⟨-, hmade⟩
    · exact .inl (by rw [hsame, hq])
    · exact .inr (Tree.isDirectory_eq_true_iff.2 ⟨_, hmade⟩)

theorem spared_of_run (hgrown : t.Grown t₁) (hlocate : t₁.locate root = .ok p)
    (hp : t₁.isDirectory p = true) : Spared t root (t₁.run (openSteps t₁ p)).2 where
  kept q e hq := by
    have hthere := hgrown.find? hq
    have hstill := Tree.locate_mono (fun _ => isDirectory_run_openSteps hp) hlocate hp
    rcases find?_run_openSteps hp q with hsame | ⟨rfl, hclosed⟩ | ⟨htemp, hfile, hgone⟩
    · exact .inl (by rw [hsame, hthere])
    · rw [Tree.isDirectory, hthere] at hp
      exact .inr ⟨q, hstill, .inl ⟨rfl, hp, hclosed⟩⟩
    · rw [Tree.isDirectory, hthere] at hfile
      exact .inr ⟨p, hstill, .inr ⟨htemp, hfile, hgone⟩⟩
  made q hq := by
    rcases hgrown q with hsame | ⟨-, hmade⟩
    · rcases find?_run_openSteps hp q with hsame' | ⟨rfl, hclosed⟩ | ⟨-, -, hgone⟩
      · exact .inl (by rw [hsame', hsame, hq])
      · exact .inr (Tree.isDirectory_eq_true_iff.2 ⟨_, hclosed⟩)
      · exact .inl hgone
    · exact .inr (isDirectory_run_openSteps hp (Tree.isDirectory_eq_true_iff.2 ⟨_, hmade⟩))

/-- An opening that fails leaves every entry as it was. -/
theorem Spared.entry (h : Spared t root t') (hlocate : t'.locate root = .ok p) {name : String}
    {e : Entry} (he : t.find? (p ++ [name] ++ [entryName]) = some e) :
    t'.find? (p ++ [name] ++ [entryName]) = some e := by
  rcases h.kept _ e he with hsame | ⟨p', hlocate', hchanged⟩
  · exact hsame
  · rw [hlocate] at hlocate'
    obtain rfl := Except.ok.inj hlocate'
    rcases hchanged with ⟨hroot, -⟩ | ⟨htemp, -⟩
    · simp at hroot
    · exact absurd htemp (not_temporary_entry p name)

/-! ## All openings -/

/-- An opening that succeeds sweeps, and makes nothing if the root was there. -/
theorem swept_of_open (ht : t.WellFormed) (h : Registry.open t root max = (.ok r, t')) :
    Swept t r.place t' ∧ (t.Leads root → ∀ q, t.find? q = none → t'.find? q = none) := by
  obtain ⟨-, t₁, hmake, hlocate, hrun⟩ := of_open_ok h
  obtain ⟨hevolves, hleads⟩ := Tree.makePath_ok (p := r.place) ht hmake
  have hp := hleads hlocate
  have hgrown := t.makePath_grown root
  rw [hmake] at hgrown
  refine ⟨swept_of_run (hevolves.wellFormed ht) hgrown hp hrun, ?_⟩
  rintro ⟨p, hthere, hdir⟩ q hq
  -- nothing was made on the way, and the steps of opening make nothing
  rw [Tree.makePath_of_located hthere (ht.enterable hdir)] at hmake
  obtain rfl := (Prod.mk.inj hmake).2
  have hfind := find?_run_openSteps hp q
  rw [hrun] at hfind
  rcases hfind with hsame | ⟨rfl, -⟩ | ⟨-, -, hgone⟩
  · exact hsame.trans hq
  · rw [Tree.isDirectory, hq] at hp
    cases hp
  · exact hgone

/-- An opening that fails spares all but temporary files. -/
theorem spared_of_open {e : StorageError} (ht : t.WellFormed)
    (h : Registry.open t root max = (.error e, t')) : Spared t root t' := by
  have hgrown := t.makePath_grown root
  rcases open_cases t root max with ⟨e', heq⟩ | ⟨t₁, p, hmake, hlocate, hran⟩
  · rw [h] at heq
    rw [(Prod.mk.inj heq).2]
    exact spared_of_grown hgrown
  · rw [hmake] at hgrown
    obtain ⟨-, hleads⟩ := Tree.makePath_ok (p := p) ht hmake
    rcases hran with ⟨t₂, -, heq⟩ | ⟨errno, t₂, hrun, heq⟩ <;> rw [h] at heq
    · cases (Prod.mk.inj heq).1
    · have hafter := spared_of_run hgrown hlocate (hleads hlocate)
      rwa [hrun, ← (Prod.mk.inj heq).2] at hafter

/-- **Opening takes away exactly the temporary files.**  When it succeeds, the root is closed to
others, no temporary file is left, and everything else is as it was; opening once more changes
nothing.  When it fails, nothing but temporary files is gone, and no entry has changed. -/
theorem open_sweeps (ht : t.WellFormed) (root : String) (max : Nat) :
    match Registry.open t root max with
    | (.ok r, t') =>
      t'.locate root = .ok r.place ∧ Swept t r.place t'
        ∧ (t.Leads root → ∀ q, t.find? q = none → t'.find? q = none)
        ∧ ∀ again, ∃ t'', Registry.open t' root again = (.ok ⟨root, r.place, again⟩, t'')
          ∧ ∀ q, t''.find? q = t'.find? q
    | (.error _, t') =>
      Spared t root t'
        ∧ ∀ p name e, t'.locate root = .ok p → t.find? (p ++ [name] ++ [entryName]) = some e →
          t'.find? (p ++ [name] ++ [entryName]) = some e := by
  generalize hopen : Registry.open t root max = opened
  obtain ⟨e | r, t'⟩ := opened
  · have hspared := spared_of_open ht hopen
    exact ⟨hspared, fun p name e hlocate he => hspared.entry hlocate he⟩
  · obtain ⟨hready, hroot, -, -, hlocate⟩ := open_ok ht hopen
    obtain ⟨hswept, hnew⟩ := swept_of_open ht hopen
    refine ⟨hlocate, hswept, hnew, fun again => ?_⟩
    subst hroot
    obtain ⟨t'', hagain, hfind⟩ := hready.open_again hlocate again
    refine ⟨t'', hagain, fun q => ?_⟩
    rw [hfind]
    split
    · next hroot => rw [hroot, hswept.closed]
    · rfl

/-- A tree with an entry, and files with the name of a temporary file at all depths.  In one of
these names start and end overlap. -/
def strewn : Tree :=
  ⟨[([], .directory 0o755), (["r"], .directory 0o755), (["r", ".auth_token.a.tmp"], .file 0o644 []),
    (["r", "k"], .directory 0o750), (["r", "k", "auth_token.so"], .file 0o644 [1, 2]),
    (["r", "k", ".auth_token.tmp"], .file 0o600 [3]),
    (["r", "k", ".auth_token.tm"], .file 0o600 []),
    (["r", "k", "d"], .directory 0o755), (["r", "k", "d", ".auth_token.b.tmp"], .file 0o600 [4]),
    (["r", ".auth_token.c.tmp"], .directory 0o755),
    (["r", ".auth_token.c.tmp", ".auth_token.d.tmp"], .socket 0o600 7)]⟩

/-- Two of these files are taken away. -/
theorem open_sweeps_strewn :
    strewn.WellFormed ∧ (Registry.open strewn "r" 4).1 = .ok ⟨"r", ["r"], 4⟩
      ∧ Swept strewn ["r"] (Registry.open strewn "r" 4).2
      ∧ (Registry.open strewn "r" 4).2.entries
        = [([], .directory 0o755), (["r"], .directory 0o700),
          (["r", ".auth_token.a.tmp"], .file 0o644 []), (["r", "k"], .directory 0o750),
          (["r", "k", "auth_token.so"], .file 0o644 [1, 2]),
          (["r", "k", ".auth_token.tm"], .file 0o600 []), (["r", "k", "d"], .directory 0o755),
          (["r", "k", "d", ".auth_token.b.tmp"], .file 0o600 [4]),
          (["r", ".auth_token.c.tmp"], .directory 0o755)] := by
  have hwf : strewn.WellFormed := .of_entries rfl (by decide)
  have hopen : Registry.open strewn "r" 4
      = (.ok ⟨"r", ["r"], 4⟩, (Registry.open strewn "r" 4).2) :=
    Prod.ext (by decide +kernel) rfl
  have hsweeps := open_sweeps hwf "r" 4
  rw [hopen] at hsweeps
  exact ⟨hwf, congrArg Prod.fst hopen, hsweeps.2.1, by decide +kernel⟩

end Registry
end TokenBroker
