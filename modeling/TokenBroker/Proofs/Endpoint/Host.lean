import TokenBroker.Endpoint.Host
import TokenBroker.Proofs.Files.Paths
/-!
# Where a listener is reached

A listener that was bound is reached at its endpoint, by name or through its socket file, as long as
that file stays.

* `Reaches` is what leads to a listener, and `Reaches.connect?` says that it does.
* `bind_ok` says that a listener is reached once it was bound, `Reaches.of_stays` what has to stay
  for that.
-/

set_option autoImplicit false

namespace TokenBroker

namespace Tree

variable {t t' : Tree} {text : String} {p : Place} {id : Nat}

/-- Steps that move nothing are changes. -/
theorem evolves_of_run {steps : List FileStep}
    (hmove : ∀ (t : Tree), ∀ step ∈ steps, t.movesDirectory step = false)
    (h : t.run steps = (.ok (), t')) : Evolves t t' := by
  induction steps generalizing t with
  | nil =>
    obtain ⟨-, rfl⟩ := Prod.mk.inj h
    exact .refl t
  | cons step rest ih =>
    rw [run] at h
    cases happly : step.apply t with
    | error errno =>
      rw [happly] at h
      cases (Prod.mk.inj h).1
    | ok t₁ =>
      rw [happly] at h
      have hchange := change_of_apply happly (hmove t step List.mem_cons_self)
      exact hchange.evolves.trans
        (ih (fun t step hstep => hmove t step (List.mem_cons_of_mem _ hstep)) h)

theorem run_of_runSteps {steps : List FileStep} (h : t.runSteps steps = (.ok (), t')) :
    t.run steps = (.ok (), t') := by
  rw [runSteps] at h
  split at h
  · next hrun =>
    rw [hrun, ← (Prod.mk.inj h).2]
  · cases (Prod.mk.inj h).1

theorem makePrivatePath_ok (ht : t.WellFormed) {mode : Nat}
    (h : t.makePrivatePath text mode = (.ok (), t')) : Evolves t t' := by
  rw [makePrivatePath] at h
  cases hmake : t.makePath text with
  | mk result t₁ =>
    rw [hmake] at h
    cases result with
    | error e => cases (Prod.mk.inj h).1
    | ok done =>
      obtain ⟨hgrown, -⟩ := makePath_ok (p := []) ht hmake
      dsimp only at h
      rw [setModeAt] at h
      cases hlocate : t₁.locate text with
      | error e =>
        rw [hlocate] at h
        cases (Prod.mk.inj h).1
      | ok p =>
        rw [hlocate] at h
        refine hgrown.trans (evolves_of_run (fun t step hstep => ?_) (run_of_runSteps h))
        rw [List.mem_singleton.1 hstep]
        rfl

/-- A path is located where it was as long as directories stay and what stands there stays or gives
way to something that is a directory if and only if it was one. -/
theorem locate_of_alike (hkeep : ∀ q, t.isDirectory q = true → t'.isDirectory q = true)
    (ht' : t'.WellFormed) (h : t.locate text = .ok p)
    (halike : ∀ e, t.find? p = some e →
      ∃ e', t'.find? p = some e' ∧ e'.isDirectory = e.isDirectory) : t'.locate text = .ok p := by
  unfold locate at h ⊢
  cases hspot : t.spot text with
  | error e => simp [hspot] at h
  | ok s =>
    rw [spot_mono hkeep hspot]
    rw [hspot] at h
    cases s with
    | reached q => exact h
    | named directory name slash =>
      dsimp only at h ⊢
      cases hstat : t.stat (directory ++ [name]) with
      | error errno => simp [hstat] at h
      | ok e =>
        rw [hstat] at h
        have hplace : directory ++ [name] = p := by
          dsimp only at h
          split at h
          · cases h
          · exact Except.ok.inj h
        obtain ⟨e', hfind, hdirectory⟩ := halike e (hplace ▸ find?_of_stat hstat)
        rw [ht'.stat_of_find? (hplace ▸ hfind)]
        dsimp only at h ⊢
        rw [hdirectory]
        exact h

/-- A path is located where it was as long as directories stay and what stands there does. -/
theorem locate_of_find? (hkeep : ∀ q, t.isDirectory q = true → t'.isDirectory q = true)
    (ht' : t'.WellFormed) (h : t.locate text = .ok p)
    (hsame : t'.find? p = t.find? p) : t'.locate text = .ok p :=
  locate_of_alike hkeep ht' h fun e he => ⟨e, hsame.trans he, rfl⟩

/-- A vacancy is a name in a directory. -/
theorem spot_of_vacancy {slash : Bool} (h : t.vacancy text = .ok (p, slash)) :
    ∃ directory name, t.spot text = .ok (.named directory name slash)
      ∧ p = directory ++ [name] := by
  rw [vacancy] at h
  cases hspot : t.spot text with
  | error e => simp [hspot] at h
  | ok s =>
    rw [hspot] at h
    cases s with
    | reached q => cases h
    | named directory name slash' =>
      dsimp only at h
      split at h
      · cases h
      · obtain ⟨rfl, rfl⟩ := Prod.mk.inj (Except.ok.inj h)
        exact ⟨directory, name, rfl, rfl⟩
      · cases h

end Tree

namespace Host

variable {h h' : Host} {t t' : Tree} {text : String} {endpoint : Endpoint} {listener id : Nat}
  {p : Place}

/-! ## Binding -/

theorem tree_bindName (h : Host) (name : Bytes) : (h.bindName name).2.tree = h.tree := by
  rw [bindName]
  split
  · rfl
  · split <;> rfl

theorem provideParent_ok (ht : t.WellFormed) (hprovide : provideParent t text = (.ok (), t')) :
    Tree.Evolves t t' := by
  rw [provideParent] at hprovide
  split at hprovide
  · exact (Prod.mk.inj hprovide).2 ▸ .refl t
  · split at hprovide
    · exact (Prod.mk.inj hprovide).2 ▸ .refl t
    · exact Tree.makePrivatePath_ok ht hprovide

theorem removeStaleSocket_ok (hremove : removeStaleSocket t text = (.ok (), t')) :
    Tree.Evolves t t' := by
  rw [removeStaleSocket] at hremove
  split at hremove
  · exact (Prod.mk.inj hremove).2 ▸ .refl t
  · cases (Prod.mk.inj hremove).1
  · split at hremove
    · refine Tree.evolves_of_run (fun t step hstep => ?_) (Tree.run_of_runSteps hremove)
      rw [List.mem_singleton.1 hstep]
      rfl
    · cases (Prod.mk.inj hremove).1

/-- The steps that make a socket file. -/
theorem run_bindSteps (hrun : t.run [.bindSocket p id, .setMode p socketMode] = (.ok (), t')) :
    Tree.Evolves t t' ∧ t'.find? p = some (.socket socketMode id) := by
  have hgrown : Tree.Evolves t t' := Tree.evolves_of_run (fun t step hstep => by
    rcases List.mem_cons.1 hstep with rfl | hstep
    · rfl
    · rw [List.mem_singleton.1 hstep]
      rfl) hrun
  refine ⟨hgrown, ?_⟩
  rw [Tree.run] at hrun
  cases hbind : (FileStep.bindSocket p id).apply t with
  | error errno =>
    rw [hbind] at hrun
    cases (Prod.mk.inj hrun).1
  | ok t₁ =>
    have hfind₁ : t₁.find? p = some (.socket Tree.defaultDirectoryMode id) := by
      cases Tree.effect_of_apply hbind
      rw [Tree.find?_insert, if_pos rfl]
    rw [hbind] at hrun
    dsimp only at hrun
    rw [Tree.run, FileStep.apply] at hrun
    cases hstat : t₁.stat p with
    | error errno =>
      rw [hstat] at hrun
      cases (Prod.mk.inj hrun).1
    | ok e =>
      rw [hstat] at hrun
      have he : e = .socket Tree.defaultDirectoryMode id :=
        Option.some.inj ((Tree.find?_of_stat hstat).symm.trans hfind₁)
      rw [← (Prod.mk.inj hrun).2, Tree.find?_insert, if_pos rfl, he]
      rfl

/-- A socket file that was made is found at its path. -/
theorem makeSocketFile_ok (ht : t.WellFormed) (hmake : makeSocketFile t text id = (.ok (), t')) :
    Tree.Evolves t t'
      ∧ ∃ p, t'.locate text = .ok p ∧ t'.find? p = some (.socket socketMode id) := by
  rw [makeSocketFile] at hmake
  split at hmake
  · cases (Prod.mk.inj hmake).1
  · cases (Prod.mk.inj hmake).1
  · cases (Prod.mk.inj hmake).1
  · next p hvacancy =>
    obtain ⟨directory, name, hspot, rfl⟩ := Tree.spot_of_vacancy hvacancy
    obtain ⟨hgrown, hfind⟩ := run_bindSteps (Tree.run_of_runSteps hmake)
    have hthere := (hgrown.wellFormed ht).stat_of_find? hfind
    have hspot' := Tree.spot_mono (fun _ => hgrown.isDirectory) hspot
    refine ⟨hgrown, directory ++ [name], ?_, hfind⟩
    rw [Tree.locate, hspot']
    dsimp only
    rw [hthere]
    rfl

/-- What leads to a listener: it holds the name of the endpoint, or its socket file is there.  Last
comes the place of that file. -/
inductive Reaches (h : Host) : Endpoint → Nat → Option Place → Prop
  | name {text : String} {name : Bytes} {listener : Nat}
      (haddress : nameAddress (textBytes text) = .ok name)
      (hheld : h.connectName? name = .ok listener) : Reaches h (.name text) listener none
  | hidden {text : String} {name : Bytes} {listener : Nat}
      (haddress : pathAddress text = .ok (some name))
      (hheld : h.connectName? name = .ok listener) : Reaches h (.path text) listener none
  | file {text : String} {p : Place} {mode listener : Nat} (haddress : pathAddress text = .ok none)
      (hlocate : h.tree.locate text = .ok p) (hfind : h.tree.find? p = some (.socket mode listener))
      (halive : listener ∈ h.listeners) : Reaches h (.path text) listener (some p)

variable {file : Option Place}

/-- Whoever connects gets to that listener. -/
theorem Reaches.connect? (hreaches : h.Reaches endpoint listener file) (ht : h.tree.WellFormed) :
    h.connect? endpoint = .ok listener := by
  cases hreaches with
  | name haddress hheld =>
    rw [Host.connect?, haddress]
    exact hheld
  | hidden haddress hheld =>
    rw [Host.connect?, haddress]
    exact hheld
  | file haddress hlocate hfind halive =>
    have hstat := ht.stat_of_find? hfind
    rw [Host.connect?, haddress]
    dsimp only
    rw [Tree.statPath, hlocate]
    dsimp only
    rw [hstat]
    dsimp only
    rw [if_pos (List.contains_iff_mem.2 halive)]

theorem bindName_ok {name : Bytes} (hbind : h.bindName name = (.ok listener, h')) :
    h'.tree = h.tree ∧ h'.connectName? name = .ok listener ∧ nameAddress name = .ok name := by
  rw [bindName] at hbind
  cases haddress : nameAddress name with
  | error e =>
    rw [haddress] at hbind
    cases (Prod.mk.inj hbind).1
  | ok name' =>
    have hsame : name' = name := by
      rw [nameAddress] at haddress
      split at haddress
      · cases haddress
      · exact (Except.ok.inj haddress).symm
    subst hsame
    rw [haddress] at hbind
    dsimp only at hbind
    split at hbind
    · cases (Prod.mk.inj hbind).1
    · next hfree =>
      obtain ⟨hlistener, rfl⟩ := Prod.mk.inj hbind
      have hnone : h.names.find? (fun held => held.1 = name') = none := by
        rw [List.find?_eq_none]
        rw [Bool.not_eq_true, List.any_eq_false] at hfree
        exact hfree
      refine ⟨rfl, ?_, rfl⟩
      rw [connectName?]
      dsimp only
      rw [List.find?_append, hnone, Option.none_or, List.find?_cons_of_pos (by simp)]
      exact congrArg Except.ok (Except.ok.inj hlistener)

theorem bindFile_ok (ht : h.tree.WellFormed) (hbind : h.bindFile text = (.ok listener, h')) :
    Tree.Evolves h.tree h'.tree ∧ ∃ file, h'.Reaches (.path text) listener file := by
  rw [bindFile] at hbind
  cases haddress : pathAddress text with
  | error e =>
    rw [haddress] at hbind
    cases (Prod.mk.inj hbind).1
  | ok address =>
    rw [haddress] at hbind
    cases address with
    | some name =>
      obtain ⟨htree, hheld, -⟩ := bindName_ok hbind
      exact ⟨htree ▸ .refl _, none, .hidden haddress hheld⟩
    | none =>
      dsimp only at hbind
      cases hmake : makeSocketFile h.tree text h.nextListener with
      | mk result t =>
        rw [hmake] at hbind
        cases result with
        | error e => cases (Prod.mk.inj hbind).1
        | ok done =>
          obtain ⟨hlistener, rfl⟩ := Prod.mk.inj hbind
          obtain ⟨hgrown, p, hlocate, hfind⟩ := makeSocketFile_ok ht hmake
          rw [Except.ok.inj hlistener] at hfind
          refine ⟨hgrown, some p, .file haddress hlocate hfind ?_⟩
          rw [← Except.ok.inj hlistener]
          exact List.mem_append_right _ (List.mem_singleton.2 rfl)

/-- **Binding only adds to the file tree, and the listener is reached at its endpoint.** -/
theorem bind_ok (ht : h.tree.WellFormed) (hbind : h.bind endpoint = (.ok listener, h')) :
    Tree.Evolves h.tree h'.tree ∧ ∃ file, h'.Reaches endpoint listener file := by
  cases endpoint with
  | name text =>
    obtain ⟨htree, hheld, haddress⟩ := bindName_ok hbind
    exact ⟨htree ▸ .refl _, none, .name haddress hheld⟩
  | path text =>
    rw [bind, bindPath] at hbind
    cases hprovide : provideParent h.tree text with
    | mk result t₁ =>
      rw [hprovide] at hbind
      cases result with
      | error e => cases (Prod.mk.inj hbind).1
      | ok done =>
        have hgrown₁ := provideParent_ok ht hprovide
        dsimp only at hbind
        cases hremove : removeStaleSocket t₁ text with
        | mk result t₂ =>
          rw [hremove] at hbind
          cases result with
          | error e => cases (Prod.mk.inj hbind).1
          | ok done =>
            have hgrown₂ := hgrown₁.trans (removeStaleSocket_ok hremove)
            obtain ⟨hgrown₃, hreaches⟩ :=
              bindFile_ok (h := { h with tree := t₂ }) (hgrown₂.wellFormed ht) hbind
            exact ⟨hgrown₂.trans hgrown₃, hreaches⟩

/-! ## As long as the socket file stays -/

/-- **A listener is reached as long as its name and its socket file stay.** -/
theorem Reaches.of_stays (hreaches : h.Reaches endpoint listener file)
    (hnames : h'.names = h.names) (hlisteners : h'.listeners = h.listeners)
    (hkeep : ∀ q, h.tree.isDirectory q = true → h'.tree.isDirectory q = true)
    (ht' : h'.tree.WellFormed)
    (hstays : ∀ p e, file = some p → h.tree.find? p = some e → h'.tree.find? p = some e) :
    h'.Reaches endpoint listener file := by
  cases hreaches with
  | name haddress hheld => exact .name haddress (by rw [connectName?, hnames]; exact hheld)
  | hidden haddress hheld => exact .hidden haddress (by rw [connectName?, hnames]; exact hheld)
  | file haddress hlocate hfind halive =>
    have hfind' := hstays _ _ rfl hfind
    exact .file haddress (Tree.locate_of_find? hkeep ht' hlocate (hfind'.trans hfind.symm)) hfind'
      (hlisteners ▸ halive)

end Host
end TokenBroker
