import TokenBroker.Proofs.Endpoint.Host
import TokenBroker.Proofs.Files.Sockets
import TokenBroker.Proofs.Text.Encoding
/-!
# How long a listener keeps its path

Several holders listen, stop listening and clean up on the paths of one host.  A socket file is a
socket file to all of them: neither binding nor cleaning up looks whether its listener is still
alive.

* `Act` is what a holder does, and `target?` the place at which that removes a socket file.
* `Outcome` is all that an act does to socket files and listeners, and `outcome` says that each act
  does that.
* `reached_iff_spared` says how long a listener is reached at its path: until it is dropped, or
  somebody, whoever that is, binds or cleans up a path that leads to its socket file.
* `usurped_while_held` is a listener that loses its path to another holder while it is held.
-/

set_option autoImplicit false

namespace TokenBroker
namespace Host

/-- What somebody does who listens, or did, on a path. -/
inductive Act where
  | bind (text : String)
  /-- A listener is dropped by its holder. -/
  | drop (listener : Nat)
  | cleanup (text : String)
  deriving DecidableEq

variable {h h' : Host} {t t' : Tree} {text : String} {p : Place} {act : Act}
  {id listener : Nat} {target made : Option Place}

/-- The host after an act. -/
def undergo (h : Host) : Act → Host
  | .bind text => (h.bind (.path text)).2
  | .drop listener => h.release listener
  | .cleanup text => h.cleanup (.path text)

/-- The host after some acts. -/
def undergoAll (h : Host) (acts : List Act) : Host := acts.foldl undergo h

/-- The place at which an act removes a socket file, if one is there. -/
def target? (h : Host) : Act → Option Place
  | .bind text =>
    match provideParent h.tree text with
    | (.ok (), t) => (t.locate text).toOption
    | (.error _, _) => none
  | .drop _ => none
  | .cleanup text => (h.tree.locate text).toOption

/-- No act removes what is at a place. -/
def Spares (p : Place) : Host → List Act → Prop
  | _, [] => True
  | h, act :: rest => h.target? act ≠ some p ∧ Spares p (h.undergo act) rest

instance decidableSpares (p : Place) : (h : Host) → (acts : List Act) → Decidable (Spares p h acts)
  | _, [] => .isTrue trivial
  | h, act :: rest =>
    have := decidableSpares p (h.undergo act) rest
    inferInstanceAs (Decidable (h.target? act ≠ some p ∧ Spares p (h.undergo act) rest))

/-! ## Names that start with a zero byte -/

/-- The bytes of a text are those of its characters. -/
theorem textBytes_eq (text : String) :
    textBytes text = text.toList.flatMap String.utf8EncodeChar :=
  Text.toList_toUTF8 text

theorem eq_nul_of_utf8EncodeChar {c : Char} {name : Bytes}
    (h : String.utf8EncodeChar c <+: 0 :: name) : c = '\x00' := by
  by_cases hascii : c.toNat < 128
  · rw [Text.utf8EncodeChar_ascii hascii] at h
    have hzero : c.toNat % 256 = 0 := congrArg UInt8.toNat (List.cons_prefix_cons.1 h).1
    exact Char.ext (UInt32.toNat_inj.1 (by change c.toNat = 0; omega))
  · -- a longer character starts with a byte that says so
    obtain ⟨b₁, b₂, more, heq, hlead⟩ := Text.utf8EncodeChar_not_ascii (Nat.not_lt.1 hascii)
    rw [heq] at h
    rw [(List.cons_prefix_cons.1 h).1] at hlead
    exact absurd hlead (by decide)

/-- A path that starts with a zero byte has the character for it. -/
theorem nul_mem_of_textBytes {name : Bytes} (h : textBytes text = 0 :: name) :
    '\x00' ∈ text.toList := by
  rw [textBytes_eq] at h
  cases htext : text.toList with
  | nil => simp [htext] at h
  | cons c rest =>
    rw [htext, List.flatMap_cons] at h
    rw [eq_nul_of_utf8EncodeChar ⟨_, h⟩]
    exact List.mem_cons_self

/-- Nothing is removed at a path that starts with a zero byte. -/
theorem removeStaleSocket_hidden {name : Bytes} (haddress : pathAddress text = .ok (some name))
    (t : Tree) : (removeStaleSocket t text).1 ≠ .ok () := by
  rw [pathAddress] at haddress
  split at haddress
  · next name' htext =>
    have hnul := nul_mem_of_textBytes htext
    simp [removeStaleSocket, Tree.locate, Tree.spot, Path.fault?, hnul]
  · split at haddress
    · cases haddress
    · split at haddress <;> cases haddress

/-! ## What an act does to socket files -/

theorem sameSockets_provideParent (t : Tree) (text : String) :
    Tree.SameSockets t (provideParent t text).2 := by
  rw [provideParent]
  split
  · exact .refl t
  · split
    · exact .refl t
    · exact Tree.Furnishing.makePrivatePath (Tree.furnishing_sameSockets t) _ _ (.refl t)

/-- The socket file that a path leads to is removed, and nothing else. -/
theorem sockets_removeStaleSocket (ht : t.WellFormed) (text : String) :
    Tree.Evolves t (removeStaleSocket t text).2
      ∧ ∀ q, (removeStaleSocket t text).2.socketAt? q
        = if (t.locate text).toOption = some q then none else t.socketAt? q := by
  rw [removeStaleSocket]
  split
  · next hlocate => exact ⟨.refl t, fun q => by simp [hlocate, Except.toOption]⟩
  · next e _ hlocate => exact ⟨.refl t, fun q => by simp [hlocate, Except.toOption]⟩
  · next p hlocate =>
    simp only [hlocate, Except.toOption, Option.some.injEq]
    split
    · next mode id hfind =>
      have happly : (FileStep.unlink p).apply t = .ok (t.erase p) := by
        rw [FileStep.apply, ht.stat_of_find? hfind]
        rfl
      have hrun : (t.runSteps [.unlink p]).2 = t.erase p := by
        rw [Tree.runSteps_snd, Tree.run, happly]
        rfl
      rw [hrun]
      refine ⟨(Tree.change_of_apply happly rfl).evolves, fun q => ?_⟩
      rw [Tree.socketAt?_erase]
      simp only [eq_comm]
    · next hother =>
      refine ⟨.refl t, fun q => ?_⟩
      split
      · next heq =>
        subst heq
        cases hsocket : t.socketAt? p with
        | none => rfl
        | some id =>
          obtain ⟨mode, hfind⟩ := Tree.find?_of_socketAt? hsocket
          exact absurd hfind (hother mode id)
      · rfl

/-- A socket file is made where nothing was, or nothing happens. -/
theorem makeSocketFile_cases (ht : t.WellFormed) (text : String) (id : Nat) :
    (∃ e, makeSocketFile t text id = (.error e, t))
      ∨ ∃ directory name t', t.spot text = .ok (.named directory name false)
        ∧ makeSocketFile t text id = (.ok (), t') ∧ t.find? (directory ++ [name]) = none
        ∧ ∀ q, t'.find? q
          = if q = directory ++ [name] then some (.socket socketMode id) else t.find? q := by
  rw [makeSocketFile]
  split
  · exact .inl ⟨_, rfl⟩
  · exact .inl ⟨_, rfl⟩
  · exact .inl ⟨_, rfl⟩
  · next p hvacancy =>
    obtain ⟨directory, name, hspot, rfl⟩ := Tree.spot_of_vacancy hvacancy
    generalize hp : directory ++ [name] = p
    cases happly : (FileStep.bindSocket p id).apply t with
    | error errno =>
      refine .inl ⟨.os errno, ?_⟩
      simp only [Tree.runSteps, Tree.run, happly]
    | ok t₁ =>
      have hgrown := (Tree.change_of_apply happly rfl).evolves
      cases Tree.effect_of_apply happly with
      | bindSocket hstat hway =>
        have hfree := Tree.find?_of_stat_noEntry hstat hway
        set made : Entry := .socket Tree.defaultDirectoryMode id with hmade
        have hthere : (t.insert p made).stat p = .ok made :=
          (hgrown.wellFormed ht).stat_of_find? (by rw [Tree.find?_insert, if_pos rfl])
        have hmode : (FileStep.setMode p socketMode).apply (t.insert p made)
            = .ok ((t.insert p made).insert p (made.withMode socketMode)) := by
          rw [FileStep.apply, hthere]
        refine .inr ⟨directory, name, (t.insert p made).insert p (made.withMode socketMode), hspot,
          ?_, hp ▸ hfree, fun q => ?_⟩
        · simp only [Tree.runSteps, Tree.run, happly, hmode]
        · rw [Tree.find?_insert, Tree.find?_insert, hp]
          split <;> rfl

/-! ## What an act does -/

/-- All that an act does to socket files and listeners: it removes the socket file at `target` and
makes one for the next listener at `made`. -/
structure Outcome (h : Host) (act : Act) (target made : Option Place) (h' : Host) : Prop where
  evolves : Tree.Evolves h.tree h'.tree
  sockets : ∀ q, h'.tree.socketAt? q = if made = some q then some h.nextListener
    else if target = some q then none else h.tree.socketAt? q
  /-- What is made stands where nothing stood, or where the act has removed something. -/
  free : ∀ q, made = some q → target = some q ∨ h.tree.socketAt? q = none
  numbered : h.nextListener ≤ h'.nextListener
  used : made.isSome → h.nextListener < h'.nextListener
  listeners : ∀ id, id ∈ h'.listeners ↔ (id ∈ h.listeners ∧ act ≠ .drop id)
    ∨ (h.nextListener ≤ id ∧ id < h'.nextListener)

theorem Outcome.nothing (h : Host) (hact : ∀ id, act ≠ .drop id) : Outcome h act none none h where
  evolves := .refl _
  sockets q := by simp
  free q hmade := by cases hmade
  numbered := Nat.le_refl _
  used hmade := by cases hmade
  listeners id := by
    have hnone : ¬ (h.nextListener ≤ id ∧ id < h.nextListener) := fun hid =>
      Nat.not_lt.2 hid.1 hid.2
    simp [hact id, hnone]

/-- An act goes on behind the removal of a socket file. -/
theorem Outcome.behind (hgrown : Tree.Evolves h.tree t)
    (hsockets : ∀ q, t.socketAt? q = if target = some q then none else h.tree.socketAt? q)
    (houtcome : Outcome { h with tree := t } act none made h') : Outcome h act target made h' where
  evolves := hgrown.trans houtcome.evolves
  sockets q := by
    rw [houtcome.sockets q]
    simp only [hsockets q, reduceCtorEq, if_false]
  free q hmade := by
    have hfree : t.socketAt? q = none := (houtcome.free q hmade).resolve_left nofun
    rw [hsockets q] at hfree
    by_cases htarget : target = some q
    · exact .inl htarget
    · exact .inr (by rwa [if_neg htarget] at hfree)
  numbered := houtcome.numbered
  used := houtcome.used
  listeners := houtcome.listeners

/-- A further listener has its number. -/
theorem mem_addListener (h : Host) (id : Nat) : id ∈ h.addListener.listeners
    ↔ id ∈ h.listeners ∨ (h.nextListener ≤ id ∧ id < h.addListener.nextListener) := by
  simp only [addListener, List.mem_append, List.mem_singleton]
  exact or_congr_right (by omega)

theorem outcome_bindName (h : Host) (text : String) (name : Bytes) :
    Outcome h (.bind text) none none (h.bindName name).2 := by
  rw [bindName]
  split
  · exact .nothing h (by simp)
  · split
    · exact .nothing h (by simp)
    · exact {
        evolves := .refl _
        sockets := fun q => by simp [addListener]
        free := fun q hmade => by cases hmade
        numbered := Nat.le_succ _
        used := fun hmade => by cases hmade
        listeners := fun id => by simpa using h.mem_addListener id }

theorem outcome_bindFile (ht : h.tree.WellFormed) (text : String) :
    ∃ made, Outcome h (.bind text) none made (h.bindFile text).2 := by
  rw [bindFile]
  split
  · exact ⟨none, .nothing h (by simp)⟩
  · next name _ => exact ⟨none, outcome_bindName h text name⟩
  · obtain ⟨e, hmake⟩ | ⟨directory, name, t, -, hmake, hfree, hfind⟩ :=
      makeSocketFile_cases ht text h.nextListener
    · rw [hmake]
      exact ⟨none, .nothing h (by simp)⟩
    · rw [hmake]
      have hsockets : ∀ q, t.socketAt? q
          = if q = directory ++ [name] then some h.nextListener else h.tree.socketAt? q := by
        intro q
        rw [Tree.socketAt?, hfind q, Tree.socketAt?]
        split <;> rfl
      exact ⟨some (directory ++ [name]), {
        evolves := (makeSocketFile_ok ht hmake).1
        sockets := fun q => by
          rw [hsockets q]
          simp [eq_comm]
        free := fun q hmade => .inr (Option.some.inj hmade ▸ by rw [Tree.socketAt?, hfree]; rfl)
        numbered := Nat.le_succ _
        used := fun _ => Nat.lt_succ_self _
        listeners := fun id => by simpa using h.mem_addListener id }⟩

theorem outcome_bind (ht : h.tree.WellFormed) (text : String) :
    ∃ made, Outcome h (.bind text) (h.target? (.bind text)) made (h.undergo (.bind text)) := by
  rw [undergo, bind, bindPath, target?]
  have hprovided := sameSockets_provideParent h.tree text
  cases hprovide : provideParent h.tree text with
  | mk provided t₁ =>
    rw [hprovide] at hprovided
    cases provided with
    | error e =>
      exact ⟨none, .behind hprovided.evolves (by simpa using hprovided.sockets)
        (.nothing _ (by simp))⟩
    | ok done =>
      have ht₁ := hprovided.evolves.wellFormed ht
      obtain ⟨hgrown, hremoved⟩ := sockets_removeStaleSocket ht₁ text
      have hsockets := fun q => (hremoved q).trans (by rw [hprovided.sockets q])
      dsimp only
      cases hremove : removeStaleSocket t₁ text with
      | mk removed t₂ =>
        rw [hremove] at hgrown hsockets
        have hgrown₂ := hprovided.evolves.trans hgrown
        cases removed with
        | error e => exact ⟨none, .behind hgrown₂ hsockets (.nothing _ (by simp))⟩
        | ok done =>
          obtain ⟨made, houtcome⟩ :=
            outcome_bindFile (h := { h with tree := t₂ }) (hgrown₂.wellFormed ht) text
          exact ⟨made, .behind hgrown₂ hsockets houtcome⟩

theorem outcome_drop (h : Host) (listener : Nat) :
    Outcome h (.drop listener) none none (h.undergo (.drop listener)) where
  evolves := .refl _
  sockets q := by simp [undergo, release]
  free := nofun
  numbered := Nat.le_refl _
  used := nofun
  listeners id := by
    have hnone : ¬ (h.nextListener ≤ id ∧ id < h.nextListener) := fun hid =>
      Nat.not_lt.2 hid.1 hid.2
    simp [undergo, release, hnone, @eq_comm _ id]

theorem outcome_cleanup (ht : h.tree.WellFormed) (text : String) :
    Outcome h (.cleanup text) (h.target? (.cleanup text)) none (h.undergo (.cleanup text)) := by
  obtain ⟨hgrown, hsockets⟩ := sockets_removeStaleSocket ht text
  exact .behind hgrown hsockets (.nothing _ nofun)

/-- Each act does what its `Outcome` says. -/
theorem outcome (ht : h.tree.WellFormed) (act : Act) :
    ∃ made, Outcome h act (h.target? act) made (h.undergo act) := by
  cases act with
  | bind text => exact outcome_bind ht text
  | drop listener => exact ⟨none, outcome_drop h listener⟩
  | cleanup text => exact ⟨none, outcome_cleanup ht text⟩

/-! ## Listeners and their numbers -/

/-- The numbers of socket files and listeners were given out already. -/
structure Sound (h : Host) : Prop where
  tree : h.tree.WellFormed
  sockets : ∀ p id, h.tree.socketAt? p = some id → id < h.nextListener
  listeners : ∀ id ∈ h.listeners, id < h.nextListener

/-- A host without socket files and listeners is sound. -/
theorem sound_ofTree (ht : t.WellFormed) (hsockets : ∀ p, t.socketAt? p = none) :
    (ofTree t).Sound where
  tree := ht
  sockets p id hsocket := by cases (hsockets p).symm.trans hsocket
  listeners := nofun

theorem Sound.after (hsound : h.Sound) (houtcome : Outcome h act target made h') : h'.Sound where
  tree := houtcome.evolves.wellFormed hsound.tree
  sockets p id hsocket := by
    rw [houtcome.sockets p] at hsocket
    split at hsocket
    · next hmade =>
      rw [← Option.some.inj hsocket]
      exact houtcome.used (by simp [hmade])
    · split at hsocket
      · cases hsocket
      · exact Nat.lt_of_lt_of_le (hsound.sockets p id hsocket) houtcome.numbered
  listeners id hid := by
    rcases (houtcome.listeners id).1 hid with ⟨hmem, -⟩ | ⟨-, hlt⟩
    · exact Nat.lt_of_lt_of_le (hsound.listeners id hmem) houtcome.numbered
    · exact hlt

theorem Sound.undergo (hsound : h.Sound) (act : Act) : (h.undergo act).Sound := by
  obtain ⟨made, houtcome⟩ := outcome hsound.tree act
  exact hsound.after houtcome

theorem Sound.undergoAll (hsound : h.Sound) (acts : List Act) : (h.undergoAll acts).Sound := by
  induction acts generalizing h with
  | nil => exact hsound
  | cons act rest ih => exact ih (hsound.undergo act)

/-! ## A listener at its path -/

/-- A listener is alive, and has a socket file at its path and none elsewhere. -/
structure Holds (h : Host) (text : String) (p : Place) (listener : Nat) : Prop where
  sound : h.Sound
  address : pathAddress text = .ok none
  located : h.tree.locate text = .ok p
  alive : listener ∈ h.listeners
  file : ∀ q, h.tree.socketAt? q = some listener ↔ q = p

/-- A listener has ended or has no socket file. -/
structure Lost (h : Host) (listener : Nat) : Prop where
  sound : h.Sound
  number : listener < h.nextListener
  gone : listener ∈ h.listeners → ∀ q, h.tree.socketAt? q ≠ some listener

theorem Holds.connect? (hholds : h.Holds text p listener) :
    h.connect? (.path text) = .ok listener := by
  obtain ⟨mode, hfind⟩ := Tree.find?_of_socketAt? ((hholds.file p).2 rfl)
  exact (Reaches.file hholds.address hholds.located hfind hholds.alive).connect? hholds.sound.tree

theorem Lost.connect? (hlost : h.Lost listener) (haddress : pathAddress text = .ok none) :
    h.connect? (.path text) ≠ .ok listener := by
  intro hconnect
  simp only [Host.connect?, haddress, Tree.statPath] at hconnect
  cases hlocate : h.tree.locate text with
  | error e => simp [hlocate] at hconnect
  | ok p =>
    simp only [hlocate] at hconnect
    cases hstat : h.tree.stat p with
    | error errno => simp [hstat] at hconnect
    | ok e =>
      cases e with
      | file | directory => simp [hstat] at hconnect
      | socket mode id =>
        simp only [hstat] at hconnect
        split at hconnect
        · next halive =>
          cases hconnect
          exact hlost.gone (List.contains_iff_mem.1 halive) p
            (Tree.socketAt?_of_find? (Tree.find?_of_stat hstat))
        · cases hconnect

/-- An act that drops another listener and removes nothing at the path leaves the listener where it
is. -/
theorem Holds.after (hholds : h.Holds text p listener) (houtcome : Outcome h act target made h')
    (hdrop : act ≠ .drop listener) (htarget : target ≠ some p) : h'.Holds text p listener := by
  have hsockets := houtcome.sockets
  have hthere := (hholds.file p).2 rfl
  have hmade : made ≠ some p := fun hmade =>
    (houtcome.free p hmade).elim htarget fun hnone => by simp [hnone] at hthere
  have hstays : h'.tree.socketAt? p = some listener := by
    rw [hsockets p, if_neg hmade, if_neg htarget, hthere]
  refine {
    sound := hholds.sound.after houtcome
    address := hholds.address
    located := ?_
    alive := (houtcome.listeners listener).2 (.inl ⟨hholds.alive, hdrop⟩)
    file := fun q => ⟨fun hfile => ?_, fun hq => hq ▸ hstays⟩ }
  · refine Tree.locate_of_alike (fun _ => houtcome.evolves.isDirectory)
      (houtcome.evolves.wellFormed hholds.sound.tree) hholds.located fun e he => ?_
    obtain ⟨mode, hfind⟩ := Tree.find?_of_socketAt? hthere
    obtain ⟨mode', hfind'⟩ := Tree.find?_of_socketAt? hstays
    rw [hfind] at he
    exact ⟨_, hfind', Option.some.inj he ▸ rfl⟩
  · rw [hsockets q] at hfile
    split at hfile
    · -- the number of a listener to come is not that of this one
      have := hholds.sound.listeners listener hholds.alive
      cases hfile
      omega
    · split at hfile
      · cases hfile
      · exact (hholds.file q).1 hfile

/-- An act that drops the listener, or removes what is at its path, ends that. -/
theorem Holds.lost (hholds : h.Holds text p listener) (houtcome : Outcome h act target made h')
    (hact : act = .drop listener ∨ target = some p) : h'.Lost listener := by
  have hnumber := hholds.sound.listeners listener hholds.alive
  refine ⟨hholds.sound.after houtcome, Nat.lt_of_lt_of_le hnumber houtcome.numbered, ?_⟩
  intro halive q hfile
  rcases (houtcome.listeners listener).1 halive with ⟨-, hdrop⟩ | ⟨hnew, -⟩
  · rw [houtcome.sockets q] at hfile
    split at hfile
    · cases hfile
      omega
    · split at hfile
      · cases hfile
      · next htarget =>
        rw [(hholds.file q).1 hfile] at htarget
        exact hact.elim hdrop htarget
  · omega

/-- What is lost stays lost. -/
theorem Lost.after (hlost : h.Lost listener) (houtcome : Outcome h act target made h') :
    h'.Lost listener := by
  have hnumber := hlost.number
  refine ⟨hlost.sound.after houtcome, Nat.lt_of_lt_of_le hnumber houtcome.numbered, ?_⟩
  intro halive q hfile
  rcases (houtcome.listeners listener).1 halive with ⟨hmem, -⟩ | ⟨hnew, -⟩
  · rw [houtcome.sockets q] at hfile
    split at hfile
    · cases hfile
      omega
    · split at hfile
      · cases hfile
      · exact hlost.gone hmem q hfile
  · omega

theorem Lost.undergoAll (hlost : h.Lost listener) (acts : List Act) :
    (h.undergoAll acts).Lost listener := by
  induction acts generalizing h with
  | nil => exact hlost
  | cons act rest ih =>
    obtain ⟨made, houtcome⟩ := outcome hlost.sound.tree act
    exact ih (hlost.after houtcome)

/-- A listener at its path is reached there after some acts if none of them drops it and none
removes what is at its path. -/
theorem Holds.connect?_undergoAll (hholds : h.Holds text p listener) (acts : List Act) :
    (h.undergoAll acts).connect? (.path text) = .ok listener
      ↔ .drop listener ∉ acts ∧ Spares p h acts := by
  induction acts generalizing h with
  | nil => simpa [undergoAll, Spares] using hholds.connect?
  | cons act rest ih =>
    obtain ⟨made, houtcome⟩ := outcome hholds.sound.tree act
    rw [undergoAll, List.foldl_cons, ← undergoAll, Spares, List.mem_cons, not_or]
    by_cases hact : act = .drop listener ∨ h.target? act = some p
    · have hlost := (hholds.lost houtcome hact).undergoAll rest
      refine iff_of_false (hlost.connect? hholds.address) ?_
      rintro ⟨⟨hdrop, -⟩, htarget, -⟩
      exact hact.elim (hdrop ∘ Eq.symm) htarget
    · rw [not_or] at hact
      rw [ih (hholds.after houtcome hact.1 hact.2)]
      simp [hact.2, Ne.symm hact.1]

/-! ## From binding on -/

/-- A listener that was bound on a path has the next number, and a path without a zero byte. -/
theorem bind_number (hbind : h.bind (.path text) = (.ok listener, h')) :
    listener = h.nextListener ∧ ∀ name, pathAddress text ≠ .ok (some name) := by
  rw [bind, bindPath] at hbind
  cases hprovide : provideParent h.tree text with
  | mk provided t₁ =>
    rw [hprovide] at hbind
    cases provided with
    | error e => cases (Prod.mk.inj hbind).1
    | ok done =>
      dsimp only at hbind
      cases hremove : removeStaleSocket t₁ text with
      | mk removed t₂ =>
        rw [hremove] at hbind
        cases removed with
        | error e => cases (Prod.mk.inj hbind).1
        | ok done =>
          have hhidden : ∀ name, pathAddress text ≠ .ok (some name) := fun name haddress =>
            removeStaleSocket_hidden haddress t₁ (by rw [hremove])
          refine ⟨?_, hhidden⟩
          dsimp only at hbind
          rw [bindFile] at hbind
          split at hbind
          · cases (Prod.mk.inj hbind).1
          · next name haddress => exact absurd haddress (hhidden name)
          · split at hbind
            · cases (Prod.mk.inj hbind).1
            · exact (Except.ok.inj (Prod.mk.inj hbind).1).symm

/-- A listener that was bound holds its path. -/
theorem Sound.holds (hsound : h.Sound) (hbind : h.bind (.path text) = (.ok listener, h')) :
    ∃ p, h'.Holds text p listener := by
  obtain ⟨hnumber, hhidden⟩ := bind_number hbind
  obtain ⟨made, houtcome⟩ := outcome_bind hsound.tree text
  rw [Host.undergo, hbind] at houtcome
  obtain ⟨-, file, hreaches⟩ := bind_ok hsound.tree hbind
  cases hreaches with
  | hidden haddress => exact absurd haddress (hhidden _)
  | @file _ p _ _ haddress hlocate hfind halive =>
    -- whatever has the number of the listener is what was made for it
    have hmade : ∀ q, h'.tree.socketAt? q = some listener → made = some q := by
      intro q hfile
      rw [houtcome.sockets q] at hfile
      split at hfile
      · assumption
      · split at hfile
        · cases hfile
        · have := hsound.sockets q listener hfile
          omega
    have hthere := Tree.socketAt?_of_find? hfind
    refine ⟨p, hsound.after houtcome, haddress, hlocate, halive, fun q => ⟨fun hfile => ?_, ?_⟩⟩
    · exact Option.some.inj ((hmade q hfile).symm.trans (hmade p hthere))
    · rintro rfl
      exact hthere

/-- **A listener is reached at its path until it is dropped, or somebody binds or cleans up a path
that leads to its socket file.**  Whether that is its own holder makes no difference, nor whether
the listener is alive. -/
theorem reached_iff_spared (hsound : h.Sound)
    (hbind : h.bind (.path text) = (.ok listener, h')) :
    ∃ p, h'.tree.locate text = .ok p ∧ h'.tree.socketAt? p = some listener ∧ ∀ acts,
      (h'.undergoAll acts).connect? (.path text) = .ok listener
        ↔ .drop listener ∉ acts ∧ h'.Spares p acts := by
  obtain ⟨p, hholds⟩ := hsound.holds hbind
  exact ⟨p, hholds.located, (hholds.file p).2 rfl, hholds.connect?_undergoAll⟩

/-! ### Two listeners at one path -/

/-- A host with one listener, at `/d.sock`. -/
def withListener : Host := ⟨Tree.empty.insert ["d.sock"] (.socket socketMode 0), [], [0], 1⟩

/-- Another listener has its place; the first one is alive. -/
def withUsurper : Host := ⟨Tree.empty.insert ["d.sock"] (.socket socketMode 1), [], [0, 1], 2⟩

theorem address_dSock : pathAddress "/d.sock" = .ok none := by
  rw [pathAddress, textBytes_eq]
  decide

theorem bind_withListener : (ofTree .empty).bind (.path "/d.sock") = (.ok 0, withListener) := by
  simp only [bind, bindPath, bindFile, address_dSock]
  rfl

theorem bind_withUsurper : withListener.bind (.path "/d.sock") = (.ok 1, withUsurper) := by
  simp only [bind, bindPath, bindFile, address_dSock]
  rfl

theorem socketAt?_empty (p : Place) : Tree.empty.socketAt? p = none := by
  cases hsocket : Tree.empty.socketAt? p with
  | none => rfl
  | some id =>
    obtain ⟨mode, hfind⟩ := Tree.find?_of_socketAt? hsocket
    have hmem := Tree.mem_entries_of_find? hfind
    simp [Tree.empty] at hmem

theorem sound_empty : (ofTree .empty).Sound := sound_ofTree Tree.wellFormed_empty socketAt?_empty

/-- A listener is still reached after others have listened, ended and cleaned up elsewhere. -/
theorem reached_beside_others :
    (withListener.undergoAll [.cleanup "/e.sock", .drop 1, .bind "/e.sock"]).connect?
      (.path "/d.sock") = .ok 0 := by
  obtain ⟨p, hlocate, -, hreached⟩ := reached_iff_spared sound_empty bind_withListener
  have hp : p = ["d.sock"] := Except.ok.inj (hlocate.symm.trans (by decide))
  exact (hreached _).2 ⟨by decide, hp ▸ by decide⟩

/-- A listener that nobody has dropped loses its path to another one that is bound there, and to
whoever cleans up there. -/
theorem usurped_while_held :
    (ofTree .empty).bind (.path "/d.sock") = (.ok 0, withListener)
      ∧ withListener.connect? (.path "/d.sock") = .ok 0
      ∧ withListener.bind (.path "/d.sock") = (.ok 1, withUsurper)
      ∧ 0 ∈ withUsurper.listeners ∧ withUsurper.connect? (.path "/d.sock") = .ok 1
      ∧ 0 ∈ (withListener.cleanup (.path "/d.sock")).listeners
      ∧ (withListener.cleanup (.path "/d.sock")).connect? (.path "/d.sock")
        = .error (.os .noEntry) := by
  refine ⟨bind_withListener, ?_, bind_withUsurper, by decide, ?_, by decide, ?_⟩
  all_goals
    simp only [connect?, address_dSock]
    decide

end Host
end TokenBroker
