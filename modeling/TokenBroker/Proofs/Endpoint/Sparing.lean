import TokenBroker.Proofs.Endpoint.Holding
import TokenBroker.Proofs.Files.Parents
/-!
# What binding and cleaning up leave alone

Binding a path makes directories, removes a socket file and makes another one, and may stop after
each of these; cleaning up removes a socket file.

* `Provided` and `Removed` are all that the first two parts of binding can do to a tree, and
  `bindFile_keeps` says that the last part only adds to it.
* `Fate` is what may become of an entry of the tree, and `Spared` says so of every entry: it stays
  as it is unless it is the socket file at the path itself, or a directory that `Closes` to others.
* `spares_others` puts this together, with what a path was before it was bound and is afterwards.
* `closes_root` is a directory that is closed although it has been there before.
-/

set_option autoImplicit false

namespace TokenBroker
namespace Host

variable {h h' : Host} {t t' t₁ t₂ : Tree} {text parent : String} {p q : Place} {e : Entry}
  {target : Option Place} {listener : Nat} {result : Except IoError Unit}

/-! ## The parts of binding -/

/-- How a directory is provided for a socket file. -/
inductive Provided (t : Tree) (text : String) : Except IoError Unit → Tree → Prop
  | there : Provided t text (.ok ()) t
  | failed {parent : String} (e : IoError) : Provided t text (.error e) (t.makePath parent).2
  /-- The path above is made, and the directory it leads to then is closed to others. -/
  | made {parent : String} {q : Place} {mode : Nat} (hparent : Path.parent? text = some parent)
      (hne : parent ≠ "") (hmissing : t.hasPath parent = false)
      (hlocate : (t.makePath parent).2.locate parent = .ok q)
      (hfind : (t.makePath parent).2.find? q = some (.directory mode)) :
      Provided t text (.ok ()) ((t.makePath parent).2.insert q (.directory parentMode))

theorem provided (ht : t.WellFormed) (text : String) :
    Provided t text (provideParent t text).1 (provideParent t text).2 := by
  rw [provideParent]
  split
  · exact .there
  next parent hparent =>
  split
  · exact .there
  next hmissing =>
  rw [not_or, Bool.not_eq_true] at hmissing
  rw [Tree.makePrivatePath]
  have hfailed : ∀ e, Provided t text (.error e) (t.makePath parent).2 := .failed
  have hmade : ∀ q mode, (t.makePath parent).2.locate parent = .ok q →
      (t.makePath parent).2.find? q = some (.directory mode) →
      Provided t text (.ok ()) ((t.makePath parent).2.insert q (.directory parentMode)) :=
    fun _ _ => .made hparent hmissing.1 hmissing.2
  cases hmake : t.makePath parent with
  | mk result t₀ =>
    rw [hmake] at hfailed hmade
    cases result with
    | error e => exact hfailed e
    | ok done =>
      dsimp only
      rw [Tree.setModeAt]
      split
      · exact hfailed _
      · next q hlocate =>
        have hdirectory := (Tree.makePath_ok ht hmake).2 hlocate
        obtain ⟨mode, hmode⟩ := Tree.isDirectory_eq_true_iff.1 hdirectory
        have hstat := ((Tree.makePath_ok (p := q) ht hmake).1.wellFormed ht).stat_of_find? hmode
        simp only [Tree.runSteps, Tree.run, FileStep.apply, hstat]
        exact hmade q mode hlocate hmode

/-- How a socket file is removed from a path. -/
inductive Removed (t : Tree) (text : String) : Except IoError Unit → Tree → Prop
  | absent (hlocate : t.locate text = .error (.os .noEntry)) : Removed t text (.ok ()) t
  | lost (e : IoError) : Removed t text (.error e) t
  | kept {p : Place} (hlocate : t.locate text = .ok p)
      (hfind : ∀ mode id, t.find? p ≠ some (.socket mode id)) : Removed t text
        (.error (.custom .alreadyExists (text ++ " exists and is not a socket"))) t
  | removed {p : Place} {mode id : Nat} (hlocate : t.locate text = .ok p)
      (hfind : t.find? p = some (.socket mode id)) : Removed t text (.ok ()) (t.erase p)

theorem removed (ht : t.WellFormed) (text : String) :
    Removed t text (removeStaleSocket t text).1 (removeStaleSocket t text).2 := by
  rw [removeStaleSocket]
  split
  · next hlocate => exact .absent hlocate
  · exact .lost _
  · next p hlocate =>
    split
    · next mode id hfind =>
      simp only [Tree.runSteps, Tree.run, FileStep.apply, ht.stat_of_find? hfind]
      exact .removed hlocate hfind
    · next hother => exact .kept hlocate fun mode id hfind => hother mode id hfind

/-- The last part of binding leaves all that is there in place. -/
theorem bindFile_keeps (ht : h.tree.WellFormed) (text : String) (hfind : h.tree.find? q = some e) :
    (h.bindFile text).2.tree.find? q = some e := by
  rw [bindFile]
  split
  · exact hfind
  · rw [tree_bindName]
    exact hfind
  · obtain ⟨e', hmake⟩ | ⟨directory, name, t, -, hmake, hfree, hmade⟩ :=
      makeSocketFile_cases ht text h.nextListener
    · rw [hmake]
      exact hfind
    · rw [hmake]
      have hne : q ≠ directory ++ [name] := by
        rintro rfl
        rw [hfree] at hfind
        cases hfind
      exact (hmade q).trans ((if_neg hne).trans hfind)

/-! ## What becomes of an entry -/

/-- A directory that binding closes to others although it has not made it: the path above is not
there and goes through `..`, and once all that is missing on the way is made it leads to this
directory. -/
def Closes (t : Tree) (text : String) (q : Place) : Prop :=
  ∃ parent, Path.parent? text = some parent ∧ t.hasPath parent = false
    ∧ ".." ∈ Path.parts parent ∧ (t.makePath parent).2.locate parent = .ok q

/-- What may become of an entry at a place. -/
inductive Fate (closes : Place → Prop) (target : Option Place) (t' : Tree) (q : Place) :
    Entry → Prop
  | stays {e : Entry} (hfind : t'.find? q = some e) : Fate closes target t' q e
  | closed {mode : Nat} (hcloses : closes q)
      (hfind : t'.find? q = some (.directory parentMode)) :
      Fate closes target t' q (.directory mode)
  | removed {mode id : Nat} (htarget : target = some q) : Fate closes target t' q (.socket mode id)

/-- Every entry of a tree stays as it is, files with their content and mode and directories with
their mode, but for the directories that are closed and for a socket file at one place. -/
def Spared (t : Tree) (closes : Place → Prop) (target : Option Place) (t' : Tree) : Prop :=
  ∀ q e, t.find? q = some e → Fate closes target t' q e

variable {closes : Place → Prop}

theorem Spared.refl (t : Tree) : Spared t closes target t := fun _ _ hfind => .stays hfind

theorem Spared.trans (h : Spared t closes none t₁)
    (h' : Spared t₁ (fun _ => False) target t') : Spared t closes target t' := by
  intro q e hfind
  cases h q e hfind with
  | stays hfind₁ =>
    cases h' q e hfind₁ with
    | stays hfind' => exact .stays hfind'
    | closed hcloses => exact hcloses.elim
    | removed htarget => exact .removed htarget
  | closed hcloses hfind₁ =>
    cases h' q _ hfind₁ with
    | stays hfind' => exact .closed hcloses hfind'
    | closed hcloses => exact hcloses.elim
  | removed htarget => cases htarget

theorem Spared.keeping (h : Spared t closes target t₁)
    (hkeep : ∀ q e, t₁.find? q = some e → t'.find? q = some e) : Spared t closes target t' := by
  intro q e hfind
  cases h q e hfind with
  | stays hfind₁ => exact .stays (hkeep q e hfind₁)
  | closed hcloses hfind₁ => exact .closed hcloses (hkeep q _ hfind₁)
  | removed htarget => exact .removed htarget

theorem Spared.isDirectory (h : Spared t closes target t') (hq : t.isDirectory q = true) :
    t'.isDirectory q = true := by
  obtain ⟨mode, hmode⟩ := Tree.isDirectory_eq_true_iff.1 hq
  cases h q _ hmode with
  | stays hfind | closed _ hfind => exact Tree.isDirectory_eq_true_iff.2 ⟨_, hfind⟩

theorem hasPath_of_located (ht : t.WellFormed) (hlocate : t.locate text = .ok q)
    (hq : t.isDirectory q = true) : t.hasPath text = true := by
  obtain ⟨mode, hstat⟩ := ht.enterable hq
  rw [Tree.hasPath, Tree.statPath, hlocate]
  dsimp only
  rw [hstat]
  rfl

theorem Provided.spared (ht : t.WellFormed) (hprovided : Provided t text result t') :
    Spared t (Closes t text) none t' := by
  cases hprovided with
  | there => exact .refl t
  | @failed parent => exact Spared.keeping (.refl t) fun q e => (Tree.makePath_grown t parent).find?
  | @made parent q mode hparent hne hmissing hlocate hmade =>
    intro q' e hfind
    have hgrown := (Tree.makePath_grown t parent).find? hfind
    by_cases hq : q' = q
    · subst hq
      obtain rfl := Option.some.inj (hmade.symm.trans hgrown)
      -- what was there and was not found by this path before is behind `..`
      have hdots : ".." ∈ Path.parts parent := by
        by_contra hplain
        have hdirectory := Tree.isDirectory_eq_true_iff.2 ⟨mode, hfind⟩
        have hbefore := Tree.locate_back ht hplain hlocate hdirectory
        rw [hasPath_of_located ht hbefore hdirectory] at hmissing
        cases hmissing
      exact .closed ⟨parent, hparent, hmissing, hdots, hlocate⟩
        (by rw [Tree.find?_insert, if_pos rfl])
    · exact .stays (by rw [Tree.find?_insert, if_neg hq, hgrown])

theorem Removed.spared (hremoved : Removed t text result t') :
    Spared t closes (t.locate text).toOption t' := by
  cases hremoved with
  | absent | lost | kept => exact .refl t
  | @removed p mode id hlocate hsocket =>
    intro q e hfind
    by_cases hq : q = p
    · subst hq
      obtain rfl := Option.some.inj (hsocket.symm.trans hfind)
      exact .removed (by rw [hlocate]; rfl)
    · exact .stays (by rw [Tree.find?_erase, if_neg hq, hfind])

/-- Removing a socket file adds nothing. -/
theorem Removed.of_find? (hremoved : Removed t text result t') (hfind : t'.find? q = some e) :
    t.find? q = some e := by
  cases hremoved with
  | absent | lost | kept => exact hfind
  | removed =>
    rw [Tree.find?_erase] at hfind
    split at hfind
    · cases hfind
    · exact hfind

/-- **Binding a path spares everything but a socket file at that path**, however far it gets; only
a directory behind `..` may be closed to others. -/
theorem spared_bind (ht : h.tree.WellFormed) (text : String) :
    Spared h.tree (Closes h.tree text) (h.target? (.bind text)) (h.bind (.path text)).2.tree := by
  have hprovided := (provided ht text).spared ht
  have ht₁ := (sameSockets_provideParent h.tree text).evolves.wellFormed ht
  rw [bind, bindPath, target?]
  cases hprovide : provideParent h.tree text with
  | mk result t₁ =>
    rw [hprovide] at hprovided ht₁
    cases result with
    | error e => exact hprovided
    | ok done =>
      have hremoved := hprovided.trans (removed ht₁ text).spared
      have ht₂ := (sockets_removeStaleSocket ht₁ text).1.wellFormed ht₁
      dsimp only
      cases hremove : removeStaleSocket t₁ text with
      | mk result t₂ =>
        rw [hremove] at hremoved ht₂
        cases result with
        | error e => exact hremoved
        | ok done =>
          exact hremoved.keeping fun q e => bindFile_keeps (h := { h with tree := t₂ }) ht₂ text

theorem spared_cleanup (ht : h.tree.WellFormed) (text : String) :
    Spared h.tree (fun _ => False) (h.target? (.cleanup text)) (h.cleanup (.path text)).tree :=
  (removed ht text).spared

/-! ## A path that was bound -/

/-- What a path leads to can be found at the path above it as well. -/
theorem hasPath_parent (ht : t.WellFormed) (hparent : Path.parent? text = some parent)
    (hne : parent ≠ "") (hlocate : t.locate text = .ok p) : t.hasPath parent = true := by
  obtain ⟨s, hspot, -⟩ := Tree.spot_of_locate hlocate
  obtain ⟨q, hq, hdirectory, -⟩ := Tree.located_of_parent? ht hspot hparent hne
  exact hasPath_of_located ht hq hdirectory

/-- A listener is bound if a directory is provided, nothing but a socket file is in the way, and a
new one is made. -/
theorem bind_path_ok (ht : h.tree.WellFormed) (hbind : h.bind (.path text) = (.ok listener, h')) :
    ∃ t₁ t₂ directory name, Provided h.tree text (.ok ()) t₁ ∧ Removed t₁ text (.ok ()) t₂
      ∧ t₁.WellFormed ∧ t₂.WellFormed ∧ h'.tree.WellFormed
      ∧ t₂.spot text = .ok (.named directory name false)
      ∧ t₂.find? (directory ++ [name]) = none ∧ ∀ q, h'.tree.find? q
        = if q = directory ++ [name] then some (.socket socketMode listener) else t₂.find? q := by
  obtain ⟨rfl, hhidden⟩ := bind_number hbind
  have ht' := (bind_ok ht hbind).1.wellFormed ht
  have hprovided := provided ht text
  have ht₁ := (sameSockets_provideParent h.tree text).evolves.wellFormed ht
  rw [bind, bindPath] at hbind
  cases hprovide : provideParent h.tree text with
  | mk result t₁ =>
    rw [hprovide] at hbind hprovided ht₁
    cases result with
    | error e => cases (Prod.mk.inj hbind).1
    | ok done =>
      have hremoved := removed ht₁ text
      have ht₂ := (sockets_removeStaleSocket ht₁ text).1.wellFormed ht₁
      dsimp only at hbind
      cases hremove : removeStaleSocket t₁ text with
      | mk result t₂ =>
        rw [hremove] at hbind hremoved ht₂
        cases result with
        | error e => cases (Prod.mk.inj hbind).1
        | ok done =>
          dsimp only at hbind
          rw [bindFile] at hbind
          split at hbind
          · cases (Prod.mk.inj hbind).1
          · next name haddress => exact absurd haddress (hhidden name)
          · obtain ⟨e, hmake⟩ | ⟨directory, name, t', hspot, hmake, hfree, hmade⟩ :=
              makeSocketFile_cases (t := t₂) ht₂ text h.nextListener
            · rw [hmake] at hbind
              cases (Prod.mk.inj hbind).1
            · rw [hmake] at hbind
              obtain ⟨-, rfl⟩ := Prod.mk.inj hbind
              exact ⟨t₁, t₂, directory, name, hprovided, hremoved, ht₁, ht₂, ht', hspot, hfree,
                hmade⟩

/-- What a path was before a listener was bound there, and what it is then. -/
structure Bound (h : Host) (text : String) (listener : Nat) (h' : Host) (directory : Place)
    (name : String) : Prop where
  /-- Nothing was found at the path, or a socket file. -/
  before : h.tree.hasPath text = false ∨ ∃ mode id, h.tree.statPath text = .ok (.socket mode id)
  located : h'.tree.locate text = .ok (directory ++ [name])
  socket : h'.tree.find? (directory ++ [name]) = some (.socket socketMode listener)
  /-- Nothing stood at its place, or a socket file. -/
  free : ∀ e, h.tree.find? (directory ++ [name]) = some e → ∃ mode id, e = .socket mode id
  /-- It lies in a directory, which is closed to others if it is new. -/
  inside : ∃ mode, h'.tree.find? directory = some (.directory mode)
    ∧ (h.tree.find? directory = none → mode = parentMode)

theorem Provided.before (ht : t.WellFormed) (ht₁ : t₁.WellFormed)
    (hprovided : Provided t text (.ok ()) t₁) (hremoved : Removed t₁ text (.ok ()) t₂) :
    t.hasPath text = false ∨ ∃ mode id, t.statPath text = .ok (.socket mode id) := by
  cases hprovided with
  | there =>
    cases hremoved with
    | absent hlocate =>
      refine .inl ?_
      rw [Tree.hasPath, Tree.statPath, hlocate]
      rfl
    | @removed p mode id hlocate hfind =>
      refine .inr ⟨mode, id, ?_⟩
      rw [Tree.statPath, hlocate]
      dsimp only
      rw [ht₁.stat_of_find? hfind]
  | made hparent hne hmissing =>
    refine .inl ?_
    cases hlocate : t.locate text with
    | error e =>
      rw [Tree.hasPath, Tree.statPath, hlocate]
      rfl
    | ok p =>
      rw [hasPath_parent ht hparent hne hlocate] at hmissing
      cases hmissing

/-- The directory of a name that can be bound is closed to others if it is new. -/
theorem Provided.mode_of_new {directory : Place} {name : String} {slash : Bool} {mode : Nat}
    (ht₂ : t₂.WellFormed) (hprovided : Provided t text (.ok ()) t₁)
    (hremoved : Removed t₁ text (.ok ()) t₂)
    (hspot : t₂.spot text = .ok (.named directory name slash))
    (hfind : t₂.find? directory = some (.directory mode)) (hnew : t.find? directory = none) :
    mode = parentMode := by
  have hfind₁ := hremoved.of_find? hfind
  cases hprovided with
  | there =>
    rw [hnew] at hfind₁
    cases hfind₁
  | @made parent q mode₀ hparent hne hmissing hlocate hmade =>
    -- the path above leads to the directory of the name, and that is where the mode was set
    obtain ⟨q', hlocate', hq', hsame⟩ := Tree.located_of_parent? ht₂ hspot hparent hne
    obtain rfl := hsame directory name slash rfl
    have hkeep : ∀ q', (t.makePath parent).2.isDirectory q' = true → t₂.isDirectory q' = true := by
      intro q' hdirectory
      have hspared : Spared _ (fun _ => False) _ t₂ := hremoved.spared
      refine hspared.isDirectory ?_
      rw [Tree.isDirectory_insert]
      split
      · rfl
      · exact hdirectory
    have hq := Tree.isDirectory_eq_true_iff.2 ⟨mode₀, hmade⟩
    obtain rfl := Except.ok.inj (hlocate'.symm.trans (Tree.locate_mono hkeep hlocate hq))
    rw [Tree.find?_insert, if_pos rfl] at hfind₁
    exact (Entry.directory.inj (Option.some.inj hfind₁)).symm

/-- A listener that was bound has its socket file at a path where none or a socket file was. -/
theorem bound_of_bind (ht : h.tree.WellFormed) (hbind : h.bind (.path text) = (.ok listener, h')) :
    ∃ directory name, Bound h text listener h' directory name := by
  obtain ⟨t₁, t₂, directory, name, hprovided, hremoved, ht₁, ht₂, ht', hspot, hfree, hmade⟩ :=
    bind_path_ok ht hbind
  have hspared : Spared h.tree _ (t₁.locate text).toOption t₂ :=
    (hprovided.spared ht).trans hremoved.spared
  have hsocket : h'.tree.find? (directory ++ [name]) = some (.socket socketMode listener) := by
    rw [hmade, if_pos rfl]
  have hkeep : ∀ q e, t₂.find? q = some e → h'.tree.find? q = some e := by
    intro q e hfind
    rw [hmade, if_neg, hfind]
    rintro rfl
    rw [hfree] at hfind
    cases hfind
  have hspot' : h'.tree.spot text = .ok (.named directory name false) := by
    refine Tree.spot_mono (fun q hq => ?_) hspot
    obtain ⟨mode, hmode⟩ := Tree.isDirectory_eq_true_iff.1 hq
    exact Tree.isDirectory_eq_true_iff.2 ⟨mode, hkeep q _ hmode⟩
  refine ⟨directory, name, {
    before := hprovided.before ht ht₁ hremoved
    located := Tree.locate_named ht' hspot' hsocket
    socket := hsocket
    free := fun e he => ?_
    inside := ?_ }⟩
  · cases hspared _ _ he with
    | stays hfind | closed _ hfind =>
      rw [hfree] at hfind
      cases hfind
    | removed => exact ⟨_, _, rfl⟩
  · have hdirectory := ht'.inside directory name (by rw [hsocket]; rfl)
    obtain ⟨mode, hmode⟩ := Tree.isDirectory_eq_true_iff.1 hdirectory
    have hmode₂ : t₂.find? directory = some (.directory mode) := by
      rwa [hmade, if_neg fun heq => by simpa using congrArg List.length heq] at hmode
    exact ⟨mode, hmode, hprovided.mode_of_new ht₂ hremoved hspot hmode₂⟩

/-! ## A path that is in use -/

/-- Whatever else is found at a path keeps it from being bound, and stays there. -/
theorem bind_refused (ht : h.tree.WellFormed) (hstat : h.tree.statPath text = .ok e)
    (hother : ∀ mode id, e ≠ .socket mode id) :
    h.bind (.path text)
        = (.error (.custom .alreadyExists (text ++ " exists and is not a socket")), h)
      ∧ h.cleanup (.path text) = h := by
  rw [Tree.statPath] at hstat
  cases hlocate : h.tree.locate text with
  | error errno => simp [hlocate] at hstat
  | ok p =>
    rw [hlocate] at hstat
    have hfind : h.tree.find? p = some e := by
      dsimp only at hstat
      split at hstat
      · cases hstat
      · next hthere => rw [Tree.find?_of_stat hthere, Except.ok.inj hstat]
    have hprovide : provideParent h.tree text = (.ok (), h.tree) := by
      rw [provideParent]
      split
      · rfl
      · next parent hparent =>
        refine if_pos (or_iff_not_imp_left.2 fun hne => ?_)
        exact hasPath_parent ht hparent hne hlocate
    have hremove : removeStaleSocket h.tree text
        = (.error (.custom .alreadyExists (text ++ " exists and is not a socket")), h.tree) := by
      rw [removeStaleSocket, hlocate]
      dsimp only
      split
      · next mode id hsocket =>
        exact absurd (Option.some.inj (hfind.symm.trans hsocket)) (hother _ _)
      · rfl
    refine ⟨?_, ?_⟩
    · rw [bind, bindPath, hprovide]
      dsimp only
      rw [hremove]
    · rw [cleanup, hremove]

/-! ## All of it -/

/-- **Binding a path and cleaning it up spare everything but a socket file at that path.**  Files
keep their content and mode and directories their mode, whether binding succeeds or not; the one
exception is a directory behind `..` in the path above, which is closed to others when that path was
not there.  A path is bound if nothing was there or a socket file, and its socket file then lies in
a directory that is closed to others if it is new.  At any other path there is nothing to bind, and
nothing is changed. -/
theorem spares_others (ht : h.tree.WellFormed) (text : String) :
    Spared h.tree (Closes h.tree text) (h.target? (.bind text)) (h.bind (.path text)).2.tree
      ∧ Spared h.tree (fun _ => False) (h.target? (.cleanup text)) (h.cleanup (.path text)).tree
      ∧ (∀ listener h', h.bind (.path text) = (.ok listener, h') →
        ∃ directory name, Bound h text listener h' directory name)
      ∧ ∀ e, h.tree.statPath text = .ok e → (∀ mode id, e ≠ .socket mode id) →
        h.bind (.path text)
            = (.error (.custom .alreadyExists (text ++ " exists and is not a socket")), h)
          ∧ h.cleanup (.path text) = h :=
  ⟨spared_bind ht text, spared_cleanup ht text, fun _ _ => bound_of_bind ht,
    fun _ => bind_refused ht⟩

/-- A host with a file at `/d.sock`. -/
def occupied : Host := ofTree (Tree.empty.insert ["d.sock"] (.file Tree.defaultFileMode []))

theorem wellFormed_occupied : occupied.tree.WellFormed := by
  change (Tree.empty.insert ["d.sock"] (.file Tree.defaultFileMode [])).WellFormed
  refine Tree.wellFormed_empty.insert ?_ ?_ <;> decide

/-- On an empty host a listener is bound at `/d.sock`, and where a file is there it is not. -/
theorem spares_others_at_dSock :
    (∃ directory name, Bound (ofTree .empty) "/d.sock" 0 withListener directory name)
      ∧ occupied.bind (.path "/d.sock")
        = (.error (.custom .alreadyExists "/d.sock exists and is not a socket"), occupied) := by
  obtain ⟨-, -, hbound, -⟩ := spares_others (h := ofTree .empty) Tree.wellFormed_empty "/d.sock"
  obtain ⟨-, -, -, hrefused⟩ := spares_others (h := occupied) wellFormed_occupied "/d.sock"
  exact ⟨hbound 0 withListener bind_withListener,
    (hrefused (.file Tree.defaultFileMode []) (by decide) nofun).1⟩

theorem address_behind : pathAddress "/nope/../d.sock" = .ok none := by
  rw [pathAddress, textBytes_eq]
  decide

/-- The root is there with its own mode, and a listener that is bound at a path through a directory
which is not there closes it to others. -/
theorem closes_root :
    Tree.empty.find? [] = some (.directory Tree.defaultDirectoryMode)
      ∧ ∃ h', (ofTree .empty).bind (.path "/nope/../d.sock") = (.ok 0, h')
        ∧ h'.tree.find? [] = some (.directory parentMode) := by
  refine ⟨rfl, ((ofTree .empty).bind (.path "/nope/../d.sock")).2, ?_⟩
  simp only [bind, bindPath, bindFile, address_behind]
  exact ⟨rfl, rfl⟩

end Host
end TokenBroker
