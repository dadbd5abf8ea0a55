import Mathlib.Data.List.Nodup
import TokenBroker.Proofs.Files.Paths
import TokenBroker.Proofs.Registry.Operations
/-!
# Opening a registry

Opening makes the root, closes it to others, and takes away the temporary files of interrupted
stores.

* `open_ok` says what holds once a registry was opened: the tree is ready for its operations.
* `open_spec` says when opening succeeds, and what it changes.
-/

set_option autoImplicit false

namespace TokenBroker

namespace Tree

variable {t t' : Tree} {p q : Place}

theorem mem_names {name : String} : name ∈ t.names p ↔ (t.find? (p ++ [name])).isSome = true := by
  rw [names, List.mem_filterMap, isSome_find?_iff, List.mem_map]
  constructor
  · rintro ⟨item, hitem, hname⟩
    split at hname
    · next hdrop =>
      refine ⟨item, hitem, ?_⟩
      rw [← hdrop]
      exact (List.dropLast_append_getLast? name hname).symm
    · cases hname
  · rintro ⟨item, hitem, hplace⟩
    exact ⟨item, hitem, by rw [hplace, List.dropLast_concat, if_pos rfl, List.getLast?_concat]⟩

theorem Distinct.nodup_names (h : t.Distinct) (p : Place) : (t.names p).Nodup := by
  have hplaces : t.names p = (t.entries.map (·.1)).filterMap fun q =>
      if q.dropLast = p then q.getLast? else none := by
    rw [List.filterMap_map]
    rfl
  rw [hplaces]
  refine h.filterMap fun q q' name hq hq' => ?_
  rw [Option.mem_def] at hq hq'
  split at hq
  · next hdrop =>
    split at hq'
    · next hdrop' =>
      rw [← List.dropLast_append_getLast? name hq, ← List.dropLast_append_getLast? name hq', hdrop,
        hdrop']
    · cases hq'
  · cases hq

/-! ## Removing many files -/

/-- Removals that all succeed take away their files and nothing else. -/
theorem run_unlinks_ok {places : List Place} (h : t.run (places.map .unlink) = (.ok (), t')) :
    Evolves t t' ∧ ∀ q, t'.find? q = if q ∈ places then none else t.find? q := by
  induction places generalizing t with
  | nil =>
    obtain ⟨-, rfl⟩ := Prod.mk.inj h
    exact ⟨.refl t, fun q => rfl⟩
  | cons p rest ih =>
    rw [List.map_cons, run] at h
    cases happly : (FileStep.unlink p).apply t with
    | error errno =>
      rw [happly] at h
      cases (Prod.mk.inj h).1
    | ok t₁ =>
      rw [happly] at h
      obtain ⟨hgrown, hfind⟩ := ih h
      have herase : t₁ = t.erase p := by
        cases effect_of_apply happly
        rfl
      refine ⟨(change_of_apply happly rfl).evolves.trans hgrown, fun q => ?_⟩
      rw [hfind, herase, find?_erase]
      by_cases hrest : q ∈ rest
      · rw [if_pos hrest, if_pos (.tail _ hrest)]
      · by_cases hp : q = p <;> simp [hrest, hp]

/-- Files that are there and are named once can all be removed. -/
theorem run_unlinks {places : List Place} (ht : t.WellFormed) (hnodup : places.Nodup)
    (hfiles : ∀ p ∈ places, ∃ e, t.find? p = some e ∧ e.isDirectory = false) :
    ∃ t', t.run (places.map .unlink) = (.ok (), t') := by
  induction places generalizing t with
  | nil => exact ⟨t, rfl⟩
  | cons p rest ih =>
    obtain ⟨e, hfind, hkind⟩ := hfiles p (.head _)
    have hstat := ht.stat_of_find? hfind
    have happly : (FileStep.unlink p).apply t = .ok (t.erase p) := by
      simp only [FileStep.apply, hstat, hkind, Bool.false_eq_true, if_false]
    rw [List.nodup_cons] at hnodup
    have hrest : ∀ q ∈ rest, ∃ e, (t.erase p).find? q = some e ∧ e.isDirectory = false := by
      intro q hq
      have hne : q ≠ p := by
        rintro rfl
        exact hnodup.1 hq
      rw [find?_erase, if_neg hne]
      exact hfiles q (.tail _ hq)
    obtain ⟨t', hrun⟩ := ih ((change_of_apply happly rfl).wellFormed ht) hnodup.2 hrest
    exact ⟨t', by rw [List.map_cons, run, happly]; exact hrun⟩

end Tree

namespace Registry

variable {r : Registry} {t t' : Tree} {root : String} {p q : Place} {max : Nat}

/-! ## Temporary files -/

theorem mem_temporaries : q ∈ temporaries t p ↔ ∃ name file, q = p ++ [name] ++ [file]
    ∧ isTemporaryName file = true ∧ t.isDirectory (p ++ [name]) = true
    ∧ (t.find? (p ++ [name] ++ [file])).isSome = true := by
  simp only [temporaries, List.mem_flatMap, List.mem_map, List.mem_filter, Tree.mem_names]
  constructor
  · rintro ⟨name, ⟨-, hdir⟩, file, ⟨hthere, hfile⟩, rfl⟩
    exact ⟨name, file, by simp, hfile, hdir, hthere⟩
  · rintro ⟨name, file, rfl, hfile, hdir, hthere⟩
    refine ⟨name, ⟨?_, hdir⟩, file, ⟨hthere, hfile⟩, by simp⟩
    obtain ⟨mode, hmode⟩ := Tree.isDirectory_eq_true_iff.1 hdir
    rw [hmode]
    rfl

theorem nodup_temporaries (h : t.Distinct) : (temporaries t p).Nodup := by
  rw [temporaries, List.nodup_flatMap]
  refine ⟨fun name _ => ?_, ?_⟩
  · refine ((h.nodup_names _).filter _).map fun file file' heq => ?_
    simpa using heq
  · refine ((h.nodup_names p).filter _).imp_of_mem fun {name name'} _ _ hne => ?_
    refine List.disjoint_iff_ne.2 ?_
    rintro q hq q' hq' rfl
    obtain ⟨file, -, rfl⟩ := List.mem_map.1 hq
    obtain ⟨file', -, heq⟩ := List.mem_map.1 hq'
    simp only [List.append_cancel_left_eq, List.cons.injEq, and_true] at heq
    exact hne heq.1.symm

/-! ## Opening -/

/-- The first step of opening closes the root to others. -/
theorem find?_closed (h : (FileStep.setMode p directoryMode).apply t = .ok t')
    (hp : t.isDirectory p = true) (q : Place) :
    t'.find? q = if q = p then some (.directory directoryMode) else t.find? q := by
  obtain ⟨mode, hmode⟩ := Tree.isDirectory_eq_true_iff.1 hp
  cases Tree.effect_of_apply h with
  | setMode hstat =>
    rw [Tree.find?_of_stat hstat] at hmode
    rw [Tree.find?_insert, Option.some.inj hmode]
    rfl

/-- What the steps of opening leave when they all succeed. -/
theorem run_openSteps_ok (h : t.run (openSteps t p) = (.ok (), t')) (hp : t.isDirectory p = true) :
    Tree.Evolves t t' ∧ ∀ q, t'.find? q = if q ∈ temporaries t p then none
      else if q = p then some (.directory directoryMode) else t.find? q := by
  rw [openSteps, Tree.run] at h
  cases happly : (FileStep.setMode p directoryMode).apply t with
  | error errno =>
    rw [happly] at h
    cases (Prod.mk.inj h).1
  | ok t₁ =>
    rw [happly] at h
    obtain ⟨hgrown, hfind⟩ := Tree.run_unlinks_ok h
    refine ⟨(Tree.change_of_apply happly rfl).evolves.trans hgrown, fun q => ?_⟩
    rw [hfind, find?_closed happly hp]

theorem find?_swept (ht : t.WellFormed) {name file : String} (hfile : isTemporaryName file = true)
    (hnot : p ++ [name] ++ [file] ∉ temporaries t p) : t.find? (p ++ [name] ++ [file]) = none := by
  cases hfind : t.find? (p ++ [name] ++ [file]) with
  | none => rfl
  | some e =>
    have hthere : (t.find? (p ++ [name] ++ [file])).isSome = true := by rw [hfind]; rfl
    exact absurd (mem_temporaries.2 ⟨name, file, rfl, hfile, ht.inside _ _ hthere, hthere⟩) hnot

/-- Between two operations there is nothing to sweep. -/
theorem Ready.temporaries (h : r.Ready t) : temporaries t r.place = [] := by
  rw [List.eq_nil_iff_forall_not_mem]
  intro q hq
  obtain ⟨name, file, -, hfile, -, hthere⟩ := mem_temporaries.1 hq
  rw [h.swept name file hfile] at hthere
  cases hthere

/-- When a registry was opened, the tree is ready for its operations. -/
theorem ready_of_run_openSteps (ht : t.WellFormed) (hp : t.isDirectory r.place = true)
    (h : t.run (openSteps t r.place) = (.ok (), t')) : r.Ready t' := by
  obtain ⟨hgrown, hfind⟩ := run_openSteps_ok h hp
  refine ⟨hgrown.wellFormed ht, hgrown.isDirectory hp, fun name file hfile => ?_⟩
  rw [hfind]
  split
  · rfl
  · next hnot =>
    have hne : r.place ++ [name] ++ [file] ≠ r.place := by simp
    rw [if_neg hne, find?_swept ht hfile hnot]

/-- An opening ends before the root is found, or takes its steps there. -/
theorem open_cases (t : Tree) (root : String) (max : Nat) :
    (∃ e, Registry.open t root max = (.error e, (t.makePath root).2))
    ∨ ∃ t₁ p, t.makePath root = (.ok (), t₁) ∧ t₁.locate root = .ok p
      ∧ ((∃ t', t₁.run (openSteps t₁ p) = (.ok (), t')
          ∧ Registry.open t root max = (.ok ⟨root, p, max⟩, t'))
        ∨ ∃ errno t', t₁.run (openSteps t₁ p) = (.error errno, t')
          ∧ Registry.open t root max = (.error (.io (.os errno)), t')) := by
  rw [Registry.open]
  cases hmake : t.makePath root with
  | mk result t₁ =>
    cases result with
    | error e => exact .inl ⟨_, rfl⟩
    | ok done =>
      dsimp only
      cases hlocate : t₁.locate root with
      | error e => exact .inl ⟨_, rfl⟩
      | ok p =>
        refine .inr ⟨t₁, p, rfl, hlocate, ?_⟩
        dsimp only
        rw [Tree.runSteps]
        cases hrun : t₁.run (openSteps t₁ p) with
        | mk result t₂ =>
          cases result with
          | error errno => exact .inr ⟨errno, t₂, rfl, rfl⟩
          | ok done => exact .inl ⟨t₂, rfl, rfl⟩

theorem of_open_ok (h : Registry.open t root max = (.ok r, t')) :
    r = ⟨root, r.place, max⟩ ∧ ∃ t₁, t.makePath root = (.ok (), t₁)
      ∧ t₁.locate root = .ok r.place ∧ t₁.run (openSteps t₁ r.place) = (.ok (), t') := by
  rcases open_cases t root max with ⟨e, heq⟩ | ⟨t₁, p, hmake, hlocate, ⟨t₂, hrun, heq⟩ | hfail⟩
  · rw [h] at heq
    cases (Prod.mk.inj heq).1
  · rw [h] at heq
    obtain ⟨hr, rfl⟩ := Prod.mk.inj heq
    obtain rfl := Except.ok.inj hr
    exact ⟨rfl, t₁, hmake, hlocate, hrun⟩
  · obtain ⟨errno, t₂, -, heq⟩ := hfail
    rw [h] at heq
    cases (Prod.mk.inj heq).1

/-- **Once a registry was opened, the tree is ready for its operations.** -/
theorem open_ok (ht : t.WellFormed) (h : Registry.open t root max = (.ok r, t')) :
    r.Ready t' ∧ r.root = root ∧ r.maxObjectSize = max ∧ Tree.Evolves t t'
      ∧ t'.locate root = .ok r.place := by
  obtain ⟨hr, t₁, hmake, hlocate, hrun⟩ := of_open_ok h
  obtain ⟨hgrown, hleads⟩ := Tree.makePath_ok (p := r.place) ht hmake
  have hp := hleads hlocate
  have hopened := (run_openSteps_ok hrun hp).1
  refine ⟨ready_of_run_openSteps (hgrown.wellFormed ht) hp hrun, ?_, ?_, hgrown.trans hopened,
    Tree.locate_mono (fun _ => hopened.isDirectory) hlocate hp⟩ <;> rw [hr]

/-- **Where no directory bears the name of a temporary file, a registry can be opened at any
directory.  It takes away the temporary files and changes nothing else below its root.** -/
theorem open_spec (ht : t.WellFormed) (hdistinct : t.Distinct) (hlocate : t.locate root = .ok p)
    (hp : t.isDirectory p = true)
    (hfiles : ∀ name file, isTemporaryName file = true →
      t.isDirectory (p ++ [name] ++ [file]) = false) (max : Nat) :
    ∃ t', Registry.open t root max = (.ok ⟨root, p, max⟩, t') ∧ t'.Distinct
      ∧ ∀ q, t'.find? q = if q ∈ temporaries t p then none
          else if q = p then some (.directory directoryMode) else t.find? q := by
  obtain ⟨mode, hmode⟩ := Tree.isDirectory_eq_true_iff.1 hp
  have happly : (FileStep.setMode p directoryMode).apply t
      = .ok (t.insert p (.directory directoryMode)) := by
    simp only [FileStep.apply, ht.stat_of_find? hmode, Entry.withMode]
  have hfiles' : ∀ q ∈ temporaries t p,
      ∃ e, (t.insert p (.directory directoryMode)).find? q = some e ∧ e.isDirectory = false := by
    intro q hq
    obtain ⟨name, file, rfl, hfile, -, hthere⟩ := mem_temporaries.1 hq
    obtain ⟨e, he⟩ := Option.isSome_iff_exists.1 hthere
    have hne : p ++ [name] ++ [file] ≠ p := by simp
    refine ⟨e, by rw [Tree.find?_insert, if_neg hne, he], ?_⟩
    have hkind := hfiles name file hfile
    rwa [Tree.isDirectory, he, Option.any_some] at hkind
  obtain ⟨t', hrun⟩ := Tree.run_unlinks ((Tree.change_of_apply happly rfl).wellFormed ht)
    (nodup_temporaries hdistinct) hfiles'
  have hopen : t.run (openSteps t p) = (.ok (), t') := by
    rw [openSteps, Tree.run, happly]
    exact hrun
  refine ⟨t', ?_, ?_, (run_openSteps_ok hopen hp).2⟩
  · rw [Registry.open, Tree.makePath_of_located hlocate (ht.enterable hp)]
    simp only [hlocate, Tree.runSteps, hopen]
  · have := hdistinct.run (openSteps t p)
    rwa [hopen] at this

end Registry
end TokenBroker
