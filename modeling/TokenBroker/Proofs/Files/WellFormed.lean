import Mathlib.Logic.Relation
import TokenBroker.Proofs.Files.Lookup
/-!
# Well-formed trees

What every file system guarantees: there is a root, names are not too long, and whatever there is
lies in a directory.  The steps of this library keep it so.

* `WellFormed.stat_of_find?` is what it is good for: whatever stands somewhere can be reached.
* `Effect` is what a step of each kind does, and `Change` what all of them can do to a tree;
  `effect_of_apply` and `change_of_apply` say that a step does no more.
* `Evolves.wellFormed` and `Evolves.isDirectory` say what any number of changes leave as it is: a
  tree stays well-formed, and a directory stays a directory.
-/

set_option autoImplicit false

namespace TokenBroker
namespace Tree

/-- A tree as a file system may hold it. -/
structure WellFormed (t : Tree) : Prop where
  /-- The root is a directory. -/
  root : t.isDirectory [] = true
  /-- No name is too long. -/
  short : ∀ p, (t.find? p).isSome = true → isOverlong p = false
  /-- Whatever has a name lies in a directory. -/
  inside : ∀ p name, (t.find? (p ++ [name])).isSome = true → t.isDirectory p = true

variable {t t' : Tree} {p : Place} {e : Entry}

theorem wellFormed_empty : empty.WellFormed where
  root := rfl
  short p hp := by
    have : p = [] := by
      by_contra hne
      simp [empty, find?, Ne.symm hne] at hp
    subst this
    rfl
  inside p name hp := by simp [empty, find?] at hp

/-- A tree given by its list is well-formed if the places in the list are. -/
theorem WellFormed.of_entries (hroot : t.isDirectory [] = true)
    (hall : ∀ p ∈ t.entries.map (·.1),
      isOverlong p = false ∧ (p = [] ∨ t.isDirectory p.dropLast = true)) : t.WellFormed where
  root := hroot
  short p hp := (hall p (isSome_find?_iff.1 hp)).1
  inside p name hp := by
    rcases (hall _ (isSome_find?_iff.1 hp)).2 with hnil | hdir
    · exact absurd hnil (by simp)
    · rwa [List.dropLast_concat] at hdir

theorem isDirectory_insert (p q : Place) (e : Entry) :
    (t.insert p e).isDirectory q = if q = p then e.isDirectory else t.isDirectory q := by
  simp only [isDirectory, find?_insert]
  split <;> simp

theorem isDirectory_erase (p q : Place) :
    (t.erase p).isDirectory q = if q = p then false else t.isDirectory q := by
  simp only [isDirectory, find?_erase]
  split <;> simp

theorem not_prefix_concat (p : Place) (name : String) : ¬ p ++ [name] <+: p := by
  intro h
  have := h.length_le
  rw [List.length_append, List.length_singleton] at this
  omega

/-- A directory is still reached after something that is not on the way was put somewhere. -/
theorem Enterable.insert {q : Place} (h : t.Enterable p) (hq : ¬ q <+: p) (e : Entry) :
    (t.insert q e).Enterable p := by
  refine h.mono fun q' hq' hdir => ?_
  have hne : q' ≠ q := fun heq => hq (heq ▸ hq')
  rwa [isDirectory_insert, if_neg hne]

theorem Enterable.erase {q : Place} (h : t.Enterable p) (hq : ¬ q <+: p) :
    (t.erase q).Enterable p := by
  refine h.mono fun q' hq' hdir => ?_
  have hne : q' ≠ q := fun heq => hq (heq ▸ hq')
  rwa [isDirectory_erase, if_neg hne]

namespace WellFormed

theorem enterable (h : t.WellFormed) (hp : t.isDirectory p = true) : t.Enterable p := by
  induction p using List.reverseRecOn with
  | nil =>
    obtain ⟨mode, hmode⟩ := isDirectory_eq_true_iff.1 hp
    exact ⟨mode, by rw [stat_nil, hmode]⟩
  | append_singleton p name ih =>
    obtain ⟨mode, hmode⟩ := isDirectory_eq_true_iff.1 hp
    have hsome : (t.find? (p ++ [name])).isSome = true := by rw [hmode]; rfl
    have hway := (ih (h.inside p name hsome)).blocked?_concat (h.short _ hsome)
    exact ⟨mode, stat_of_blocked? hway hmode⟩

/-- In a well-formed tree nothing is in the way of what is there. -/
theorem stat_of_find? (h : t.WellFormed) (hp : t.find? p = some e) : t.stat p = .ok e := by
  cases p using List.reverseRecOn with
  | nil => rw [stat_nil, hp]
  | append_singleton p name =>
    have hsome : (t.find? (p ++ [name])).isSome = true := by rw [hp]; rfl
    have hway := (h.enterable (h.inside p name hsome)).blocked?_concat (h.short _ hsome)
    exact stat_of_blocked? hway hp

/-! ## The two changes of a tree -/

/-- Putting an entry where it can be put keeps a tree well-formed, unless it takes the place of a
directory. -/
theorem insert (h : t.WellFormed) (hway : t.blocked? p = none)
    (hkeep : t.isDirectory p = true → e.isDirectory = true) : (t.insert p e).WellFormed := by
  obtain ⟨hshort, habove⟩ := of_blocked?_eq_none hway
  have hmono : ∀ q, t.isDirectory q = true → (t.insert p e).isDirectory q = true := by
    intro q hq
    rw [isDirectory_insert]
    split
    · next heq => exact hkeep (heq ▸ hq)
    · exact hq
  refine ⟨hmono [] h.root, fun q hq => ?_, fun q name hq => ?_⟩
  · rw [find?_insert] at hq
    split at hq
    · next heq => exact heq ▸ hshort
    · exact h.short q hq
  · rw [find?_insert] at hq
    split at hq
    · next heq => exact hmono q (habove q name heq.symm).isDirectory
    · exact hmono q (h.inside q name hq)

/-- Taking away what is no directory keeps a tree well-formed. -/
theorem erase (h : t.WellFormed) (hp : t.isDirectory p = false) : (t.erase p).WellFormed := by
  refine ⟨?_, fun q hq => ?_, fun q name hq => ?_⟩
  · have hne : [] ≠ p := by
      rintro rfl
      rw [h.root] at hp
      cases hp
    rw [isDirectory_erase, if_neg hne, h.root]
  · rw [find?_erase] at hq
    split at hq
    · cases hq
    · exact h.short q hq
  · rw [find?_erase] at hq
    split at hq
    · cases hq
    · have hdir := h.inside q name hq
      rw [isDirectory_erase]
      split
      · next heq => rw [heq, hp] at hdir; cases hdir
      · exact hdir

end WellFormed

/-! ## Steps -/

/-- What a step finds if it succeeds, and what it makes of the tree. -/
inductive Effect (t : Tree) : FileStep → Tree → Prop
  | makeDirectory {p : Place} (hstat : t.stat p = .error .noEntry) (hway : t.blocked? p = none) :
      Effect t (.makeDirectory p) (t.insert p (.directory defaultDirectoryMode))
  | setMode {p : Place} {mode : Nat} {e : Entry} (hstat : t.stat p = .ok e) :
      Effect t (.setMode p mode) (t.insert p (e.withMode mode))
  | createFile {p : Place} {mode : Nat} (hstat : t.stat p = .error .noEntry)
      (hway : t.blocked? p = none) : Effect t (.createFile p mode) (t.insert p (.file mode []))
  | append {p : Place} {bytes content : Bytes} {mode : Nat}
      (hstat : t.stat p = .ok (.file mode content)) :
      Effect t (.append p bytes) (t.insert p (.file mode (content ++ bytes)))
  | sync {p : Place} {e : Entry} (hstat : t.stat p = .ok e) : Effect t (.sync p) t
  | rename {source target : Place} {e : Entry} (hstat : t.stat source = .ok e)
      (hway : t.blocked? target = none) (htarget : t.isDirectory target = false) :
      Effect t (.rename source target) ((t.erase source).insert target e)
  | unlink {p : Place} {e : Entry} (hstat : t.stat p = .ok e) (hfile : e.isDirectory = false) :
      Effect t (.unlink p) (t.erase p)
  | bindSocket {p : Place} {id : Nat} (hstat : t.stat p = .error .noEntry)
      (hway : t.blocked? p = none) :
      Effect t (.bindSocket p id) (t.insert p (.socket defaultDirectoryMode id))

/-- A step does what its kind does, and nothing else. -/
theorem effect_of_apply {step : FileStep} (h : step.apply t = .ok t') : t.Effect step t' := by
  cases step with
  | makeDirectory p =>
    simp only [FileStep.apply] at h
    split at h <;> try cases h
    split at h
    · next hstat hway =>
      cases h
      exact .makeDirectory hstat hway
    · cases h
  | setMode p mode =>
    simp only [FileStep.apply] at h
    split at h
    · cases h
    · next e hstat =>
      cases h
      exact .setMode hstat
  | createFile p mode =>
    simp only [FileStep.apply] at h
    split at h <;> try cases h
    split at h
    · next hstat hway =>
      cases h
      exact .createFile hstat hway
    · cases h
  | append p bytes =>
    simp only [FileStep.apply] at h
    split at h
    · cases h
    · next mode content hstat =>
      cases h
      exact .append hstat
    · cases h
  | sync p =>
    simp only [FileStep.apply] at h
    split at h
    · cases h
    · next e hstat =>
      cases h
      exact .sync hstat
  | rename source target =>
    simp only [FileStep.apply] at h
    split at h
    · cases h
    · next e hstat =>
      split at h
      · cases h
      · next hway =>
        split at h
        · cases h
        · next htarget =>
          cases h
          exact .rename hstat hway (Bool.eq_false_iff.2 htarget)
  | unlink p =>
    simp only [FileStep.apply] at h
    split at h
    · cases h
    · next e hstat =>
      split at h
      · cases h
      · next hfile =>
        cases h
        exact .unlink hstat (Bool.eq_false_iff.2 hfile)
  | bindSocket p id =>
    simp only [FileStep.apply] at h
    split at h <;> try cases h
    split at h
    · next hstat hway =>
      cases h
      exact .bindSocket hstat hway
    · cases h

/-- What a step makes of a tree, all steps taken together. -/
inductive Change (t : Tree) : Tree → Prop
  | keep : Change t t
  | put {p : Place} {e : Entry} (hway : t.blocked? p = none)
      (hkeep : t.isDirectory p = true → e.isDirectory = true) : Change t (t.insert p e)
  | remove {p : Place} {e : Entry} (hstat : t.stat p = .ok e) (hfile : e.isDirectory = false) :
      Change t (t.erase p)
  | move {source target : Place} {e : Entry} (hstat : t.stat source = .ok e)
      (hfile : e.isDirectory = false) (hway : t.blocked? target = none)
      (htarget : t.isDirectory target = false) : Change t ((t.erase source).insert target e)

/-- Whether a step moves a directory, which no operation of this library does. -/
def movesDirectory (t : Tree) : FileStep → Bool
  | .rename source _ => t.isDirectory source
  | _ => false

theorem isDirectory_of_stat (h : t.stat p = .ok e) : t.isDirectory p = e.isDirectory := by
  simp [isDirectory, find?_of_stat h]

theorem isDirectory_of_stat_noEntry (h : t.stat p = .error .noEntry) (hway : t.blocked? p = none) :
    t.isDirectory p = false := by
  rw [stat, hway] at h
  cases hp : t.find? p with
  | none => simp [isDirectory, hp]
  | some e => simp [hp] at h

@[simp] theorem isDirectory_withMode (mode : Nat) (e : Entry) :
    (e.withMode mode).isDirectory = e.isDirectory := by
  cases e <;> rfl

theorem change_of_apply {step : FileStep} (h : step.apply t = .ok t')
    (hmove : t.movesDirectory step = false) : Change t t' := by
  cases effect_of_apply h with
  | makeDirectory _ hway => exact .put hway fun _ => rfl
  | setMode hstat =>
    refine .put (blocked?_of_stat hstat) fun hdir => ?_
    rw [isDirectory_withMode, ← isDirectory_of_stat hstat, hdir]
  | createFile hstat hway | bindSocket hstat hway =>
    refine .put hway fun hdir => ?_
    rw [isDirectory_of_stat_noEntry hstat hway] at hdir
    cases hdir
  | append hstat =>
    refine .put (blocked?_of_stat hstat) fun hdir => ?_
    rw [isDirectory_of_stat hstat] at hdir
    cases hdir
  | sync => exact .keep
  | rename hstat hway htarget =>
    refine .move hstat ?_ hway htarget
    rw [← isDirectory_of_stat hstat]
    exact hmove
  | unlink hstat hfile => exact .remove hstat hfile

/-- Steps that follow upon other steps are taken if these succeed. -/
theorem run_append (t : Tree) (first rest : List FileStep) :
    t.run (first ++ rest) = match t.run first with
      | (.ok (), t') => t'.run rest
      | (.error errno, t') => (.error errno, t') := by
  induction first generalizing t with
  | nil => rfl
  | cons step steps ih =>
    rw [List.cons_append, Tree.run, Tree.run]
    cases step.apply t with
    | error errno => rfl
    | ok t' => exact ih t'

/-- No change takes a directory away. -/
theorem Change.isDirectory (h : Change t t') {q : Place} (hq : t.isDirectory q = true) :
    t'.isDirectory q = true := by
  cases h with
  | keep => exact hq
  | put hway hkeep =>
    rw [isDirectory_insert]
    split
    · next heq => exact hkeep (heq ▸ hq)
    · exact hq
  | remove hstat hfile =>
    rw [isDirectory_erase]
    split
    · next heq => rw [heq, isDirectory_of_stat hstat, hfile] at hq; cases hq
    · exact hq
  | move hstat hfile hway htarget =>
    rw [isDirectory_insert, isDirectory_erase]
    split
    · next heq => rw [heq, htarget] at hq; cases hq
    · split
      · next heq => rw [heq, isDirectory_of_stat hstat, hfile] at hq; cases hq
      · exact hq

/-- Every change keeps a tree well-formed. -/
theorem Change.wellFormed (h : Change t t') (ht : t.WellFormed) : t'.WellFormed := by
  cases h with
  | keep => exact ht
  | put hway hkeep => exact ht.insert hway hkeep
  | remove hstat hfile => exact ht.erase (by rw [isDirectory_of_stat hstat, hfile])
  | @move source target e hstat hfile hway htarget =>
    have hsource : t.isDirectory source = false := by rw [isDirectory_of_stat hstat, hfile]
    obtain ⟨hshort, habove⟩ := of_blocked?_eq_none hway
    refine (ht.erase hsource).insert ?_ fun hdir => ?_
    · cases target using List.reverseRecOn with
      | nil => rfl
      | append_singleton q name =>
        have hq := habove q name rfl
        exact (hq.mono fun _ _ hdir => (Change.remove hstat hfile).isDirectory hdir).blocked?_concat
          hshort
    · rw [isDirectory_erase, htarget, ite_self] at hdir
      cases hdir

/-! ## Many changes -/

/-- What a number of changes make of a tree. -/
def Evolves : Tree → Tree → Prop := Relation.ReflTransGen Change

theorem Evolves.refl (t : Tree) : Evolves t t := Relation.ReflTransGen.refl

theorem Evolves.trans {t₁ t₂ t₃ : Tree} (h : Evolves t₁ t₂) (h' : Evolves t₂ t₃) : Evolves t₁ t₃ :=
  Relation.ReflTransGen.trans h h'

theorem Change.evolves (h : Change t t') : Evolves t t' := Relation.ReflTransGen.single h

theorem Evolves.isDirectory (h : Evolves t t') {q : Place} (hq : t.isDirectory q = true) :
    t'.isDirectory q = true := by
  induction h with
  | refl => exact hq
  | tail _ hchange ih => exact hchange.isDirectory ih

theorem Evolves.wellFormed (h : Evolves t t') (ht : t.WellFormed) : t'.WellFormed := by
  induction h with
  | refl => exact ht
  | tail _ hchange ih => exact hchange.wellFormed ih

/-! ## One entry at a place -/

/-- No place is listed twice.  Only `Tree.names` would tell. -/
def Distinct (t : Tree) : Prop := (t.entries.map (·.1)).Nodup

theorem Distinct.insert (h : t.Distinct) (p : Place) (e : Entry) : (t.insert p e).Distinct := by
  unfold Distinct Tree.insert
  split
  · have hmap : (t.entries.map fun item => if item.1 = p then (p, e) else item).map (·.1)
        = t.entries.map (·.1) := by
      rw [List.map_map]
      refine List.map_congr_left fun item _ => ?_
      by_cases hitem : item.1 = p <;> simp [hitem]
    rw [hmap]
    exact h
  · next hnone =>
    rw [List.map_append, List.nodup_append]
    refine ⟨h, by simp, fun a ha b hb => ?_⟩
    rw [isSome_find?_iff] at hnone
    rw [List.map_singleton, List.mem_singleton] at hb
    subst hb
    rintro rfl
    exact hnone ha

theorem Distinct.erase (h : t.Distinct) (p : Place) : (t.erase p).Distinct :=
  h.sublist (List.filter_sublist.map _)

theorem Distinct.apply (h : t.Distinct) {step : FileStep} (happly : step.apply t = .ok t') :
    t'.Distinct := by
  cases effect_of_apply happly with
  | makeDirectory | setMode | createFile | append | bindSocket => exact h.insert _ _
  | sync => exact h
  | rename => exact (h.erase _).insert _ _
  | unlink => exact h.erase _

theorem Distinct.run (h : t.Distinct) (steps : List FileStep) : (t.run steps).2.Distinct := by
  induction steps generalizing t with
  | nil => exact h
  | cons step rest ih =>
    rw [Tree.run]
    cases happly : step.apply t with
    | error errno => exact h
    | ok t' => exact ih (h.apply happly)

theorem Distinct.discard (h : t.Distinct) (p : Place) : (t.discard p).Distinct := by
  rw [Tree.discard]
  split
  · next happly => exact h.apply happly
  · exact h

end Tree
end TokenBroker
