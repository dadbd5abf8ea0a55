import Mathlib.Data.List.Induction
import TokenBroker.Files.Step
/-!
# Looking up places

What stands at a place after a change of a file tree, and what it takes to reach a place.

* `find?_insert` and `find?_erase` say what the two changes of a tree do to `Tree.find?`; all that
  is proved of file operations goes through them.
* `stat_concat` follows a path down by one name: an access finds what stands there if the place
  above is a directory and the name is not too long.
-/

set_option autoImplicit false

namespace TokenBroker
namespace Tree

/-! ## Changing one place -/

theorem isSome_find?_iff {t : Tree} {p : Place} :
    (t.find? p).isSome = true ↔ p ∈ t.entries.map (·.1) := by
  simp [find?]

theorem mem_entries_of_find? {t : Tree} {p : Place} {e : Entry} (h : t.find? p = some e) :
    (p, e) ∈ t.entries := by
  rw [find?, Option.map_eq_some_iff] at h
  obtain ⟨item, hitem, rfl⟩ := h
  have hplace : item.1 = p := by simpa using List.find?_some hitem
  exact hplace ▸ List.mem_of_find?_eq_some hitem

/-- Replacing the entry of one place in a list changes what is found at that place alone. -/
theorem find?_map_replace (p q : Place) (e : Entry) (l : List (Place × Entry)) :
    ((l.map fun item => if item.1 = p then (p, e) else item).find? fun item => item.1 = q)
      = if q = p then (l.find? fun item => item.1 = p).map fun _ => (p, e)
        else l.find? fun item => item.1 = q := by
  induction l with
  | nil => simp
  | cons head rest ih =>
    rw [List.map_cons, List.find?_cons, ih, List.find?_cons, List.find?_cons]
    by_cases hhead : head.1 = p
    · by_cases hq : q = p
      · simp [hhead, hq]
      · have hne : ¬ p = q := fun h => hq h.symm
        simp [hhead, hq, hne]
    · by_cases hq : q = p
      · simp [hhead, hq]
      · simp [hhead, hq]

/-- Putting an entry at a place changes that place alone. -/
theorem find?_insert (t : Tree) (p : Place) (e : Entry) (q : Place) :
    (t.insert p e).find? q = if q = p then some e else t.find? q := by
  unfold insert
  split
  · next hsome =>
    simp only [find?, find?_map_replace]
    split
    · obtain ⟨item, hitem⟩ := Option.isSome_iff_exists.1 hsome
      obtain ⟨found, hfound, -⟩ := Option.map_eq_some_iff.1 hitem
      simp [hfound]
    · rfl
  · next hnone =>
    rw [Bool.not_eq_true, Option.isSome_eq_false_iff, Option.isNone_iff_eq_none] at hnone
    simp only [find?, List.find?_append]
    by_cases hq : q = p
    · subst hq
      have hfind : (t.entries.find? fun item => decide (item.1 = q)) = none := by
        simpa [find?] using hnone
      simp [hfind]
    · have hne : ¬ p = q := fun h => hq h.symm
      simp [hq, hne]

/-- Taking an entry away changes its place alone. -/
theorem find?_erase (t : Tree) (p q : Place) :
    (t.erase p).find? q = if q = p then none else t.find? q := by
  simp only [find?, erase, List.find?_filter]
  split
  · next hq =>
    subst hq
    simp
  · next hq =>
    congr 2
    funext item
    by_cases hitem : item.1 = q
    · have : ¬ item.1 = p := fun h => hq (hitem.symm.trans h)
      simp [hitem, hq]
    · simp [hitem]

/-! ## Reaching a place -/

theorem ancestors_concat (p : Place) (name : String) :
    ancestors (p ++ [name]) = ancestors p ++ [p] := by
  simp only [ancestors, List.length_append, List.length_singleton, List.range_succ,
    List.map_append, List.map_cons, List.map_nil]
  congr 1
  · refine List.map_congr_left fun n hn => ?_
    rw [List.mem_range] at hn
    exact List.take_append_of_le_length (Nat.le_of_lt hn)
  · simp

theorem mem_ancestors {p q : Place} : q ∈ ancestors p ↔ q <+: p ∧ q ≠ p := by
  simp only [ancestors, List.mem_map, List.mem_range]
  constructor
  · rintro ⟨n, hn, rfl⟩
    refine ⟨List.take_prefix n p, fun h => ?_⟩
    have := congrArg List.length h
    simp only [List.length_take] at this
    omega
  · rintro ⟨hpre, hne⟩
    refine ⟨q.length, ?_, (List.prefix_iff_eq_take.1 hpre).symm⟩
    exact Nat.lt_of_le_of_ne hpre.length_le fun h => hne (hpre.eq_of_length h)

theorem stat_nil (t : Tree) :
    t.stat [] = match t.find? [] with
      | none => .error .noEntry
      | some e => .ok e := rfl

/-- The way to a place leads through the directory above it. -/
theorem blocked?_concat (t : Tree) (p : Place) (name : String) :
    t.blocked? (p ++ [name]) = match t.stat p with
      | .error errno => some errno
      | .ok e =>
        if e.isDirectory then
          if isOverlong (p ++ [name]) then some .nameTooLong else none
        else some .notDirectory := by
  simp only [stat, blocked?, ancestors_concat, List.findSome?_append, List.findSome?_cons,
    List.findSome?_nil]
  generalize (ancestors p).findSome? _ = way
  cases way with
  | some errno => rfl
  | none =>
    by_cases hlong : isOverlong p = true
    · simp [hlong]
    · cases hp : t.find? p with
      | none => simp [hlong]
      | some e => cases hdir : e.isDirectory <;> simp [hlong, hdir]

/-- An access to a place goes through the directory above it. -/
theorem stat_concat (t : Tree) (p : Place) (name : String) :
    t.stat (p ++ [name]) = match t.stat p with
      | .error errno => .error errno
      | .ok e =>
        if e.isDirectory then
          if isOverlong (p ++ [name]) then .error .nameTooLong
          else match t.find? (p ++ [name]) with
            | none => .error .noEntry
            | some e => .ok e
        else .error .notDirectory := by
  rw [stat, blocked?_concat]
  cases t.stat p with
  | error errno => rfl
  | ok e =>
    dsimp only
    cases e.isDirectory <;> cases isOverlong (p ++ [name]) <;> rfl

theorem find?_of_stat {t : Tree} {p : Place} {e : Entry} (h : t.stat p = .ok e) :
    t.find? p = some e := by
  rw [stat] at h
  split at h
  · cases h
  · split at h
    · cases h
    · next hfind => rw [hfind, Except.ok.inj h]

theorem find?_of_stat_noEntry {t : Tree} {p : Place} (h : t.stat p = .error .noEntry)
    (hway : t.blocked? p = none) : t.find? p = none := by
  rw [stat, hway] at h
  cases hp : t.find? p with
  | none => rfl
  | some e =>
    rw [hp] at h
    cases h

/-! ## Directories that can be reached -/

/-- A directory stands at a place, and nothing keeps an access from reaching it. -/
def Enterable (t : Tree) (p : Place) : Prop := ∃ mode, t.stat p = .ok (.directory mode)

variable {t t' : Tree} {p : Place} {name : String}

theorem Enterable.isDirectory (h : t.Enterable p) : t.isDirectory p = true := by
  obtain ⟨mode, hmode⟩ := h
  simp [Tree.isDirectory, find?_of_stat hmode, Entry.isDirectory]

/-- In a directory that can be reached, an access finds what stands there. -/
theorem Enterable.stat_concat (h : t.Enterable p) (hname : isOverlong (p ++ [name]) = false) :
    t.stat (p ++ [name]) = match t.find? (p ++ [name]) with
      | none => .error .noEntry
      | some e => .ok e := by
  obtain ⟨mode, hmode⟩ := h
  rw [Tree.stat_concat, hmode]
  simp [Entry.isDirectory, hname]

theorem Enterable.blocked?_concat (h : t.Enterable p) (hname : isOverlong (p ++ [name]) = false) :
    t.blocked? (p ++ [name]) = none := by
  obtain ⟨mode, hmode⟩ := h
  rw [Tree.blocked?_concat, hmode]
  simp [Entry.isDirectory, hname]

theorem isDirectory_eq_true_iff :
    t.isDirectory p = true ↔ ∃ mode, t.find? p = some (.directory mode) := by
  rw [Tree.isDirectory]
  cases t.find? p with
  | none => simp
  | some e => cases e <;> simp [Entry.isDirectory]

/-- What lies on an open way is no name too long, and lies in a directory. -/
theorem of_blocked?_eq_none (h : t.blocked? p = none) :
    isOverlong p = false ∧ ∀ q name, p = q ++ [name] → t.Enterable q := by
  cases p using List.reverseRecOn with
  | nil => exact ⟨rfl, fun q name hq => by simp at hq⟩
  | append_singleton p name =>
    rw [Tree.blocked?_concat] at h
    split at h
    · cases h
    · next e hstat =>
      cases e with
      | directory mode =>
        simp only [Entry.isDirectory, if_true, ite_eq_right_iff, reduceCtorEq, imp_false,
          Bool.not_eq_true] at h
        refine ⟨h, fun q name' hq => ?_⟩
        obtain ⟨rfl, -⟩ := List.append_inj' hq rfl
        exact ⟨mode, hstat⟩
      | file | socket => simp [Entry.isDirectory] at h

theorem blocked?_of_stat {e : Entry} (h : t.stat p = .ok e) : t.blocked? p = none := by
  rw [stat] at h
  split at h
  · cases h
  · next hway => exact hway

theorem stat_of_blocked? {e : Entry} (h : t.blocked? p = none) (hp : t.find? p = some e) :
    t.stat p = .ok e := by
  rw [stat, h, hp]

/-- Whatever lies above a directory that can be reached is one, too. -/
theorem Enterable.above {q : Place} (h : t.Enterable p) (hq : q <+: p) : t.Enterable q := by
  induction p using List.reverseRecOn with
  | nil => rwa [List.prefix_nil.1 hq]
  | append_singleton p name ih =>
    rcases List.prefix_concat_iff.1 hq with rfl | hq
    · exact h
    · obtain ⟨mode, hstat⟩ := h
      exact ih ((of_blocked?_eq_none (blocked?_of_stat hstat)).2 p name rfl) hq

/-- A directory is still reached as long as the directories on the way stay directories. -/
theorem Enterable.mono (h : t.Enterable p)
    (hkeep : ∀ q, q <+: p → t.isDirectory q = true → t'.isDirectory q = true) :
    t'.Enterable p := by
  induction p using List.reverseRecOn with
  | nil =>
    obtain ⟨mode, hmode⟩ := isDirectory_eq_true_iff.1 (hkeep [] List.prefix_rfl h.isDirectory)
    exact ⟨mode, by rw [stat_nil, hmode]⟩
  | append_singleton p name ih =>
    obtain ⟨mode, hstat⟩ := h
    obtain ⟨hshort, habove⟩ := of_blocked?_eq_none (blocked?_of_stat hstat)
    have hp : t'.Enterable p := ih (habove p name rfl)
      fun q hq => hkeep q (hq.trans (List.prefix_append p [name]))
    have hlast := hkeep _ List.prefix_rfl (Enterable.isDirectory ⟨mode, hstat⟩)
    obtain ⟨mode', hmode'⟩ := isDirectory_eq_true_iff.1 hlast
    exact ⟨mode', stat_of_blocked? (hp.blocked?_concat hshort) hmode'⟩

end Tree
end TokenBroker
