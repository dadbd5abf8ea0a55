import TokenBroker.Proofs.Registry.Opening
/-!
# A registry is a map

Seen from outside, a registry is a map that gives each key nothing, a token, or a corrupt entry:
`Shelf`.  How entries are laid out in files, what interrupted stores and others have left on the
disk, and what was removed before, does not show.

* `Hosts` is what has to be on the disk.
* `perform_refines` is one operation: its answer is that of the map, and so is what it leaves.
* `refines_map` is the induction over any number of operations, from the opening on.
-/

set_option autoImplicit false

namespace TokenBroker
namespace Registry

/-! ## The map -/

/-- What a key has. -/
inductive Slot where
  | absent
  | blob (bytes : Bytes)
  | corrupt (defect : Record.Defect)
  deriving DecidableEq

/-- What the content of an entry makes of it. -/
def Slot.ofContent (content : Bytes) : Slot :=
  match Record.decode content with
  | .ok record => .blob record.blob
  | .error defect => .corrupt defect

/-- What reading a slot answers. -/
def Slot.answer (key : IdentityKey) : Slot → Except StorageError Bytes
  | .absent => .error (.notFound key)
  | .blob bytes => .ok bytes
  | .corrupt defect => .error (.corrupt defect)

/-- An operation on a registry, with what it is given. -/
inductive Operation where
  | store (key : IdentityKey) (blob : Bytes) (now : UInt64)
  | read (key : IdentityKey)
  | delete (key : IdentityKey)
  | contains (key : IdentityKey)
  /-- Open the registry again, with a limit of its own. -/
  | reopen (maxObjectSize : Nat)

/-- Whether what is to be stored can be stored at all. -/
def Operation.Representable : Operation → Prop
  | store _ blob _ => Record.Representable blob
  | _ => True

instance : DecidablePred Operation.Representable
  | .store _ blob _ => inferInstanceAs (Decidable (Record.Representable blob))
  | .read _ | .delete _ | .contains _ | .reopen _ => .isTrue trivial

/-- The answer to an operation. -/
inductive Answer where
  | outcome (result : Except StorageError Unit)
  | token (result : Except StorageError Bytes)
  | presence (found : Bool)

/-- The map, and the size up to which it takes tokens. -/
structure Shelf where
  max : Nat
  slots : IdentityKey → Slot

namespace Shelf

/-- The map with another slot of one key. -/
def put (s : Shelf) (key : IdentityKey) (slot : Slot) : Shelf :=
  { s with slots := fun other => if other = key then slot else s.slots other }

/-- What an operation is answered, and what it leaves. -/
def perform (s : Shelf) : Operation → Answer × Shelf
  | .store key blob _ =>
    if blob.length > s.max then (.outcome (.error (.tooLarge blob.length s.max)), s)
    else (.outcome (.ok ()), s.put key (.blob blob))
  | .read key => (.token ((s.slots key).answer key), s)
  | .delete key =>
    if s.slots key = .absent then (.outcome (.error (.notFound key)), s)
    else (.outcome (.ok ()), s.put key .absent)
  | .contains key => (.presence (s.slots key ≠ .absent), s)
  | .reopen max => (.outcome (.ok ()), { s with max := max })

end Shelf

/-! ## The registry as it is -/

/-- What a registry answers to an operation, and what it leaves. -/
def perform (r : Registry) (t : Tree) : Operation → Answer × Registry × Tree
  | .store key blob now =>
    let result := r.store t key blob now
    (.outcome result.1, r, result.2)
  | .read key => (.token (r.read t key), r, t)
  | .delete key =>
    let result := r.delete t key
    (.outcome result.1, r, result.2)
  | .contains key => (.presence (r.contains t key), r, t)
  | .reopen max =>
    match Registry.open t r.root max with
    | (.ok reopened, t') => (.outcome (.ok ()), reopened, t')
    | (.error e, t') => (.outcome (.error e), r, t')

/-- What the tree gives a key. -/
def slot (place : Place) (t : Tree) (key : IdentityKey) : Slot :=
  match t.find? (place ++ [key.text] ++ [entryName]) with
  | some (.file _ content) => .ofContent content
  | _ => .absent

/-- The map that a registry on a tree stands for. -/
def shelf (r : Registry) (t : Tree) : Shelf := ⟨r.maxObjectSize, slot r.place t⟩

/-- A tree on which a registry can stand at a path. -/
structure Hosts (t : Tree) (root : String) (place : Place) : Prop where
  wellFormed : t.WellFormed
  distinct : t.Distinct
  /-- The path leads to a directory. -/
  located : t.locate root = .ok place
  rooted : t.isDirectory place = true
  /-- The directory of a key is a directory, if there is anything. -/
  keyDirectory : ∀ (key : IdentityKey) (e : Entry),
    t.find? (place ++ [key.text]) = some e → e.isDirectory = true
  /-- The entry of a key is a regular file, if there is anything. -/
  entryFile : ∀ (key : IdentityKey) (e : Entry),
    t.find? (place ++ [key.text] ++ [entryName]) = some e → e.isFile = true
  /-- No directory has the name of a temporary file. -/
  noTemporary : ∀ name file, isTemporaryName file = true →
    t.isDirectory (place ++ [name] ++ [file]) = false

/-- What stays true of a registry and its tree from one operation to the next. -/
structure Sound (r : Registry) (t : Tree) : Prop extends Hosts t r.root r.place where
  /-- No temporary file is left over. -/
  swept : ∀ name file, isTemporaryName file = true → t.find? (r.place ++ [name] ++ [file]) = none

variable {r : Registry} {t t' : Tree} {key other : IdentityKey}

theorem Sound.ready (h : r.Sound t) : r.Ready t := ⟨h.wellFormed, h.rooted, h.swept⟩

/-! ## What an access finds -/

theorem entryPlace_inj (h : r.entryPlace key = r.entryPlace other) : key = other := by
  have hdir := (List.append_inj' h rfl).1
  have htext := (List.append_inj' hdir rfl).2
  exact IdentityKey.ext (List.singleton_inj.1 htext)

theorem entryPlace_ne_entryDirectory (r : Registry) (key other : IdentityKey) :
    r.entryPlace key ≠ r.entryDirectory other := by
  intro h
  have := congrArg List.length h
  simp [entryPlace, entryDirectory] at this

theorem slot_eq (r : Registry) (t : Tree) (key : IdentityKey) :
    slot r.place t key = match t.find? (r.entryPlace key) with
      | some (.file _ content) => .ofContent content
      | _ => .absent := rfl

/-- A key has no entry, or a file with some content. -/
theorem Sound.cases (h : r.Sound t) (key : IdentityKey) :
    (t.stat (r.entryPlace key) = .error .noEntry ∧ slot r.place t key = .absent)
      ∨ ∃ mode content, t.stat (r.entryPlace key) = .ok (.file mode content)
        ∧ slot r.place t key = .ofContent content := by
  cases hfind : t.find? (r.entryPlace key) with
  | none =>
    refine .inl ⟨?_, by rw [slot_eq, hfind]⟩
    rw [h.ready.stat_entryPlace, hfind]
    cases hdir : t.find? (r.entryDirectory key) with
    | none => rfl
    | some e => simp [h.keyDirectory key e hdir]
  | some e =>
    have hkind := h.entryFile key e hfind
    cases e with
    | file mode content =>
      exact .inr ⟨mode, content, h.wellFormed.stat_of_find? hfind, by rw [slot_eq, hfind]⟩
    | directory mode => cases hkind
    | socket mode id => cases hkind

/-- Nothing stands in the way of a store. -/
theorem Sound.storeFault? (h : r.Sound t) (key : IdentityKey) :
    Registry.storeFault? (t.stat (r.entryPlace key)) = none := by
  rcases h.cases key with ⟨hstat, -⟩ | ⟨mode, content, hstat, -⟩ <;> rw [hstat] <;> rfl

theorem ofContent_ne_absent (content : Bytes) : Slot.ofContent content ≠ .absent := by
  rw [Slot.ofContent]
  cases Record.decode content <;> exact fun heq => by cases heq

/-! ## What stays true -/

theorem Sound.of_ready (h : r.Sound t) (hready : r.Ready t') (hdistinct : t'.Distinct)
    (hkeep : ∀ q, t.isDirectory q = true → t'.isDirectory q = true)
    (hkeys : ∀ key e, t'.find? (r.entryDirectory key) = some e → e.isDirectory = true)
    (hentries : ∀ key e, t'.find? (r.entryPlace key) = some e → e.isFile = true) : r.Sound t' where
  wellFormed := hready.wellFormed
  distinct := hdistinct
  located := Tree.locate_mono hkeep h.located h.rooted
  rooted := hready.rooted
  keyDirectory := hkeys
  entryFile := hentries
  noTemporary name file hfile := by rw [Tree.isDirectory, hready.swept name file hfile]; rfl
  swept := hready.swept

theorem distinct_store (h : t.Distinct) (r : Registry) (key : IdentityKey) (blob : Bytes)
    (now : UInt64) : (r.store t key blob now).2.Distinct := by
  rw [store]
  split
  · exact h
  split
  · exact h
  next content hencode =>
  have hrun := h.run (storeSteps t (r.entryDirectory key) content)
  dsimp only
  split
  · next hok => rwa [hok] at hrun
  · next herror =>
    rw [herror] at hrun
    exact hrun.discard _

theorem distinct_delete (h : t.Distinct) (r : Registry) (key : IdentityKey) :
    (r.delete t key).2.Distinct := by
  rw [tree_delete]
  exact h.run _

/-- A tree on which nothing else is found is as good for a registry. -/
theorem Sound.congr (h : r.Sound t) (hdistinct : t'.Distinct)
    (hsame : ∀ q, t'.find? q = t.find? q) : r.Sound t' := by
  refine h.of_ready (h.ready.congr hsame) hdistinct (fun q hq => ?_) (fun key e he => ?_)
    fun key e he => ?_
  · rwa [Tree.isDirectory, hsame]
  · exact h.keyDirectory key e (hsame _ ▸ he)
  · exact h.entryFile key e (hsame _ ▸ he)

theorem Sound.of_stored (h : r.Sound t) {content : Bytes} (hready : r.Ready t')
    (hdistinct : t'.Distinct) (hstored : r.Stored t key content t') : r.Sound t' := by
  have hdirectory : ∀ e, t'.find? (r.entryDirectory key) = some e → e.isDirectory = true := by
    intro e he
    rw [hstored, if_neg (entryPlace_ne_entryDirectory r key key).symm, if_pos rfl] at he
    cases hfind : t.find? (r.entryDirectory key) with
    | none =>
      rw [hfind] at he
      cases he
      rfl
    | some found =>
      rw [hfind] at he
      cases he
      exact h.keyDirectory key _ hfind
  have hthere : t'.isDirectory (r.entryDirectory key) = true := by
    have hfind : t'.find? (r.entryDirectory key)
        = some ((t.find? (r.entryDirectory key)).getD (.directory directoryMode)) := by
      rw [hstored, if_neg (entryPlace_ne_entryDirectory r key key).symm, if_pos rfl]
    rw [Tree.isDirectory, hfind, Option.any_some]
    exact hdirectory _ hfind
  refine h.of_ready hready hdistinct (fun q hq => ?_) (fun other e he => ?_) fun other e he => ?_
  · by_cases hq' : q = r.entryDirectory key
    · rw [hq', hthere]
    · have hentry : q ≠ r.entryPlace key := by
        rintro rfl
        obtain ⟨mode, hmode⟩ := Tree.isDirectory_eq_true_iff.1 hq
        cases h.entryFile key _ hmode
      rwa [Tree.isDirectory, hstored, if_neg hentry, if_neg hq']
  · by_cases hkey : r.entryDirectory other = r.entryDirectory key
    · rw [hkey] at he
      exact hdirectory e he
    · rw [hstored, if_neg (entryPlace_ne_entryDirectory r key other).symm, if_neg hkey] at he
      exact h.keyDirectory other e he
  · rw [hstored] at he
    split at he
    · cases he
      rfl
    · rw [if_neg (entryPlace_ne_entryDirectory r other key)] at he
      exact h.entryFile other e he

theorem slot_of_stored {content : Bytes} (hstored : r.Stored t key content t') :
    slot r.place t' other = if other = key then .ofContent content else slot r.place t other := by
  rw [slot_eq, hstored]
  by_cases hkey : other = key
  · rw [hkey, if_pos rfl, if_pos rfl]
  · have hne : r.entryPlace other ≠ r.entryPlace key := fun h => hkey (entryPlace_inj h)
    rw [if_neg hne, if_neg (entryPlace_ne_entryDirectory r other key), if_neg hkey]
    rfl

/-! ## One operation -/

/-- An operation is answered like the map does it, and leaves what the map is then. -/
def Refines (r : Registry) (t : Tree) (op : Operation) : Prop :=
  ∃ r' t', r.perform t op = (((r.shelf t).perform op).1, r', t')
    ∧ r'.shelf t' = ((r.shelf t).perform op).2 ∧ r'.Sound t'

theorem slot_congr {place : Place} (hsame : ∀ q, t'.find? q = t.find? q) :
    slot place t' = slot place t := by
  funext key
  rw [slot, hsame, slot]

theorem refines_store (h : r.Sound t) {blob : Bytes} (hrep : Record.Representable blob)
    (key : IdentityKey) (now : UInt64) : r.Refines t (.store key blob now) := by
  have hdistinct := distinct_store h.distinct r key blob now
  have hready := h.ready.store key blob now
  have houtcome : r.storeOutcome (t.stat (r.entryPlace key)) blob
      = if blob.length > r.maxObjectSize then .error (.tooLarge blob.length r.maxObjectSize)
        else .ok () := by
    rw [storeOutcome, if_neg (not_not_intro hrep), h.storeFault? key]
  have hmap : (r.shelf t).perform (.store key blob now)
      = if blob.length > r.maxObjectSize then
          (.outcome (.error (.tooLarge blob.length r.maxObjectSize)), r.shelf t)
        else (.outcome (.ok ()), (r.shelf t).put key (.blob blob)) := rfl
  obtain ⟨t', heq, hcases⟩ := store_spec h.ready key blob now
  rw [heq] at hdistinct hready
  rw [houtcome] at heq hcases
  refine ⟨r, t', ?_⟩
  rw [perform, heq, hmap]
  by_cases hlarge : blob.length > r.maxObjectSize
  · rw [if_pos hlarge] at hcases
    rw [if_pos hlarge, if_pos hlarge]
    obtain ⟨-, hsame⟩ := hcases.resolve_left fun hok => by cases hok.1
    exact ⟨rfl, by rw [shelf, slot_congr hsame]; rfl, h.congr hdistinct hsame⟩
  · rw [if_neg hlarge] at hcases
    rw [if_neg hlarge, if_neg hlarge]
    obtain ⟨-, content, -, hdecode, hstored⟩ := hcases.resolve_right fun hne => hne.1 rfl
    refine ⟨rfl, ?_, h.of_stored hready hdistinct hstored⟩
    rw [shelf, shelf, Shelf.put]
    congr 1
    funext other
    rw [slot_of_stored hstored, Slot.ofContent, hdecode]
    rfl

theorem refines_read (h : r.Sound t) (key : IdentityKey) : r.Refines t (.read key) := by
  have hread : r.read t key = (slot r.place t key).answer key := by
    rw [read, load, Tree.readFile]
    rcases h.cases key with ⟨hstat, hslot⟩ | ⟨mode, content, hstat, hslot⟩
    · rw [hstat, hslot]
      rfl
    · rw [hstat, hslot, Slot.ofContent]
      cases hdecode : Record.decode content <;> simp only [hdecode, Slot.answer]
  exact ⟨r, t, by rw [perform, hread]; rfl, rfl, h⟩

theorem refines_contains (h : r.Sound t) (key : IdentityKey) : r.Refines t (.contains key) := by
  have hcontains : r.contains t key = decide (slot r.place t key ≠ .absent) := by
    rw [contains]
    rcases h.cases key with ⟨hstat, hslot⟩ | ⟨mode, content, hstat, hslot⟩
    · rw [hstat, hslot]
      rfl
    · rw [hstat, hslot, decide_eq_true (ofContent_ne_absent content)]
      rfl
  exact ⟨r, t, by rw [perform, hcontains]; rfl, rfl, h⟩

theorem refines_delete (h : r.Sound t) (key : IdentityKey) : r.Refines t (.delete key) := by
  have hdistinct := distinct_delete h.distinct r key
  have hready := h.ready.delete key
  obtain ⟨t', heq, hcases⟩ := delete_spec r t key
  rw [heq] at hdistinct hready
  have hmap : (r.shelf t).perform (.delete key)
      = if slot r.place t key = .absent then (.outcome (.error (.notFound key)), r.shelf t)
        else (.outcome (.ok ()), (r.shelf t).put key .absent) := rfl
  refine ⟨r, t', ?_⟩
  rw [perform, heq, hmap]
  rcases h.cases key with ⟨hstat, hslot⟩ | ⟨mode, content, hstat, hslot⟩
  · rw [hstat] at hcases ⊢
    obtain ⟨-, rfl⟩ := hcases.resolve_left fun hok => by cases hok.1
    rw [if_pos hslot]
    exact ⟨rfl, rfl, h⟩
  · rw [hstat] at hcases ⊢
    obtain ⟨-, hfile, herased⟩ := hcases.resolve_right fun hne => hne.1 rfl
    have habsent : slot r.place t key ≠ .absent := hslot ▸ ofContent_ne_absent content
    rw [if_neg habsent]
    refine ⟨rfl, ?_, ?_⟩
    · rw [shelf, shelf, Shelf.put]
      congr 1
      funext other
      rw [slot_eq, herased]
      by_cases hkey : other = key
      · rw [hkey, if_pos rfl, if_pos rfl]
      · have hne : r.entryPlace other ≠ r.entryPlace key := fun h => hkey (entryPlace_inj h)
        rw [if_neg hne, if_neg hkey]
        rfl
    · refine h.of_ready hready hdistinct (fun q hq => ?_) (fun other e he => ?_)
        fun other e he => ?_
      · have hne : q ≠ r.entryPlace key := by
          rintro rfl
          rw [hfile] at hq
          cases hq
        rwa [Tree.isDirectory, herased, if_neg hne]
      · rw [herased, if_neg (entryPlace_ne_entryDirectory r key other).symm] at he
        exact h.keyDirectory other e he
      · rw [herased] at he
        split at he
        · cases he
        · exact h.entryFile other e he

/-! ## Opening -/

theorem length_of_mem_temporaries {place q : Place} (h : q ∈ temporaries t place) :
    q.length = place.length + 2 := by
  obtain ⟨name, file, rfl, -⟩ := mem_temporaries.1 h
  simp

theorem entryPlace_not_mem_temporaries (r : Registry) (t : Tree) (key : IdentityKey) :
    r.entryPlace key ∉ temporaries t r.place := by
  intro h
  obtain ⟨name, file, heq, hfile, -⟩ := mem_temporaries.1 h
  exact entryPlace_ne_temporary r key hfile heq.symm

/-- Where a registry can stand, opening it succeeds and changes no entry. -/
theorem Hosts.open {root : String} {place : Place} (h : Hosts t root place) (max : Nat) :
    ∃ t', Registry.open t root max = (.ok ⟨root, place, max⟩, t')
      ∧ (⟨root, place, max⟩ : Registry).Sound t' ∧ slot place t' = slot place t := by
  obtain ⟨t', hopen, hdistinct, hfind⟩ := open_spec h.wellFormed h.distinct h.located h.rooted
    h.noTemporary max
  obtain ⟨hready, -, -, hgrown, hlocated⟩ := open_ok h.wellFormed hopen
  have hkey : ∀ key : IdentityKey,
      t'.find? (place ++ [key.text]) = t.find? (place ++ [key.text]) := by
    intro key
    have hne : place ++ [key.text] ≠ place := by simp
    have hnot : place ++ [key.text] ∉ temporaries t place := by
      intro hmem
      have := length_of_mem_temporaries hmem
      simp at this
    rw [hfind, if_neg hnot, if_neg hne]
  have hentry : ∀ key : IdentityKey, t'.find? (place ++ [key.text] ++ [entryName])
      = t.find? (place ++ [key.text] ++ [entryName]) := by
    intro key
    have hne : place ++ [key.text] ++ [entryName] ≠ place := by simp
    have hnot : place ++ [key.text] ++ [entryName] ∉ temporaries t place :=
      entryPlace_not_mem_temporaries ⟨root, place, max⟩ t key
    rw [hfind, if_neg hnot, if_neg hne]
  refine ⟨t', hopen, ?_, ?_⟩
  · exact {
      wellFormed := hready.wellFormed
      distinct := hdistinct
      located := hlocated
      rooted := hready.rooted
      keyDirectory := fun key e he => h.keyDirectory key e (hkey key ▸ he)
      entryFile := fun key e he => h.entryFile key e (hentry key ▸ he)
      noTemporary := fun name file hfile => by
        rw [Tree.isDirectory, hready.swept name file hfile]
        rfl
      swept := hready.swept }
  · funext key
    rw [slot, hentry, slot]

theorem refines_reopen (h : r.Sound t) (max : Nat) : r.Refines t (.reopen max) := by
  obtain ⟨t', hopen, hsound, hslots⟩ := h.toHosts.open max
  refine ⟨⟨r.root, r.place, max⟩, t', by rw [perform, hopen]; rfl, ?_, hsound⟩
  rw [shelf, hslots]
  rfl

/-- **Each operation is answered like the map does it, and leaves what the map is then.** -/
theorem perform_refines (h : r.Sound t) {op : Operation} (hrep : op.Representable) :
    r.Refines t op := by
  cases op with
  | store key blob now => exact refines_store h hrep key now
  | read key => exact refines_read h key
  | delete key => exact refines_delete h key
  | contains key => exact refines_contains h key
  | reopen max => exact refines_reopen h max

/-! ## Any number of operations -/

/-- What a registry answers to one operation after the other, with the registry and the tree it
leaves. -/
def performAll (r : Registry) (t : Tree) : List Operation → List Answer × Registry × Tree
  | [] => ([], r, t)
  | op :: rest =>
    let first := r.perform t op
    let others := performAll first.2.1 first.2.2 rest
    (first.1 :: others.1, others.2)

/-- What the map answers to one operation after the other, with the map it leaves. -/
def Shelf.performAll (s : Shelf) : List Operation → List Answer × Shelf
  | [] => ([], s)
  | op :: rest =>
    let first := s.perform op
    let others := first.2.performAll rest
    (first.1 :: others.1, others.2)

theorem performAll_refines (h : r.Sound t) {ops : List Operation}
    (hrep : ∀ op ∈ ops, op.Representable) :
    (r.performAll t ops).1 = ((r.shelf t).performAll ops).1
      ∧ (r.performAll t ops).2.1.shelf (r.performAll t ops).2.2
        = ((r.shelf t).performAll ops).2 := by
  induction ops generalizing r t with
  | nil => exact ⟨rfl, rfl⟩
  | cons op rest ih =>
    obtain ⟨r', t', heq, hshelf, hsound⟩ := perform_refines h (hrep op (.head _))
    obtain ⟨hanswers, hleft⟩ := ih hsound fun op hop => hrep op (.tail _ hop)
    rw [hshelf] at hanswers hleft
    simp only [performAll, Shelf.performAll, heq]
    exact ⟨by rw [hanswers], hleft⟩

/-- **A registry is a map.**  At a path that is a directory, or can be made one, a registry opens;
from then on every answer is that of the map of what was on the disk, and in the end the disk holds
what the map does. -/
theorem refines_map {t₁ : Tree} {root : String} {place : Place}
    (hmake : t.makePath root = (.ok (), t₁)) (hosts : Hosts t₁ root place) (max : Nat)
    {ops : List Operation}
    (hrep : ∀ op ∈ ops, op.Representable) :
    ∃ r opened, Registry.open t root max = (.ok r, opened)
      ∧ (r.performAll opened ops).1 = ((⟨max, slot place t₁⟩ : Shelf).performAll ops).1
      ∧ (r.performAll opened ops).2.1.shelf (r.performAll opened ops).2.2
        = ((⟨max, slot place t₁⟩ : Shelf).performAll ops).2 := by
  obtain ⟨opened, hopen, hsound, hslots⟩ := hosts.open max
  have hstart : (⟨root, place, max⟩ : Registry).shelf opened = ⟨max, slot place t₁⟩ := by
    rw [shelf, hslots]
  have hall := performAll_refines hsound hrep
  rw [hstart] at hall
  refine ⟨⟨root, place, max⟩, opened, ?_, hall⟩
  have hthere := Tree.makePath_of_located hosts.located (hosts.wellFormed.enterable hosts.rooted)
  rw [← hopen, Registry.open, Registry.open, hmake, hthere]

/-- A tree with a corrupt entry and the file of an interrupted store. -/
def littered : Tree :=
  ⟨[([], .directory 0o755), (["r"], .directory 0o755), (["r", "k"], .directory 0o700),
    (["r", "k", "auth_token.so"], .file 0o600 [1, 2, 3]),
    (["r", "k", ".auth_token.00002a.tmp"], .file 0o600 [])]⟩

theorem hosts_littered : Hosts littered "r" ["r"] where
  wellFormed := .of_entries rfl (by decide)
  distinct := by unfold Tree.Distinct; decide
  located := rfl
  rooted := rfl
  keyDirectory key e he :=
    (by decide : ∀ item ∈ littered.entries, item.1.length = 2 → item.2.isDirectory = true) _
      (Tree.mem_entries_of_find? he) rfl
  entryFile key e he :=
    (by decide : ∀ item ∈ littered.entries, item.1.length = 3 → item.2.isFile = true) _
      (Tree.mem_entries_of_find? he) rfl
  noTemporary name file _ := by
    by_contra hdir
    obtain ⟨mode, hmode⟩ := Tree.isDirectory_eq_true_iff.1 (Bool.not_eq_false _ ▸ hdir)
    have hfiles : ∀ item ∈ littered.entries, item.1.length = 3 → item.2.isFile = true := by decide
    have hfile := hfiles _ (Tree.mem_entries_of_find? hmode) rfl
    cases hfile

/-- On such a tree the corrupt entry is there and unreadable, an empty token is a token, and one
above the limit changes nothing. -/
theorem refines_map_littered :
    let key : IdentityKey := ⟨"k", by decide⟩
    let ops : List Operation := [.read key, .contains key, .store key [] 5, .read key, .reopen 1,
      .store key [7, 8] 6, .contains key, .delete key, .delete key]
    ∃ r opened, Registry.open littered "r" 4 = (.ok r, opened)
      ∧ (r.performAll opened ops).1
        = [.token (.error (.corrupt Record.notAnArchive)), .presence true, .outcome (.ok ()),
            .token (.ok []), .outcome (.ok ()), .outcome (.error (.tooLarge 2 1)), .presence true,
            .outcome (.ok ()), .outcome (.error (.notFound key))] := by
  intro key ops
  have hrep : ∀ op ∈ ops, op.Representable := by decide
  have hmake : littered.makePath "r" = (.ok (), littered) := rfl
  obtain ⟨r, opened, hopen, hanswers, -⟩ := refines_map hmake hosts_littered 4 hrep
  exact ⟨r, opened, hopen, hanswers⟩

end Registry
end TokenBroker
