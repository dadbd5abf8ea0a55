import Mathlib.Data.List.Basic
import TokenBroker.Proofs.Files.Paths
/-!
# Putting paths together and taking them apart

What a path comes to when something is put behind it, and what the path above it has to do with the
way along it.

* `parts_append` says that the way along two paths with a slash between them is the way along the
  one and then along the other.
* `parts_of_parent?` says that a path goes along the path above it and then on by a single name,
  dots aside.
* `walk_front` divides a walk, and `located_of_parent?` says that the path above leads to the
  directory in which the walk ends.
* `locate_back` says that a path without `..` leads to a directory only as long as it is there.
-/

set_option autoImplicit false

namespace TokenBroker

namespace Path

open TokenBroker.Tree (splitSlashes_cons splitSlashes_ne_nil)

variable {text parent : String}

/-! ## Slashes -/

/-- A slash divides the parts before it from those behind it. -/
theorem splitSlashes_append (front back : List Char) :
    splitSlashes (front ++ '/' :: back) = splitSlashes front ++ splitSlashes back := by
  induction front with
  | nil =>
    rw [List.nil_append, splitSlashes_cons]
    cases hback : splitSlashes back with
    | nil => exact absurd hback (splitSlashes_ne_nil back)
    | cons part rest => rfl
  | cons c front ih =>
    rw [List.cons_append, splitSlashes_cons, ih, splitSlashes_cons]
    cases hfront : splitSlashes front with
    | nil => exact absurd hfront (splitSlashes_ne_nil front)
    | cons part rest =>
      rw [List.cons_append]
      dsimp only
      split <;> rfl

theorem splitSlashes_of_not_mem {chars : List Char} (h : '/' ∉ chars) :
    splitSlashes chars = [chars] := by
  induction chars with
  | nil => rfl
  | cons c rest ih =>
    rw [List.mem_cons, not_or] at h
    rw [splitSlashes_cons, ih h.2]
    exact if_neg fun hc => h.1 hc.symm

/-- Between two of its parts a text can be divided at a slash. -/
theorem splitSlashes_eq_append {chars : List Char} {xs ys : List (List Char)}
    (h : splitSlashes chars = xs ++ ys) (hxs : xs ≠ []) (hys : ys ≠ []) :
    ∃ front back, chars = front ++ '/' :: back ∧ splitSlashes front = xs
      ∧ splitSlashes back = ys := by
  induction chars generalizing xs with
  | nil =>
    have hlength := congrArg List.length h
    have := List.length_pos_iff.2 hxs
    have := List.length_pos_iff.2 hys
    simp only [splitSlashes, List.foldr_nil, List.length_singleton, List.length_append] at hlength
    omega
  | cons c rest ih =>
    obtain ⟨x, xs, rfl⟩ := List.exists_cons_of_ne_nil hxs
    rw [splitSlashes_cons] at h
    cases hrest : splitSlashes rest with
    | nil => exact absurd hrest (splitSlashes_ne_nil rest)
    | cons part more =>
      rw [hrest] at h
      by_cases hc : c = '/'
      · subst hc
        rw [List.cons_append] at h
        obtain ⟨rfl, hmore⟩ := List.cons.inj h
        cases xs with
        | nil => exact ⟨[], rest, rfl, rfl, hrest.trans hmore⟩
        | cons x' xs =>
          obtain ⟨front, back, rfl, hfront, hback⟩ := ih (hrest.trans hmore) (List.cons_ne_nil _ _)
          refine ⟨'/' :: front, back, rfl, ?_, hback⟩
          rw [splitSlashes_cons, hfront]
          rfl
      · simp only [if_neg hc, List.cons_append] at h
        obtain ⟨rfl, hmore⟩ := List.cons.inj h
        have hmore' : splitSlashes rest = (part :: xs) ++ ys := by
          rw [hrest, hmore, List.cons_append]
        obtain ⟨front, back, rfl, hfront, hback⟩ := ih hmore' (List.cons_ne_nil _ _)
        refine ⟨c :: front, back, rfl, ?_, hback⟩
        rw [splitSlashes_cons, hfront]
        exact if_neg hc

theorem intercalate_splitSlashes (chars : List Char) :
    ['/'].intercalate (splitSlashes chars) = chars := by
  induction chars with
  | nil => rfl
  | cons c rest ih =>
    rw [splitSlashes_cons]
    cases hrest : splitSlashes rest with
    | nil => exact absurd hrest (splitSlashes_ne_nil rest)
    | cons part more =>
      rw [hrest] at ih
      dsimp only
      split
      · next hc => rw [List.intercalate_cons_cons, ih, hc, List.nil_append, List.singleton_append]
      · cases more with
        | nil => simpa using ih
        | cons next more =>
          rw [List.intercalate_cons_cons] at ih ⊢
          rw [List.cons_append, List.cons_append, ih]

/-- Put together again, the pieces of a path are the path. -/
theorem intercalate_pieces (text : String) : String.intercalate "/" (pieces text) = text := by
  refine String.toList_injective ?_
  rw [String.toList_intercalate, pieces, List.map_map]
  have hid : String.toList ∘ String.ofList = id := funext fun chars => String.toList_ofList
  rw [hid, List.map_id]
  exact intercalate_splitSlashes text.toList

theorem toList_append_slash (front back : String) :
    (front ++ "/" ++ back).toList = front.toList ++ '/' :: back.toList := by
  rw [String.toList_append, String.toList_append, List.append_assoc]
  rfl

theorem pieces_append (front back : String) :
    pieces (front ++ "/" ++ back) = pieces front ++ pieces back := by
  rw [pieces, toList_append_slash, splitSlashes_append, List.map_append]
  rfl

/-- The way along two paths with a slash between them. -/
theorem parts_append (front back : String) :
    parts (front ++ "/" ++ back) = parts front ++ parts back := by
  rw [parts, pieces_append, List.filter_append]
  rfl

/-- Between two of its pieces a path can be divided at a slash. -/
theorem pieces_eq_append {xs ys : List String} (h : pieces text = xs ++ ys) (hxs : xs ≠ [])
    (hys : ys ≠ []) :
    text = String.intercalate "/" xs ++ "/" ++ String.intercalate "/" ys
      ∧ pieces (String.intercalate "/" xs) = xs ∧ pieces (String.intercalate "/" ys) = ys := by
  obtain ⟨xs', ys', hsplit, rfl, rfl⟩ := List.map_eq_append_iff.1 h
  obtain ⟨front, back, htext, rfl, rfl⟩ :=
    splitSlashes_eq_append hsplit (by simpa using hxs) (by simpa using hys)
  have hpieces : ∀ chars, (splitSlashes chars).map String.ofList = pieces (String.ofList chars) :=
    fun chars => by rw [pieces, String.toList_ofList]
  simp only [hpieces, intercalate_pieces, and_true]
  refine String.toList_injective ?_
  rw [toList_append_slash, htext, String.toList_ofList, String.toList_ofList]

/-! ## The path above -/

/-- Whether a piece counts as a component wherever it stands. -/
def isProper (part : String) : Bool := part ≠ "" ∧ part ≠ "."

/-- The beginning of a path that ends in one of its pieces, if it is one that counts. -/
def head? (text : String) (n : Nat) : Option String :=
  match (pieces text)[n]? with
  | none => none
  | some part =>
    if n = 0 ∨ (part ≠ "" ∧ part ≠ ".") then
      some (String.intercalate "/" ((pieces text).take (n + 1)))
    else none

theorem heads_eq (text : String) :
    heads text = (List.range' 0 (pieces text).length).filterMap (head? text) := by
  rw [← List.range_eq_range']
  rfl

/-- Behind the first piece there are as many beginnings as proper pieces to end them. -/
theorem length_filterMap_head? (text : String) (n count : Nat) :
    ((List.range' (n + 1) count).filterMap (head? text)).length
      = ((((pieces text).drop (n + 1)).take count).filter isProper).length := by
  induction count with
  | zero => rfl
  | succ count ih =>
    rw [List.range'_concat, List.filterMap_append, List.take_add_one, List.filter_append,
      List.length_append, List.length_append, ih, List.getElem?_drop, Nat.one_mul,
      List.filterMap_cons, List.filterMap_nil, head?]
    congr 1
    cases (pieces text)[n + 1 + count]? with
    | none => rfl
    | some part => by_cases hproper : part ≠ "" ∧ part ≠ "." <;> simp [isProper, hproper]

theorem of_head? {n : Nat} {head : String} (h : head? text n = some head) :
    n < (pieces text).length ∧ head = String.intercalate "/" ((pieces text).take (n + 1)) := by
  rw [head?] at h
  split at h
  · cases h
  · next part hpart =>
    split at h
    · exact ⟨(List.getElem?_eq_some_iff.1 hpart).1, (Option.some.inj h).symm⟩
    · cases h

/-- Where the last beginning but one ends, a path is divided at a slash, and behind it there is a
single proper piece. -/
theorem divided_of_heads {head last : String} {older : List String}
    (h : (heads text).reverse = last :: head :: older) :
    ∃ back, text = head ++ "/" ++ back ∧ ((pieces back).filter isProper).length = 1 := by
  rw [heads_eq, List.reverse_eq_iff, List.reverse_cons, List.reverse_cons, List.append_assoc] at h
  obtain ⟨before, rest, hrange, -, hrest⟩ := List.filterMap_eq_append_iff.1 h
  obtain ⟨skipped, n, behind, rfl, -, hn, hbehind⟩ := List.filterMap_eq_cons_iff.1 hrest
  obtain ⟨hlt, rfl⟩ := of_head? hn
  rw [← List.append_assoc, List.append_cons] at hrange
  obtain ⟨count, -, hfront, rfl⟩ := List.range'_eq_append_iff.1 hrange
  have hcount : count = n + 1 := by
    cases count with
    | zero => cases (List.append_eq_nil_iff.1 hfront).2
    | succ count =>
      rw [List.range'_concat] at hfront
      have hlast := List.singleton_inj.1 (List.append_inj' hfront rfl).2
      omega
  have hproper : (((pieces text).drop (n + 1)).filter isProper).length = 1 := by
    have hlength := length_filterMap_head? text n ((pieces text).length - (n + 1))
    rw [List.take_of_length_le (Nat.le_of_eq List.length_drop)] at hlength
    rw [← hlength]
    rw [hcount, Nat.mul_one, Nat.zero_add] at hbehind
    rw [hbehind]
    rfl
  have hsome : (pieces text).drop (n + 1) ≠ [] := by
    intro hnil
    rw [hnil] at hproper
    cases hproper
  obtain ⟨htext, -, hback⟩ := pieces_eq_append (List.take_append_drop (n + 1) (pieces text)).symm
    (List.ne_nil_of_length_pos (by rw [List.length_take]; omega)) hsome
  exact ⟨_, htext, by rw [hback, hproper]⟩

/-- A path that neither is empty nor starts at the root starts with a part. -/
theorem pieces_of_relative (htext : text ≠ "") (hrelative : ¬ isAbsolute text = true) :
    ∃ part rest, pieces text = part :: rest ∧ part ≠ "" := by
  have hwhole := intercalate_pieces text
  cases hpieces : pieces text with
  | nil => exact absurd (List.map_eq_nil_iff.1 hpieces) (splitSlashes_ne_nil _)
  | cons part rest =>
    refine ⟨part, rest, rfl, ?_⟩
    rintro rfl
    rw [hpieces] at hwhole
    cases rest with
    | nil => exact htext hwhole.symm
    | cons next rest =>
      rw [String.intercalate_cons_cons] at hwhole
      refine hrelative ?_
      rw [isAbsolute, ← hwhole, String.toList_append]
      rfl

/-- A path that has something above it is either the path above, a slash and a single proper piece,
or such a piece alone, dots aside. -/
theorem parent?_cases (h : parent? text = some parent) :
    (∃ front back, text = front ++ "/" ++ back ∧ parent = (if front = "" then "/" else front)
        ∧ ((pieces back).filter isProper).length = 1)
      ∨ parent = "" ∧ ∃ part rest, pieces text = part :: rest ∧ part ≠ ""
        ∧ rest.filter isProper = [] := by
  rw [parent?] at h
  split at h
  · next head older hheads =>
    obtain ⟨back, htext, hback⟩ := divided_of_heads hheads
    exact .inl ⟨head, back, htext, (Option.some.inj h).symm, hback⟩
  · next hfew =>
    split at h
    · cases h
    · next hrelative =>
      rw [not_or] at hrelative
      obtain ⟨part, rest, hpieces, hpart⟩ := pieces_of_relative hrelative.1 hrelative.2
      refine .inr ⟨(Option.some.inj h).symm, part, rest, hpieces, hpart, ?_⟩
      rw [List.filter_eq_nil_iff]
      intro next hnext hproper
      obtain ⟨n, hget⟩ := List.mem_iff_getElem?.1 hnext
      have htwo := Tree.two_le_length_heads hpieces hget (by simpa [isProper] using hproper)
      rw [← List.length_reverse] at htwo
      cases hreverse : (heads text).reverse with
      | nil => simp [hreverse] at htwo
      | cons last older =>
        cases older with
        | nil => simp [hreverse] at htwo
        | cons head older => exact hfew _ _ _ hreverse

/-- Parts that are not proper are dots. -/
theorem length_filter_parts (pieces : List String) :
    ((pieces.filter fun part => part ≠ "").filter fun part => part ≠ ".").length
      = (pieces.filter isProper).length := by
  rw [List.filter_filter]
  congr 2
  funext part
  simp [isProper, Bool.and_comm]

/-- **The way along a path is the way along the path above it, and then a single name, dots
aside.** -/
theorem parts_of_parent? (h : parent? text = some parent) :
    ∃ back, parts text = parts parent ++ back ∧ back ≠ []
      ∧ (back.filter fun part => part ≠ ".").length ≤ 1 := by
  obtain ⟨front, back, rfl, rfl, hback⟩ | ⟨rfl, part, rest, hpieces, hpart, hrest⟩ :=
    parent?_cases h
  · have hlength := (length_filter_parts (pieces back)).trans hback
    refine ⟨parts back, ?_, fun hnil => ?_, Nat.le_of_eq hlength⟩
    · rw [parts_append]
      split
      · next hfront =>
        subst hfront
        rfl
      · rfl
    · rw [← parts, hnil] at hlength
      cases hlength
  · refine ⟨parts text, rfl, ?_, ?_⟩
    · rw [parts, hpieces, List.filter_cons_of_pos (by simpa using hpart)]
      exact List.cons_ne_nil _ _
    · have hlength := length_filter_parts (pieces text)
      rw [← parts, hpieces, List.filter_cons, hrest] at hlength
      rw [hlength]
      split <;> simp

/-- The path above can be walked along if the path itself can. -/
theorem fault?_of_parent? (h : parent? text = some parent) (hparent : parent ≠ "")
    (htext : fault? text = none) : fault? parent = none := by
  obtain ⟨front, back, rfl, rfl, -⟩ | ⟨rfl, -⟩ := parent?_cases h
  · split
    · decide
    · next hfront =>
      rw [fault?] at htext ⊢
      split at htext
      · cases htext
      next hnul =>
      split at htext
      · cases htext
      split at htext
      · cases htext
      next hsize =>
      have hfrontNul : ¬ front.toList.contains '\x00' = true := by
        rw [toList_append_slash, List.contains_iff_mem, List.mem_append, not_or] at hnul
        rw [List.contains_iff_mem]
        exact hnul.1
      have hfrontSize : ¬ front.utf8ByteSize ≥ maxSize := by
        rw [String.utf8ByteSize_append, String.utf8ByteSize_append] at hsize
        omega
      rw [if_neg hfrontNul, if_neg hfront, if_neg hfrontSize]
  · exact absurd rfl hparent

end Path

/-- The place at which a walk ends, if what has a name there is a directory. -/
def Spot.place : Spot → Place
  | reached p => p
  | named directory name _ => directory ++ [name]

namespace Tree

variable {t t' : Tree} {p q : Place} {text parent : String} {part : String} {s : Spot}
  {slash : Bool}

/-! ## Along the way -/

theorem walk_cons {rest : List String} (hrest : rest ≠ []) :
    t.walk slash p (part :: rest) = match t.enter p part with
      | .error errno => .error errno
      | .ok q => t.walk slash q rest := by
  cases rest with
  | nil => exact absurd rfl hrest
  | cons next rest => rfl

theorem isDirectory_of_enter (ht : t.WellFormed) (hp : t.isDirectory p = true)
    (h : t.enter p part = .ok q) : t.isDirectory q = true := by
  rw [enter] at h
  split at h
  · exact Except.ok.inj h ▸ hp
  split at h
  · rw [← Except.ok.inj h]
    exact ((ht.enterable hp).above (List.dropLast_prefix p)).isDirectory
  split at h
  · cases h
  split at h
  · cases h
  · next e hfind =>
    split at h
    · next hdir =>
      rw [← Except.ok.inj h, isDirectory, hfind, Option.any_some, hdir]
    · cases h

/-- A name leads into the directory of that name. -/
theorem enter_name (hpart : part ≠ "." ∧ part ≠ "..") (h : t.enter p part = .ok q) :
    p ++ [part] = q := by
  rw [enter, if_neg hpart.1, if_neg hpart.2] at h
  split at h
  · cases h
  split at h
  · cases h
  split at h
  · exact Except.ok.inj h
  · cases h

/-- A walk by a single part comes to where that part leads. -/
theorem walk_of_enter (h : t.enter p part = .ok q) (slash : Bool) :
    ∃ s, t.walk slash p [part] = .ok s ∧ s.place = q := by
  rw [enter] at h
  rw [walk]
  split at h
  · next hdot => exact ⟨_, if_pos hdot, Except.ok.inj h⟩
  next hdot =>
  rw [if_neg hdot]
  split at h
  · next hdots => exact ⟨_, if_pos hdots, Except.ok.inj h⟩
  next hdots =>
  refine ⟨_, if_neg hdots, ?_⟩
  split at h
  · cases h
  split at h
  · cases h
  split at h
  · exact Except.ok.inj h
  · cases h

/-- A walk along two ways is a walk along the first one, to a directory, and from there along the
second. -/
theorem walk_front {front rest : List String} (ht : t.WellFormed) (hp : t.isDirectory p = true)
    (h : t.walk slash p (front ++ rest) = .ok s) (hrest : rest ≠ []) (slash' : Bool) :
    ∃ s', t.walk slash' p front = .ok s' ∧ t.isDirectory s'.place = true
      ∧ t.walk slash s'.place rest = .ok s := by
  induction front generalizing p with
  | nil => exact ⟨.reached p, rfl, hp, h⟩
  | cons part front ih =>
    rw [List.cons_append, walk_cons (List.append_ne_nil_of_right_ne_nil front hrest)] at h
    cases henter : t.enter p part with
    | error errno =>
      rw [henter] at h
      cases h
    | ok q =>
      rw [henter] at h
      have hq := isDirectory_of_enter ht hp henter
      cases front with
      | nil =>
        obtain ⟨s', hs', rfl⟩ := walk_of_enter henter slash'
        exact ⟨s', hs', hq, h⟩
      | cons next front =>
        rw [walk_cons (List.cons_ne_nil next front), henter]
        exact ih hq h

/-- A walk by a single name, dots aside, that ends at a name has not left its directory. -/
theorem eq_of_walk_named {back : List String} {d : Place} {name : String} {slash' : Bool}
    (hback : (back.filter fun part => part ≠ ".").length ≤ 1)
    (h : t.walk slash p back = .ok (.named d name slash')) : d = p := by
  induction back with
  | nil => cases h
  | cons part rest ih =>
    cases rest with
    | nil =>
      rw [walk] at h
      split at h
      · cases h
      split at h
      · cases h
      · exact (Spot.named.inj (Except.ok.inj h)).1.symm
    | cons next rest =>
      rw [walk_cons (List.cons_ne_nil next rest)] at h
      by_cases hdot : part = "."
      · subst hdot
        exact ih hback h
      · -- behind the one name only dots are left, and they end in no name
        have hdots : ∀ part ∈ next :: rest, part = "." := by
          rw [List.filter_cons_of_pos (by simpa using hdot), List.length_cons] at hback
          have hnil := List.length_eq_zero_iff.1 (Nat.le_zero.1 (Nat.le_of_succ_le_succ hback))
          simpa using List.filter_eq_nil_iff.1 hnil
        cases henter : t.enter p part with
        | error errno =>
          rw [henter] at h
          cases h
        | ok q =>
          rw [henter] at h
          dsimp only at h
          rw [walk_dots hdots] at h
          cases h

/-! ## Where paths lead -/

theorem of_spot (h : t.spot text = .ok s) :
    Path.fault? text = none ∧ t.walk (Path.endsInSlash text) [] (Path.parts text) = .ok s := by
  rw [spot] at h
  split at h
  · cases h
  · next hfault =>
    refine ⟨hfault, ?_⟩
    split at h
    · cases h
    · next hwalk => rw [hwalk, Except.ok.inj h]

theorem spot_eq (hfault : Path.fault? text = none)
    (hwalk : t.walk (Path.endsInSlash text) [] (Path.parts text) = .ok s) :
    t.spot text = .ok s := by
  rw [spot, hfault]
  dsimp only
  rw [hwalk]

theorem spot_of_locate (h : t.locate text = .ok p) :
    ∃ s, t.spot text = .ok s ∧ s.place = p := by
  rw [locate] at h
  split at h
  · cases h
  · next hspot => exact ⟨_, hspot, Except.ok.inj h⟩
  · next hspot =>
    refine ⟨_, hspot, ?_⟩
    split at h
    · cases h
    · split at h
      · cases h
      · exact Except.ok.inj h

/-- A walk that ends at a directory has located it. -/
theorem locate_of_spot (ht : t.WellFormed) (h : t.spot text = .ok s)
    (hs : t.isDirectory s.place = true) : t.locate text = .ok s.place := by
  rw [locate, h]
  cases s with
  | reached p => rfl
  | named d name slash =>
    obtain ⟨mode, hstat⟩ := ht.enterable hs
    rw [Spot.place] at hstat ⊢
    simp only [hstat, Entry.isDirectory, Bool.not_true, Bool.and_false, Bool.false_eq_true,
      if_false]

/-- A walk that ends at a name has located what has that name. -/
theorem locate_named {d : Place} {name : String} {e : Entry} (ht : t.WellFormed)
    (h : t.spot text = .ok (.named d name false)) (hfind : t.find? (d ++ [name]) = some e) :
    t.locate text = .ok (d ++ [name]) := by
  rw [locate, h]
  dsimp only
  rw [ht.stat_of_find? hfind]
  rfl

/-- **If a path can be walked along, the path above it leads to a directory, and a name at the end
of the walk is a name in there.** -/
theorem located_of_parent? (ht : t.WellFormed) (hspot : t.spot text = .ok s)
    (hparent : Path.parent? text = some parent) (hne : parent ≠ "") :
    ∃ q, t.locate parent = .ok q ∧ t.isDirectory q = true
      ∧ ∀ d name slash, s = .named d name slash → d = q := by
  obtain ⟨back, hparts, hsome, hback⟩ := Path.parts_of_parent? hparent
  obtain ⟨hfault, hwalk⟩ := of_spot hspot
  rw [hparts] at hwalk
  obtain ⟨s', hfront, hdir, hrest⟩ := walk_front ht ht.root hwalk hsome (Path.endsInSlash parent)
  have hspot' := spot_eq (Path.fault?_of_parent? hparent hne hfault) hfront
  refine ⟨s'.place, locate_of_spot ht hspot' hdir, hdir, fun d name slash hs => ?_⟩
  subst hs
  exact eq_of_walk_named hback hrest

/-! ## Ways without `..` -/

theorem prefix_of_enter (hpart : part ≠ "..") (h : t.enter p part = .ok q) : p <+: q := by
  rw [enter] at h
  split at h
  · exact Except.ok.inj h ▸ List.prefix_rfl
  split at h
  · cases h
  split at h
  · cases h
  split at h
  · rw [← Except.ok.inj h]
    exact List.prefix_append p [part]
  · cases h

/-- Where a part leads, it leads in another tree as well that has the directory. -/
theorem enter_of_isDirectory (h : t'.enter p part = .ok q) (hq : t.isDirectory q = true) :
    t.enter p part = .ok q := by
  rw [enter] at h ⊢
  split
  · next hdot => rwa [if_pos hdot] at h
  next hdot =>
  rw [if_neg hdot] at h
  split
  · next hdots => rwa [if_pos hdots] at h
  next hdots =>
  rw [if_neg hdots] at h
  split
  · next hlong => rwa [if_pos hlong] at h
  next hlong =>
  rw [if_neg hlong] at h
  split at h
  · cases h
  split at h
  · obtain ⟨mode, hmode⟩ := isDirectory_eq_true_iff.1 (Except.ok.inj h ▸ hq)
    rw [hmode]
    exact h
  · cases h

theorem prefix_of_walk {parts : List String} (hparts : ".." ∉ parts)
    (h : t.walk slash p parts = .ok s) : p <+: s.place := by
  induction parts generalizing p with
  | nil => exact Except.ok.inj h ▸ List.prefix_rfl
  | cons part rest ih =>
    rw [List.mem_cons, not_or] at hparts
    cases rest with
    | nil =>
      rw [walk] at h
      split at h
      · exact Except.ok.inj h ▸ List.prefix_rfl
      rw [if_neg (Ne.symm hparts.1)] at h
      rw [← Except.ok.inj h]
      exact List.prefix_append p [part]
    | cons next rest =>
      rw [walk_cons (List.cons_ne_nil next rest)] at h
      cases henter : t.enter p part with
      | error errno =>
        rw [henter] at h
        cases h
      | ok q =>
        rw [henter] at h
        exact (prefix_of_enter (Ne.symm hparts.1) henter).trans (ih hparts.2 h)

/-- A walk without `..` to a directory of another tree is a walk in that tree, too. -/
theorem walk_back {parts : List String} (ht : t.WellFormed) (hparts : ".." ∉ parts)
    (h : t'.walk slash p parts = .ok s) (hs : t.isDirectory s.place = true) :
    t.walk slash p parts = .ok s := by
  induction parts generalizing p with
  | nil => exact h
  | cons part rest ih =>
    cases rest with
    | nil => exact h
    | cons next rest =>
      rw [List.mem_cons, not_or] at hparts
      rw [walk_cons (List.cons_ne_nil next rest)] at h ⊢
      cases henter : t'.enter p part with
      | error errno =>
        rw [henter] at h
        cases h
      | ok q =>
        rw [henter] at h
        have hq := ((ht.enterable hs).above (prefix_of_walk hparts.2 h)).isDirectory
        rw [enter_of_isDirectory henter hq]
        exact ih hparts.2 h

/-- **A path without `..` that leads to a directory has led there ever since the directory is
there.** -/
theorem locate_back (ht : t.WellFormed) (hparts : ".." ∉ Path.parts text)
    (h : t'.locate text = .ok q) (hq : t.isDirectory q = true) : t.locate text = .ok q := by
  obtain ⟨s, hspot, rfl⟩ := spot_of_locate h
  obtain ⟨hfault, hwalk⟩ := of_spot hspot
  exact locate_of_spot ht (spot_eq hfault (walk_back ht hparts hwalk hq)) hq

end Tree
end TokenBroker
