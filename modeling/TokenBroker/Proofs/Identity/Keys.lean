import TokenBroker.Proofs.Files.Parents
import TokenBroker.Proofs.Registry.Isolation
import TokenBroker.Proofs.Text.Encoding
/-!
# Keys are harmless and distinct names

A key is the only part of an entry's path that callers have a hand in.  Whichever way it was
obtained, it is one part of a path that stays below the root of the registry, and no two keys share
a directory.

* `isValid_iff` says that names are judged by their bytes.
* `Harmless` is what the name of a directory must not lack, and `harmless_text` that no key lacks
  it.
* `locate_entryPath` says that the path of an entry leads to the place of the entry, wherever the
  path of the root leads.
* `keys_stay_apart` is all of this for the keys and entries of a registry.
-/

set_option autoImplicit false

namespace TokenBroker

/-! ## Names put behind a path -/

namespace Path

/-- A path with a name behind it. -/
def join (base name : String) : String :=
  if base = "" ∨ endsInSlash base then base ++ name else base ++ "/" ++ name

variable {base name : String}

/-- A name without a slash is a single part. -/
theorem pieces_of_not_mem (h : '/' ∉ name.toList) : pieces name = [name] := by
  rw [pieces, splitSlashes_of_not_mem h, List.map_singleton, String.ofList_toList]

theorem parts_of_not_mem (h : '/' ∉ name.toList) (hname : name ≠ "") : parts name = [name] := by
  rw [parts, pieces_of_not_mem h, List.filter_cons_of_pos (by simpa using hname), List.filter_nil]

theorem components_of_not_mem (h : '/' ∉ name.toList) (hname : name ≠ "") (hdot : name ≠ ".") :
    components name = [name] := by
  have hproper : [name].filter (fun part => part ≠ "" ∧ part ≠ ".") = [name] := by
    rw [List.filter_cons_of_pos (by simp [hname, hdot]), List.filter_nil]
  rw [components, pieces_of_not_mem h]
  split
  · next heq => exact absurd (List.cons.inj heq).1 hdot
  · exact hproper

/-- A slash at the end of a path adds nothing to the way along it. -/
theorem parts_of_endsInSlash (h : endsInSlash base = true) :
    ∃ front, base = front ++ "/" ∧ parts base = parts front := by
  rw [endsInSlash, decide_eq_true_eq, List.getLast?_eq_some_iff] at h
  obtain ⟨front, hfront⟩ := h
  refine ⟨String.ofList front, ?_, ?_⟩
  · rw [← String.ofList_toList (s := base), hfront, String.ofList_append]
  · have hparts := parts_append (String.ofList front) ""
    rw [String.append_empty] at hparts
    rw [← String.ofList_toList (s := base), hfront, String.ofList_append]
    exact hparts.trans (List.append_nil _)

/-- A name put behind a path is one more part to walk along. -/
theorem parts_join (base : String) (hslash : '/' ∉ name.toList) (hname : name ≠ "") :
    parts (join base name) = parts base ++ [name] := by
  rw [← parts_of_not_mem hslash hname, join]
  split
  · next hbase =>
    rcases hbase with rfl | hends
    · rw [String.empty_append]
      rfl
    · obtain ⟨front, hfront, hparts⟩ := parts_of_endsInSlash hends
      rw [hparts, hfront, parts_append]
  · exact parts_append base name

end Path

/-! ## Names by their bytes -/

namespace IdentityKey

/-- The bytes that a key may hold: letters, digits, `-`, `_` and `.`. -/
def isAllowedByte (b : UInt8) : Bool :=
  (65 ≤ b && b ≤ 90) || (97 ≤ b && b ≤ 122) || (48 ≤ b && b ≤ 57) || b = 45 || b = 95 || b = 46

/-- Whether some bytes can be those of a key. -/
def isValidBytes (bytes : Bytes) : Bool :=
  !bytes.isEmpty && bytes.length ≤ maxLength && bytes.head? != some 46 && bytes.all isAllowedByte

variable {c : Char}

theorem toNat_lt_of_isAllowed (h : isAllowed c = true) : c.toNat < 128 :=
  Nat.lt_succ_of_le (Char.utf8Size_eq_one_iff.1 (utf8Size_of_isAllowed h))

/-- A character of ASCII is judged by its byte. -/
theorem isAllowedByte_ofNat (h : c.toNat < 128) :
    isAllowedByte (UInt8.ofNat c.toNat) = isAllowed c := by
  have hall : ∀ n < 128, isAllowedByte (UInt8.ofNat n) = isAllowed (Char.ofNat n) := by decide
  rw [hall _ h, Char.ofNat_toNat]

/-- The lead byte of a character outside of ASCII is not allowed. -/
theorem isAllowedByte_of_lead {b : UInt8} (h : 192 ≤ b.toNat) : isAllowedByte b = false := by
  have hall : ∀ n < 256, 192 ≤ n → isAllowedByte (UInt8.ofNat n) = false := by decide +kernel
  exact UInt8.ofNat_toNat (x := b) ▸ hall _ b.toNat_lt h

theorem ofNat_toNat_eq_dot (h : c.toNat < 128) : UInt8.ofNat c.toNat = 46 ↔ c = '.' := by
  have hall : ∀ n < 128, UInt8.ofNat n = 46 ↔ Char.ofNat n = '.' := by decide
  rw [hall _ h, Char.ofNat_toNat]

theorem isValidBytes_ascii {chars : List Char} (hascii : ∀ c ∈ chars, c.toNat < 128) :
    isValidBytes (chars.map fun c => UInt8.ofNat c.toNat)
      = (!chars.isEmpty && chars.length ≤ maxLength && chars.head? != some '.'
        && chars.all isAllowed) := by
  have hall : (chars.map fun c => UInt8.ofNat c.toNat).all isAllowedByte = chars.all isAllowed := by
    rw [Bool.eq_iff_iff, List.all_eq_true, List.all_eq_true, List.forall_mem_map]
    exact forall₂_congr fun c hc => by rw [isAllowedByte_ofNat (hascii c hc)]
  have hhead : ((chars.map fun c => UInt8.ofNat c.toNat).head? != some 46)
      = (chars.head? != some '.') := by
    cases chars with
    | nil => rfl
    | cons c rest => simp [bne, ofNat_toNat_eq_dot (hascii c (.head _))]
  rw [isValidBytes, hall, hhead, List.isEmpty_map, List.length_map]

/-- **A name can be a key if and only if its bytes can**, in whatever characters it is written. -/
theorem isValid_iff (name : String) : isValid name = isValidBytes name.toUTF8.toList := by
  rw [Text.toList_toUTF8]
  by_cases hascii : ∀ c ∈ name.toList, c.toNat < 128
  · have hbytes : name.toList.flatMap String.utf8EncodeChar
        = name.toList.map fun c => UInt8.ofNat c.toNat := by
      rw [← List.flatMap_pure_eq_map]
      exact List.flatMap_congr fun c hc => Text.utf8EncodeChar_ascii (hascii c hc)
    rw [hbytes, isValidBytes_ascii hascii]
    rfl
  · obtain ⟨c, hc, hlarge⟩ : ∃ c ∈ name.toList, ¬ c.toNat < 128 := by
      simpa only [not_forall, exists_prop] using hascii
    obtain ⟨b₁, b₂, more, heq, hlead⟩ := Text.utf8EncodeChar_not_ascii (Nat.not_lt.1 hlarge)
    have hchars : name.toList.all isAllowed = false :=
      List.all_eq_false.2 ⟨c, hc, fun hallowed => by have := toNat_lt_of_isAllowed hallowed; omega⟩
    have hbytes : (name.toList.flatMap String.utf8EncodeChar).all isAllowedByte = false :=
      List.all_eq_false.2 ⟨b₁, List.mem_flatMap.2 ⟨c, hc, heq ▸ .head _⟩, by
        rw [isAllowedByte_of_lead hlead]
        exact Bool.false_ne_true⟩
    rw [isValid, isValidBytes, hchars, hbytes, Bool.and_false, Bool.and_false]

/-! ## Where keys come from -/

theorem text_ofName? (name : String) :
    (ofName? name).map text = if isValidBytes name.toUTF8.toList then some name else none := by
  rw [ofName?, ← isValid_iff]
  split <;> rfl

theorem ofName?_text (key : IdentityKey) : ofName? key.text = some key := by
  rw [ofName?, dif_pos key.valid]

theorem text_forUid (uid : UInt32) : (forUid uid).text = "uid-" ++ toString uid.toNat := by
  change String.ofList ("uid-".toList ++ Nat.toDigits 10 uid.toNat) = _
  rw [String.ofList_append, String.ofList_toList]
  rfl

theorem forUid_ne_device (uid : UInt32) : forUid uid ≠ device := by
  intro h
  have hchars : (uidText uid).toList = "uid-".toList ++ Nat.toDigits 10 uid.toNat :=
    String.toList_ofList
  have hfirst : (uidText uid).toList.head? = some 'u' := by
    rw [hchars]
    rfl
  have htext : uidText uid = "device" := congrArg text h
  rw [htext] at hfirst
  exact absurd hfirst (by decide)

/-! ## Harmless names -/

/-- What makes the name of a directory harmless. -/
structure Harmless (name : String) : Prop where
  size : 1 ≤ name.utf8ByteSize ∧ name.utf8ByteSize ≤ maxLength
  ascii : ∀ c ∈ name.toList, c.toNat < 128
  noSlash : '/' ∉ name.toList
  noNul : '\x00' ∉ name.toList
  /-- As a path it is a single component. -/
  single : Path.components name = [name]
  noDot : name ≠ "." ∧ name ≠ ".."
  /-- It is not taken for a temporary file. -/
  lasting : Registry.temporaryStart.toList.isPrefixOf name.toList = false

/-- **Every key is harmless.** -/
theorem harmless_text (key : IdentityKey) : Harmless key.text := by
  have hvalid := key.valid
  simp only [isValid, Bool.and_eq_true, Bool.not_eq_true', List.isEmpty_eq_false_iff,
    decide_eq_true_eq, bne_iff_ne, List.all_eq_true] at hvalid
  obtain ⟨⟨⟨hne, -⟩, hhead⟩, hall⟩ := hvalid
  have hsize : key.text.utf8ByteSize = key.text.toList.length := by
    have hbytes := utf8ByteSize_ofList fun c hc => utf8Size_of_isAllowed (hall c hc)
    rwa [String.ofList_toList] at hbytes
  have hno : ∀ c, isAllowed c = false → c ∉ key.text.toList := fun c hc hmem => by
    rw [hall c hmem] at hc
    cases hc
  have hdotless : ∀ front : List Char, ¬ '.' :: front <+: key.text.toList := by
    rintro front ⟨rest, hrest⟩
    rw [← hrest] at hhead
    exact hhead rfl
  have hslash : '/' ∉ key.text.toList := hno '/' (by decide)
  have hnames : key.text ≠ "" ∧ key.text ≠ "." ∧ key.text ≠ ".." := by
    refine ⟨fun h => hne (by rw [h]; rfl), fun h => hdotless [] ?_, fun h => hdotless ['.'] ?_⟩
    all_goals
      rw [h]
      exact List.prefix_rfl
  refine ⟨⟨?_, key.utf8ByteSize_text_le⟩, fun c hc => toNat_lt_of_isAllowed (hall c hc), hslash,
    hno '\x00' (by decide), ?_, hnames.2, ?_⟩
  · rw [hsize]
    exact List.length_pos_iff.2 hne
  · exact Path.components_of_not_mem hslash hnames.1 hnames.2.1
  · have hstart : Registry.temporaryStart.toList = '.' :: "auth_token.".toList := by decide
    rw [hstart, Bool.eq_false_iff, ne_eq, List.isPrefixOf_iff_prefix]
    exact hdotless _

end IdentityKey

/-! ## The entries of a registry -/

namespace Registry

variable {r : Registry} {t : Tree} {key other : IdentityKey} {p : Place}

/-- The path of an entry, made from the root as it was named. -/
def entryPath (r : Registry) (key : IdentityKey) : String :=
  Path.join (Path.join r.root key.text) entryName

/-- The way to an entry goes along the root and on by two names. -/
theorem parts_entryPath (r : Registry) (key : IdentityKey) :
    Path.parts (r.entryPath key) = Path.parts r.root ++ [key.text, entryName] := by
  have hkey := key.harmless_text
  have hne : key.text ≠ "" := by
    intro h
    have := hkey.size.1
    rw [h] at this
    exact absurd this (by decide)
  rw [entryPath, Path.parts_join _ (by decide) (by decide), Path.parts_join _ hkey.noSlash hne,
    List.append_assoc]
  rfl

/-- Whatever is found at the path of an entry stands at the place of that entry. -/
theorem locate_entryPath (ht : t.WellFormed) (hroot : t.locate r.root = .ok r.place)
    (h : t.locate (r.entryPath key) = .ok p) : p = r.entryPlace key := by
  obtain ⟨s, hspot, rfl⟩ := Tree.spot_of_locate h
  obtain ⟨s', hspot', hplace⟩ := Tree.spot_of_locate hroot
  obtain ⟨-, hwalk⟩ := Tree.of_spot hspot
  obtain ⟨-, hwalk'⟩ := Tree.of_spot hspot'
  rw [parts_entryPath] at hwalk
  obtain ⟨s'', hfront, -, hrest⟩ := Tree.walk_front ht ht.root hwalk (List.cons_ne_nil _ _)
    (Path.endsInSlash r.root)
  obtain rfl := Except.ok.inj (hwalk'.symm.trans hfront)
  -- from the root the way goes on into the directory of the key and to the name of the entry
  rw [hplace, Tree.walk_cons (List.cons_ne_nil _ _)] at hrest
  cases henter : t.enter r.place key.text with
  | error errno =>
    rw [henter] at hrest
    cases hrest
  | ok q =>
    rw [henter] at hrest
    obtain rfl := Tree.enter_name key.harmless_text.noDot henter
    obtain rfl := Except.ok.inj hrest
    rfl

theorem entryDirectory_prefix_iff :
    r.entryDirectory key <+: r.entryDirectory other ↔ key.text = other.text := by
  refine ⟨fun h => ?_, fun h => ?_⟩
  · exact List.singleton_inj.1 (List.append_cancel_left (h.eq_of_length (by simp [entryDirectory])))
  · have hsame : r.entryDirectory key = r.entryDirectory other := by
      rw [entryDirectory, entryDirectory, h]
    exact hsame ▸ List.prefix_rfl

/-- **The entries of a registry stay apart, each below the root.**  Whether a name is a key is told
by its bytes, and whatever key there is would be accepted under its own name, is harmless, and names
the directory of its entry; no directory of a key is, or is inside of, that of another one.  Callers
have a key each or the key of the device. -/
theorem keys_stay_apart (r : Registry) :
    (∀ name, (IdentityKey.ofName? name).map IdentityKey.text
        = if IdentityKey.isValidBytes name.toUTF8.toList then some name else none)
      ∧ (∀ uid, (IdentityKey.forUid uid).text = "uid-" ++ toString uid.toNat)
      ∧ IdentityKey.device.text = "device"
      ∧ (∀ key, IdentityKey.ofName? key.text = some key ∧ IdentityKey.Harmless key.text
        ∧ Path.parts (r.entryPath key) = Path.parts r.root ++ [key.text, entryName]
        ∧ r.entryPlace key = r.place ++ [key.text, entryName])
      ∧ (∀ key other, r.entryDirectory key <+: r.entryDirectory other ↔ key.text = other.text)
      ∧ Function.Injective (IdentityKey.resolve .caller)
      ∧ ∀ uid, IdentityKey.resolve .caller uid ≠ .device
        ∧ IdentityKey.resolve .device uid = .device := by
  exact ⟨IdentityKey.text_ofName?, IdentityKey.text_forUid, rfl,
    fun key => ⟨key.ofName?_text, key.harmless_text, r.parts_entryPath key, List.append_assoc ..⟩,
    fun key other => entryDirectory_prefix_iff,
    fun uid uid' h => IdentityKey.forUid_injective h,
    fun uid => ⟨IdentityKey.forUid_ne_device uid, rfl⟩⟩

end Registry

end TokenBroker
