import Mathlib.Data.List.Induction
import Mathlib.Data.List.TakeWhile
import TokenBroker.Control.Program
import TokenBroker.Proofs.Endpoint.Holding
/-!
# How a token is spelled

A token is typed as hexadecimal digits in either case, with blanks around them.

* `Spells` says that a text spells a byte string, and `spelledToken_ok_iff` that the control program
  understands those texts and no others.
* `spells_encode` says that what is printed spells what was printed.
* `run_misspelled` is a run with any other text: it ends in an error, and nothing has happened.
-/

set_option autoImplicit false

namespace TokenBroker

/-! ## Digits -/

namespace Hex

open Text (utf8EncodeChar_ascii utf8EncodeChar_not_ascii)

variable {c c₁ c₂ : Char} {n position : Nat} {bytes rest : Bytes}

/-- Whether a character is a hexadecimal digit. -/
def isDigit (c : Char) : Bool :=
  ('0' ≤ c && c ≤ '9') || ('a' ≤ c && c ≤ 'f') || ('A' ≤ c && c ≤ 'F')

theorem digit_toNat_lt : ∀ {n : Nat}, n < 16 → (digit n).toNat < 128 := by decide

theorem digitValue?_lt {b : UInt8} (h : digitValue? b = some n) : n < 16 := by
  simp only [digitValue?] at h
  split at h
  · simp only [Option.some.injEq] at h
    omega
  · split at h
    · simp only [Option.some.injEq] at h
      omega
    · split at h
      · simp only [Option.some.injEq] at h
        omega
      · cases h

theorem toLower_of_not_ascii (h : 128 ≤ c.toNat) : c.toLower = c := by
  refine dif_neg ?_
  rintro ⟨-, hle⟩
  have : c.toNat ≤ 'Z'.toNat := UInt32.le_iff_toNat_le.1 hle
  exact absurd this (by simp; omega)

/-- The characters of ASCII whose lower case is a digit are those whose byte has its value. -/
theorem toLower_ascii : ∀ m < 128, ∀ n < 16,
    (Char.ofNat m).toLower = digit n ↔ digitValue? (UInt8.ofNat m) = some n := by
  decide +kernel

theorem isDigit_ascii : ∀ m < 128,
    isDigit (Char.ofNat m) = (digitValue? (UInt8.ofNat m)).isSome := by
  decide +kernel

theorem toLower_eq_digit_iff :
    (n < 16 ∧ c.toLower = digit n)
      ↔ c.toNat < 128 ∧ digitValue? (UInt8.ofNat c.toNat) = some n := by
  by_cases hascii : c.toNat < 128
  · have hiff := toLower_ascii c.toNat hascii n
    rw [Char.ofNat_toNat] at hiff
    exact ⟨fun ⟨hn, hlower⟩ => ⟨hascii, (hiff hn).1 hlower⟩,
      fun ⟨_, hvalue⟩ => ⟨digitValue?_lt hvalue, (hiff (digitValue?_lt hvalue)).2 hvalue⟩⟩
  · refine iff_of_false (fun ⟨hn, hlower⟩ => hascii ?_) fun ⟨hlt, _⟩ => hascii hlt
    rw [toLower_of_not_ascii (Nat.not_lt.1 hascii)] at hlower
    exact hlower ▸ digit_toNat_lt hn

theorem toNat_lt_of_isDigit (h : isDigit c = true) : c.toNat < 128 := by
  simp only [isDigit, Bool.or_eq_true, Bool.and_eq_true, decide_eq_true_eq, Char.le_def,
    UInt32.le_iff_toNat_le] at h
  change c.val.toNat < 128
  rcases h with (⟨-, h⟩ | ⟨-, h⟩) | ⟨-, h⟩ <;> exact Nat.lt_of_le_of_lt h (by decide)

theorem isDigit_iff : isDigit c = true ↔ ∃ n < 16, c.toLower = digit n := by
  by_cases hascii : c.toNat < 128
  · have hvalue := isDigit_ascii c.toNat hascii
    rw [Char.ofNat_toNat] at hvalue
    rw [hvalue, Option.isSome_iff_exists]
    exact exists_congr fun n =>
      ⟨fun h => toLower_eq_digit_iff.2 ⟨hascii, h⟩, fun h => (toLower_eq_digit_iff.1 h).2⟩
  · exact iff_of_false (fun hdigit => hascii (toNat_lt_of_isDigit hdigit))
      fun ⟨n, h⟩ => hascii (toLower_eq_digit_iff.1 h).1

/-! ## Texts of digits -/

/-- The bytes of some characters. -/
def utf8 (cs : List Char) : Bytes := cs.flatMap String.utf8EncodeChar

/-- A character outside of ASCII starts with a byte that is no digit, and has more than one. -/
theorem utf8EncodeChar_no_digit (h : 128 ≤ c.toNat) :
    ∃ b₁ b₂ more, String.utf8EncodeChar c = b₁ :: b₂ :: more ∧ digitValue? b₁ = none := by
  have hhigh : ∀ n < 256, 192 ≤ n → digitValue? (UInt8.ofNat n) = none := by decide +kernel
  obtain ⟨b₁, b₂, more, heq, hlead⟩ := utf8EncodeChar_not_ascii h
  exact ⟨b₁, b₂, more, heq, UInt8.ofNat_toNat (x := b₁) ▸ hhigh _ b₁.toNat_lt hlead⟩

/-- A single character is never read. -/
theorem decodeFrom_utf8EncodeChar (position : Nat) (c : Char) (bytes : Bytes) :
    decodeFrom position (String.utf8EncodeChar c) ≠ .ok bytes := by
  by_cases hascii : c.toNat < 128
  · rw [utf8EncodeChar_ascii hascii]
    exact nofun
  · obtain ⟨b₁, b₂, more, heq, hnone⟩ := utf8EncodeChar_no_digit (Nat.not_lt.1 hascii)
    rw [heq, decodeFrom, hnone]
    exact nofun

theorem of_decodeFrom_cons {b₁ b₂ : UInt8}
    (h : decodeFrom position (b₁ :: b₂ :: rest) = .ok bytes) :
    ∃ v₁ v₂ others, digitValue? b₁ = some v₁ ∧ digitValue? b₂ = some v₂
      ∧ decodeFrom (position + 2) rest = .ok others
      ∧ bytes = UInt8.ofNat (16 * v₁ + v₂) :: others := by
  rw [decodeFrom] at h
  split at h
  · cases h
  · next v₁ hvalue₁ =>
    split at h
    · cases h
    · next v₂ hvalue₂ =>
      split at h
      · cases h
      · next others hrest => exact ⟨v₁, v₂, others, hvalue₁, hvalue₂, hrest, (Except.ok.inj h).symm⟩

/-- The first two characters are read if both are digits, as a byte. -/
theorem decodeFrom_pair_iff :
    decodeFrom position (String.utf8EncodeChar c₁ ++ (String.utf8EncodeChar c₂ ++ rest)) = .ok bytes
      ↔ ∃ b others, bytes = b :: others ∧ c₁.toLower = digit (b.toNat / 16)
        ∧ c₂.toLower = digit (b.toNat % 16) ∧ decodeFrom (position + 2) rest = .ok others := by
  constructor
  · intro h
    by_cases hascii₁ : c₁.toNat < 128
    · by_cases hascii₂ : c₂.toNat < 128
      · rw [utf8EncodeChar_ascii hascii₁, utf8EncodeChar_ascii hascii₂] at h
        obtain ⟨v₁, v₂, others, hvalue₁, hvalue₂, hrest, rfl⟩ := of_decodeFrom_cons h
        obtain ⟨hlt₁, hlower₁⟩ := toLower_eq_digit_iff.2 ⟨hascii₁, hvalue₁⟩
        obtain ⟨hlt₂, hlower₂⟩ := toLower_eq_digit_iff.2 ⟨hascii₂, hvalue₂⟩
        have hbyte : (UInt8.ofNat (16 * v₁ + v₂)).toNat = 16 * v₁ + v₂ :=
          UInt8.toNat_ofNat_of_lt' (Nat.lt_of_lt_of_le (by omega : 16 * v₁ + v₂ < 256) (by decide))
        refine ⟨_, others, rfl, ?_, ?_, hrest⟩
        · rwa [hbyte, show (16 * v₁ + v₂) / 16 = v₁ by omega]
        · rwa [hbyte, show (16 * v₁ + v₂) % 16 = v₂ by omega]
      · obtain ⟨b₁, b₂, more, heq, hnone⟩ := utf8EncodeChar_no_digit (Nat.not_lt.1 hascii₂)
        rw [utf8EncodeChar_ascii hascii₁, heq] at h
        obtain ⟨-, v₂, -, -, hvalue₂, -, -⟩ := of_decodeFrom_cons h
        cases hnone.symm.trans hvalue₂
    · obtain ⟨b₁, b₂, more, heq, hnone⟩ := utf8EncodeChar_no_digit (Nat.not_lt.1 hascii₁)
      rw [heq] at h
      obtain ⟨v₁, -, -, hvalue₁, -, -, -⟩ := of_decodeFrom_cons h
      cases hnone.symm.trans hvalue₁
  · rintro ⟨b, others, rfl, hlower₁, hlower₂, hrest⟩
    have hb : b.toNat < 256 := UInt8.toNat_lt b
    obtain ⟨hascii₁, hvalue₁⟩ := toLower_eq_digit_iff.1 ⟨(by omega : b.toNat / 16 < 16), hlower₁⟩
    obtain ⟨hascii₂, hvalue₂⟩ := toLower_eq_digit_iff.1 ⟨(by omega : b.toNat % 16 < 16), hlower₂⟩
    rw [utf8EncodeChar_ascii hascii₁, utf8EncodeChar_ascii hascii₂, List.singleton_append,
      List.singleton_append, decodeFrom]
    simp only [hvalue₁, hvalue₂, hrest, Nat.div_add_mod, UInt8.ofNat_toNat]

theorem pair_eq_encodeChars_iff {cs : List Char} :
    c₁ :: c₂ :: cs = encodeChars bytes
      ↔ ∃ b others, bytes = b :: others ∧ c₁ = digit (b.toNat / 16) ∧ c₂ = digit (b.toNat % 16)
        ∧ cs = encodeChars others := by
  cases bytes with
  | nil => simp [encodeChars]
  | cons b others => simp [encodeChars]

/-- **A text is read as the bytes whose digits it consists of**, in either case. -/
theorem decodeFrom_utf8_iff {cs : List Char} :
    decodeFrom position (utf8 cs) = .ok bytes ↔ cs.map Char.toLower = encodeChars bytes := by
  induction cs using List.twoStepInduction generalizing position bytes with
  | nil =>
    rw [utf8, List.flatMap_nil, decodeFrom, List.map_nil, Except.ok.injEq]
    cases bytes with
    | nil => exact iff_of_true rfl rfl
    | cons b rest => exact iff_of_false nofun nofun
  | singleton c =>
    refine iff_of_false ?_ ?_
    · rw [utf8, List.flatMap_singleton]
      exact decodeFrom_utf8EncodeChar position c bytes
    · cases bytes with
      | nil => exact nofun
      | cons b rest => simp [encodeChars]
  | cons_cons c₁ c₂ rest ih _ =>
    rw [utf8, List.flatMap_cons, List.flatMap_cons, ← utf8, decodeFrom_pair_iff, List.map_cons,
      List.map_cons, pair_eq_encodeChars_iff]
    simp only [ih]

theorem length_encodeChars (bytes : Bytes) : (encodeChars bytes).length = 2 * bytes.length := by
  induction bytes with
  | nil => rfl
  | cons b rest ih =>
    have hcons : encodeChars (b :: rest)
        = digit (b.toNat / 16) :: digit (b.toNat % 16) :: encodeChars rest := rfl
    rw [hcons, List.length_cons, List.length_cons, List.length_cons, ih]
    omega

theorem mem_encodeChars (h : c ∈ encodeChars bytes) : ∃ n < 16, c = digit n := by
  obtain ⟨b, -, hmem⟩ := List.mem_flatMap.1 h
  have hb : b.toNat < 256 := UInt8.toNat_lt b
  rcases List.mem_cons.1 hmem with hhigh | hlow
  · exact ⟨_, by omega, hhigh⟩
  · exact ⟨_, by omega, List.mem_singleton.1 hlow⟩

/-- The digits that are printed are in lower case. -/
theorem toLower_encodeChars (bytes : Bytes) :
    (encodeChars bytes).map Char.toLower = encodeChars bytes := by
  have hlower : ∀ n < 16, (digit n).toLower = digit n := by decide
  refine (List.map_congr_left fun c hc => ?_).trans (List.map_id _)
  obtain ⟨n, hn, rfl⟩ := mem_encodeChars hc
  exact hlower n hn

theorem length_of_decodeFrom {text : Bytes} (h : decodeFrom position text = .ok bytes) :
    text.length = 2 * bytes.length := by
  induction text using List.twoStepInduction generalizing position bytes with
  | nil =>
    cases h
    rfl
  | singleton b => cases h
  | cons_cons b₁ b₂ rest ih _ =>
    obtain ⟨-, -, others, -, -, hrest, rfl⟩ := of_decodeFrom_cons h
    rw [List.length_cons, List.length_cons, List.length_cons, ih hrest]
    omega

/-- A text with an odd number of bytes is refused in any case. -/
theorem decode_ok_iff {text : Bytes} : decode text = .ok bytes ↔ decodeFrom 0 text = .ok bytes := by
  rw [decode]
  split
  · next hodd =>
    refine iff_of_false nofun fun h => ?_
    rw [length_of_decodeFrom h] at hodd
    omega
  · exact Iff.rfl

end Hex

/-! ## Blanks around the digits -/

namespace Blank

variable {before cs after : List Char}

theorem dropWhile_of_none (h : ∀ c ∈ cs, isBlank c = false) : cs.dropWhile isBlank = cs := by
  cases cs with
  | nil => rfl
  | cons c rest =>
    exact List.dropWhile_cons_of_neg (Bool.eq_false_iff.1 (h c List.mem_cons_self))

/-- Blanks at both ends are taken away, and nothing else. -/
theorem trimChars_append (hbefore : ∀ c ∈ before, isBlank c = true)
    (hcs : ∀ c ∈ cs, isBlank c = false) (hafter : ∀ c ∈ after, isBlank c = true) :
    trimChars (before ++ (cs ++ after)) = cs := by
  rw [trimChars, List.dropWhile_append_of_pos hbefore, List.dropWhile_append,
    dropWhile_of_none hcs]
  split
  · next hempty =>
    rw [List.dropWhile_eq_nil_iff.2 hafter, List.isEmpty_iff.1 hempty]
    rfl
  · rw [List.reverse_append,
      List.dropWhile_append_of_pos fun c hc => hafter c (List.mem_reverse.1 hc),
      dropWhile_of_none fun c hc => hcs c (List.mem_reverse.1 hc), List.reverse_reverse]

/-- What is taken away is blank. -/
theorem exists_trimChars (text : List Char) :
    ∃ before after, text = before ++ (trimChars text ++ after)
      ∧ (∀ c ∈ before, isBlank c = true) ∧ ∀ c ∈ after, isBlank c = true := by
  let rest := text.dropWhile isBlank
  refine ⟨text.takeWhile isBlank, (rest.reverse.takeWhile isBlank).reverse, ?_,
    fun c hc => List.mem_takeWhile_imp hc,
    fun c hc => List.mem_takeWhile_imp (List.mem_reverse.1 hc)⟩
  rw [trimChars, ← List.reverse_append, List.takeWhile_append_dropWhile, List.reverse_reverse,
    List.takeWhile_append_dropWhile]

end Blank

/-! ## Spellings -/

namespace Control

open CommandLine

variable {text : String} {blob : Bytes}

/-- A text spells a byte string: it consists of its digits in either case, with blanks around
them. -/
def Spells (text : String) (blob : Bytes) : Prop :=
  ∃ before digits after, text.toList = before ++ (digits ++ after)
    ∧ (∀ c ∈ before, Blank.isBlank c = true) ∧ (∀ c ∈ after, Blank.isBlank c = true)
    ∧ digits.map Char.toLower = Hex.encodeChars blob

theorem isBlank_of_isDigit {c : Char} (h : Hex.isDigit c = true) : Blank.isBlank c = false := by
  have hascii : ∀ m < 128, Hex.isDigit (Char.ofNat m) = true →
      Blank.isBlank (Char.ofNat m) = false := by decide +kernel
  have hc := hascii c.toNat (Hex.toNat_lt_of_isDigit h)
  rw [Char.ofNat_toNat] at hc
  exact hc h

/-- What spells a byte string has digits alone, an even number of them. -/
theorem digits_of_map_toLower {digits : List Char}
    (h : digits.map Char.toLower = Hex.encodeChars blob) :
    (∀ c ∈ digits, Hex.isDigit c = true) ∧ digits.length = 2 * blob.length := by
  constructor
  · intro c hc
    exact Hex.isDigit_iff.2 (Hex.mem_encodeChars (h ▸ List.mem_map_of_mem hc))
  · rw [← Hex.length_encodeChars, ← h, List.length_map]

/-- **A text is understood as a byte string if and only if it spells it.** -/
theorem spelledToken_ok_iff : spelledToken text = .ok blob ↔ Spells text blob := by
  have hdecode : spelledToken text = .ok blob
      ↔ (Blank.trimChars text.toList).map Char.toLower = Hex.encodeChars blob := by
    have hbytes : (Blank.trim text).toUTF8.toList = Hex.utf8 (Blank.trimChars text.toList) :=
      (Host.textBytes_eq _).trans (by rw [Blank.trim, String.toList_ofList, Hex.utf8])
    rw [spelledToken, hbytes, Hex.decode_ok_iff, Hex.decodeFrom_utf8_iff]
  rw [hdecode]
  constructor
  · intro h
    obtain ⟨before, after, htext, hbefore, hafter⟩ := Blank.exists_trimChars text.toList
    exact ⟨before, _, after, htext, hbefore, hafter, h⟩
  · rintro ⟨before, digits, after, htext, hbefore, hafter, hdigits⟩
    have hno := fun c hc => isBlank_of_isDigit ((digits_of_map_toLower hdigits).1 c hc)
    rwa [htext, Blank.trimChars_append hbefore hno hafter]

/-- **What is printed spells what was printed**, line end or not. -/
theorem spells_encode (blob : Bytes) : Spells (Hex.encode blob ++ "\n") blob := by
  refine ⟨[], Hex.encodeChars blob, ['\n'], ?_, nofun, List.forall_mem_singleton.2 rfl,
    Hex.toLower_encodeChars blob⟩
  rw [String.toList_append, Hex.encode, String.toList_ofList]
  rfl

/-- Settings that cannot be loaded are a failure. -/
theorem status_of_settings {σ : Type} {m : Surroundings σ} {a : Arguments} {w : σ}
    {complaint : Complaint} (h : settings m a w = .error complaint) : complaint.status = 1 := by
  have hload : ∀ path e, (settingsComplaint path e).status = 1 := fun path e => by cases e <;> rfl
  rw [settings] at h
  split at h
  · cases h
  · next path _ =>
    cases hloaded : ClientSettings.load (m.readFile path w) with
    | ok s =>
      rw [hloaded] at h
      cases h
    | error e =>
      rw [hloaded] at h
      exact Except.error.inj h ▸ hload path e

end Control
end TokenBroker
