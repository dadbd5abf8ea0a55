import TokenBroker.Bytes.LittleEndian
/-!
# Texts as bytes

What UTF-8 makes of a text, as far as it matters whether a character belongs to ASCII.

* `toList_toUTF8` says that the bytes of a text are those of its characters.
* `utf8EncodeChar_ascii` and `utf8EncodeChar_not_ascii` tell the characters of ASCII from all others
  by their bytes.
-/

set_option autoImplicit false

namespace TokenBroker
namespace Text

variable {c : Char}

theorem toList_loop (bytes : ByteArray) (i : Nat) (read : Bytes) :
    ByteArray.toList.loop bytes i read = read.reverse ++ bytes.data.toList.drop i := by
  induction i, read using ByteArray.toList.loop.induct bytes with
  | case1 i read hi ih =>
    have hi' : i < bytes.data.toList.length := hi
    have hget : bytes.get! i = bytes.data.toList[i] := getElem!_pos bytes.data i hi
    rw [ByteArray.toList.loop, if_pos hi, ih, List.drop_eq_getElem_cons hi', hget]
    simp
  | case2 i read hi =>
    rw [ByteArray.toList.loop, if_neg hi, List.drop_eq_nil_of_le (Nat.le_of_not_lt hi),
      List.append_nil]

/-- The bytes of a text are those of its characters. -/
theorem toList_toUTF8 (text : String) :
    text.toUTF8.toList = text.toList.flatMap String.utf8EncodeChar := by
  rw [String.toUTF8_eq_toByteArray, ← String.utf8Encode_toList, List.utf8Encode, ByteArray.toList,
    toList_loop]
  simp

theorem utf8EncodeChar_ascii (h : c.toNat < 128) :
    String.utf8EncodeChar c = [UInt8.ofNat c.toNat] := by
  rw [String.utf8EncodeChar]
  exact if_pos (Nat.le_of_lt_succ h)

/-- A character outside of ASCII starts with a byte that says so, and has more than one. -/
theorem utf8EncodeChar_not_ascii (h : 128 ≤ c.toNat) :
    ∃ b₁ b₂ more, String.utf8EncodeChar c = b₁ :: b₂ :: more ∧ 192 ≤ b₁.toNat := by
  change 128 ≤ c.val.toNat at h
  fun_cases String.utf8EncodeChar c
  · next v hle => exact absurd hle (by omega)
  all_goals
    refine ⟨_, _, _, rfl, ?_⟩
    rw [UInt8.toNat_ofNat']
    omega

end Text
end TokenBroker
