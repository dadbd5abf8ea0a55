import TokenBroker.Bytes.LittleEndian
/-!
# Headers

Every message starts with twelve bytes: three 32-bit numbers, little-endian.  The first is the id
of the command, the last the size of the payload that follows; the middle one is a command code on
the way to the daemon and a result code on the way back.

* `CommandHeader.decode?` and `ResponseHeader.decode?` read exactly `Header.size` bytes and refuse
  any other number.
* Encoding and decoding undo each other in both directions.
-/

set_option autoImplicit false

namespace TokenBroker
namespace Header

/-- The number of bytes of a header. -/
def size : Nat := 12

/-- Three numbers, one after the other. -/
def encodeFields (a b c : UInt32) : Bytes :=
  LittleEndian.encode 4 a.toNat ++ LittleEndian.encode 4 b.toNat ++ LittleEndian.encode 4 c.toNat

/-- The three numbers of a header of the right length. -/
def decodeFields? (bytes : Bytes) : Option (UInt32 × UInt32 × UInt32) :=
  if bytes.length = size then
    some (UInt32.ofNat (LittleEndian.decode (bytes.take 4)),
      UInt32.ofNat (LittleEndian.decode ((bytes.drop 4).take 4)),
      UInt32.ofNat (LittleEndian.decode (bytes.drop 8)))
  else none

@[simp] theorem length_encodeFields (a b c : UInt32) : (encodeFields a b c).length = size := by
  simp [encodeFields, size]

theorem word_decode_encode (a : UInt32) :
    UInt32.ofNat (LittleEndian.decode (LittleEndian.encode 4 a.toNat)) = a := by
  rw [LittleEndian.decode_encode, LittleEndian.capacity_four, Nat.mod_eq_of_lt a.toNat_lt,
    UInt32.ofNat_toNat]

theorem decodeFields?_encodeFields (a b c : UInt32) :
    decodeFields? (encodeFields a b c) = some (a, b, c) := by
  have ha : (LittleEndian.encode 4 a.toNat).length = 4 := LittleEndian.length_encode 4 _
  have hb : (LittleEndian.encode 4 b.toNat).length = 4 := LittleEndian.length_encode 4 _
  have h4 : (encodeFields a b c).take 4 = LittleEndian.encode 4 a.toNat := by
    rw [encodeFields, List.append_assoc]
    exact List.take_left' ha
  have d4 : (encodeFields a b c).drop 4
      = LittleEndian.encode 4 b.toNat ++ LittleEndian.encode 4 c.toNat := by
    rw [encodeFields, List.append_assoc]
    exact List.drop_left' ha
  have d8 : (encodeFields a b c).drop 8 = LittleEndian.encode 4 c.toNat := by
    rw [encodeFields]
    exact List.drop_left' (by simp)
  rw [decodeFields?, if_pos (length_encodeFields a b c), h4, d4, d8,
    List.take_left' hb, word_decode_encode, word_decode_encode, word_decode_encode]

theorem word_encode_decode {part : Bytes} (h : part.length = 4) :
    LittleEndian.encode 4 (UInt32.ofNat (LittleEndian.decode part)).toNat = part := by
  have hlt := LittleEndian.decode_lt part
  rw [h, LittleEndian.capacity_four] at hlt
  rw [UInt32.toNat_ofNat_of_lt' hlt, ← h, LittleEndian.encode_decode]

theorem encodeFields_of_decodeFields? {bytes : Bytes} {a b c : UInt32}
    (h : decodeFields? bytes = some (a, b, c)) : encodeFields a b c = bytes := by
  rw [decodeFields?] at h
  split at h
  · next hlen =>
    rw [size] at hlen
    obtain ⟨rfl, rfl, rfl⟩ : _ ∧ _ ∧ _ := by simpa only [Option.some.injEq, Prod.mk.injEq] using h
    have hrest : bytes.drop 8 = (bytes.drop 4).drop 4 := by rw [List.drop_drop]
    rw [encodeFields, word_encode_decode (by rw [List.length_take]; omega),
      word_encode_decode (by rw [List.length_take, List.length_drop]; omega),
      word_encode_decode (by rw [List.length_drop]; omega), List.append_assoc, hrest,
      List.take_append_drop, List.take_append_drop]
  · cases h

end Header

/-- What precedes the payload of a request. -/
structure CommandHeader where
  /-- Which command of its connection this is. -/
  id : UInt32
  /-- The code of the command. -/
  cmd : UInt32
  /-- The number of payload bytes that follow. -/
  dataSize : UInt32
  deriving DecidableEq

/-- What precedes the payload of a response. -/
structure ResponseHeader where
  /-- The id of the command this answers. -/
  id : UInt32
  /-- The code of the result. -/
  result : UInt32
  /-- The number of payload bytes that follow. -/
  dataSize : UInt32
  deriving DecidableEq

/-- The twelve bytes of a command header. -/
def CommandHeader.encode (h : CommandHeader) : Bytes := Header.encodeFields h.id h.cmd h.dataSize

/-- The command header that twelve bytes hold. -/
def CommandHeader.decode? (bytes : Bytes) : Option CommandHeader :=
  (Header.decodeFields? bytes).map fun (id, cmd, dataSize) => ⟨id, cmd, dataSize⟩

/-- The twelve bytes of a response header. -/
def ResponseHeader.encode (h : ResponseHeader) : Bytes :=
  Header.encodeFields h.id h.result h.dataSize

/-- The response header that twelve bytes hold. -/
def ResponseHeader.decode? (bytes : Bytes) : Option ResponseHeader :=
  (Header.decodeFields? bytes).map fun (id, result, dataSize) => ⟨id, result, dataSize⟩

@[simp] theorem CommandHeader.length_encode (h : CommandHeader) :
    h.encode.length = Header.size := Header.length_encodeFields _ _ _

@[simp] theorem ResponseHeader.length_encode (h : ResponseHeader) :
    h.encode.length = Header.size := Header.length_encodeFields _ _ _

@[simp] theorem CommandHeader.decode?_encode (h : CommandHeader) :
    CommandHeader.decode? h.encode = some h := by
  simp [CommandHeader.decode?, CommandHeader.encode, Header.decodeFields?_encodeFields]

@[simp] theorem ResponseHeader.decode?_encode (h : ResponseHeader) :
    ResponseHeader.decode? h.encode = some h := by
  simp [ResponseHeader.decode?, ResponseHeader.encode, Header.decodeFields?_encodeFields]

theorem CommandHeader.encode_of_decode? {bytes : Bytes} {h : CommandHeader}
    (hdecode : CommandHeader.decode? bytes = some h) : h.encode = bytes := by
  obtain ⟨fields, hfields, rfl⟩ := Option.map_eq_some_iff.1 hdecode
  exact Header.encodeFields_of_decodeFields? hfields

theorem ResponseHeader.encode_of_decode? {bytes : Bytes} {h : ResponseHeader}
    (hdecode : ResponseHeader.decode? bytes = some h) : h.encode = bytes := by
  obtain ⟨fields, hfields, rfl⟩ := Option.map_eq_some_iff.1 hdecode
  exact Header.encodeFields_of_decodeFields? hfields

end TokenBroker
