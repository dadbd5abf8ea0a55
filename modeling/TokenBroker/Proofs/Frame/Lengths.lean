import TokenBroker.Proofs.Frame.Exchange
import TokenBroker.Proofs.Registry.Custody
import TokenBroker.Settings.Client
import TokenBroker.Settings.Daemon
/-!
# Declared lengths

Headers and records declare the length of what they belong to in 32 bits, and what is checked of
that length is only that it is within a limit, which comes from the settings and may be larger.

* `toNat_ofNat_eq_iff` says which lengths survive this.
* `receive_outgoing` says what the other side gets of a payload that was accepted: as much as is
  declared, with the rest taken for the frames that follow.
* `lengths_declared` puts together what is declared of payloads and blobs, and what is got back.
* `declares_nothing` is a payload of which nothing is declared.
-/

set_option autoImplicit false

namespace TokenBroker

/-- A length is kept in 32 bits if it is less than 2³². -/
theorem toNat_ofNat_eq_iff {n : Nat} : (UInt32.ofNat n).toNat = n ↔ n < 2 ^ 32 := by
  rw [UInt32.toNat_ofNat']
  exact Nat.mod_eq_iff_lt (by decide)

/-- The record of a blob declares its length, as far as that goes into 32 bits. -/
theorem Record.size_ofBlob (blob : Bytes) (now : UInt64) :
    (Record.ofBlob blob now).size.toNat = blob.length % 2 ^ 32 :=
  UInt32.toNat_ofNat'

namespace Frame

variable {limit : Nat} {m : Message} {heading : Heading} {segments : List Bytes}

/-- A frame is made of a message within the limit, with the header that belongs to it. -/
theorem of_frame_ok (h : m.frame limit = .ok (heading, segments)) :
    m.payload.length ≤ limit ∧ heading = m.heading ∧ segments.flatten = m.bytes := by
  rcases Nat.lt_or_ge limit m.payload.length with hlarge | hfits
  · rw [Message.frame_of_lt hlarge] at h
    cases h
  · rw [Message.frame_of_le hfits] at h
    obtain ⟨rfl, rfl⟩ := Prod.mk.inj (Except.ok.inj h)
    exact ⟨hfits, rfl, by simp [Message.bytes]⟩

/-- A header declares the length of the payload, as far as that goes into 32 bits. -/
theorem toNat_dataSize (h : m.frame limit = .ok (heading, segments)) :
    heading.dataSize.toNat = m.payload.length % 2 ^ 32 := by
  rw [(of_frame_ok h).2.1, Message.dataSize_heading]
  exact UInt32.toNat_ofNat'

/-- **Of a payload that was accepted the other side gets as much as is declared**, and takes what is
left for the beginning of the next frame. -/
theorem receive_outgoing (h : m.frame limit = .ok (heading, segments)) {l : Line}
    {timeout patience : Option Nat} {rest : Bytes}
    (hbrings : l.Brings timeout patience m.bytes.length) (hahead : l.ahead = m.bytes ++ rest) :
    ∃ l', receive (Line.reader timeout patience) limit heading.kind l
        = (.finished (heading, m.payload.take heading.dataSize.toNat), l')
      ∧ l'.ahead = m.payload.drop heading.dataSize.toNat ++ rest := by
  have hdeclared := toNat_dataSize h
  obtain ⟨hfits, rfl, -⟩ := of_frame_ok h
  generalize hn : m.heading.dataSize.toNat = n at hdeclared
  have hle : n ≤ m.payload.length := hdeclared ▸ Nat.mod_le _ _
  have hlength : (m.payload.take n).length = n := by rw [List.length_take, Nat.min_eq_left hle]
  have hwithin : (m.payload.take n).length ≤ limit :=
    Nat.le_trans (Nat.le_of_eq hlength) (Nat.le_trans hle hfits)
  have hbytes : m.bytes.length
      = Header.size + ((m.payload.take n).length + (m.payload.length - n)) := by
    rw [Message.bytes, List.length_append, Heading.length_encode, hlength]
    omega
  have hsplit : l.ahead
      = m.heading.encode ++ (m.payload.take n ++ (m.payload.drop n ++ rest)) := by
    rw [hahead, Message.bytes, ← List.append_assoc (m.payload.take n), List.take_append_drop,
      List.append_assoc]
  rw [hbytes] at hbrings
  obtain ⟨l', hreceive, hrest, -⟩ :=
    receive_of_declared (hn.trans hlength.symm) hwithin hbrings hsplit
  exact ⟨l', hreceive, hrest⟩

/-- **What is declared of a length is its low 32 bits, whatever the limit.**  The other side gets a
payload that was accepted if it is shorter than 2³² bytes, which a limit below that makes sure of;
of a longer one it gets the beginning.  A token that was stored has a record with its length, and is
read back. -/
theorem lengths_declared (limit : Nat) :
    (∀ (m : Message) (heading : Heading) (segments : List Bytes),
      m.frame limit = .ok (heading, segments) →
        heading.dataSize.toNat = m.payload.length % 2 ^ 32
          ∧ (heading.dataSize.toNat = m.payload.length ↔ m.payload.length < 2 ^ 32)
          ∧ (limit < 2 ^ 32 → heading.dataSize.toNat = m.payload.length)
          ∧ ∀ (l : Line) (timeout patience : Option Nat) (rest : Bytes),
            l.Brings timeout patience m.bytes.length → l.ahead = m.bytes ++ rest →
            ∃ l', receive (Line.reader timeout patience) limit heading.kind l
                = (.finished (heading, m.payload.take heading.dataSize.toNat), l')
              ∧ l'.ahead = m.payload.drop heading.dataSize.toNat ++ rest)
      ∧ ∀ (r : Registry) (t : Tree) (key : IdentityKey) (blob : Bytes) (now : UInt64),
        r.maxObjectSize = limit → blob.length ≤ limit →
          (Record.ofBlob blob now).size.toNat = blob.length % 2 ^ 32
            ∧ ((Record.ofBlob blob now).size.toNat = blob.length ↔ blob.length < 2 ^ 32)
            ∧ (limit < 2 ^ 32 → (Record.ofBlob blob now).size.toNat = blob.length)
            ∧ (r.Ready t → (r.store t key blob now).1 = .ok () →
              (Record.ofBlob blob now).size.toNat = blob.length
                ∧ r.read (r.store t key blob now).2 key = .ok blob) := by
  refine ⟨fun m heading segments h => ?_, fun r t key blob now hmax hfits => ?_⟩
  · obtain ⟨hfits, hheading, -⟩ := of_frame_ok h
    have hexact : heading.dataSize.toNat = m.payload.length ↔ m.payload.length < 2 ^ 32 := by
      rw [hheading, Message.dataSize_heading]
      exact toNat_ofNat_eq_iff
    exact ⟨toNat_dataSize h, hexact, fun hlimit => hexact.2 (Nat.lt_of_le_of_lt hfits hlimit),
      fun l timeout patience rest hbrings hahead => receive_outgoing h hbrings hahead⟩
  · have hexact : (Record.ofBlob blob now).size.toNat = blob.length ↔ blob.length < 2 ^ 32 :=
      toNat_ofNat_eq_iff
    refine ⟨Record.size_ofBlob blob now, hexact,
      fun hlimit => hexact.2 (Nat.lt_of_le_of_lt hfits hlimit), fun hready hok => ?_⟩
    obtain ⟨hholds, hrep⟩ := Registry.Holds.of_stored hready hok
    exact ⟨hexact.2 hrep.length_lt, hholds⟩

/-- Under a limit of four bytes, a payload of three is received as it is, and what is behind it is
left; a token of two bytes is stored and read back. -/
theorem lengths_declared_four :
    let m : Message := .command 1 1 [5, 6, 7]
    let r : Registry := ⟨"r", ["r"], 4⟩
    let t : Tree := ⟨[([], .directory 0o755), (["r"], .directory 0o700)]⟩
    let key : IdentityKey := ⟨"k", by decide⟩
    m.heading.dataSize.toNat = 3
      ∧ (∃ l', receive (Line.reader none none) 4 .command ⟨{ unread := m.bytes ++ [9] }, 0, []⟩
          = (.finished (m.heading, [5, 6, 7]), l') ∧ l'.ahead = [9])
      ∧ (Record.ofBlob [8, 8] 1).size.toNat = 2
      ∧ r.read (r.store t key [8, 8] 1).2 key = .ok [8, 8] := by
  intro m r t key
  have hopen : Registry.open .empty "r" 4 = (.ok r, t) := by rfl
  have hready := (Registry.open_ok Tree.wellFormed_empty hopen).1
  obtain ⟨hframes, hstores⟩ := lengths_declared 4
  obtain ⟨-, -, hexact, hreceived⟩ :=
    hframes m m.heading _ (Message.frame_of_le (by decide : m.payload.length ≤ 4))
  obtain ⟨l', hreceive, hahead⟩ := hreceived ⟨{ unread := m.bytes ++ [9] }, 0, []⟩ none none [9]
    (.there (by decide)) rfl
  obtain ⟨-, -, hsize, hkept⟩ := hstores r t key [8, 8] 1 rfl (by decide)
  exact ⟨hexact (by decide), ⟨l', hreceive, hahead⟩, hsize (by decide),
    (hkept hready (by decide +kernel)).2⟩

/-- **Of a payload of 2³² bytes nothing is declared.**  The settings admit limits that large, and
nothing else is checked. -/
theorem declares_nothing :
    let payload : Bytes := List.replicate (2 ^ 32) 0
    (ClientSettings.decode "max_payload = 4294967296").map (·.maxPayload) = some (2 ^ 32)
      ∧ (DaemonSettings.decode "[registry]\nmax_object_size = 4294967296").map
        (·.plan.maxObjectSize) = some (2 ^ 32)
      ∧ payload.length = 2 ^ 32
      ∧ checkOutgoing (2 ^ 32) payload = .ok 0
      ∧ (Record.ofBlob payload 0).size = 0 := by
  intro payload
  have hlength : payload.length = 2 ^ 32 := List.length_replicate
  generalize payload = payload at hlength
  refine ⟨by decide +kernel, by decide +kernel, hlength, ?_, ?_⟩
  · rw [checkOutgoing_of_le (Nat.le_of_eq hlength), hlength]
    rfl
  · rw [Record.ofBlob, hlength]
    rfl

end Frame
end TokenBroker
