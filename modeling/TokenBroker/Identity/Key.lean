/-!
# Identity keys

A registry holds one entry per identity, in a directory named after the key of that identity.  So
a key must be a harmless file name: 1 to 64 ASCII letters, digits, `-`, `_` or `.`, and no leading
dot.  Keys come either from outside, through `IdentityKey.ofName?`, or from the uid of a caller.
-/

set_option autoImplicit false

namespace TokenBroker

/-- Whether callers have an entry each or share one. -/
inductive IdentityScope where
  /-- One entry per calling uid. -/
  | caller
  /-- One entry for the whole device. -/
  | device
  deriving DecidableEq

/-- The name of a scope in settings. -/
def IdentityScope.name : IdentityScope → String
  | caller => "caller"
  | device => "device"

/-- The scope of a name. -/
def IdentityScope.ofName? (name : String) : Option IdentityScope :=
  if name = "caller" then some caller
  else if name = "device" then some device
  else none

namespace IdentityKey

/-- The largest number of bytes of a key. -/
def maxLength : Nat := 64

/-- The characters a key may hold, all of them one byte long. -/
def isAllowed (c : Char) : Bool :=
  c.isAlphanum || c = '-' || c = '_' || c = '.'

/-- Whether a text can be a key.  As only one-byte characters are allowed, the number of
characters is the number of bytes. -/
def isValid (name : String) : Bool :=
  let chars := name.toList
  !chars.isEmpty && chars.length ≤ maxLength && chars.head? != some '.' && chars.all isAllowed

end IdentityKey

/-- The name of one entry of a registry. -/
@[ext] structure IdentityKey where
  text : String
  /-- Only a harmless name is a key. -/
  valid : IdentityKey.isValid text = true
  deriving DecidableEq

namespace IdentityKey

/-- The key of an explicit name. -/
def ofName? (name : String) : Option IdentityKey :=
  if h : isValid name = true then some ⟨name, h⟩ else none

/-- The name of the key of a calling uid. -/
def uidText (uid : UInt32) : String :=
  String.ofList ("uid-".toList ++ Nat.toDigits 10 uid.toNat)

theorem isAllowed_of_isDigit {c : Char} (h : c.isDigit = true) : isAllowed c = true := by
  simp [isAllowed, Char.isAlphanum, h]

/-- The uid of a caller has ten digits at most, so its name is short enough for a key. -/
theorem isValid_uidText (uid : UInt32) : isValid (uidText uid) = true := by
  have hlen : (Nat.toDigits 10 uid.toNat).length ≤ 10 := by
    rw [Nat.length_toDigits_le_iff (by decide) (by decide)]
    have := uid.toNat_lt
    omega
  have hdigits : (Nat.toDigits 10 uid.toNat).all isAllowed = true := by
    rw [List.all_eq_true]
    intro c hc
    exact isAllowed_of_isDigit (Nat.isDigit_of_mem_toDigits (by decide) (by decide) hc)
  have hall : (['u', 'i', 'd', '-'] ++ Nat.toDigits 10 uid.toNat).all isAllowed = true := by
    rw [List.all_append, hdigits]
    decide
  have hchars : (uidText uid).toList = ['u', 'i', 'd', '-'] ++ Nat.toDigits 10 uid.toNat :=
    String.toList_ofList
  simp only [isValid, hchars, List.cons_append, List.nil_append, List.isEmpty_cons, List.head?_cons,
    List.length_cons, maxLength]
  simp only [Bool.not_false, Bool.true_and, Bool.and_eq_true, decide_eq_true_eq]
  exact ⟨⟨by omega, by decide⟩, hall⟩

/-- The key of a calling uid. -/
def forUid (uid : UInt32) : IdentityKey := ⟨uidText uid, isValid_uidText uid⟩

/-- The key shared by all callers. -/
def device : IdentityKey := ⟨"device", by decide⟩

/-- The key of a caller whose uid the operating system vouches for. -/
def resolve (scope : IdentityScope) (uid : UInt32) : IdentityKey :=
  match scope with
  | .caller => forUid uid
  | .device => device

end IdentityKey
end TokenBroker
