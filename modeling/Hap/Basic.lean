import Mathlib

/-!
# Bytes, little-endian integers and the pairing record

The data every layer of the accessory shares:

* `Bytes` — Go's `[]byte` (and the bytes of a Go `string`);
* `leBytes` / `leValue` — what `binary.LittleEndian.PutUintN` writes and
  `UintN` reads back, with the round trips `leValue_leBytes` and
  `leBytes_leValue`;
* `Key` — a `[32]byte` key, its width carried as a field;
* `Pairing` — the persisted trust record of a controller;
* the protocol's byte constants (pairing states, methods, permissions,
  TLV8 error codes);
* `ReadResult` and `bufferReads` — a reader as the results of its `Read`
  calls, and those of a buffer or a regular file.
-/

namespace Hap

/-- Go's `[]byte`; also the bytes of a Go `string`, which need not be UTF-8. -/
abbrev Bytes := List UInt8

/-! ## Little-endian integers -/

/-- The `k` little-endian bytes of `n mod 256^k`: `binary.LittleEndian.PutUint16`
for `k = 2`, `PutUint64` for `k = 8`. -/
def leBytes : Nat → Nat → Bytes
  | 0, _ => []
  | k + 1, n => UInt8.ofNat n :: leBytes k (n / 256)

/-- The number a little-endian byte string denotes (`binary.LittleEndian.UintN`). -/
def leValue : Bytes → Nat
  | [] => 0
  | b :: bs => b.toNat + 256 * leValue bs

theorem toNat_uint8_ofNat (n : Nat) : (UInt8.ofNat n).toNat = n % 256 := by
  simp [UInt8.ofNat, UInt8.toNat]

@[simp] theorem length_leBytes (k n : Nat) : (leBytes k n).length = k := by
  induction k generalizing n <;> simp [leBytes, *]

theorem leValue_leBytes (k n : Nat) : leValue (leBytes k n) = n % 256 ^ k := by
  induction k generalizing n with
  | zero => simp [leBytes, leValue, Nat.mod_one]
  | succ k ih => rw [leBytes, leValue, ih, toNat_uint8_ofNat, pow_succ', Nat.mod_mul]

theorem leBytes_leValue (bs : Bytes) : leBytes bs.length (leValue bs) = bs := by
  induction bs with
  | nil => rfl
  | cons b bs ih =>
    have hb := b.toNat_lt
    simp only [List.length_cons, leBytes, leValue]
    congr 1
    · exact UInt8.ext (by rw [toNat_uint8_ofNat]; omega)
    · rw [show (b.toNat + 256 * leValue bs) / 256 = leValue bs by omega, ih]

/-- Equal encodings mean equal residues: the counter nonces below are distinct
as long as the counters are. -/
theorem leBytes_inj {k a b : Nat} (h : leBytes k a = leBytes k b) :
    a % 256 ^ k = b % 256 ^ k := by
  rw [← leValue_leBytes, ← leValue_leBytes, h]

/-- `binary.LittleEndian.PutUint16(b, uint16(n))`. -/
def putUint16 (n : Nat) : Bytes := leBytes 2 n

/-- `binary.LittleEndian.PutUint64(b, c)`. -/
def putUint64 (c : UInt64) : Bytes := leBytes 8 c.toNat

@[simp] theorem length_putUint16 (n : Nat) : (putUint16 n).length = 2 := length_leBytes 2 n

@[simp] theorem length_putUint64 (c : UInt64) : (putUint64 c).length = 8 := length_leBytes 8 _

theorem putUint64_inj {c d : UInt64} (h : putUint64 c = putUint64 d) : c = d := by
  have := leBytes_inj h
  have hc := c.toNat_lt_size
  have hd := d.toNat_lt_size
  exact UInt64.ext (by simp only [UInt64.size] at hc hd; omega)

/-! ## Keys and pairings -/

/-- A `[32]byte` symmetric key: the output of `hkdf.Sha512` and the key of every
ChaCha20-Poly1305 call. -/
structure Key where
  bytes : Bytes
  length_eq : bytes.length = 32
  deriving DecidableEq

/-- The zero value of a `[32]byte`, which a Go struct field holds until it is set. -/
def Key.zero : Key := ⟨List.replicate 32 0, by simp⟩

/-- `Pairing`: the pairing with a controller. `Name` is a Go `string`, so any bytes. -/
structure Pairing where
  name : Bytes
  publicKey : Bytes
  permission : UInt8
  deriving DecidableEq, Repr

/-! ## Protocol constants -/

/-- `Step1` … `Step6`: the State byte of pairing messages. -/
def step1 : UInt8 := 0x1
def step2 : UInt8 := 0x2
def step3 : UInt8 := 0x3
def step4 : UInt8 := 0x4
def step5 : UInt8 := 0x5
def step6 : UInt8 := 0x6

/-- Modelled from the spec: the permission byte of a `Pairing` (0 = user,
1 = admin); the constants are not under src/. -/
def permissionUser : UInt8 := 0
def permissionAdmin : UInt8 := 1

/-- Modelled from the spec: the Method byte of pairing requests. The spec names the
methods (Pair, MFi, AddPairing, DeletePairing, ListPairings) but not their codes;
these are the HAP codes. -/
def methodPair : UInt8 := 0
def methodPairMFi : UInt8 := 1
def methodAddPairing : UInt8 := 3
def methodDeletePairing : UInt8 := 4
def methodListPairings : UInt8 := 5

/-- Modelled from the spec: the TLV8 error codes (`TlvError…`); `InvalidRequest`
and `Authentication` share the code 2. -/
def tlvErrorUnknown : UInt8 := 1
def tlvErrorInvalidRequest : UInt8 := 2
def tlvErrorAuthentication : UInt8 := 2
def tlvErrorUnavailable : UInt8 := 6
def tlvErrorBusy : UInt8 := 7

/-- `PacketLengthMax`: the largest plaintext chunk of the encrypted stream. -/
def packetLengthMax : Nat := 0x400

/-! ## Readers -/

/-- The bytes of an ASCII string literal, as `[]byte("…")` gives them. -/
def ascii (s : String) : Bytes := s.toList.map fun c => c.toNat.toUInt8

/-- One `Read` call on a reader: the bytes it copied and whether it
returned `io.EOF` with them. -/
structure ReadResult where
  bytes : Bytes
  eof : Bool

/-- The `Read` results of a `bytes.Buffer` (or a regular file) holding `p`, each
into an `n`-byte buffer: the next `min n remaining` bytes with a nil error,
until it is empty. -/
def bufferReads : Nat → Bytes → List ReadResult
  | 0, _ => []
  | _, [] => []
  | k + 1, b :: bs => ⟨(b :: bs).take (k + 1), false⟩ :: bufferReads (k + 1) (bs.drop k)
termination_by _ p => p.length
decreasing_by simp only [List.length_drop, List.length_cons]; omega

@[simp] theorem bufferReads_zero (p : Bytes) : bufferReads 0 p = [] := by
  rw [bufferReads]

@[simp] theorem bufferReads_nil (n : Nat) : bufferReads n [] = [] := by
  cases n <;> rw [bufferReads]; omega

end Hap
