import Hap.Basic

/-!
# The cryptographic libraries, as contracts

The core calls ChaCha20-Poly1305, HKDF-SHA512, Ed25519 and SRP-6a through thin
wrappers whose code is not part of the core. Each library is a structure of
functions, and each law the proofs use is a field of a `Prop` structure beside
it, so that every theorem holds for every library meeting the law:

* `Aead` — `chacha20poly1305.EncryptAndSeal` / `DecryptAndVerify`;
  `Aead.Correct` is the correctness law, `Aead.Ideal` the ideal-cipher law;
* `Ed25519` — `ed25519.ValidateSignature` / `Signature`; `Ed25519.Correct`;
* `Srp` — the `srp.ServerSession` calls of pair-setup;
* `Hkdf` — `hkdf.Sha512`, a 32-byte key together with an error.

`Aead.transparent`, `Ed25519.transparent`, `Hkdf.zero` and `Srp.trivial` are
lawful instances, so that the laws are satisfiable and theorems that assume
them have witnesses.
-/

namespace Hap

/-! ## ChaCha20-Poly1305 -/

/-- The wrapper `chacha20poly1305`. `EncryptAndSeal(key, nonce, message, add)`
returns the ciphertext and the 16-byte tag; its error result is returned only
for a key that is not 32 bytes long, which `Key` rules out, so sealing is total.
`DecryptAndVerify(key, nonce, message, mac, add)` fails on a bad tag. -/
structure Aead where
  encryptAndSeal : Key → Bytes → Bytes → Bytes → Bytes × Bytes
  decryptAndVerify : Key → Bytes → Bytes → Bytes → Bytes → Except String Bytes

/-- The correctness law: a sealed frame opens under the same key, nonce and AAD
to its message; the ciphertext is as long as the message (a stream cipher) and
the tag is 16 bytes. -/
structure Aead.Correct (A : Aead) : Prop where
  length_cipher : ∀ k n m a, (A.encryptAndSeal k n m a).1.length = m.length
  length_mac : ∀ k n m a, (A.encryptAndSeal k n m a).2.length = 16
  decrypt_seal : ∀ k n m a,
    A.decryptAndVerify k n (A.encryptAndSeal k n m a).1 (A.encryptAndSeal k n m a).2 a = .ok m

/-- The ideal law: a frame opens only if it is exactly the seal, under this key,
nonce and AAD, of what it opens to; and a seal is bound to its (8-byte) nonce. -/
structure Aead.Ideal (A : Aead) extends A.Correct : Prop where
  sealed_of_decrypt : ∀ k n c t a m,
    A.decryptAndVerify k n c t a = .ok m → A.encryptAndSeal k n m a = (c, t)
  nonce_bound : ∀ k n n' m m' a a', n.length = 8 → n'.length = 8 →
    A.encryptAndSeal k n m a = A.encryptAndSeal k n' m' a' → n = n'

/-- A lawful instance: the message travels in clear and the tag is the nonce
and the AAD, padded to 16 bytes. It ignores the key, which the laws allow. -/
def Aead.transparent : Aead where
  encryptAndSeal _ n m a := (m, (n ++ a ++ List.replicate 16 0).take 16)
  decryptAndVerify _ n c t a :=
    if t = (n ++ a ++ List.replicate 16 0).take 16 then .ok c else .error "message authentication failed"

theorem Aead.transparent_ideal : Aead.transparent.Ideal where
  length_cipher _ _ _ _ := rfl
  length_mac _ _ _ _ := by simp [Aead.transparent]; omega
  decrypt_seal _ _ _ _ := by simp [Aead.transparent]
  sealed_of_decrypt _ _ _ _ _ _ h := by
    simp only [Aead.transparent] at h ⊢
    split at h
    · cases h; simp [*]
    · cases h
  nonce_bound _ n n' _ _ _ _ hn hn' h := by
    have := congrArg (List.take 8) (Prod.mk.inj h).2
    simp only [List.take_take, show min 8 16 = 8 from rfl, List.append_assoc] at this
    rwa [List.take_left' hn, List.take_left' hn'] at this

/-! ## Ed25519 -/

/-- The wrapper `ed25519`: `ValidateSignature(key, data, signature)` and
`Signature(privateKey, data)`; `publicKey` is the public half of a private key. -/
structure Ed25519 where
  validateSignature : Bytes → Bytes → Bytes → Bool
  signature : Bytes → Bytes → Except String Bytes
  publicKey : Bytes → Bytes

/-- The correctness law: a signature made with a private key validates under its
public key. -/
structure Ed25519.Correct (E : Ed25519) : Prop where
  validate_signature : ∀ sk m s, E.signature sk m = .ok s →
    E.validateSignature (E.publicKey sk) m s = true
  /-- `Signature` fails only on a private key that is not 64 bytes long. -/
  signature_ok : ∀ sk m, sk.length = 64 → ∃ s, E.signature sk m = .ok s

/-- A lawful instance: the signature is the key followed by the data. -/
def Ed25519.transparent : Ed25519 where
  validateSignature pk m s := s == pk ++ m
  signature sk m := .ok (sk ++ m)
  publicKey sk := sk

theorem Ed25519.transparent_correct : Ed25519.transparent.Correct where
  validate_signature _ _ _ h := by
    simp only [Ed25519.transparent, Except.ok.injEq] at h
    simp [Ed25519.transparent, h]
  signature_ok sk m _ := ⟨sk ++ m, rfl⟩

/-! ## HKDF-SHA512 -/

/-- The wrapper `hkdf.Sha512(master, salt, info)`: 32 bytes read from the HKDF
reader and the reader's error. Callers that ignore the error still use the key. -/
structure Hkdf where
  sha512 : Bytes → Bytes → Bytes → Key × Option String

/-- Reading 32 bytes from an HKDF-SHA512 reader never fails (the limit is
`255 · 64` bytes). -/
def Hkdf.Total (H : Hkdf) : Prop := ∀ master salt info, (H.sha512 master salt info).2 = none

/-- A total instance for witnesses: the zero key. -/
def Hkdf.zero : Hkdf := ⟨fun _ _ _ => (Key.zero, none)⟩

theorem Hkdf.zero_total : Hkdf.zero.Total := fun _ _ _ => rfl

/-! ## SRP-6a -/

/-- The calls of `github.com/tadglines/go-pkgs/crypto/srp` that pair-setup makes,
over the server session's state `σ`: `NewSRP(SRPGroup, sha512.New, kdf)`,
`ComputeVerifier(pin)` (salt and verifier), `NewServerSession(name, salt, v)`,
`GetB`, `ComputeKey(A)` (the shared `S`, updating the session),
`VerifyClientAuthenticator(M1)` and `ComputeAuthenticator(M1)`. -/
structure Srp (σ : Type) where
  newSRP : Except String Unit
  computeVerifier : Bytes → Except String (Bytes × Bytes)
  newServerSession : Bytes → Bytes → Bytes → σ
  getB : σ → Bytes
  computeKey : σ → Bytes → Except String (Bytes × σ)
  verifyClientAuthenticator : σ → Bytes → Bool
  computeAuthenticator : σ → Bytes → Bytes

/-- The two calls of `NewPairSetupSession` that can fail succeed. -/
def Srp.Total {σ : Type} (S : Srp σ) : Prop :=
  S.newSRP = .ok () ∧ ∀ pin, ∃ sv, S.computeVerifier pin = .ok sv

/-- A total instance for witnesses, over a trivial session state: it accepts
every client key and rejects every client proof. -/
def Srp.trivial : Srp Unit where
  newSRP := .ok ()
  computeVerifier _ := .ok ([], [])
  newServerSession _ _ _ := ()
  getB _ := []
  computeKey _ _ := .ok ([], ())
  verifyClientAuthenticator _ _ := false
  computeAuthenticator _ _ := []

theorem Srp.trivial_total : Srp.trivial.Total := ⟨rfl, fun _ => ⟨_, rfl⟩⟩

end Hap
