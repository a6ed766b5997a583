import Hap.Session.Transport

/-!
# Decrypting what `Encrypt` wrote

`decryptFrames_sealBuffer` is the one fact about the two loops together: on
the frames `Encrypt` writes for a buffer, followed by anything, `Decrypt` opens
the frames one by one, and stops after the last one exactly when that one is
short, i.e. when the buffer's length is not a multiple of `PacketLengthMax`.

* `decrypt_encrypt` — the round trip for sessions in lockstep;
* `decrypt_reads_past_full_message` — a message whose length is a multiple of
  `PacketLengthMax` is not delimited: `Decrypt` reads on into what follows.
-/

namespace Hap

variable {A : Aead}

/-- The frames `Encrypt` writes for a `bytes.Buffer` holding `p`, from counter `c`,
and the counter after them. -/
def sealBuffer (A : Aead) (key : Key) (c : UInt64) (p : Bytes) : List Frame × UInt64 :=
  sealPackets A key c (bufferPackets packetLengthMax p)

theorem bufferPackets_cons (k : Nat) (b : UInt8) (bs : Bytes) :
    bufferPackets (k + 1) (b :: bs) =
      ⟨((b :: bs).take (k + 1)).length, (b :: bs).take (k + 1)⟩ :: bufferPackets (k + 1) (bs.drop k) := by
  rw [bufferPackets, bufferReads]; rfl

theorem bufferPackets_max_cons (b : UInt8) (bs : Bytes) :
    bufferPackets packetLengthMax (b :: bs) =
      ⟨((b :: bs).take packetLengthMax).length, (b :: bs).take packetLengthMax⟩ ::
        bufferPackets packetLengthMax (bs.drop (packetLengthMax - 1)) :=
  bufferPackets_cons 1023 b bs

theorem sealBuffer_nil (key : Key) (c : UInt64) : sealBuffer A key c [] = ([], c) := by
  simp [sealBuffer, bufferPackets, sealPackets]

/-- The first frame of a non-empty buffer seals its first `PacketLengthMax` bytes. -/
theorem sealBuffer_cons (key : Key) (c : UInt64) (b : UInt8) (bs : Bytes) :
    sealBuffer A key c (b :: bs) =
      let chunk := (b :: bs).take packetLengthMax
      let rest := sealBuffer A key (c + 1) (bs.drop (packetLengthMax - 1))
      (sealFrame A key c ⟨chunk.length, chunk⟩ :: rest.1, rest.2) := by
  rw [sealBuffer, bufferPackets_max_cons, sealPackets]; rfl

/-- Decrypting what `Encrypt` wrote for a buffer `p`, followed by any stream `R`:
the frames come back one by one; if `p`'s length is not a multiple of
`PacketLengthMax`, its last frame is short and `Decrypt` stops there, leaving `R`;
otherwise it goes on reading `R`. -/
theorem decryptFrames_sealBuffer (hA : A.Correct) (key : Key) (R : Bytes) :
    ∀ (p acc : Bytes) (c : UInt64),
    decryptFrames A key acc c (wire (sealBuffer A key c p).1 ++ R) =
      if p.length % packetLengthMax = 0 then
        let more := decryptFrames A key (acc ++ p) (sealBuffer A key c p).2 R
        { more with read := (sealBuffer A key c p).1 ++ more.read }
      else ⟨.ok (acc ++ p), (sealBuffer A key c p).2, R, (sealBuffer A key c p).1⟩
  | [], acc, c => by simp [sealBuffer_nil]
  | b :: bs, acc, c => by
    rw [sealBuffer_cons]
    simp only [wire_cons, List.append_assoc]
    have hchunk : ((b :: bs).take packetLengthMax).length < 2 ^ 16 := by
      simp [packetLengthMax]; omega
    rw [decryptFrames_frame (readFrame_wire (sealFrame_wellFormed hA key c rfl hchunk) _)]
    simp only [sealFrame_lengthBytes, sealFrame_cipher, sealFrame_mac, leValue_putUint16 hchunk,
      hA.decrypt_seal]
    by_cases hshort : (b :: bs).length < packetLengthMax
    · -- the whole buffer fits in one short frame
      have htake : (b :: bs).take packetLengthMax = b :: bs := List.take_of_length_le hshort.le
      have hdrop : bs.drop (packetLengthMax - 1) = [] :=
        List.drop_eq_nil_of_le (by simp only [List.length_cons] at hshort; omega)
      have hmod : (b :: bs).length % packetLengthMax ≠ 0 := by
        rw [Nat.mod_eq_of_lt hshort]; simp
      simp only [htake, hdrop, sealBuffer_nil, if_pos hshort, if_neg hmod, wire_nil, List.nil_append]
      rfl
    · -- a full frame, then the rest of the buffer
      have hfull : ((b :: bs).take packetLengthMax).length = packetLengthMax := by
        simp only [List.length_take]; omega
      have hlen : (b :: bs).length = (bs.drop (packetLengthMax - 1)).length + packetLengthMax := by
        simp only [List.length_drop, List.length_cons, packetLengthMax] at hshort ⊢; omega
      rw [if_neg (by omega)]
      have ih := decryptFrames_sealBuffer hA key R (bs.drop (packetLengthMax - 1))
      rw [ih]
      have hsplit : ∀ n, 0 < n → (b :: bs).take n ++ bs.drop (n - 1) = b :: bs := by
        rintro (_ | n) h
        · omega
        · simp
      simp only [hlen, Nat.add_mod_right, List.append_assoc, hsplit packetLengthMax (by decide)]
      split <;> rfl
termination_by p => p.length
decreasing_by simp only [List.length_drop, List.length_cons]; omega


/-- `Decrypt` never gives back bytes: what it leaves unread is a suffix of its input. -/
theorem decryptFrames_rest_le (A : Aead) (key : Key) :
    ∀ (acc : Bytes) (c : UInt64) (r : Bytes), (decryptFrames A key acc c r).rest.length ≤ r.length
  | acc, c, r => by
    cases h : readFrame r with
    | eof => rw [decryptFrames_eof h]
    | failed e => rw [decryptFrames_failed h]; simp
    | frame lb b mac rest =>
      have hlt := readFrame_rest_lt h
      rw [decryptFrames_frame h]
      split
      · exact hlt.le
      · split
        · exact hlt.le
        · exact (decryptFrames_rest_le A key _ _ rest).trans hlt.le
termination_by _ _ r => r.length

theorem readFrame_ne_eof {r : Bytes} (hr : r ≠ []) : readFrame r ≠ .eof := by
  match r, hr with
  | [_], _ => simp [readFrame]
  | _ :: _ :: _, _ => simp only [readFrame]; split <;> [skip; split] <;> simp

/-- On a non-empty stream `Decrypt` reads at least one byte. -/
theorem decryptFrames_rest_lt (key : Key) (acc : Bytes) (c : UInt64) {r : Bytes} (hr : r ≠ []) :
    (decryptFrames A key acc c r).rest.length < r.length := by
  cases h : readFrame r with
  | eof => exact absurd h (readFrame_ne_eof hr)
  | failed e => rw [decryptFrames_failed h]; simpa [List.length_pos] using hr
  | frame lb b mac rest =>
    have hlt := readFrame_rest_lt h
    rw [decryptFrames_frame h]
    split
    · exact hlt
    · split
      · exact hlt
      · exact (decryptFrames_rest_le A key _ _ rest).trans_lt hlt

/-- **Round trip.** For sessions in lockstep (the receiver's decryption key and
counter are the sender's encryption key and counter), decrypting what `Encrypt`
wrote for a buffer gives the buffer back, and leaves the receiver's counter where
the sender's is. -/
theorem decrypt_encrypt (hA : A.Correct) (s t : Session) (p : Bytes)
    (hkey : t.decryptKey = s.encryptKey) (hcount : t.decryptCount = s.encryptCount) :
    ∃ w, (s.encrypt A (bufferReads packetLengthMax p)).1 = .ok w ∧
      (t.decrypt A w).result = .ok p ∧
      (t.afterDecrypt (t.decrypt A w)).decryptCount =
        (s.encrypt A (bufferReads packetLengthMax p)).2.encryptCount := by
  refine ⟨wire (sealBuffer A s.encryptKey s.encryptCount p).1, ?_⟩
  have h := decryptFrames_sealBuffer hA s.encryptKey [] p [] s.encryptCount
  rw [List.append_nil] at h
  simp only [Session.encrypt, encryptFrames_buffer, Session.decrypt, Session.afterDecrypt,
    hkey, hcount, h]
  refine ⟨rfl, ?_⟩
  split
  · rw [decryptFrames_nil]; exact ⟨rfl, rfl⟩
  · exact ⟨rfl, rfl⟩

/-- **Messages that fill their last frame are not delimited.** If the plaintext's
length is a multiple of `PacketLengthMax`, `Encrypt` writes no short final frame,
so `Decrypt` on its output followed by any non-empty `R` goes on into `R`. -/
theorem decrypt_reads_past_full_message (hA : A.Correct) (s t : Session) (p R : Bytes)
    (hkey : t.decryptKey = s.encryptKey) (hcount : t.decryptCount = s.encryptCount)
    (hfull : p.length % packetLengthMax = 0) (hR : R ≠ []) :
    ∃ w, (s.encrypt A (bufferReads packetLengthMax p)).1 = .ok w ∧
      (t.decrypt A (w ++ R)).rest ≠ R := by
  refine ⟨wire (sealBuffer A s.encryptKey s.encryptCount p).1, ?_, ?_⟩
  · simp only [Session.encrypt, encryptFrames_buffer, sealBuffer]; rfl
  · rw [Session.decrypt, hkey, hcount, decryptFrames_sealBuffer hA, if_pos hfull]
    intro heq
    exact absurd (congrArg List.length heq) (decryptFrames_rest_lt _ _ _ hR).ne

/-- The round trip at a three-byte message between two fresh sessions with the zero key. -/
theorem decrypt_encrypt_fresh :
    let s : Session := ⟨⟨[], [], 0⟩, Key.zero, Key.zero, 0, 0⟩
    (s.decryptKey = s.encryptKey ∧ s.decryptCount = s.encryptCount) ∧
    ∃ w, (s.encrypt Aead.transparent (bufferReads packetLengthMax [1, 2, 3])).1 = .ok w ∧
      (s.decrypt Aead.transparent w).result = .ok [1, 2, 3] ∧
      (s.afterDecrypt (s.decrypt Aead.transparent w)).decryptCount =
        (s.encrypt Aead.transparent (bufferReads packetLengthMax [1, 2, 3])).2.encryptCount :=
  ⟨⟨rfl, rfl⟩, decrypt_encrypt Aead.transparent_ideal.toCorrect _ _ _ rfl rfl⟩

/-- A message of `PacketLengthMax` zero bytes followed by one more byte. -/
theorem decrypt_reads_past_full_message_1024 :
    let s : Session := ⟨⟨[], [], 0⟩, Key.zero, Key.zero, 0, 0⟩
    let p : Bytes := List.replicate packetLengthMax 0
    (s.decryptKey = s.encryptKey ∧ s.decryptCount = s.encryptCount ∧
      p.length % packetLengthMax = 0 ∧ [(0 : UInt8)] ≠ []) ∧
    ∃ w, (s.encrypt Aead.transparent (bufferReads packetLengthMax p)).1 = .ok w ∧
      (s.decrypt Aead.transparent (w ++ [0])).rest ≠ [0] :=
  ⟨⟨rfl, rfl, by simp, by simp⟩,
    decrypt_reads_past_full_message Aead.transparent_ideal.toCorrect _ _ _ _ rfl rfl (by simp) (by simp)⟩

end Hap
