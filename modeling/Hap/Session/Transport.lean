import Hap.Crypto

/-!
# The encrypted session transport (`session.go`)

After pair-verify every byte of a connection is a frame

    [ length : u16 LE ] [ ciphertext : length bytes ] [ tag : 16 bytes ]

sealed under the session's key for its direction, with the direction's 64-bit
counter as nonce and the two length bytes as AAD.

* `packetsWithSizeFromBytes` cuts the plaintext reader into packets; the
  reader is the list of results of its `Read` calls (`ReadResult`), and
  `bufferReads` is that list for a `bytes.Buffer`. For any reader
  (`packetsWithSizeFromBytes_reader`) the loop stops at the first short read,
  so the packets hold all the bytes only when short reads come at the end;
* `Session.encrypt` seals the packets (`sealPackets`), one counter value each;
* `Session.decrypt` reads frames (`readFrame`) and opens them
  (`decryptFrames`) until a frame shorter than `PacketLengthMax`, the end of
  the stream, or an error.

Both functions also return the frames they sealed or read (`Frame`): Go only
writes them to the wire, the proofs talk about them. The nonce of a frame is
not kept with it; the proofs state it as the argument handed to
`encryptAndSeal` or `decryptAndVerify`.
-/

namespace Hap

theorem toNat_uint64_ofNat (n : Nat) : (UInt64.ofNat n).toNat = n % 2 ^ 64 := by
  simp [UInt64.ofNat, UInt64.toNat]

theorem uint64_add_ofNat_succ (c : UInt64) (n : Nat) :
    c + 1 + UInt64.ofNat n = c + UInt64.ofNat (n + 1) := by
  apply UInt64.ext
  simp only [UInt64.toNat_add, toNat_uint64_ofNat, show (1 : UInt64).toNat = 1 from rfl,
    UInt64.size]
  omega

theorem uint64_add_ofNat_zero (c : UInt64) : c + UInt64.ofNat 0 = c :=
  UInt64.ext (by simp [toNat_uint64_ofNat])

/-- `packet`. -/
structure Packet where
  length : Nat
  value : Bytes

/-- `packetsWithSizeFromBytes(length, r)`. The reader is the list of results of
its successive `Read` calls, each into a fresh `length`-byte buffer; once the list
is used up it returns `0, io.EOF`. A read longer than the buffer is Go's
`panic("Invalid length")`, here the `.error`. -/
def packetsWithSizeFromBytes (length : Nat) : List ReadResult → Except String (List Packet)
  | [] => .ok []
  | r :: rs =>
    if r.bytes.length = 0 then .ok []
    else if length < r.bytes.length then .error "Invalid length"
    else if r.bytes.length < length ∨ r.eof = true then .ok [⟨r.bytes.length, r.bytes⟩]
    else (packetsWithSizeFromBytes length rs).map (⟨r.bytes.length, r.bytes⟩ :: ·)

/-- `packetsFromBytes`. -/
def packetsFromBytes (rs : List ReadResult) : Except String (List Packet) :=
  packetsWithSizeFromBytes packetLengthMax rs

/-- The packets of a buffer: its `n`-byte chunks, the last one possibly shorter. -/
def bufferPackets (n : Nat) (p : Bytes) : List Packet :=
  (bufferReads n p).map fun r => ⟨r.bytes.length, r.bytes⟩

/-- A buffer is never cut with a panic: its packets are its chunks. -/
theorem packetsWithSizeFromBytes_bufferReads (n : Nat) (p : Bytes) :
    packetsWithSizeFromBytes n (bufferReads n p) = .ok (bufferPackets n p) := by
  induction n, p using bufferReads.induct with
  | case1 p => simp [bufferPackets, packetsWithSizeFromBytes]
  | case2 n hn => simp [bufferPackets, packetsWithSizeFromBytes]
  | case3 k b bs ih =>
    rw [bufferPackets, bufferReads, List.map_cons, packetsWithSizeFromBytes]
    simp only [List.length_take, List.length_cons, Bool.false_eq_true, or_false]
    rw [if_neg (by omega), if_neg (by omega)]
    split
    · have : bs.drop k = [] := List.drop_eq_nil_of_le (by omega)
      simp [this]
    · rw [ih, bufferPackets]; rfl

/-! ## Any reader -/

/-- The bytes a reader yields before `io.EOF`: those of every `Read` up to and
including the first that returns `io.EOF`. -/
def readerBytes : List ReadResult → Bytes
  | [] => []
  | r :: rs => if r.eof then r.bytes else r.bytes ++ readerBytes rs

/-- Whether a reader returns fewer bytes than the `length`-byte buffer only
when nothing is left to read (as `bytes.Buffer` does). -/
def shortReadsAtEnd (length : Nat) : List ReadResult → Bool
  | [] => true
  | r :: rs =>
    if r.eof then true
    else if r.bytes.length < length then (readerBytes rs).isEmpty
    else shortReadsAtEnd length rs

/-- **Packets of any reader.** Take `length > 0` and a reader whose reads never
exceed the buffer. The packets are non-empty, their length fields are their
lengths, at most `length`, and all but the last have length `length`. Their
bytes are a prefix of what the reader yields, and they are all of it exactly
when the reader returns a short read only when nothing is left: the loop
stops at the first short read. -/
theorem packetsWithSizeFromBytes_reader {length : Nat} (hL : 0 < length) :
    ∀ (rs : List ReadResult), (∀ r ∈ rs, r.bytes.length ≤ length) →
      ∃ ps, packetsWithSizeFromBytes length rs = .ok ps ∧
        (∀ p ∈ ps, 0 < p.length ∧ p.length = p.value.length ∧ p.length ≤ length) ∧
        (∀ p ∈ ps.dropLast, p.length = length) ∧
        ps.flatMap Packet.value <+: readerBytes rs ∧
        (ps.flatMap Packet.value = readerBytes rs ↔ shortReadsAtEnd length rs = true)
  | [], _ => ⟨[], rfl, by simp, by simp, List.prefix_refl _, by simp [readerBytes, shortReadsAtEnd]⟩
  | r :: rs, hrs => by
    have hr := hrs r (List.mem_cons_self _ _)
    by_cases h0 : r.bytes.length = 0
    · -- an empty read ends the loop
      refine ⟨[], by simp [packetsWithSizeFromBytes, h0], by simp, by simp, List.nil_prefix, ?_⟩
      have hnil : r.bytes = [] := List.eq_nil_of_length_eq_zero h0
      by_cases he : r.eof
      · simp [readerBytes, shortReadsAtEnd, he, hnil]
      · simp [readerBytes, shortReadsAtEnd, he, hnil, hL]
    by_cases hend : r.bytes.length < length ∨ r.eof = true
    · -- a short read, or one with `io.EOF`, is the last packet
      refine ⟨[⟨r.bytes.length, r.bytes⟩], ?_, by simp; omega, by simp, ?_, ?_⟩
      · simp [packetsWithSizeFromBytes, h0, hend, Nat.not_lt.2 hr]
      · by_cases he : r.eof <;> simp [readerBytes, he]
      · rcases hend with hs | he
        · by_cases he : r.eof <;> simp [readerBytes, shortReadsAtEnd, he, hs]
        · simp [readerBytes, shortReadsAtEnd, he]
    · -- a full read: the loop goes on
      push_neg at hend
      obtain ⟨ps, hps, hlen, hfull, hpre, hall⟩ := packetsWithSizeFromBytes_reader hL rs fun r' h => hrs r' (List.mem_cons_of_mem _ h)
      have hfl : r.bytes.length = length := by omega
      have he : r.eof = false := by simpa using hend.2
      refine ⟨⟨r.bytes.length, r.bytes⟩ :: ps, ?_, ?_, ?_, ?_, ?_⟩
      · simp [packetsWithSizeFromBytes, h0, Nat.not_lt.2 hr, hend.1.not_lt, he, hps, Except.map]
      · intro p hp
        rcases List.mem_cons.1 hp with rfl | hp
        · exact ⟨Nat.pos_of_ne_zero h0, rfl, hr⟩
        · exact hlen p hp
      · intro p hp
        cases ps with
        | nil => simp at hp
        | cons q qs =>
          rw [List.dropLast_cons₂, List.mem_cons] at hp
          exact hp.elim (fun h => h ▸ hfl) (hfull p)
      · simpa [readerBytes, he] using hpre
      · simp [readerBytes, shortReadsAtEnd, he, hend.1.not_lt, hall]

/-- A reader that returns one byte and then, with `io.EOF`, another, read
into two-byte buffers: the packets hold the first byte only. -/
theorem packetsWithSizeFromBytes_reader_short :
    let rs : List ReadResult := [⟨[1], false⟩, ⟨[2], true⟩]
    (0 < 2 ∧ ∀ r ∈ rs, r.bytes.length ≤ 2) ∧
    (∃ ps, packetsWithSizeFromBytes 2 rs = .ok ps ∧
      (∀ p ∈ ps, 0 < p.length ∧ p.length = p.value.length ∧ p.length ≤ 2) ∧
      (∀ p ∈ ps.dropLast, p.length = 2) ∧
      ps.flatMap Packet.value <+: readerBytes rs ∧
      (ps.flatMap Packet.value = readerBytes rs ↔ shortReadsAtEnd 2 rs = true)) ∧
    packetsWithSizeFromBytes 2 rs = .ok [⟨1, [1]⟩] ∧ readerBytes rs = [1, 2] := by
  intro rs
  have hrs : ∀ r ∈ rs, r.bytes.length ≤ 2 := by decide
  exact ⟨⟨by decide, hrs⟩, packetsWithSizeFromBytes_reader (by decide) rs hrs, rfl, rfl⟩

/-! ## Sessions -/

/-- `Session`: the pairing of the verified controller, a key and a `uint64`
counter for each direction. -/
structure Session where
  pairing : Pairing
  encryptKey : Key
  decryptKey : Key
  encryptCount : UInt64
  decryptCount : UInt64

/-- `NewSession(shared, p)`: both keys from `hkdf.Sha512`, both counters zero.
Like Go it returns no session on the first derivation's error, and the
session together with the second derivation's error. -/
def newSession (H : Hkdf) (shared : Bytes) (p : Pairing) : Option Session × Option String :=
  match H.sha512 shared (ascii "Control-Salt") (ascii "Control-Read-Encryption-Key") with
  | (_, some e) => (none, some e)
  | (encryptKey, none) =>
    let (decryptKey, err) := H.sha512 shared (ascii "Control-Salt") (ascii "Control-Write-Encryption-Key")
    (some ⟨p, encryptKey, decryptKey, 0, 0⟩, err)

/-- Whatever the derivations return, a new session's counters are zero. -/
theorem newSession_counts {H : Hkdf} {shared : Bytes} {p : Pairing} {s : Session}
    (h : (newSession H shared p).1 = some s) :
    s.encryptCount = 0 ∧ s.decryptCount = 0 ∧ s.pairing = p := by
  unfold newSession at h
  split at h
  · cases h
  · cases h; exact ⟨rfl, rfl, rfl⟩

/-- With derivations that do not fail, `NewSession` returns a session bound
to the pairing. -/
theorem newSession_of_total {H : Hkdf} (hH : H.Total) (shared : Bytes) (p : Pairing) :
    ∃ s, newSession H shared p = (some s, none) ∧ s.pairing = p := by
  obtain ⟨e, he⟩ : ∃ e, H.sha512 shared (ascii "Control-Salt") (ascii "Control-Read-Encryption-Key") =
      (e, none) := ⟨_, Prod.ext rfl (hH _ _ _)⟩
  obtain ⟨d, hd⟩ : ∃ d, H.sha512 shared (ascii "Control-Salt") (ascii "Control-Write-Encryption-Key") =
      (d, none) := ⟨_, Prod.ext rfl (hH _ _ _)⟩
  exact ⟨⟨p, e, d, 0, 0⟩, by rw [newSession, he]; simp only [hd], rfl⟩

/-! ## Frames -/

/-- One frame as the transport handles it: the two length bytes, the ciphertext
and the tag. -/
structure Frame where
  lengthBytes : Bytes
  cipher : Bytes
  mac : Bytes

/-- What a frame puts on the wire (`buf.Write` of length, ciphertext, tag). -/
def Frame.wire (f : Frame) : Bytes := f.lengthBytes ++ f.cipher ++ f.mac

/-- The wire image of a frame sequence. -/
def wire (fs : List Frame) : Bytes := (fs.map Frame.wire).flatten

@[simp] theorem wire_nil : wire [] = [] := rfl

@[simp] theorem wire_cons (f : Frame) (fs : List Frame) : wire (f :: fs) = f.wire ++ wire fs := rfl

theorem wire_append (fs gs : List Frame) : wire (fs ++ gs) = wire fs ++ wire gs := by
  simp [wire]

/-! ## `Encrypt` -/

/-- The body of `Session.Encrypt`'s loop: packet `q` sealed under `LE64(c)`, with
its `uint16` length as AAD. -/
def sealFrame (A : Aead) (key : Key) (c : UInt64) (q : Packet) : Frame :=
  let bLength := putUint16 q.length
  let sealed := A.encryptAndSeal key (putUint64 c) q.value bLength
  ⟨bLength, sealed.1, sealed.2⟩

/-- The loop of `Session.Encrypt` from counter `c`: one frame per packet, the
counter going up by one each time. -/
def sealPackets (A : Aead) (key : Key) : UInt64 → List Packet → List Frame × UInt64
  | c, [] => ([], c)
  | c, q :: qs =>
    let rest := sealPackets A key (c + 1) qs
    (sealFrame A key c q :: rest.1, rest.2)

/-- `Session.Encrypt(r)` at the level of frames: the frames sealed, and the
session with its advanced `encryptCount`. -/
def Session.encryptFrames (A : Aead) (s : Session) (r : List ReadResult) :
    Except String (List Frame) × Session :=
  match packetsFromBytes r with
  | .error e => (.error e, s)
  | .ok ps =>
    let sealed := sealPackets A s.encryptKey s.encryptCount ps
    (.ok sealed.1, { s with encryptCount := sealed.2 })

/-- `Session.Encrypt(r)`: the bytes of the returned buffer. -/
def Session.encrypt (A : Aead) (s : Session) (r : List ReadResult) : Except String Bytes × Session :=
  ((s.encryptFrames A r).1.map wire, (s.encryptFrames A r).2)

@[simp] theorem sealPackets_length (A : Aead) (key : Key) (c : UInt64) (ps : List Packet) :
    (sealPackets A key c ps).1.length = ps.length := by
  induction ps generalizing c <;> simp [sealPackets, *]

theorem sealPackets_count (A : Aead) (key : Key) (c : UInt64) (ps : List Packet) :
    (sealPackets A key c ps).2 = c + UInt64.ofNat ps.length := by
  induction ps generalizing c with
  | nil => apply UInt64.ext; simp [sealPackets]
  | cons p ps ih => simp only [sealPackets, ih, List.length_cons, uint64_add_ofNat_succ]

/-- A buffer's encryption seals its packets from the session's counter. -/
theorem encryptFrames_buffer (A : Aead) (s : Session) (p : Bytes) :
    s.encryptFrames A (bufferReads packetLengthMax p) =
      (.ok (sealPackets A s.encryptKey s.encryptCount (bufferPackets packetLengthMax p)).1,
        { s with encryptCount :=
          (sealPackets A s.encryptKey s.encryptCount (bufferPackets packetLengthMax p)).2 }) := by
  simp only [Session.encryptFrames, packetsFromBytes, packetsWithSizeFromBytes_bufferReads]

/-! ## `Decrypt` -/

/-- The outcome of the three `binary.Read` calls of one iteration of `Decrypt`:
the stream ended before the length (`io.EOF`, which ends the loop), a read came
up short (`io.EOF` or `io.ErrUnexpectedEOF`, an error), or a whole frame. -/
inductive FrameRead where
  | eof
  | failed (err : String)
  | frame (lengthBytes cipher mac rest : Bytes)

/-- The error `io.ReadFull` reports when the stream holds fewer bytes than asked. -/
def shortReadError (r : Bytes) : String := if r = [] then "EOF" else "unexpected EOF"

/-- One frame off the stream: two length bytes, that many ciphertext bytes, and
the 16-byte tag. -/
def readFrame : Bytes → FrameRead
  | [] => .eof
  | [_] => .failed "unexpected EOF"
  | b0 :: b1 :: r =>
    let length := leValue [b0, b1]
    if r.length < length then .failed (shortReadError r)
    else if (r.drop length).length < 16 then .failed (shortReadError (r.drop length))
    else .frame [b0, b1] (r.take length) ((r.drop length).take 16) ((r.drop length).drop 16)

theorem readFrame_rest_lt {r lb b mac rest : Bytes} (h : readFrame r = .frame lb b mac rest) :
    rest.length < r.length := by
  match r, h with
  | b0 :: b1 :: r, h =>
    simp only [readFrame] at h
    split at h
    · cases h
    · split at h
      · cases h
      · cases h; simp only [List.length_drop, List.length_cons]; omega

/-- What `readFrame` found: two length bytes, that many ciphertext bytes and a
16-byte tag at the start of the stream. -/
theorem readFrame_frame {r lb b mac rest : Bytes} (h : readFrame r = .frame lb b mac rest) :
    r = lb ++ b ++ mac ++ rest ∧ lb.length = 2 ∧ b.length = leValue lb ∧ mac.length = 16 := by
  match r, h with
  | b0 :: b1 :: r, h =>
    simp only [readFrame] at h
    split at h
    · cases h
    · split at h
      · cases h
      · cases h
        refine ⟨?_, rfl, ?_, ?_⟩
        · simp
        · simp only [List.length_take]; omega
        · simp only [List.length_take, List.length_drop] at *; omega

/-- A frame as `Encrypt` writes it: length bytes giving its ciphertext's length,
which fits in a `uint16`, and a 16-byte tag. -/
def Frame.WellFormed (f : Frame) : Prop :=
  f.lengthBytes = putUint16 f.cipher.length ∧ f.cipher.length < 2 ^ 16 ∧ f.mac.length = 16

theorem leValue_putUint16 {n : Nat} (h : n < 2 ^ 16) : leValue (putUint16 n) = n := by
  rw [putUint16, leValue_leBytes]; exact Nat.mod_eq_of_lt h

/-- `Decrypt` reads back exactly the frame `Encrypt` wrote, whatever follows it. -/
theorem readFrame_wire {f : Frame} (hf : f.WellFormed) (R : Bytes) :
    readFrame (f.wire ++ R) = .frame f.lengthBytes f.cipher f.mac R := by
  obtain ⟨hlb, hlen, hmac⟩ := hf
  have hv := leValue_putUint16 hlen
  rw [← hlb] at hv
  obtain ⟨b0, b1, hb⟩ : ∃ b0 b1, f.lengthBytes = [b0, b1] :=
    match f.lengthBytes, (by rw [hlb]; rfl : f.lengthBytes.length = 2) with
    | [b0, b1], _ => ⟨b0, b1, rfl⟩
  rw [hb] at hv
  rw [Frame.wire, hb]
  simp only [List.cons_append, List.nil_append, readFrame, hv, List.append_assoc,
    List.length_append, List.drop_left, hmac, List.take_left, List.take_left' hmac,
    List.drop_left' hmac]
  simp

@[simp] theorem sealFrame_lengthBytes (A : Aead) (key : Key) (c : UInt64) (q : Packet) :
    (sealFrame A key c q).lengthBytes = putUint16 q.length := rfl

@[simp] theorem sealFrame_cipher (A : Aead) (key : Key) (c : UInt64) (q : Packet) :
    (sealFrame A key c q).cipher = (A.encryptAndSeal key (putUint64 c) q.value (putUint16 q.length)).1 :=
  rfl

@[simp] theorem sealFrame_mac (A : Aead) (key : Key) (c : UInt64) (q : Packet) :
    (sealFrame A key c q).mac = (A.encryptAndSeal key (putUint64 c) q.value (putUint16 q.length)).2 :=
  rfl

/-- Under a correct AEAD, a packet whose length field is its length, below `2^16`,
is sealed into a well-formed frame. -/
theorem sealFrame_wellFormed {A : Aead} (hA : A.Correct) (key : Key) (c : UInt64) {q : Packet}
    (hq : q.length = q.value.length) (hlt : q.length < 2 ^ 16) : (sealFrame A key c q).WellFormed :=
  ⟨by simp [hA.length_cipher, hq], by simpa [hA.length_cipher, ← hq] using hlt, hA.length_mac _ _ _ _⟩

/-- What the `Decrypt` loop leaves behind: its result, the counter, the unread
stream, and the frames it read. -/
structure Decrypted where
  result : Except String Bytes
  count : UInt64
  rest : Bytes
  read : List Frame

/-- The loop of `Session.Decrypt` with the plaintext so far `acc` and counter `c`.
The counter goes up before the tag is checked, so a frame that fails still uses
its nonce; a frame shorter than `PacketLengthMax` ends the message. -/
def decryptFrames (A : Aead) (key : Key) (acc : Bytes) (c : UInt64) (r : Bytes) : Decrypted :=
  match h : readFrame r with
  | .eof => ⟨.ok acc, c, r, []⟩
  | .failed e => ⟨.error e, c, [], []⟩
  | .frame lb b mac rest =>
    let f : Frame := ⟨lb, b, mac⟩
    match A.decryptAndVerify key (putUint64 c) b mac (putUint16 (leValue lb)) with
    | .error e => ⟨.error ("Data encryption failed " ++ e), c + 1, rest, [f]⟩
    | .ok d =>
      if leValue lb < packetLengthMax then ⟨.ok (acc ++ d), c + 1, rest, [f]⟩
      else
        have := readFrame_rest_lt h
        let more := decryptFrames A key (acc ++ d) (c + 1) rest
        { more with read := f :: more.read }
termination_by r.length

theorem decryptFrames_eof {A : Aead} {key : Key} {acc : Bytes} {c : UInt64} {r : Bytes}
    (h : readFrame r = .eof) : decryptFrames A key acc c r = ⟨.ok acc, c, r, []⟩ := by
  rw [decryptFrames]; split <;> simp_all

/-- On an empty stream `Decrypt` returns what it has. -/
@[simp] theorem decryptFrames_nil (A : Aead) (key : Key) (acc : Bytes) (c : UInt64) :
    decryptFrames A key acc c [] = ⟨.ok acc, c, [], []⟩ :=
  decryptFrames_eof rfl

theorem decryptFrames_failed {A : Aead} {key : Key} {acc : Bytes} {c : UInt64} {r : Bytes}
    {e : String} (h : readFrame r = .failed e) :
    decryptFrames A key acc c r = ⟨.error e, c, [], []⟩ := by
  rw [decryptFrames]; split <;> simp_all

/-- One iteration of `Decrypt` on a stream that starts with a whole frame. -/
theorem decryptFrames_frame {A : Aead} {key : Key} {acc : Bytes} {c : UInt64}
    {r lb b mac rest : Bytes} (h : readFrame r = .frame lb b mac rest) :
    decryptFrames A key acc c r =
      match A.decryptAndVerify key (putUint64 c) b mac (putUint16 (leValue lb)) with
      | .error e => ⟨.error ("Data encryption failed " ++ e), c + 1, rest, [⟨lb, b, mac⟩]⟩
      | .ok d =>
        if leValue lb < packetLengthMax then
          ⟨.ok (acc ++ d), c + 1, rest, [⟨lb, b, mac⟩]⟩
        else
          let more := decryptFrames A key (acc ++ d) (c + 1) rest
          { more with read := ⟨lb, b, mac⟩ :: more.read } := by
  rw [decryptFrames]; split <;> rename_i heq <;> rw [h] at heq <;> cases heq; rfl

/-- `Session.Decrypt(r)` on a stream holding `r`. -/
def Session.decrypt (A : Aead) (s : Session) (r : Bytes) : Decrypted :=
  decryptFrames A s.decryptKey [] s.decryptCount r

/-- The session after `Decrypt`: only `decryptCount` moves. -/
def Session.afterDecrypt (s : Session) (d : Decrypted) : Session :=
  { s with decryptCount := d.count }

end Hap
