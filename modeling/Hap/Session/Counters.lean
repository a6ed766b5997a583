import Hap.Session.RoundTrip

/-!
# Counters and nonces over the life of a session

A session is driven by a sequence of `Call`s, `Encrypt` of an in-memory buffer
or `Decrypt` of a stream (`Session.call`, `Session.run`). A nonce is stated as
the argument handed to the AEAD: a frame is `SealedUnder` the nonce
`encryptAndSeal` was called with, and `Continues` when `decryptAndVerify` opens
it under a nonce at full length. The step lemma `call_sealed` says one call
seals its frames under the next values of the encryption counter and moves the
counter past them; `run_sealed` carries it over a whole run. With
`putUint64_add_inj` this is nonce uniqueness below `2^64` frames.
`decryptFrames_consumes` is the matching fact for `Decrypt`'s counter, told by
the bytes it consumes (`DecryptConsumes`), and `session_counters` gathers the
four properties of the counters. `run_nonces_nodup_iff` says where the nonces
first repeat: after `2^64` frames, whatever the counter's start.
-/

namespace Hap

variable {A : Aead}

/-- The nonces `LE64(c)`, `LE64(c + 1)`, …, `k` of them. -/
def counterNonces (c : UInt64) (k : Nat) : List Bytes :=
  (List.range k).map fun i => putUint64 (c + UInt64.ofNat i)

@[simp] theorem counterNonces_zero (c : UInt64) : counterNonces c 0 = [] := rfl

theorem counterNonces_succ (c : UInt64) (k : Nat) :
    counterNonces c (k + 1) = putUint64 c :: counterNonces (c + 1) k := by
  simp only [counterNonces, List.range_succ_eq_map, List.map_cons, List.map_map]
  congr 1
  · congr 1; apply UInt64.ext; simp [toNat_uint64_ofNat]
  · congr 1; funext i; simp [uint64_add_ofNat_succ]

theorem counterNonces_add (c : UInt64) (k m : Nat) :
    counterNonces c (k + m) = counterNonces c k ++ counterNonces (c + UInt64.ofNat k) m := by
  induction k generalizing c with
  | zero => simp [show c + UInt64.ofNat 0 = c from UInt64.ext (by simp [toNat_uint64_ofNat])]
  | succ k ih =>
    rw [Nat.add_right_comm, counterNonces_succ, counterNonces_succ, ih, uint64_add_ofNat_succ]; rfl

@[simp] theorem length_counterNonces (c : UInt64) (k : Nat) : (counterNonces c k).length = k := by
  simp [counterNonces]

theorem counterNonces_get (c : UInt64) (k i : Nat) (h : i < (counterNonces c k).length) :
    (counterNonces c k).get ⟨i, h⟩ = putUint64 (c + UInt64.ofNat i) := by
  simp [counterNonces]

/-- Counter values below `2^64` steps apart give distinct nonces. -/
theorem putUint64_add_inj {c : UInt64} {i j : Nat} (hi : c.toNat + i < 2 ^ 64)
    (hj : c.toNat + j < 2 ^ 64) (h : putUint64 (c + UInt64.ofNat i) = putUint64 (c + UInt64.ofNat j)) :
    i = j := by
  have := congrArg UInt64.toNat (putUint64_inj h)
  simp only [UInt64.toNat_add, toNat_uint64_ofNat, UInt64.size] at this
  omega

/-- The frame `f` is a packet `q` sealed by `encryptAndSeal` under `key` and the
nonce `n`, with `q`'s `uint16` length as the length bytes and as AAD: what the
body of `Encrypt`'s loop writes. -/
def Frame.SealedUnder (A : Aead) (key : Key) (n : Bytes) (f : Frame) : Prop :=
  ∃ q : Packet, f.lengthBytes = putUint16 q.length ∧
    (f.cipher, f.mac) = A.encryptAndSeal key n q.value (putUint16 q.length)

/-- `Encrypt`'s loop hands `encryptAndSeal` the nonces `LE64(c)`, `LE64(c + 1)`, …,
one frame each. -/
theorem sealPackets_sealed (A : Aead) (key : Key) (c : UInt64) (ps : List Packet) :
    List.Forall₂ (Frame.SealedUnder A key) (counterNonces c ps.length) (sealPackets A key c ps).1 := by
  induction ps generalizing c with
  | nil => exact .nil
  | cons p ps ih =>
    rw [List.length_cons, counterNonces_succ]
    exact .cons ⟨p, rfl, rfl⟩ (ih _)

/-- Every frame `Encrypt` seals comes from one of its packets. -/
theorem mem_sealPackets {key : Key} {c : UInt64} {ps : List Packet} {f : Frame}
    (h : f ∈ (sealPackets A key c ps).1) :
    ∃ q ∈ ps, ∃ n, f.lengthBytes = putUint16 q.length ∧
      f.cipher = (A.encryptAndSeal key n q.value (putUint16 q.length)).1 := by
  induction ps generalizing c with
  | nil => simp [sealPackets] at h
  | cons p ps ih =>
    simp only [sealPackets, List.mem_cons] at h
    rcases h with rfl | h
    · exact ⟨p, List.mem_cons_self _ _, _, rfl, rfl⟩
    · obtain ⟨q, hq, n, h1, h2⟩ := ih h
      exact ⟨q, List.mem_cons_of_mem _ hq, n, h1, h2⟩

/-- A buffer's packets are non-empty, at most `n` bytes, and their length field
is their length. -/
theorem bufferPackets_spec (n : Nat) (p : Bytes) :
    ∀ q ∈ bufferPackets n p, q.length = q.value.length ∧ 0 < q.length ∧ q.length ≤ n := by
  induction n, p using bufferReads.induct with
  | case1 p => simp [bufferPackets]
  | case2 n hn => simp [bufferPackets]
  | case3 k b bs ih =>
    intro q hq
    rw [bufferPackets, bufferReads, List.map_cons, List.mem_cons] at hq
    rcases hq with rfl | hq
    · simp
    · exact ih q hq

/-- A buffer of `n` bytes makes `⌈n / PacketLengthMax⌉` packets. -/

theorem length_bufferPackets : ∀ p : Bytes,
    (bufferPackets packetLengthMax p).length = (p.length + packetLengthMax - 1) / packetLengthMax
  | [] => by simp [bufferPackets, packetLengthMax]
  | b :: bs => by
    rw [bufferPackets_max_cons, List.length_cons, length_bufferPackets]
    simp only [List.length_drop, List.length_cons, packetLengthMax]
    omega
termination_by p => p.length
decreasing_by simp only [List.length_drop, List.length_cons]; omega

/-- A frame read whole: two length bytes, as many ciphertext bytes as they say,
and a 16-byte tag. -/
def Frame.Complete (f : Frame) : Prop :=
  f.lengthBytes.length = 2 ∧ f.cipher.length = leValue f.lengthBytes ∧ f.mac.length = 16

/-- A frame after which `Decrypt` reads on: its tag checks under `key`, the nonce
`n` and its length bytes as AAD, and it is `PacketLengthMax` long. -/
def Frame.Continues (A : Aead) (key : Key) (n : Bytes) (f : Frame) : Prop :=
  (∃ d, A.decryptAndVerify key n f.cipher f.mac (putUint16 (leValue f.lengthBytes)) = .ok d) ∧
    packetLengthMax ≤ leValue f.lengthBytes

/-- What `Decrypt` from counter `c` must do on the stream `r`, told by the bytes it
consumes: `r` is the whole frames `fs` read in a row, a tail `u` and the unread
`rest`; the counter ends at `count = c + |fs|`; and the loop stopped where it
must, either with every frame of `fs` opened under its nonce `LE64(c + i)` at full
length and no whole frame after them, or at the last frame of `fs`, whose tag
failed under its nonce or which was short. -/
def DecryptConsumes (A : Aead) (key : Key) (c : UInt64) (r : Bytes) (count : UInt64)
    (rest : Bytes) : Prop :=
  ∃ fs u, r = wire fs ++ u ++ rest ∧ (∀ f ∈ fs, f.Complete) ∧ count = c + UInt64.ofNat fs.length ∧
    ((List.Forall₂ (Frame.Continues A key) (counterNonces c fs.length) fs ∧ rest = [] ∧
        ∀ lb b mac more, readFrame u ≠ .frame lb b mac more) ∨
      (u = [] ∧ ∃ gs f, fs = gs ++ [f] ∧
        List.Forall₂ (Frame.Continues A key) (counterNonces c gs.length) gs ∧
        ¬ f.Continues A key (putUint64 (c + UInt64.ofNat gs.length))))

theorem readFrame_eof {r : Bytes} (h : readFrame r = .eof) : r = [] := by
  match r, h with
  | [], _ => rfl
  | _ :: _ :: _, h => simp only [readFrame] at h; split_ifs at h

/-- `Decrypt` stops at a frame that does not continue, one count past it. -/
theorem decryptConsumes_one {A : Aead} {key : Key} {c : UInt64} {r lb b mac rest : Bytes}
    (h : readFrame r = .frame lb b mac rest) (hnc : ¬ Frame.Continues A key (putUint64 c) ⟨lb, b, mac⟩) :
    DecryptConsumes A key c r (c + 1) rest := by
  obtain ⟨hr, hlb, hb, hmac⟩ := readFrame_frame h
  refine ⟨[⟨lb, b, mac⟩], [], by simp [hr, Frame.wire], by simp [Frame.Complete, hlb, hb, hmac], rfl,
    .inr ⟨rfl, [], _, rfl, .nil, ?_⟩⟩
  rwa [List.length_nil, uint64_add_ofNat_zero]

/-- `Decrypt` reads on past a frame that continues, one count further. -/
theorem decryptConsumes_cons {A : Aead} {key : Key} {c count : UInt64} {r lb b mac rest more : Bytes}
    (h : readFrame r = .frame lb b mac rest) (hc : Frame.Continues A key (putUint64 c) ⟨lb, b, mac⟩)
    (hm : DecryptConsumes A key (c + 1) rest count more) : DecryptConsumes A key c r count more := by
  obtain ⟨hr, hlb, hb, hmac⟩ := readFrame_frame h
  obtain ⟨fs, u, hrest, hall, hcount, hstop⟩ := hm
  refine ⟨⟨lb, b, mac⟩ :: fs, u, ?_, ?_, ?_, ?_⟩
  · rw [hr, hrest]; simp [Frame.wire]
  · exact List.forall_mem_cons.2 ⟨⟨hlb, hb, hmac⟩, hall⟩
  · rw [hcount, List.length_cons, uint64_add_ofNat_succ]
  · rcases hstop with ⟨hfs, hmore, hu⟩ | ⟨hu, gs, f, rfl, hgs, hf⟩
    · exact .inl ⟨by rw [List.length_cons, counterNonces_succ]; exact .cons hc hfs, hmore, hu⟩
    · refine .inr ⟨hu, _ :: gs, f, rfl, by rw [List.length_cons, counterNonces_succ]; exact .cons hc hgs, ?_⟩
      rwa [List.length_cons, ← uint64_add_ofNat_succ]

/-- What `Decrypt` does to its counter: it consumes the stream frame by frame,
moving the counter by one for each whole frame it reads, and stops where its
loop must (`DecryptConsumes`). -/
theorem decryptFrames_consumes (A : Aead) (key : Key) : ∀ (acc : Bytes) (c : UInt64) (r : Bytes),
    DecryptConsumes A key c r (decryptFrames A key acc c r).count (decryptFrames A key acc c r).rest
  | acc, c, r => by
    cases h : readFrame r with
    | eof =>
      rw [decryptFrames_eof h]
      exact ⟨[], [], by simp, by simp, (uint64_add_ofNat_zero c).symm,
        .inl ⟨.nil, readFrame_eof h, fun _ _ _ _ h' => by simp [readFrame] at h'⟩⟩
    | failed e =>
      rw [decryptFrames_failed h]
      exact ⟨[], r, by simp, by simp, (uint64_add_ofNat_zero c).symm,
        .inl ⟨.nil, rfl, fun _ _ _ _ h' => by rw [h] at h'; cases h'⟩⟩
    | frame lb b mac rest =>
      rw [decryptFrames_frame h]
      cases hd : A.decryptAndVerify key (putUint64 c) b mac (putUint16 (leValue lb)) with
      | error e =>
        -- the tag fails: the frame is counted and the loop stops
        refine decryptConsumes_one h fun ⟨⟨_, hok⟩, _⟩ => ?_
        rw [hd] at hok; cases hok
      | ok d =>
        by_cases hshort : leValue lb < packetLengthMax
        · -- a short frame ends the message
          simp only [hshort, if_true]
          exact decryptConsumes_one h fun ⟨_, hle⟩ => absurd hle (Nat.not_le.2 hshort)
        · simp only [hshort, if_false]
          exact decryptConsumes_cons h ⟨⟨d, hd⟩, Nat.le_of_not_lt hshort⟩
            (decryptFrames_consumes A key (acc ++ d) (c + 1) rest)
termination_by _ _ r => r.length
decreasing_by exact readFrame_rest_lt h

/-- A call on a session: `Encrypt` of an in-memory buffer, or `Decrypt` of a stream. -/
inductive Call where
  | encrypt (p : Bytes)
  | decrypt (r : Bytes)

/-- One call on `s`: the frames it emits on the wire, and the session after it. -/
def Session.call (A : Aead) (s : Session) : Call → List Frame × Session
  | .encrypt p =>
    match s.encryptFrames A (bufferReads packetLengthMax p) with
    | (.ok fs, s') => (fs, s')
    | (.error _, s') => ([], s')
  | .decrypt r => ([], s.afterDecrypt (s.decrypt A r))

/-- A sequence of calls: every frame emitted, in order, and the session after them. -/
def Session.run (A : Aead) : Session → List Call → List Frame × Session
  | s, [] => ([], s)
  | s, c :: cs =>
    let first := s.call A c
    let rest := first.2.run A cs
    (first.1 ++ rest.1, rest.2)

theorem call_encrypt (s : Session) (p : Bytes) :
    s.call A (.encrypt p) =
      ((sealBuffer A s.encryptKey s.encryptCount p).1,
        { s with encryptCount := (sealBuffer A s.encryptKey s.encryptCount p).2 }) := by
  simp only [Session.call, encryptFrames_buffer, sealBuffer]

/-- The step lemma: one call seals its frames under the next nonces of the
encryption counter and moves that counter past them. -/
theorem call_sealed (s : Session) (c : Call) :
    List.Forall₂ (Frame.SealedUnder A s.encryptKey)
        (counterNonces s.encryptCount (s.call A c).1.length) (s.call A c).1 ∧
      (s.call A c).2.encryptCount = s.encryptCount + UInt64.ofNat (s.call A c).1.length := by
  cases c with
  | encrypt p =>
    rw [call_encrypt, sealBuffer, sealPackets_length, sealPackets_count]
    exact ⟨sealPackets_sealed _ _ _ _, rfl⟩
  | decrypt r => exact ⟨.nil, (uint64_add_ofNat_zero _).symm⟩

theorem call_frame (s : Session) (c : Call) :
    (s.call A c).2.encryptKey = s.encryptKey ∧ (s.call A c).2.decryptKey = s.decryptKey ∧
    (∀ p, c = .encrypt p → (s.call A c).2.decryptCount = s.decryptCount) ∧
    (∀ r, c = .decrypt r → (s.call A c).2.encryptCount = s.encryptCount) := by
  cases c with
  | encrypt p => rw [call_encrypt]; simp
  | decrypt r => simp [Session.call, Session.afterDecrypt]

/-- The run lemma: over any sequence of calls the emitted frames are sealed under
the nonces `LE64(c)`, `LE64(c + 1)`, … from the session's encryption counter `c`. -/
theorem run_sealed (s : Session) (cs : List Call) :
    List.Forall₂ (Frame.SealedUnder A s.encryptKey)
        (counterNonces s.encryptCount (s.run A cs).1.length) (s.run A cs).1 ∧
      (s.run A cs).2.encryptCount = s.encryptCount + UInt64.ofNat (s.run A cs).1.length := by
  induction cs generalizing s with
  | nil => exact ⟨.nil, (uint64_add_ofNat_zero _).symm⟩
  | cons c cs ih =>
    obtain ⟨h1, h2⟩ := call_sealed (A := A) s c
    obtain ⟨ih1, ih2⟩ := ih (s.call A c).2
    rw [h2, (call_frame s c).1] at ih1
    rw [h2] at ih2
    refine ⟨?_, ?_⟩
    · simp only [Session.run, List.length_append, counterNonces_add]
      exact List.rel_append h1 ih1
    · simp only [Session.run, List.length_append, ih2]
      apply UInt64.ext
      simp only [UInt64.toNat_add, toNat_uint64_ofNat, UInt64.size]
      omega

theorem call_encrypt_frames (hA : A.Correct) (s : Session) (p : Bytes) :
    (s.call A (.encrypt p)).1.length = (p.length + packetLengthMax - 1) / packetLengthMax ∧
    (∀ f ∈ (s.call A (.encrypt p)).1,
      leValue f.lengthBytes = f.cipher.length ∧ f.cipher.length ≤ packetLengthMax) := by
  rw [call_encrypt, sealBuffer, sealPackets_length, length_bufferPackets]
  refine ⟨rfl, fun f hf => ?_⟩
  obtain ⟨q, hq, n, hlb, hc⟩ := mem_sealPackets hf
  obtain ⟨hlen, -, hle⟩ := bufferPackets_spec _ _ q hq
  rw [hlb, hc, hA.length_cipher, ← hlen, leValue_putUint16 (by simp [packetLengthMax] at hle; omega)]
  exact ⟨rfl, hle⟩

/-- **Counters and nonces of a session.** Over any sequence of calls on a session:
(1) the `i`-th frame `Encrypt` emits is sealed by `encryptAndSeal` under the nonce
`LE64(c + i)`, `c` the encryption counter at the start (zero for a new session,
`newSession_counts`), so below `2^64` frames no two are sealed under one nonce;
(2) `Encrypt(P)` emits `⌈|P| / 0x400⌉` frames, each with a length prefix equal to
its ciphertext's length and at most `0x400`, and moves the encryption counter by
that many; (3) `Decrypt` moves the decryption counter by one for each whole frame
it consumes from the stream, opening each under the next nonce, and stops where
its loop must (`DecryptConsumes`); (4) `Encrypt` leaves the decryption counter
and both keys alone, `Decrypt` the encryption counter and both keys. -/
theorem session_counters (hA : A.Correct) (s : Session) (cs : List Call) :
    (∀ i (h : i < (s.run A cs).1.length),
      ((s.run A cs).1.get ⟨i, h⟩).SealedUnder A s.encryptKey (putUint64 (s.encryptCount + UInt64.ofNat i))) ∧
    (s.encryptCount.toNat + (s.run A cs).1.length ≤ 2 ^ 64 → ∀ i j,
      i < (s.run A cs).1.length → j < (s.run A cs).1.length →
      putUint64 (s.encryptCount + UInt64.ofNat i) = putUint64 (s.encryptCount + UInt64.ofNat j) → i = j) ∧
    (∀ (s : Session) (p : Bytes),
      (s.call A (.encrypt p)).1.length = (p.length + packetLengthMax - 1) / packetLengthMax ∧
      (∀ f ∈ (s.call A (.encrypt p)).1,
        leValue f.lengthBytes = f.cipher.length ∧ f.cipher.length ≤ packetLengthMax) ∧
      (s.call A (.encrypt p)).2.encryptCount =
        s.encryptCount + UInt64.ofNat (s.call A (.encrypt p)).1.length) ∧
    (∀ (s : Session) (r : Bytes), DecryptConsumes A s.decryptKey s.decryptCount r
      (s.call A (.decrypt r)).2.decryptCount (s.decrypt A r).rest) ∧
    (∀ (s : Session) (c : Call),
      (s.call A c).2.encryptKey = s.encryptKey ∧ (s.call A c).2.decryptKey = s.decryptKey ∧
      (∀ p, c = .encrypt p → (s.call A c).2.decryptCount = s.decryptCount) ∧
      (∀ r, c = .decrypt r → (s.call A c).2.encryptCount = s.encryptCount)) := by
  obtain ⟨hseal, -⟩ := run_sealed (A := A) s cs
  refine ⟨fun i h => ?_, fun hb i j hi hj hij => putUint64_add_inj (by omega) (by omega) hij,
    fun s p => ⟨(call_encrypt_frames hA s p).1, (call_encrypt_frames hA s p).2,
      (call_sealed s (.encrypt p)).2⟩,
    fun s r => decryptFrames_consumes A s.decryptKey [] s.decryptCount r, call_frame⟩
  have := (List.forall₂_iff_get.1 hseal).2 i (by simpa using h) h
  rwa [counterNonces_get] at this

/-- The counters of a fresh session through one `Encrypt` and one `Decrypt`. -/
theorem session_counters_fresh :
    let A := Aead.transparent
    let s : Session := ⟨⟨[], [], 0⟩, Key.zero, Key.zero, 0, 0⟩
    let cs := [Call.encrypt [1, 2, 3], Call.decrypt []]
    A.Correct ∧
    (∀ i (h : i < (s.run A cs).1.length),
      ((s.run A cs).1.get ⟨i, h⟩).SealedUnder A s.encryptKey (putUint64 (s.encryptCount + UInt64.ofNat i))) ∧
    (s.encryptCount.toNat + (s.run A cs).1.length ≤ 2 ^ 64 → ∀ i j,
      i < (s.run A cs).1.length → j < (s.run A cs).1.length →
      putUint64 (s.encryptCount + UInt64.ofNat i) = putUint64 (s.encryptCount + UInt64.ofNat j) → i = j) ∧
    (∀ (s : Session) (p : Bytes),
      (s.call A (.encrypt p)).1.length = (p.length + packetLengthMax - 1) / packetLengthMax ∧
      (∀ f ∈ (s.call A (.encrypt p)).1,
        leValue f.lengthBytes = f.cipher.length ∧ f.cipher.length ≤ packetLengthMax) ∧
      (s.call A (.encrypt p)).2.encryptCount =
        s.encryptCount + UInt64.ofNat (s.call A (.encrypt p)).1.length) ∧
    (∀ (s : Session) (r : Bytes), DecryptConsumes A s.decryptKey s.decryptCount r
      (s.call A (.decrypt r)).2.decryptCount (s.decrypt A r).rest) ∧
    (∀ (s : Session) (c : Call),
      (s.call A c).2.encryptKey = s.encryptKey ∧ (s.call A c).2.decryptKey = s.decryptKey ∧
      (∀ p, c = .encrypt p → (s.call A c).2.decryptCount = s.decryptCount) ∧
      (∀ r, c = .decrypt r → (s.call A c).2.encryptCount = s.encryptCount)) :=
  ⟨Aead.transparent_ideal.toCorrect, session_counters Aead.transparent_ideal.toCorrect _ _⟩

/-! ## When nonces repeat -/

/-- The counter comes round exactly past `2^64` values, wherever it starts. -/
theorem counterNonces_nodup_iff (c : UInt64) (k : Nat) : (counterNonces c k).Nodup ↔ k ≤ 2 ^ 64 := by
  constructor
  · intro h
    by_contra hk
    have hwrap : UInt64.ofNat (2 ^ 64) = UInt64.ofNat 0 := UInt64.ext (by simp [toNat_uint64_ofNat])
    have := List.inj_on_of_nodup_map h (List.mem_range.2 (by omega : 0 < k))
      (List.mem_range.2 (by omega : 2 ^ 64 < k)) (by rw [hwrap])
    omega
  · intro hk
    refine (List.nodup_range k).map_on fun i hi j hj hij => ?_
    have := congrArg UInt64.toNat (putUint64_inj hij)
    simp only [List.mem_range] at hi hj
    simp only [UInt64.toNat_add, toNat_uint64_ofNat, UInt64.size] at this
    omega

/-- **Nonces repeat exactly past `2^64` frames.** Over any run of calls on a
session, whatever its encryption counter `c` at the start, the frames `Encrypt`
emits are sealed by `encryptAndSeal`, one each, under the nonces `LE64(c)`,
`LE64(c + 1)`, …, and these nonces are pairwise distinct exactly when there are
at most `2^64` frames: the `uint64` counter wraps, and its first repeat is the
`2^64 + 1`-th frame. -/
theorem run_nonces_nodup_iff (s : Session) (cs : List Call) :
    List.Forall₂ (Frame.SealedUnder A s.encryptKey)
        (counterNonces s.encryptCount (s.run A cs).1.length) (s.run A cs).1 ∧
      ((counterNonces s.encryptCount (s.run A cs).1.length).Nodup ↔ (s.run A cs).1.length ≤ 2 ^ 64) :=
  ⟨(run_sealed s cs).1, counterNonces_nodup_iff _ _⟩

end Hap
