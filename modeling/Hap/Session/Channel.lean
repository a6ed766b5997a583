import Hap.Session.Counters

/-!
# The session as a message channel

A connection carries one message after another. The sender drives its session
with any sequence of calls (`Session.run`): `Encrypt` of each message it
writes, and `Decrypt` of what it reads in between. The receiver calls
`Decrypt` once per message on the stream that arrives, each call reading on
where the previous one stopped (`Session.receive`).

`Decrypt` finds the end of a message only at a frame shorter than
`PacketLengthMax`. So the channel delivers the messages in order, one per
call, when no message's length is a multiple of `PacketLengthMax`;
`decrypt_reads_past_full_message` shows what happens otherwise.

* `decrypt_call_encrypt`: step lemma. One delimited message is read back, and
  `Decrypt` stops where the next one starts.
* `receive_run`: run lemma. The receiver reads back every message the sender's
  run wrote, in order, and the two counters end in lockstep.
-/

namespace Hap

variable {A : Aead}

/-- The message a call writes: `Encrypt` writes its buffer, `Decrypt` nothing. -/
def Call.sent : Call → Option Bytes
  | .encrypt p => some p
  | .decrypt _ => none

/-- A reader that calls `Decrypt` `n` times on one stream, each call reading on
where the previous one stopped: the results in order, the session after the
last call, and what is left of the stream. -/
def Session.receive (A : Aead) : Session → Nat → Bytes → List (Except String Bytes) × Session × Bytes
  | t, 0, r => ([], t, r)
  | t, n + 1, r =>
    let d := t.decrypt A r
    let more := (t.afterDecrypt d).receive A n d.rest
    (d.result :: more.1, more.2)

/-- **Step lemma.** For sessions in lockstep, `Decrypt` on what one `Encrypt`
of a message wrote, followed by any stream `R`, gives the message back, moves
the receiver's counter to the sender's, and stops at `R`, when the message's
last frame is short. -/
theorem decrypt_call_encrypt (hA : A.Correct) (s t : Session) (p R : Bytes)
    (hkey : t.decryptKey = s.encryptKey) (hcount : t.decryptCount = s.encryptCount)
    (hp : p.length % packetLengthMax ≠ 0) :
    t.decrypt A (wire (s.call A (.encrypt p)).1 ++ R) =
      ⟨.ok p, (s.call A (.encrypt p)).2.encryptCount, R, (s.call A (.encrypt p)).1⟩ := by
  rw [call_encrypt, Session.decrypt, hkey, hcount, decryptFrames_sealBuffer hA, if_neg hp, List.nil_append]

/-- **The channel delivers every message, in order.** Take sessions in
lockstep and any run of calls on the sender, `Encrypt`s and `Decrypt`s in any
order, in which no written message has a length that is a multiple of
`PacketLengthMax`. A receiver that calls `Decrypt` once per written message on
the frames the run emitted, followed by any stream `R`, gets the messages back
in order, leaves `R` unread, and ends with its counter at the sender's. -/
theorem receive_run (hA : A.Correct) (s t : Session) (hkey : t.decryptKey = s.encryptKey)
    (hcount : t.decryptCount = s.encryptCount) (cs : List Call)
    (hcs : ∀ p ∈ cs.filterMap Call.sent, p.length % packetLengthMax ≠ 0) (R : Bytes) :
    t.receive A (cs.filterMap Call.sent).length (wire (s.run A cs).1 ++ R) =
      ((cs.filterMap Call.sent).map .ok, { t with decryptCount := (s.run A cs).2.encryptCount }, R) := by
  induction cs generalizing s t with
  | nil => show ([], t, R) = ([], { t with decryptCount := s.encryptCount }, R); rw [← hcount]
  | cons c cs ih =>
    obtain ⟨hek, -, -, hdec⟩ := call_frame (A := A) s c
    cases c with
    | decrypt r =>
      -- the sender's own `Decrypt` writes nothing and leaves its encryption side
      have := ih (s.call A (.decrypt r)).2 t (hkey.trans hek.symm)
        (hcount.trans (hdec r rfl).symm) hcs
      simpa only [Session.run, List.filterMap_cons, Call.sent, List.nil_append] using this
    | encrypt p =>
      have hp : p.length % packetLengthMax ≠ 0 := hcs p (List.mem_cons_self _ _)
      simp only [Session.run, List.filterMap_cons, Call.sent, List.length_cons, List.map_cons, Session.receive,
        wire_append, List.append_assoc, decrypt_call_encrypt hA s t p _ hkey hcount hp, Session.afterDecrypt]
      rw [ih (s.call A (.encrypt p)).2 { t with decryptCount := (s.call A (.encrypt p)).2.encryptCount }
        (hkey.trans hek.symm) rfl fun q hq => hcs q (List.mem_cons_of_mem _ hq)]

/-- Two fresh sessions with the zero key: the sender writes `[1, 2, 3]`, reads
an empty stream, writes `[4]`; the receiver reads both messages back. -/
theorem receive_run_fresh :
    let s : Session := ⟨⟨[], [], 0⟩, Key.zero, Key.zero, 0, 0⟩
    let cs := [Call.encrypt [1, 2, 3], .decrypt [], .encrypt [4]]
    (Aead.transparent.Correct ∧ s.decryptKey = s.encryptKey ∧ s.decryptCount = s.encryptCount ∧
      ∀ p ∈ cs.filterMap Call.sent, p.length % packetLengthMax ≠ 0) ∧
    s.receive Aead.transparent (cs.filterMap Call.sent).length (wire (s.run Aead.transparent cs).1 ++ []) =
      ((cs.filterMap Call.sent).map .ok, { s with decryptCount := (s.run Aead.transparent cs).2.encryptCount }, []) := by
  intro s cs
  have hcs : ∀ p ∈ cs.filterMap Call.sent, p.length % packetLengthMax ≠ 0 := by decide
  exact ⟨⟨Aead.transparent_ideal.toCorrect, rfl, rfl, hcs⟩,
    receive_run Aead.transparent_ideal.toCorrect s s rfl rfl cs hcs []⟩

end Hap
