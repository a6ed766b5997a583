import Hap.Server.State

/-!
# Pair-setup (`Server.pairSetup` and its steps)

The handler of the pair-setup endpoint, step by step as the code runs:

* `pairSetup` refuses when the accessory is paired or another address holds a
  session, decodes the body, and dispatches on `Method` and `State`;
* `pairSetupStep1` creates the SRP session (`newPairSetupSession`) and
  registers it, even when the constructor returns a nil session;
* `pairSetupStep3` computes `S` from the client's `A`, checks `M1` and derives
  the encryption key, updating the registered session as it goes;
* `pairSetupStep5` opens the controller's encrypted data under the session's
  key, checks its signature, answers with the accessory's, and saves the
  controller as an admin pairing.

A handler returns its reply (`SetupReply`; a Go runtime panic is `.panic`)
and the new state. The request body is what `tlv8.UnmarshalReader` returned.
-/

namespace Hap

/-! ## Payloads and replies -/

/-- The fields of `pairSetupPayload` the handlers read. -/
structure PairSetupPayload where
  method : UInt8
  publicKey : Bytes
  proof : Bytes
  encryptedData : Bytes
  state : UInt8
  deriving DecidableEq, Repr

/-- A pair-setup request: the remote address and the decoded body. -/
structure SetupRequest where
  addr : String
  body : Except String PairSetupPayload

/-- What a pair-setup handler answers: a Step-2, 4 or 6 payload (`tlv8OK`), a
`tlv8Error` after the status `res.WriteHeader` set (none: the default), or a
runtime panic. -/
inductive SetupReply where
  | step2 (salt publicKey : Bytes)
  | step4 (proof : Bytes)
  | step6 (encryptedData : Bytes)
  | tlvError (status : Option Nat) (state code : UInt8)
  | panic
  deriving DecidableEq, Repr

/-! ## The handlers -/

/-- `NewPairSetupSession(id, pin)` (called as `newPairSetupSession`). When
`ComputeVerifier` fails, its `err` is a new variable shadowing the outer one,
which is nil: the function then returns a nil session with a nil error. -/
def newPairSetupSession {σ : Type} (S : Srp σ) (id pin : Bytes) :
    Option (PairSetupSession σ) × Option String :=
  match S.newSRP with
  | .error e => (none, some e)
  | .ok () =>
    match S.computeVerifier pin with
    | .error _ => (none, none)
    | .ok (salt, v) =>
      let session := S.newServerSession (ascii "Pair-Setup") salt v
      (some ⟨id, salt, S.getB session, [], Key.zero, session⟩, none)

variable {σ : Type} (L : Libs σ) (srv : Server)

/-- `pairSetupStep1`: register the new session under the address and answer
with its salt and `B`. A nil session is registered, then dereferenced. -/
def pairSetupStep1 (st : ServerState σ) (addr : String) (data : PairSetupPayload) :
    SetupReply × ServerState σ :=
  match newPairSetupSession L.srp srv.uuid srv.pin with
  | (_, some _) => (.tlvError (some 500) (data.state + 1) tlvErrorUnknown, st)
  | (ss, none) =>
    let st := st.setSession addr (.setup ss)
    match ss with
    | none => (.panic, st)
    | some ss => (.step2 ss.salt ss.publicKey, st)

/-- `pairSetupStep3`: `SetupPrivateKeyFromClientPublicKey(A)` stores `S` in the
session before `ProofFromClientProof(M1)` checks the proof, and
`SetupEncryptionKey` stores `K` only on success. -/
def pairSetupStep3 (st : ServerState σ) (addr : String) (data : PairSetupPayload) :
    SetupReply × ServerState σ :=
  match st.getPairSetupSession addr with
  | .error _ => (.tlvError (some 500) step2 tlvErrorUnknown, st)
  | .ok none => (.panic, st)
  | .ok (some ses) =>
    match L.srp.computeKey ses.session data.publicKey with
    | .error _ => (.tlvError none (data.state + 1) tlvErrorInvalidRequest, st)
    | .ok (key, session) =>
      let ses := { ses with privateKey := key, session := session }
      let st := st.setSession addr (.setup (some ses))
      if !L.srp.verifyClientAuthenticator ses.session data.proof then
        (.tlvError none (data.state + 1) tlvErrorInvalidRequest, st)
      else
        let proof := L.srp.computeAuthenticator ses.session data.proof
        match L.hkdf.sha512 ses.privateKey (ascii "Pair-Setup-Encrypt-Salt")
            (ascii "Pair-Setup-Encrypt-Info") with
        | (_, some _) => (.tlvError none (data.state + 1) tlvErrorInvalidRequest, st)
        | (hash, none) =>
          (.step4 proof, st.setSession addr (.setup (some { ses with encryptionKey := hash })))

/-- `pairSetupStep5`: split off the 16-byte tag (a shorter `EncryptedData` is a
slice panic), open under the session's key with nonce `"PS-Msg05"`, check the
controller's signature over `HKDF(S, …) ‖ id ‖ LTPK`, sign and seal the
accessory's answer, and save the controller with permission Admin. -/
def pairSetupStep5 (st : ServerState σ) (addr : String) (data : PairSetupPayload) :
    SetupReply × ServerState σ :=
  match st.getPairSetupSession addr with
  | .error _ => (.tlvError (some 500) step6 tlvErrorUnknown, st)
  | .ok ses =>
    if data.encryptedData.length < 16 then (.panic, st) else
    match ses with
    | none => (.panic, st)
    | some ses =>
      let msg := data.encryptedData.take (data.encryptedData.length - 16)
      let mac := data.encryptedData.drop msg.length
      match L.aead.decryptAndVerify ses.encryptionKey (ascii "PS-Msg05") msg mac [] with
      | .error _ => (.tlvError (some 500) step6 tlvErrorUnknown, st)
      | .ok decrypted =>
        match L.tlv8.unmarshalSubTlv decrypted with
        | .error _ => (.tlvError (some 400) step6 tlvErrorUnknown, st)
        | .ok encData =>
          let hash := (L.hkdf.sha512 ses.privateKey (ascii "Pair-Setup-Controller-Sign-Salt")
            (ascii "Pair-Setup-Controller-Sign-Info")).1
          let buf := hash.bytes ++ encData.identifier ++ encData.publicKey
          if !L.ed25519.validateSignature encData.publicKey buf encData.signature then
            (.tlvError none step6 tlvErrorInvalidRequest, st)
          else
            match L.hkdf.sha512 ses.privateKey (ascii "Pair-Setup-Accessory-Sign-Salt")
                (ascii "Pair-Setup-Accessory-Sign-Info") with
            | (_, some _) => (.tlvError none step6 tlvErrorInvalidRequest, st)
            | (hash, none) =>
              let buf := hash.bytes ++ ses.identifier ++ srv.keyPublic
              match L.ed25519.signature srv.keyPrivate buf with
              | .error _ => (.tlvError none step6 tlvErrorInvalidRequest, st)
              | .ok signature =>
                let b := L.tlv8.marshalSubTlv ⟨ses.identifier, srv.keyPublic, signature⟩
                let sealed := L.aead.encryptAndSeal ses.encryptionKey (ascii "PS-Msg06") b []
                let p : Pairing := ⟨encData.identifier, encData.publicKey, permissionAdmin⟩
                -- `tlv8OK(res, resp)` comes first; `srv.savePairing(p)`'s error is dropped
                (.step6 (sealed.1 ++ sealed.2), { st with store := (Storer.savePairing L.json st.store p).2 })

/-- The dispatch on `Method` and `State` once the body decoded. -/
def pairSetupDispatch (st : ServerState σ) (addr : String) (data : PairSetupPayload) :
    SetupReply × ServerState σ :=
  if data.method = methodPair then
    if data.state = step1 then pairSetupStep1 L srv st addr data
    else if data.state = step3 then pairSetupStep3 L st addr data
    else if data.state = step5 then pairSetupStep5 L srv st addr data
    else (.tlvError (some 400) step2 tlvErrorUnknown, st)
  else if data.method = methodPairMFi then (.tlvError (some 400) step2 tlvErrorInvalidRequest, st)
  else (.tlvError (some 400) 0 tlvErrorInvalidRequest, st)

/-- The refusals before the body is read: `isPaired`, then the busy check over
a snapshot of the session map. -/
def pairSetupRefusal (st : ServerState σ) (addr : String) : Option SetupReply :=
  if isPaired L.json st.store then some (.tlvError none step2 tlvErrorUnavailable)
  else if st.sessionAddrs.any (· != addr) then some (.tlvError none step2 tlvErrorBusy)
  else none

/-- `Server.pairSetup`. -/
def pairSetup (st : ServerState σ) (req : SetupRequest) : SetupReply × ServerState σ :=
  match pairSetupRefusal L st req.addr with
  | some reply => (reply, st)
  | none =>
    match req.body with
    | .error _ => (.tlvError (some 400) step2 tlvErrorUnknown, st)
    | .ok data => pairSetupDispatch L srv st req.addr data

/-- Pair-setup requests handled one after another. -/
def setupRun (st : ServerState σ) : List SetupRequest → List SetupReply × ServerState σ
  | [] => ([], st)
  | req :: reqs =>
    let r := pairSetup L srv st req
    let rest := setupRun r.2 reqs
    (r.1 :: rest.1, rest.2)

end Hap
