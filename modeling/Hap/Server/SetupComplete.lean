import Hap.Server.SetupFailures

/-!
# A pair-setup that goes through

The other side of `setupRun_admin_without_step3`: a client that runs the
protocol as the spec describes it gets every answer in turn, and is saved as an
admin. Its Step 3 carries an `A` and a proof `M1` that the SRP session
accepts. Its Step 5 is sealed under the key `K` that Step 3 derived from the
shared `S`, and is signed over `HKDF(S, …) ‖ id ‖ LTPK`.

* `pairSetupStep3_accepts`: Step 3 on an accepted proof answers with `M2`
  and stores `S`, the updated SRP state and `K` in the session;
* `setupRun_honest` is the exact outcome of the three requests, and
  `setupRun_completes` what a client sees of it: Step 1, Step 3 and Step 5
  from one address on an idle, unpaired accessory are answered with Step 2,
  Step 4 and Step 6, and the controller is saved with permission Admin, unless
  the system refuses its file name.
-/

namespace Hap

variable {σ : Type} {L : Libs σ}

theorem ServerState.setSession_setSession (st : ServerState σ) (addr : String) (v w : SessionValue σ) :
    (st.setSession addr v).setSession addr w = st.setSession addr w := by
  simp only [ServerState.setSession, AList.insert_insert]

/-- **Step 3.** When the SRP session computes `S` from the client's `A` and
accepts its proof, Step 3 answers with the server's proof `M2`, and the
session now holds `S`, the SRP state after `ComputeKey`, and
`K = HKDF(S, "Pair-Setup-Encrypt-Salt", "Pair-Setup-Encrypt-Info")`. -/
theorem pairSetupStep3_accepts (hH : L.hkdf.Total) {st : ServerState σ} {addr : String}
    {ss : PairSetupSession σ} (hss : st.sessions.lookup addr = some (.setup (some ss)))
    (data : PairSetupPayload) {S : Bytes} {session : σ}
    (hS : L.srp.computeKey ss.session data.publicKey = .ok (S, session))
    (hM1 : L.srp.verifyClientAuthenticator session data.proof = true) :
    pairSetupStep3 L st addr data =
      (.step4 (L.srp.computeAuthenticator session data.proof),
        st.setSession addr (.setup (some
          { ss with
            privateKey := S, session := session,
            encryptionKey := (L.hkdf.sha512 S (ascii "Pair-Setup-Encrypt-Salt")
              (ascii "Pair-Setup-Encrypt-Info")).1 }))) := by
  have hget : st.getPairSetupSession addr = .ok (some ss) := by
    simp [ServerState.getPairSetupSession, hss]
  obtain ⟨K, hK⟩ : ∃ K, L.hkdf.sha512 S (ascii "Pair-Setup-Encrypt-Salt") (ascii "Pair-Setup-Encrypt-Info") =
      (K, none) := ⟨_, Prod.ext rfl (hH _ _ _)⟩
  simp only [pairSetupStep3, hget, hS, hM1, Bool.not_true, Bool.false_eq_true, if_false, hK,
    ServerState.setSession_setSession]

/-- The honest run's replies and its final state: the session at `addr` holds
`S`, the SRP state after `ComputeKey` and `K`, and the store has the new
pairing. -/
theorem setupRun_honest {srv : Server} (hL : L.Lawful) (hkey : srv.keyPrivate.length = 64)
    (st : ServerState σ) (addr : String) (hpaired : isPaired L.json st.store = false)
    (hidle : ∀ a ∈ st.sessionAddrs, a = addr) {salt v : Bytes}
    (hv : L.srp.computeVerifier srv.pin = .ok (salt, v)) (pub proof : Bytes) {S : Bytes} {session : σ}
    (hS : L.srp.computeKey (L.srp.newServerSession (ascii "Pair-Setup") salt v) pub = .ok (S, session))
    (hM1 : L.srp.verifyClientAuthenticator session proof = true) (encData : SubTlv)
    (hsig : L.ed25519.validateSignature encData.publicKey
      ((L.hkdf.sha512 S (ascii "Pair-Setup-Controller-Sign-Salt")
        (ascii "Pair-Setup-Controller-Sign-Info")).1.bytes ++ encData.identifier ++ encData.publicKey)
      encData.signature = true) :
    let session₀ := L.srp.newServerSession (ascii "Pair-Setup") salt v
    let K := (L.hkdf.sha512 S (ascii "Pair-Setup-Encrypt-Salt") (ascii "Pair-Setup-Encrypt-Info")).1
    ∃ e, setupRun L srv st [⟨addr, .ok ⟨methodPair, [], [], [], step1⟩⟩,
      ⟨addr, .ok ⟨methodPair, pub, proof, [], step3⟩⟩,
      ⟨addr, .ok ⟨methodPair, [], [], step5Body L.aead K (L.tlv8.marshalSubTlv encData), step5⟩⟩] =
      ([.step2 salt (L.srp.getB session₀), .step4 (L.srp.computeAuthenticator session proof), .step6 e],
        { st.setSession addr (.setup (some ⟨srv.uuid, salt, L.srp.getB session₀, S, K, session⟩)) with
          store := (Storer.savePairing L.json st.store ⟨encData.identifier, encData.publicKey, permissionAdmin⟩).2 }) := by
  intro session₀ K
  let ss₀ : PairSetupSession σ := ⟨srv.uuid, salt, L.srp.getB session₀, [], Key.zero, session₀⟩
  let ss₁ : PairSetupSession σ := { ss₀ with privateKey := S, session := session, encryptionKey := K }
  -- Step 1 registers `ss₀`
  have h₁ : pairSetup L srv st ⟨addr, .ok ⟨methodPair, [], [], [], step1⟩⟩ =
      (.step2 salt (L.srp.getB session₀), st.setSession addr (.setup (some ss₀))) := by
    simp only [pairSetup, pairSetupRefusal_none hpaired hidle, pairSetupDispatch, if_true,
      pairSetupStep1, newPairSetupSession, hL.srp.1, hv]
  -- Step 3 replaces it with `ss₁`, which holds `S` and `K`
  have h₃ : pairSetup L srv (st.setSession addr (.setup (some ss₀))) ⟨addr, .ok ⟨methodPair, pub, proof, [], step3⟩⟩ =
      (.step4 (L.srp.computeAuthenticator session proof), st.setSession addr (.setup (some ss₁))) := by
    rw [pairSetup_after_step1 srv hpaired hidle]
    simp only [pairSetupDispatch, if_true, show step3 ≠ step1 by decide, if_false]
    rw [pairSetupStep3_accepts hL.hkdf (by rw [ServerState.lookup_setSession, if_pos rfl]) _ hS hM1,
      ServerState.setSession_setSession]
  -- Step 5 opens under `K` and saves the controller
  have hss : (st.setSession addr (.setup (some ss₁))).sessions.lookup addr = some (.setup (some ss₁)) := by
    rw [ServerState.lookup_setSession, if_pos rfl]
  obtain ⟨e, h₅⟩ := pairSetupStep5_sealed hL hkey hss encData hsig
    ⟨methodPair, [], [], step5Body L.aead K (L.tlv8.marshalSubTlv encData), step5⟩ rfl
  rw [← pairSetupDispatch_step5 srv _ _ rfl rfl, ← pairSetup_after_step1 srv hpaired hidle] at h₅
  exact ⟨e, by simp only [setupRun, h₁, h₃, h₅, ServerState.setSession_store]⟩

/-- **An honest pair-setup goes through.** Take lawful libraries, an accessory
with no pairing and no session of another address, and a PIN whose verifier
the SRP library computes. A client sends Step 1; then Step 3 with an `A` from
which the server's SRP session computes `S` and a proof `M1` it accepts; then
Step 5 sealed under the `K` derived from `S`, around a controller identity
signed over `HKDF(S, …) ‖ id ‖ LTPK`. The three are answered with Step 2
(`s` and `B`), Step 4 (`M2`) and Step 6, and the controller is saved with
permission Admin: where its name had no file and the system accepts the file
name, it reads back. Where the system refuses the file name, Step 6 is
answered all the same and the store is as it was. -/
theorem setupRun_completes {srv : Server} (hL : L.Lawful) (hkey : srv.keyPrivate.length = 64)
    (st : ServerState σ) (addr : String) (hpaired : isPaired L.json st.store = false)
    (hidle : ∀ a ∈ st.sessionAddrs, a = addr) {salt v : Bytes}
    (hv : L.srp.computeVerifier srv.pin = .ok (salt, v)) (pub proof : Bytes) {S : Bytes} {session : σ}
    (hS : L.srp.computeKey (L.srp.newServerSession (ascii "Pair-Setup") salt v) pub = .ok (S, session))
    (hM1 : L.srp.verifyClientAuthenticator session proof = true) (encData : SubTlv)
    (hsig : L.ed25519.validateSignature encData.publicKey
      ((L.hkdf.sha512 S (ascii "Pair-Setup-Controller-Sign-Salt")
        (ascii "Pair-Setup-Controller-Sign-Info")).1.bytes ++ encData.identifier ++ encData.publicKey)
      encData.signature = true) :
    let K := (L.hkdf.sha512 S (ascii "Pair-Setup-Encrypt-Salt") (ascii "Pair-Setup-Encrypt-Info")).1
    let r := setupRun L srv st [⟨addr, .ok ⟨methodPair, [], [], [], step1⟩⟩,
      ⟨addr, .ok ⟨methodPair, pub, proof, [], step3⟩⟩,
      ⟨addr, .ok ⟨methodPair, [], [], step5Body L.aead K (L.tlv8.marshalSubTlv encData), step5⟩⟩]
    (∃ e, r.1 = [.step2 salt (L.srp.getB (L.srp.newServerSession (ascii "Pair-Setup") salt v)),
      .step4 (L.srp.computeAuthenticator session proof), .step6 e]) ∧
    r.2.store = (Storer.savePairing L.json st.store ⟨encData.identifier, encData.publicKey, permissionAdmin⟩).2 ∧
    (nameTooLong st.store.path (keyForPairingName encData.identifier) = false →
      st.store.files.lookup (keyForPairingName encData.identifier) = none →
      Storer.pairing L.json r.2.store encData.identifier =
        .ok ⟨coerceUTF8 encData.identifier, encData.publicKey, permissionAdmin⟩) ∧
    (nameTooLong st.store.path (keyForPairingName encData.identifier) = true → r.2.store = st.store) := by
  obtain ⟨e, h⟩ := setupRun_honest hL hkey st addr hpaired hidle hv pub proof hS hM1 encData hsig
  dsimp only
  rw [h]
  exact ⟨⟨e, rfl⟩, rfl, fun hfit hnone => Storer.pairing_savePairing_fresh hL.json _ hfit hnone,
    fun hfit => by rw [Storer.savePairing_of_nameTooLong hfit]⟩

/-- The toy libraries with an SRP session that accepts the proof `[1]`: the
three requests go through and `"a"` is saved. -/
theorem setupRun_completes_toy :
    let L : Libs Unit := ⟨Aead.transparent, Ed25519.transparent, Hkdf.zero,
      ⟨.ok (), fun _ => .ok ([], []), fun _ _ _ => (), fun _ => [], fun _ _ => .ok ([], ()),
        fun _ m => m == [1], fun _ _ => [2]⟩, Tlv8.tagged, Json.tagged⟩
    let srv : Server := ⟨[], [], [], List.replicate 64 0⟩
    let st : ServerState Unit := ⟨∅, ∅, ⟨[], ∅, by decide⟩⟩
    let encData : SubTlv := ⟨[0x61], [1], [1] ++ (Key.zero.bytes ++ [0x61] ++ [1])⟩
    (L.Lawful ∧ srv.keyPrivate.length = 64 ∧ isPaired L.json st.store = false ∧
      (∀ a ∈ st.sessionAddrs, a = "a") ∧ L.srp.computeVerifier srv.pin = .ok ([], []) ∧
      L.srp.computeKey (L.srp.newServerSession (ascii "Pair-Setup") [] []) [] = .ok ([], ()) ∧
      L.srp.verifyClientAuthenticator () [1] = true ∧
      L.ed25519.validateSignature encData.publicKey
        ((L.hkdf.sha512 [] (ascii "Pair-Setup-Controller-Sign-Salt")
          (ascii "Pair-Setup-Controller-Sign-Info")).1.bytes ++ encData.identifier ++ encData.publicKey)
        encData.signature = true) ∧
    let K := (L.hkdf.sha512 [] (ascii "Pair-Setup-Encrypt-Salt") (ascii "Pair-Setup-Encrypt-Info")).1
    let r := setupRun L srv st [⟨"a", .ok ⟨methodPair, [], [], [], step1⟩⟩,
      ⟨"a", .ok ⟨methodPair, [], [1], [], step3⟩⟩,
      ⟨"a", .ok ⟨methodPair, [], [], step5Body L.aead K (L.tlv8.marshalSubTlv encData), step5⟩⟩]
    (∃ e, r.1 = [.step2 [] (L.srp.getB (L.srp.newServerSession (ascii "Pair-Setup") [] [])),
      .step4 (L.srp.computeAuthenticator () [1]), .step6 e]) ∧
    r.2.store = (Storer.savePairing L.json st.store ⟨encData.identifier, encData.publicKey, permissionAdmin⟩).2 ∧
    (nameTooLong st.store.path (keyForPairingName encData.identifier) = false →
      st.store.files.lookup (keyForPairingName encData.identifier) = none →
      Storer.pairing L.json r.2.store encData.identifier =
        .ok ⟨coerceUTF8 encData.identifier, encData.publicKey, permissionAdmin⟩) ∧
    (nameTooLong st.store.path (keyForPairingName encData.identifier) = true → r.2.store = st.store) := by
  intro L srv st encData
  have hL : L.Lawful := ⟨Aead.transparent_ideal.toCorrect, Ed25519.transparent_correct, Hkdf.zero_total,
    ⟨rfl, fun _ => ⟨_, rfl⟩⟩, Tlv8.tagged_lawful, Json.tagged_lawful⟩
  have hpaired : isPaired L.json st.store = false := by
    simp [st, isPaired, Storer.pairings, FsStore.keysWithSuffix, AList.keys_empty]
  have hidle : ∀ a ∈ st.sessionAddrs, a = "a" := by
    simp [st, ServerState.sessionAddrs, AList.keys_empty]
  have hsig : L.ed25519.validateSignature encData.publicKey
      ((L.hkdf.sha512 [] (ascii "Pair-Setup-Controller-Sign-Salt")
        (ascii "Pair-Setup-Controller-Sign-Info")).1.bytes ++ encData.identifier ++ encData.publicKey)
      encData.signature = true := by
    simp [L, encData, Hkdf.zero, Ed25519.transparent]
  exact ⟨⟨hL, rfl, hpaired, hidle, rfl, rfl, rfl, hsig⟩,
    setupRun_completes hL (show srv.keyPrivate.length = 64 by rfl) st "a" hpaired hidle rfl [] [1] rfl rfl encData hsig⟩

end Hap
