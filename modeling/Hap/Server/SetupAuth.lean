import Hap.Server.PairSetup

/-!
# Who can become an admin through pair-setup

Step 5 trusts whatever key its session holds. Step 1 registers a session
whose encryption key `K` is still the zero value and whose SRP secret `S` is
empty, and only Step 3, after the client's proof `M1`, replaces them. Nothing
makes Step 5 wait for Step 3.

* `pairSetup_step1`: Step 1 on an idle, unpaired accessory registers a session
  with `K = 0` and `S = []`;
* `pairSetupStep5_sealed`: Step 5 accepts every message sealed under the
  session's `K` whose signature is valid over `HKDF(S) ‖ id ‖ LTPK`, and saves
  the controller as an admin;
* `setupRun_admin_without_step3` puts them together: a controller that knows
  no PIN becomes an admin with Step 1 followed by Step 5.
-/

namespace Hap

variable {σ : Type} {L : Libs σ}

/-! ## Step 1 -/

/-- A request that is not refused and decodes goes to the dispatch. -/
theorem pairSetup_of_refusal_none {srv : Server} {st : ServerState σ} {addr : String}
    (h : pairSetupRefusal L st addr = none) (data : PairSetupPayload) :
    pairSetup L srv st ⟨addr, .ok data⟩ = pairSetupDispatch L srv st addr data := by
  simp only [pairSetup, h]

/-- With no pairing and no session of another address, nothing is refused. -/
theorem pairSetupRefusal_none {st : ServerState σ} {addr : String}
    (hpaired : isPaired L.json st.store = false) (hidle : ∀ a ∈ st.sessionAddrs, a = addr) :
    pairSetupRefusal L st addr = none := by
  have : st.sessionAddrs.any (· != addr) = false := by
    simpa using fun a ha => hidle a ha
  simp [pairSetupRefusal, hpaired, this]

/-- Registering a session at `addr` keeps `addr` the only address with one. -/
theorem sessionAddrs_setSession {st : ServerState σ} {addr : String} (v : SessionValue σ)
    (hidle : ∀ a ∈ st.sessionAddrs, a = addr) : ∀ a ∈ (st.setSession addr v).sessionAddrs, a = addr := by
  intro a ha
  simp only [ServerState.sessionAddrs, ServerState.setSession, AList.keys_insert,
    List.mem_cons] at ha
  exact ha.elim id fun h => hidle a (List.mem_of_mem_erase h)

/-- **Step 1.** On an idle, unpaired accessory with a working SRP library,
Step 1 answers with `s` and `B` and registers a session whose key `K` is the
zero value and whose `S` is empty. -/
theorem pairSetup_step1 (srv : Server) (hS : L.srp.Total) {st : ServerState σ} {addr : String}
    (hpaired : isPaired L.json st.store = false) (hidle : ∀ a ∈ st.sessionAddrs, a = addr)
    (data : PairSetupPayload) (hm : data.method = methodPair) (hs : data.state = step1) :
    ∃ ss : PairSetupSession σ, ss.encryptionKey = Key.zero ∧ ss.privateKey = [] ∧
      ss.identifier = srv.uuid ∧
      pairSetup L srv st ⟨addr, .ok data⟩ =
        (.step2 ss.salt ss.publicKey, st.setSession addr (.setup (some ss))) := by
  obtain ⟨⟨salt, v⟩, hv⟩ := hS.2 srv.pin
  refine ⟨⟨srv.uuid, salt, L.srp.getB (L.srp.newServerSession (ascii "Pair-Setup") salt v), [],
    Key.zero, L.srp.newServerSession (ascii "Pair-Setup") salt v⟩, rfl, rfl, rfl, ?_⟩
  simp only [pairSetup, pairSetupRefusal_none hpaired hidle, pairSetupDispatch, hm, hs, if_true,
    pairSetupStep1, newPairSetupSession, hS.1, hv]

/-! ## Step 5 -/

/-- The Step-5 body that opens under key `K` and carries `encData`. -/
def step5Body (A : Aead) (key : Key) (encData : Bytes) : Bytes :=
  let sealed := A.encryptAndSeal key (ascii "PS-Msg05") encData []
  sealed.1 ++ sealed.2

/-- **Step 5.** If the registered session holds key `K` and secret `S`, Step 5
accepts a body sealed under `K` around a controller identity signed over
`HKDF(S, …) ‖ id ‖ LTPK`, answers Step 6 and saves the controller as admin. -/
theorem pairSetupStep5_sealed {srv : Server} (hL : L.Lawful) (hkey : srv.keyPrivate.length = 64)
    {st : ServerState σ} {addr : String} {ss : PairSetupSession σ}
    (hss : st.sessions.lookup addr = some (.setup (some ss))) (encData : SubTlv)
    (hsig : L.ed25519.validateSignature encData.publicKey
      ((L.hkdf.sha512 ss.privateKey (ascii "Pair-Setup-Controller-Sign-Salt")
        (ascii "Pair-Setup-Controller-Sign-Info")).1.bytes ++ encData.identifier ++
          encData.publicKey) encData.signature = true)
    (data : PairSetupPayload)
    (hbody : data.encryptedData = step5Body L.aead ss.encryptionKey (L.tlv8.marshalSubTlv encData)) :
    ∃ e, pairSetupStep5 L srv st addr data =
      (.step6 e, { st with store := ((Storer.savePairing L.json st.store
        ⟨encData.identifier, encData.publicKey, permissionAdmin⟩).2) }) := by
  have hget : st.getPairSetupSession addr = .ok (some ss) := by
    simp [ServerState.getPairSetupSession, hss]
  set m := L.tlv8.marshalSubTlv encData
  set sealed := L.aead.encryptAndSeal ss.encryptionKey (ascii "PS-Msg05") m []
  have hmac : sealed.2.length = 16 := hL.aead.length_mac _ _ _ _
  have hmsg : data.encryptedData.take (data.encryptedData.length - 16) = sealed.1 := by
    rw [hbody, step5Body, List.length_append, hmac, Nat.add_sub_cancel, List.take_left]
  have hlen : ¬ data.encryptedData.length < 16 := by
    rw [hbody, step5Body, List.length_append, hmac]; omega
  have htag : data.encryptedData.drop sealed.1.length = sealed.2 := by
    rw [hbody, step5Body, List.drop_left]
  obtain ⟨hash, hacc⟩ : ∃ hash, L.hkdf.sha512 ss.privateKey (ascii "Pair-Setup-Accessory-Sign-Salt")
      (ascii "Pair-Setup-Accessory-Sign-Info") = (hash, none) := ⟨_, Prod.ext rfl (hL.hkdf _ _ _)⟩
  obtain ⟨sig, hsign⟩ := hL.ed25519.signature_ok srv.keyPrivate
    (hash.bytes ++ ss.identifier ++ srv.keyPublic) hkey
  let reply := L.aead.encryptAndSeal ss.encryptionKey (ascii "PS-Msg06")
    (L.tlv8.marshalSubTlv ⟨ss.identifier, srv.keyPublic, sig⟩) []
  refine ⟨reply.1 ++ reply.2, ?_⟩
  simp only [pairSetupStep5, hget, if_neg hlen, hmsg, htag, hL.aead.decrypt_seal, m,
    hL.tlv8 encData, hsig, Bool.not_true, hacc, hsign]
  rfl

/-! ## The two-request run -/

/-- **Admin without the PIN.** Take lawful libraries and an accessory with no
pairing and no session of another address. A client that knows no PIN sends
Step 1 and then Step 5, sealed under the zero key and signed with its own key
over `HKDF([]) ‖ id ‖ LTPK`. Both are answered as in a successful setup, and
the accessory saves the client as an admin. No Step 3, and so no proof `M1`,
was ever sent. -/
theorem setupRun_admin_without_step3 {srv : Server} (hL : L.Lawful) (hkey : srv.keyPrivate.length = 64)
    (st : ServerState σ) (addr : String) (hpaired : isPaired L.json st.store = false)
    (hidle : ∀ a ∈ st.sessionAddrs, a = addr) (id sk : Bytes) (hsk : sk.length = 64) :
    ∃ data₅ : PairSetupPayload, data₅.method = methodPair ∧ data₅.state = step5 ∧
      let r := setupRun L srv st [⟨addr, .ok ⟨methodPair, [], [], [], step1⟩⟩, ⟨addr, .ok data₅⟩]
      (∃ salt b e, r.1 = [.step2 salt b, .step6 e]) ∧
      r.2.store = (Storer.savePairing L.json st.store ⟨id, L.ed25519.publicKey sk, permissionAdmin⟩).2 := by
  obtain ⟨ss, hK, hS, -, h₁⟩ := pairSetup_step1 srv hL.srp hpaired hidle
    ⟨methodPair, [], [], [], step1⟩ rfl rfl
  -- the client signs with its own key over `HKDF([]) ‖ id ‖ LTPK`, which it can compute
  obtain ⟨sig, hsig⟩ := hL.ed25519.signature_ok sk
    ((L.hkdf.sha512 [] (ascii "Pair-Setup-Controller-Sign-Salt")
      (ascii "Pair-Setup-Controller-Sign-Info")).1.bytes ++ id ++ L.ed25519.publicKey sk) hsk
  let encData : SubTlv := ⟨id, L.ed25519.publicKey sk, sig⟩
  let data₅ : PairSetupPayload :=
    ⟨methodPair, [], [], step5Body L.aead Key.zero (L.tlv8.marshalSubTlv encData), step5⟩
  refine ⟨data₅, rfl, rfl, ?_⟩
  have hss : (st.setSession addr (.setup (some ss))).sessions.lookup addr = some (.setup (some ss)) := by
    rw [ServerState.lookup_setSession, if_pos rfl]
  obtain ⟨e, h₅⟩ := pairSetupStep5_sealed hL hkey hss encData
    (by rw [hS]; exact hL.ed25519.validate_signature _ _ _ hsig) data₅ (by rw [hK])
  have hrefuse := pairSetupRefusal_none (L := L)
    (by rwa [ServerState.setSession_store]) (sessionAddrs_setSession (.setup (some ss)) hidle)
  have h₅' : pairSetup L srv (st.setSession addr (.setup (some ss))) ⟨addr, .ok data₅⟩ =
      (.step6 e, { st.setSession addr (.setup (some ss)) with store := ((Storer.savePairing L.json
        st.store ⟨id, L.ed25519.publicKey sk, permissionAdmin⟩).2) }) := by
    rw [pairSetup_of_refusal_none hrefuse]
    simp only [pairSetupDispatch, data₅, if_true, show step5 ≠ step1 by decide,
      show step5 ≠ step3 by decide, if_false]
    rw [h₅]
    rfl
  simp only [setupRun, h₁, h₅']
  exact ⟨⟨_, _, _, rfl⟩, trivial⟩

/-- The run on a fresh accessory with the lawful toy libraries. -/
theorem setupRun_admin_without_step3_toy :
    let srv : Server := ⟨[], [], [], List.replicate 64 0⟩
    let st : ServerState Unit := ⟨∅, ∅, ⟨[], ∅, by decide⟩⟩
    let sk : Bytes := List.replicate 64 1
    (Libs.toy.Lawful ∧ srv.keyPrivate.length = 64 ∧ isPaired Libs.toy.json st.store = false ∧
      (∀ a ∈ st.sessionAddrs, a = "a") ∧ sk.length = 64) ∧
    ∃ data₅ : PairSetupPayload, data₅.method = methodPair ∧ data₅.state = step5 ∧
      let r := setupRun Libs.toy srv st
        [⟨"a", .ok ⟨methodPair, [], [], [], step1⟩⟩, ⟨"a", .ok data₅⟩]
      (∃ salt b e, r.1 = [.step2 salt b, .step6 e]) ∧
      r.2.store = (Storer.savePairing Libs.toy.json st.store
        ⟨[0x61], Libs.toy.ed25519.publicKey sk, permissionAdmin⟩).2 := by
  intro srv st sk
  have hpaired : isPaired Libs.toy.json st.store = false := by
    simp [st, isPaired, Storer.pairings, FsStore.keysWithSuffix, AList.keys_empty]
  have hidle : ∀ a ∈ st.sessionAddrs, a = "a" := by
    simp [st, ServerState.sessionAddrs, AList.keys_empty]
  exact ⟨⟨Libs.toy_lawful, rfl, hpaired, hidle, rfl⟩,
    setupRun_admin_without_step3 Libs.toy_lawful (show srv.keyPrivate.length = 64 from rfl) st "a"
      hpaired hidle [0x61] sk rfl⟩

end Hap
