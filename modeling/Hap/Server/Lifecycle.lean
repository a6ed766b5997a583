import Hap.Server.SetupComplete
import Hap.Server.Registry

/-!
# From an unpaired accessory to an administering controller

The stages of a controller's life on the accessory, as one run of server
events from one address: pair-setup (Step 1, Step 3, Step 5), pair-verify,
and a pairings request. Each stage uses what the one before left behind. The
Step-5 save is the pairing pair-verify reads back. The session pair-verify
installs is bound to an admin pairing, so the Add passes the admin check.

* `serverRun_setup`: pair-setup requests as server events run as `setupRun`;
* `serverRun_verify_add`: pair-verify on a stored admin pairing, then an Add
  on the session it installs;
* `serverRun_lifecycle`: after the five events the address holds an
  established session bound to its admin pairing, that pairing still reads
  back, and so does the one the Add saved.
-/

namespace Hap

variable {σ : Type} {L : Libs σ}

/-- Pair-setup requests handled as server events are `setupRun`. -/
theorem serverRun_setup (srv : Server) (st : ServerState σ) (reqs : List SetupRequest) :
    serverRun L srv st (reqs.map .setup) = (setupRun L srv st reqs).2 := by
  induction reqs generalizing st with
  | nil => rfl
  | cons req reqs ih => exact ih (pairSetup L srv st req).2

/-- Pair-verify, then an Add on the session it installs: where the
controller's admin pairing reads back and the new name has no file, the Add
passes the admin check and saves the new pairing. -/
theorem serverRun_verify_add (hH : L.hkdf.Total) (srv : Server) (st : ServerState σ) (vreq : VerifyRequest)
    {q : Pairing} (hq : Storer.pairing L.json st.store vreq.identifier = .ok q)
    (hadmin : q.permission = permissionAdmin)
    (hvsig : L.ed25519.validateSignature q.publicKey vreq.material vreq.signature = true)
    (d : AdminPayload) (hm : d.method = methodAddPairing)
    (hnone : st.store.files.lookup (keyForPairingName d.identifier) = none) :
    ∃ s : Session, s.pairing = q ∧ serverRun L srv st [.verify vreq, .admin ⟨vreq.addr, .ok d⟩] =
      { st.setSession vreq.addr (.established s) with
        store := (Storer.savePairing L.json st.store ⟨d.identifier, d.publicKey, d.permission⟩).2 } := by
  obtain ⟨s, hverify, hs⟩ := pairVerify_of_pairing hH vreq hq hvsig
  have hget : (st.setSession vreq.addr (.established s)).getSession vreq.addr = .ok s := by
    simp [ServerState.getSession, ServerState.lookup_setSession]
  have hp : isPaired L.json (st.setSession vreq.addr (.established s)).store = true := isPaired_of_pairing hq
  have hmiss : Storer.pairing L.json (st.setSession vreq.addr (.established s)).store d.identifier = _ :=
    Storer.pairing_of_lookup_none hnone
  obtain ⟨m, id, pk, perm, state⟩ := d
  subst hm
  refine ⟨s, hs, ?_⟩
  simp only [serverRun_cons, serverRun_nil, serverStep, hverify]
  rw [pairingsHandler_add hp hget (by rw [hs, hadmin]), addPairing_of_error hmiss]
  rfl

/-- **A controller's life: pair-setup, pair-verify, administration.** Take
lawful libraries and an accessory with no pairing and no session of another
address, on which neither the controller's name nor the new name has a file
and the system accepts both file names.
From one address: an honest pair-setup (as in `setupRun_honest`); a
pair-verify for the controller's name whose signature its key validates; an
Add of another name. Afterwards the address holds an established session bound
to the controller's admin pairing, the controller's pairing reads back, and so
does the pairing the Add saved. -/
theorem serverRun_lifecycle {srv : Server} (hL : L.Lawful) (hkey : srv.keyPrivate.length = 64)
    (st : ServerState σ) (addr : String) (hpaired : isPaired L.json st.store = false)
    (hidle : ∀ a ∈ st.sessionAddrs, a = addr) {salt v : Bytes}
    (hv : L.srp.computeVerifier srv.pin = .ok (salt, v)) (pub proof : Bytes) {S : Bytes} {session : σ}
    (hS : L.srp.computeKey (L.srp.newServerSession (ascii "Pair-Setup") salt v) pub = .ok (S, session))
    (hM1 : L.srp.verifyClientAuthenticator session proof = true) (encData : SubTlv)
    (hsig : L.ed25519.validateSignature encData.publicKey
      ((L.hkdf.sha512 S (ascii "Pair-Setup-Controller-Sign-Salt")
        (ascii "Pair-Setup-Controller-Sign-Info")).1.bytes ++ encData.identifier ++ encData.publicKey)
      encData.signature = true)
    (hfile : st.store.files.lookup (keyForPairingName encData.identifier) = none)
    (hfit : nameTooLong st.store.path (keyForPairingName encData.identifier) = false)
    (vreq : VerifyRequest) (hva : vreq.addr = addr) (hvid : vreq.identifier = encData.identifier)
    (hvsig : L.ed25519.validateSignature encData.publicKey vreq.material vreq.signature = true)
    (d : AdminPayload) (hm : d.method = methodAddPairing) (hne : d.identifier ≠ encData.identifier)
    (hfile' : st.store.files.lookup (keyForPairingName d.identifier) = none)
    (hfit' : nameTooLong st.store.path (keyForPairingName d.identifier) = false) :
    let K := (L.hkdf.sha512 S (ascii "Pair-Setup-Encrypt-Salt") (ascii "Pair-Setup-Encrypt-Info")).1
    let st' := serverRun L srv st [.setup ⟨addr, .ok ⟨methodPair, [], [], [], step1⟩⟩,
      .setup ⟨addr, .ok ⟨methodPair, pub, proof, [], step3⟩⟩,
      .setup ⟨addr, .ok ⟨methodPair, [], [], step5Body L.aead K (L.tlv8.marshalSubTlv encData), step5⟩⟩,
      .verify vreq, .admin ⟨addr, .ok d⟩]
    (∃ s, st'.sessions.lookup addr = some (.established s) ∧
      s.pairing = ⟨coerceUTF8 encData.identifier, encData.publicKey, permissionAdmin⟩) ∧
    Storer.pairing L.json st'.store encData.identifier =
      .ok ⟨coerceUTF8 encData.identifier, encData.publicKey, permissionAdmin⟩ ∧
    Storer.pairing L.json st'.store d.identifier = .ok ⟨coerceUTF8 d.identifier, d.publicKey, d.permission⟩ := by
  intro K
  subst hva
  let p : Pairing := ⟨encData.identifier, encData.publicKey, permissionAdmin⟩
  -- pair-setup: the session holds `K`, and the store has `p`
  obtain ⟨e, hsetup⟩ := setupRun_honest hL hkey st vreq.addr hpaired hidle hv pub proof hS hM1 encData hsig
  set st₁ := (setupRun L srv st [⟨vreq.addr, .ok ⟨methodPair, [], [], [], step1⟩⟩,
      ⟨vreq.addr, .ok ⟨methodPair, pub, proof, [], step3⟩⟩,
      ⟨vreq.addr, .ok ⟨methodPair, [], [], step5Body L.aead K (L.tlv8.marshalSubTlv encData), step5⟩⟩]).2 with hst₁
  have hstore₁ : st₁.store = (Storer.savePairing L.json st.store p).2 := by rw [hst₁, hsetup]
  have hq : Storer.pairing L.json st₁.store encData.identifier =
      .ok ⟨coerceUTF8 encData.identifier, encData.publicKey, permissionAdmin⟩ := by
    rw [hstore₁]
    exact Storer.pairing_savePairing_fresh hL.json st.store hfit hfile
  have hnone : st₁.store.files.lookup (keyForPairingName d.identifier) = none := by
    rw [hstore₁, Storer.lookup_savePairing, if_neg fun h => hne h.1, hfile']
  -- pair-verify reads the pairing back, and the Add on its session saves the new name
  obtain ⟨s, hs, hrest⟩ := serverRun_verify_add hL.hkdf srv st₁ vreq (by rw [hvid]; exact hq) rfl hvsig d hm hnone
  have hrun : serverRun L srv st [.setup ⟨vreq.addr, .ok ⟨methodPair, [], [], [], step1⟩⟩,
      .setup ⟨vreq.addr, .ok ⟨methodPair, pub, proof, [], step3⟩⟩,
      .setup ⟨vreq.addr, .ok ⟨methodPair, [], [], step5Body L.aead K (L.tlv8.marshalSubTlv encData), step5⟩⟩,
      .verify vreq, .admin ⟨vreq.addr, .ok d⟩] = serverRun L srv st₁ [.verify vreq, .admin ⟨vreq.addr, .ok d⟩] := by
    rw [hst₁, ← serverRun_setup]
    rfl
  simp only [hrun, hrest]
  refine ⟨⟨s, by rw [ServerState.lookup_setSession, if_pos rfl], hs⟩, ?_, ?_⟩
  · rw [Storer.pairing_savePairing_of_ne _ _ (Ne.symm hne), hq]
  · exact Storer.pairing_savePairing_fresh hL.json st₁.store
      (by rw [hstore₁, Storer.savePairing_path]; exact hfit') hnone

/-- With the toy libraries and an SRP session that accepts the proof `[1]`:
`"a"` pairs, verifies, and adds `"b"`. -/
theorem serverRun_lifecycle_toy :
    let L : Libs Unit := ⟨Aead.transparent, Ed25519.transparent, Hkdf.zero,
      ⟨.ok (), fun _ => .ok ([], []), fun _ _ _ => (), fun _ => [], fun _ _ => .ok ([], ()),
        fun _ m => m == [1], fun _ _ => [2]⟩, Tlv8.tagged, Json.tagged⟩
    let srv : Server := ⟨[], [], [], List.replicate 64 0⟩
    let st : ServerState Unit := ⟨∅, ∅, ⟨[], ∅, by decide⟩⟩
    let encData : SubTlv := ⟨[0x61], [1], [1] ++ (Key.zero.bytes ++ [0x61] ++ [1])⟩
    let vreq : VerifyRequest := ⟨"a", [0x61], [], [1], []⟩
    let d : AdminPayload := ⟨methodAddPairing, [0x62], [2], permissionUser, step1⟩
    (L.Lawful ∧ isPaired L.json st.store = false ∧ (∀ a ∈ st.sessionAddrs, a = "a") ∧
      L.srp.verifyClientAuthenticator () [1] = true ∧
      L.ed25519.validateSignature encData.publicKey vreq.material vreq.signature = true ∧
      d.identifier ≠ encData.identifier) ∧
    let K := (L.hkdf.sha512 [] (ascii "Pair-Setup-Encrypt-Salt") (ascii "Pair-Setup-Encrypt-Info")).1
    let st' := serverRun L srv st [.setup ⟨"a", .ok ⟨methodPair, [], [], [], step1⟩⟩,
      .setup ⟨"a", .ok ⟨methodPair, [], [1], [], step3⟩⟩,
      .setup ⟨"a", .ok ⟨methodPair, [], [], step5Body L.aead K (L.tlv8.marshalSubTlv encData), step5⟩⟩,
      .verify vreq, .admin ⟨"a", .ok d⟩]
    (∃ s, st'.sessions.lookup "a" = some (.established s) ∧
      s.pairing = ⟨coerceUTF8 encData.identifier, encData.publicKey, permissionAdmin⟩) ∧
    Storer.pairing L.json st'.store encData.identifier =
      .ok ⟨coerceUTF8 encData.identifier, encData.publicKey, permissionAdmin⟩ ∧
    Storer.pairing L.json st'.store d.identifier = .ok ⟨coerceUTF8 d.identifier, d.publicKey, d.permission⟩ := by
  intro L srv st encData vreq d
  have hL : L.Lawful := ⟨Aead.transparent_ideal.toCorrect, Ed25519.transparent_correct, Hkdf.zero_total,
    ⟨rfl, fun _ => ⟨_, rfl⟩⟩, Tlv8.tagged_lawful, Json.tagged_lawful⟩
  have hpaired : isPaired L.json st.store = false := by
    simp [st, isPaired, Storer.pairings, FsStore.keysWithSuffix, AList.keys_empty]
  have hidle : ∀ a ∈ st.sessionAddrs, a = "a" := by
    simp [st, ServerState.sessionAddrs, AList.keys_empty]
  have hsig : L.ed25519.validateSignature encData.publicKey
      ((L.hkdf.sha512 [] (ascii "Pair-Setup-Controller-Sign-Salt")
        (ascii "Pair-Setup-Controller-Sign-Info")).1.bytes ++ encData.identifier ++ encData.publicKey)
      encData.signature = true := by
    simp [L, encData, Hkdf.zero, Ed25519.transparent]
  have hne : d.identifier ≠ encData.identifier := by decide
  exact ⟨⟨hL, hpaired, hidle, rfl, rfl, hne⟩,
    serverRun_lifecycle hL (show srv.keyPrivate.length = 64 by rfl) st "a" hpaired hidle rfl [] [1] rfl rfl
      encData hsig rfl rfl vreq rfl rfl rfl d rfl hne rfl rfl⟩

end Hap
