import Hap.Server.SetupInterleaving

/-!
# Pair-setup on malformed requests and failures

What the pair-setup handlers do when a request is malformed or a step fails.

* `pairSetup_panics`: two runtime panics reachable from an idle, unpaired
  accessory. A Step 5 whose `EncryptedData` is shorter than the 16-byte tag
  after a Step 1 (`data.EncryptedData[:len-16]`), and a Step 1 whose
  `ComputeVerifier` fails, for which `NewPairSetupSession` returns a nil
  session with a nil error;
* `setupRun_keeps_pairSetupSession`: no pair-setup request removes a
  `PairSetupSession` from the registry, whatever it answers. A failed or
  finished setup keeps its session until the connection closes.
-/

namespace Hap

variable {σ : Type} {L : Libs σ} (srv : Server)

/-! ## Dispatch after Step 1 -/

/-- The address that ran Step 1 on an idle, unpaired accessory is not refused
by its next request, which goes to the dispatch. -/
theorem pairSetup_after_step1 {st : ServerState σ} {addr : String}
    (hpaired : isPaired L.json st.store = false) (hidle : ∀ a ∈ st.sessionAddrs, a = addr)
    (v : SessionValue σ) (data : PairSetupPayload) :
    pairSetup L srv (st.setSession addr v) ⟨addr, .ok data⟩ =
      pairSetupDispatch L srv (st.setSession addr v) addr data :=
  pairSetup_of_refusal_none
    (pairSetupRefusal_none (by rwa [ServerState.setSession_store]) (sessionAddrs_setSession v hidle)) data

theorem pairSetupDispatch_step5 (st : ServerState σ) (addr : String) {data : PairSetupPayload}
    (hm : data.method = methodPair) (hs : data.state = step5) :
    pairSetupDispatch L srv st addr data = pairSetupStep5 L srv st addr data := by
  simp [pairSetupDispatch, hm, hs, show step5 ≠ step1 by decide, show step5 ≠ step3 by decide]

/-! ## Runtime panics -/

/-- **Two panics.** On an idle, unpaired accessory:

* with an SRP library that does not fail, Step 1 and then a Step 5 whose
  `EncryptedData` is shorter than 16 bytes: Step 5 slices out of range;
* with `NewSRP` succeeding and `ComputeVerifier` failing, Step 1 alone:
  `NewPairSetupSession` returns a nil session and a nil error, Step 1
  registers it and reads its salt. -/
theorem pairSetup_panics (st : ServerState σ) (addr : String)
    (hpaired : isPaired L.json st.store = false) (hidle : ∀ a ∈ st.sessionAddrs, a = addr)
    (data₁ : PairSetupPayload) (hm₁ : data₁.method = methodPair) (hs₁ : data₁.state = step1) :
    (L.srp.Total → ∀ data₅ : PairSetupPayload, data₅.method = methodPair → data₅.state = step5 →
      data₅.encryptedData.length < 16 →
      ∃ salt b, (setupRun L srv st [⟨addr, .ok data₁⟩, ⟨addr, .ok data₅⟩]).1 = [.step2 salt b, .panic]) ∧
    (L.srp.newSRP = .ok () → (∃ e, L.srp.computeVerifier srv.pin = .error e) →
      (pairSetup L srv st ⟨addr, .ok data₁⟩).1 = .panic) := by
  refine ⟨fun hS data₅ hm₅ hs₅ hshort => ?_, fun hsrp ⟨e, hv⟩ => ?_⟩
  · -- Step 1 registers a session; Step 5 then slices the short body
    obtain ⟨ss, -, -, -, h₁⟩ := pairSetup_step1 srv hS hpaired hidle data₁ hm₁ hs₁
    have hget : (st.setSession addr (.setup (some ss))).getPairSetupSession addr = .ok (some ss) := by
      simp [ServerState.getPairSetupSession, ServerState.lookup_setSession]
    refine ⟨ss.salt, ss.publicKey, ?_⟩
    simp only [setupRun, h₁, pairSetup_after_step1 srv hpaired hidle, pairSetupDispatch_step5 srv _ _ hm₅ hs₅,
      pairSetupStep5, hget, if_pos hshort]
  · -- the shadowed error: a nil session with a nil error
    have hnil : newPairSetupSession L.srp srv.uuid srv.pin = (none, none) := by
      simp [newPairSetupSession, hsrp, hv]
    simp [pairSetup, pairSetupRefusal_none hpaired hidle, pairSetupDispatch, hm₁, hs₁, pairSetupStep1, hnil]

/-- Step 1 and a Step 5 with an empty `EncryptedData` on a fresh accessory. -/
theorem pairSetup_panics_toy :
    let st : ServerState Unit := ⟨∅, ∅, ⟨[], ∅, by decide⟩⟩
    let srv : Server := ⟨[], [], [], []⟩
    let data₁ : PairSetupPayload := ⟨methodPair, [], [], [], step1⟩
    (isPaired Libs.toy.json st.store = false ∧ (∀ a ∈ st.sessionAddrs, a = "a") ∧
      data₁.method = methodPair ∧ data₁.state = step1) ∧
    (Libs.toy.srp.Total → ∀ data₅ : PairSetupPayload, data₅.method = methodPair → data₅.state = step5 →
      data₅.encryptedData.length < 16 →
      ∃ salt b, (setupRun Libs.toy srv st [⟨"a", .ok data₁⟩, ⟨"a", .ok data₅⟩]).1 = [.step2 salt b, .panic]) ∧
    (Libs.toy.srp.newSRP = .ok () → (∃ e, Libs.toy.srp.computeVerifier srv.pin = .error e) →
      (pairSetup Libs.toy srv st ⟨"a", .ok data₁⟩).1 = .panic) := by
  intro st srv data₁
  have hpaired : isPaired Libs.toy.json st.store = false := by
    simp [st, isPaired, Storer.pairings, FsStore.keysWithSuffix, AList.keys_empty]
  have hidle : ∀ a ∈ st.sessionAddrs, a = "a" := by
    simp [st, ServerState.sessionAddrs, AList.keys_empty]
  exact ⟨⟨hpaired, hidle, rfl, rfl⟩, pairSetup_panics srv st "a" hpaired hidle data₁ rfl rfl⟩

/-! ## Sessions are never removed -/

/-- The step handlers leave a pair-setup session at every address that had one:
they only ever register pair-setup sessions. -/
theorem pairSetupDispatch_holdsSetup {st : ServerState σ} {a : String} (h : st.HoldsSetup a)
    (addr : String) (data : PairSetupPayload) : (pairSetupDispatch L srv st addr data).2.HoldsSetup a := by
  obtain ⟨ss, hss⟩ := h
  rcases pairSetupDispatch_cases st addr data with he | ⟨ss', he⟩
  · exact ⟨ss, by rw [he, hss]⟩
  · by_cases ha : a = addr
    · exact ⟨ss', by rw [he, ServerState.lookup_setSession, if_pos ha]⟩
    · exact ⟨ss, by rw [he, ServerState.lookup_setSession, if_neg ha, hss]⟩

/-- **Step lemma.** -/
theorem pairSetup_holdsSetup {st : ServerState σ} {a : String} (h : st.HoldsSetup a)
    (req : SetupRequest) : (pairSetup L srv st req).2.HoldsSetup a := by
  unfold pairSetup
  split
  · exact h
  · split
    · exact h
    · exact pairSetupDispatch_holdsSetup srv h req.addr _

/-- **Sessions are never dropped.** An address holding a pair-setup session
keeps one through every run of pair-setup requests, whatever the replies:
after a Step 3 or Step 5 answered with an error, and after a Step 5 that
succeeded. -/
theorem setupRun_keeps_pairSetupSession {st : ServerState σ} {a : String} (h : st.HoldsSetup a)
    (reqs : List SetupRequest) : (setupRun L srv st reqs).2.HoldsSetup a := by
  induction reqs generalizing st with
  | nil => exact h
  | cons req reqs ih => exact ih (pairSetup_holdsSetup srv h req)

/-- Step 1 from `"a"`, then a Step 3 whose proof the trivial SRP library
refuses: the reply is an error, and `"a"` keeps its session. -/
theorem setupRun_keeps_pairSetupSession_toy :
    let srv : Server := ⟨[], [], [], []⟩
    let st₁ := (pairSetup Libs.toy srv ⟨∅, ∅, ⟨[], ∅, by decide⟩⟩ ⟨"a", .ok ⟨methodPair, [], [], [], step1⟩⟩).2
    let req₃ : SetupRequest := ⟨"a", .ok ⟨methodPair, [], [], [], step3⟩⟩
    st₁.HoldsSetup "a" ∧ (pairSetup Libs.toy srv st₁ req₃).1 = .tlvError none step4 tlvErrorInvalidRequest ∧
      (setupRun Libs.toy srv st₁ [req₃]).2.HoldsSetup "a" := by
  intro srv st₁ req₃
  have hpaired : isPaired Libs.toy.json (⟨∅, ∅, ⟨[], ∅, by decide⟩⟩ : ServerState Unit).store = false := by
    simp [isPaired, Storer.pairings, FsStore.keysWithSuffix, AList.keys_empty]
  have hidle : ∀ a ∈ (⟨∅, ∅, ⟨[], ∅, by decide⟩⟩ : ServerState Unit).sessionAddrs, a = "a" := by
    simp [ServerState.sessionAddrs, AList.keys_empty]
  obtain ⟨ss, -, -, -, h₁⟩ := pairSetup_step1 (L := Libs.toy) srv Srp.trivial_total hpaired hidle
    ⟨methodPair, [], [], [], step1⟩ rfl rfl
  have e₁ : st₁ = (⟨∅, ∅, ⟨[], ∅, by decide⟩⟩ : ServerState Unit).setSession "a" (.setup (some ss)) := by
    simp only [st₁, h₁]
  have hs : st₁.HoldsSetup "a" := ⟨_, by rw [e₁, ServerState.lookup_setSession, if_pos rfl]⟩
  refine ⟨hs, ?_, setupRun_keeps_pairSetupSession srv hs [req₃]⟩
  rw [e₁, pairSetup_after_step1 srv hpaired hidle]
  simp [pairSetupDispatch, pairSetupStep3, ServerState.getPairSetupSession, ServerState.lookup_setSession,
    Libs.toy, Srp.trivial, show step3 ≠ step1 by decide]
  rfl

end Hap
