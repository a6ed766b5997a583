import Hap.Server.SetupAuth

/-!
# Concurrent pair-setup requests

`net/http` runs each request in its own goroutine, and `Server.pairSetup`
takes the registry mutex separately for the busy check (`Sessions()`) and for
Step 1's `setSession`, with the body decoding in between. A request is split
into the atomic steps it makes on shared state (`SetupPhase`):

1. `start`: `isPaired` and the busy check over a snapshot of the map;
2. `checked`: `tlv8.UnmarshalReader` on the body;
3. `decoded`: the step handler, which for Step 1 creates and registers the
   session.

`interleave` runs a schedule of these steps over any number of requests.

* `interleave_phases` connects the two levels: a request run alone, one step
  after another, is `pairSetup`; `interleave_start` is the same step inside any
  schedule, and `interleave_serialSchedule` the whole run: under the schedule
  that runs the requests one after another, `interleave` ends with
  `setupRun`'s state and replies;
* `pairSetup_atMostOneSetup` and `setupRun_atMostOneSetup`: one request at a
  time, the registry never holds a pair-setup session for two addresses;
* `interleave_two_setups`: two Step-1 requests from different addresses,
  each past its busy check before the other registers, leave a pair-setup
  session for both.
-/

namespace Hap

variable {σ : Type} (L : Libs σ) (srv : Server)

/-! ## Atomic steps and schedules -/

/-- Where a pair-setup request stands. -/
inductive SetupPhase where
  | start
  | checked
  | decoded (data : PairSetupPayload)
  | done (reply : SetupReply)

/-- A request in flight. -/
structure InFlight where
  req : SetupRequest
  phase : SetupPhase

/-- One atomic step of a request. -/
def setupPhaseStep (st : ServerState σ) (r : InFlight) : InFlight × ServerState σ :=
  match r.phase with
  | .start =>
    match pairSetupRefusal L st r.req.addr with
    | some reply => (⟨r.req, .done reply⟩, st)
    | none => (⟨r.req, .checked⟩, st)
  | .checked =>
    match r.req.body with
    | .error _ => (⟨r.req, .done (.tlvError (some 400) step2 tlvErrorUnknown)⟩, st)
    | .ok data => (⟨r.req, .decoded data⟩, st)
  | .decoded data =>
    let res := pairSetupDispatch L srv st r.req.addr data
    (⟨r.req, .done res.1⟩, res.2)
  | .done _ => (r, st)

/-- Run a schedule: each entry is the index of the request that takes its
next step. -/
def interleave : ServerState σ → List InFlight → List Nat → ServerState σ × List InFlight
  | st, rs, [] => (st, rs)
  | st, rs, i :: is =>
    match rs[i]? with
    | none => interleave st rs is
    | some r =>
      let next := setupPhaseStep L srv st r
      interleave next.2 (rs.set i next.1) is

/-- **The two levels agree.** A request run alone, its three steps one after
another, ends with `pairSetup`'s reply and state. -/
theorem interleave_phases (st : ServerState σ) (req : SetupRequest) :
    interleave L srv st [⟨req, .start⟩] [0, 0, 0] =
      ((pairSetup L srv st req).2, [⟨req, .done (pairSetup L srv st req).1⟩]) := by
  cases h : pairSetupRefusal L st req.addr with
  | some reply => simp [interleave, setupPhaseStep, pairSetup, h]
  | none =>
    cases hb : req.body <;> simp [interleave, setupPhaseStep, pairSetup, h, hb]

/-! ## Serial schedules -/

section Serial

variable {L srv}

/-- The schedule that runs `n` requests, from index `i` on, one after another,
each through its three atomic steps. -/
def serialSchedule : Nat → Nat → List Nat
  | _, 0 => []
  | i, n + 1 => i :: i :: i :: serialSchedule (i + 1) n

/-- A request that has not started, given three steps in a row, ends as
`pairSetup` ends: a refused request is done after the first, and steps of a
request that is done change nothing. -/
theorem interleave_start (st : ServerState σ) {rs : List InFlight} {i : Nat} {req : SetupRequest}
    (hr : rs[i]? = some ⟨req, .start⟩) (is : List Nat) :
    interleave L srv st rs (i :: i :: i :: is) =
      interleave L srv (pairSetup L srv st req).2 (rs.set i ⟨req, .done (pairSetup L srv st req).1⟩) is := by
  have hi : i < rs.length := (List.getElem?_eq_some_iff.1 hr).1
  cases hrefuse : pairSetupRefusal L st req.addr with
  | some reply =>
    simp [interleave, setupPhaseStep, pairSetup, hr, hrefuse, List.getElem?_set_self hi]
  | none =>
    cases hb : req.body <;> simp [interleave, setupPhaseStep, pairSetup, hr, hrefuse, hb, List.getElem?_set_self hi]

theorem interleave_serial (st : ServerState σ) (done : List InFlight) (reqs : List SetupRequest) :
    interleave L srv st (done ++ reqs.map fun req => ⟨req, .start⟩) (serialSchedule done.length reqs.length) =
      ((setupRun L srv st reqs).2,
        done ++ List.zipWith (fun req reply => ⟨req, .done reply⟩) reqs (setupRun L srv st reqs).1) := by
  induction reqs generalizing st done with
  | nil => simp [serialSchedule, interleave, setupRun]
  | cons req reqs ih =>
    have hr : (done ++ (req :: reqs).map fun req => (⟨req, .start⟩ : InFlight))[done.length]? =
        some ⟨req, .start⟩ := by
      rw [List.getElem?_append_right le_rfl, Nat.sub_self, List.map_cons, List.getElem?_cons_zero]
    rw [List.length_cons, serialSchedule, interleave_start st hr, List.set_append_right _ _ le_rfl, Nat.sub_self,
      List.map_cons, List.set_cons_zero]
    have := ih (pairSetup L srv st req).2 (done ++ [⟨req, .done (pairSetup L srv st req).1⟩])
    simp only [List.length_append, List.length_singleton, List.append_assoc, List.singleton_append] at this
    exact this

/-- **Serial schedules refine the sequential run.** Run pair-setup requests
under the schedule that gives each its three atomic steps before the next
starts: the registry and the store end as `setupRun` leaves them, and each
request is answered with `setupRun`'s reply for it. -/
theorem interleave_serialSchedule (st : ServerState σ) (reqs : List SetupRequest) :
    interleave L srv st (reqs.map fun req => ⟨req, .start⟩) (serialSchedule 0 reqs.length) =
      ((setupRun L srv st reqs).2,
        List.zipWith (fun req reply => ⟨req, .done reply⟩) reqs (setupRun L srv st reqs).1) :=
  interleave_serial st [] reqs

end Serial

/-! ## One request at a time -/

/-- The address holds a pair-setup session (possibly a nil pointer). -/
def ServerState.HoldsSetup (st : ServerState σ) (a : String) : Prop :=
  ∃ ss, st.sessions.lookup a = some (.setup ss)

/-- At most one address holds a pair-setup session. -/
def ServerState.AtMostOneSetup (st : ServerState σ) : Prop :=
  ∀ a b, st.HoldsSetup a → st.HoldsSetup b → a = b

variable {L srv}

/-- Step 1 leaves the state as it was or registers a pair-setup session at the
request's address. -/
theorem pairSetupStep1_cases (st : ServerState σ) (addr : String) (data : PairSetupPayload) :
    (pairSetupStep1 L srv st addr data).2 = st ∨
      ∃ ss, (pairSetupStep1 L srv st addr data).2 = st.setSession addr (.setup ss) := by
  unfold pairSetupStep1
  split
  · exact .inl rfl
  · split <;> exact .inr ⟨_, rfl⟩

/-- So does Step 3; on success it registers the session twice, the second
time with the encryption key. -/
theorem pairSetupStep3_cases (st : ServerState σ) (addr : String) (data : PairSetupPayload) :
    (pairSetupStep3 L st addr data).2 = st ∨
      ∃ ss, (pairSetupStep3 L st addr data).2 = st.setSession addr (.setup ss) := by
  unfold pairSetupStep3
  split
  · exact .inl rfl
  · exact .inl rfl
  · split
    · exact .inl rfl
    · dsimp only
      split
      · exact .inr ⟨_, rfl⟩
      · split
        · exact .inr ⟨_, rfl⟩
        · exact .inr ⟨_, by simp only [ServerState.setSession, AList.insert_insert]; rfl⟩

/-- Step 5 leaves the session map alone. -/
theorem pairSetupStep5_sessions (st : ServerState σ) (addr : String) (data : PairSetupPayload) :
    (pairSetupStep5 L srv st addr data).2.sessions = st.sessions := by
  unfold pairSetupStep5
  dsimp only
  repeat' split
  all_goals rfl

/-- **What a step does to the sessions.** A handled request leaves the session
map as it was or registers a pair-setup session at its own address. -/
theorem pairSetupDispatch_cases (st : ServerState σ) (addr : String) (data : PairSetupPayload) :
    (pairSetupDispatch L srv st addr data).2.sessions = st.sessions ∨
      ∃ ss, (pairSetupDispatch L srv st addr data).2.sessions = (st.setSession addr (.setup ss)).sessions := by
  unfold pairSetupDispatch
  split_ifs
  · rcases pairSetupStep1_cases st addr data with h | ⟨ss, h⟩
    exacts [.inl (by rw [h]), .inr ⟨ss, by rw [h]⟩]
  · rcases pairSetupStep3_cases st addr data with h | ⟨ss, h⟩
    exacts [.inl (by rw [h]), .inr ⟨ss, by rw [h]⟩]
  · exact .inl (pairSetupStep5_sessions st addr data)
  all_goals exact .inl rfl

/-- The step handlers change the session map at the request's address only. -/
theorem pairSetupDispatch_frame (st : ServerState σ) (addr : String) (data : PairSetupPayload)
    {a : String} (ha : a ≠ addr) :
    (pairSetupDispatch L srv st addr data).2.sessions.lookup a = st.sessions.lookup a := by
  rcases pairSetupDispatch_cases st addr data with h | ⟨ss, h⟩ <;> rw [h]
  exact (ServerState.lookup_setSession _ _ _ _).trans (if_neg ha)

/-- After a request that is not refused, the request's address is the only
one with a session. -/
theorem pairSetupDispatch_only (st : ServerState σ) (addr : String) (data : PairSetupPayload)
    (hidle : ∀ a ∈ st.sessionAddrs, a = addr) {a : String}
    (ha : ((pairSetupDispatch L srv st addr data).2.sessions.lookup a).isSome) : a = addr := by
  by_contra hne
  rw [pairSetupDispatch_frame st addr data hne, AList.lookup_isSome, AList.mem_keys] at ha
  exact hne (hidle a ha)

theorem pairSetupRefusal_eq_none {st : ServerState σ} {addr : String}
    (h : pairSetupRefusal L st addr = none) : ∀ a ∈ st.sessionAddrs, a = addr := by
  unfold pairSetupRefusal at h
  split at h
  · cases h
  · split at h
    · cases h
    · rename_i hbusy
      simpa using hbusy

/-- **Step lemma.** A pair-setup request keeps at most one address with a
pair-setup session. -/
theorem pairSetup_atMostOneSetup {st : ServerState σ} (h : st.AtMostOneSetup) (req : SetupRequest) :
    (pairSetup L srv st req).2.AtMostOneSetup := by
  unfold pairSetup
  split
  · exact h
  · rename_i hnone
    split
    · exact h
    · rename_i data _
      intro a b ⟨_, ha⟩ ⟨_, hb⟩
      have hidle := pairSetupRefusal_eq_none hnone
      have hsa : ((pairSetupDispatch L srv st req.addr data).2.sessions.lookup a).isSome := by
        rw [ha]; rfl
      have hsb : ((pairSetupDispatch L srv st req.addr data).2.sessions.lookup b).isSome := by
        rw [hb]; rfl
      rw [pairSetupDispatch_only st req.addr data hidle hsa,
        pairSetupDispatch_only st req.addr data hidle hsb]

/-- **Run lemma.** -/
theorem setupRun_atMostOneSetup {st : ServerState σ} (h : st.AtMostOneSetup) (reqs : List SetupRequest) :
    (setupRun L srv st reqs).2.AtMostOneSetup := by
  induction reqs generalizing st with
  | nil => exact h
  | cons req reqs ih => exact ih (pairSetup_atMostOneSetup h req)

/-! ## Two requests interleaved -/

/-- **Two pair-setup sessions.** On an idle, unpaired accessory with a working
SRP library, two Step-1 requests from different addresses, scheduled so that
each passes the busy check before the other registers its session, leave a
pair-setup session for both addresses. -/
theorem interleave_two_setups (hS : L.srp.Total) (st : ServerState σ)
    (hpaired : isPaired L.json st.store = false) (hidle : st.sessionAddrs = [])
    (a b : String) (hab : a ≠ b) (da db : PairSetupPayload)
    (hda : da.method = methodPair ∧ da.state = step1) (hdb : db.method = methodPair ∧ db.state = step1) :
    let st' := (interleave L srv st [⟨⟨a, .ok da⟩, .start⟩, ⟨⟨b, .ok db⟩, .start⟩] [0, 1, 0, 1, 0, 1]).1
    st'.HoldsSetup a ∧ st'.HoldsSetup b := by
  obtain ⟨⟨salt, v⟩, hv⟩ := hS.2 srv.pin
  have hnone : ∀ x, pairSetupRefusal L st x = none := fun x =>
    pairSetupRefusal_none hpaired (by simp [hidle])
  simp only [interleave, setupPhaseStep, List.getElem?_cons_zero, List.getElem?_cons_succ,
    List.set_cons_zero, List.set_cons_succ, hnone, pairSetupDispatch, hda, hdb, if_true,
    pairSetupStep1, newPairSetupSession, hS.1, hv]
  exact ⟨⟨_, by rw [ServerState.lookup_setSession, if_neg hab, ServerState.lookup_setSession, if_pos rfl]⟩,
    ⟨_, by rw [ServerState.lookup_setSession, if_pos rfl]⟩⟩

/-- Two Step-1 requests, from `a` and `b`, on a fresh accessory. -/
theorem interleave_two_setups_toy :
    let st : ServerState Unit := ⟨∅, ∅, ⟨[], ∅, by decide⟩⟩
    let d : PairSetupPayload := ⟨methodPair, [], [], [], step1⟩
    (Libs.toy.srp.Total ∧ isPaired Libs.toy.json st.store = false ∧ st.sessionAddrs = [] ∧
      "a" ≠ "b" ∧ (d.method = methodPair ∧ d.state = step1)) ∧
    let st' := (interleave Libs.toy ⟨[], [], [], []⟩ st [⟨⟨"a", .ok d⟩, .start⟩, ⟨⟨"b", .ok d⟩, .start⟩]
      [0, 1, 0, 1, 0, 1]).1
    st'.HoldsSetup "a" ∧ st'.HoldsSetup "b" := by
  intro st d
  have hpaired : isPaired Libs.toy.json st.store = false := by
    simp [st, isPaired, Storer.pairings, FsStore.keysWithSuffix, AList.keys_empty]
  have hidle : st.sessionAddrs = [] := AList.keys_empty
  have hab : "a" ≠ "b" := by decide
  exact ⟨⟨Srp.trivial_total, hpaired, hidle, hab, rfl, rfl⟩,
    interleave_two_setups Srp.trivial_total st hpaired hidle "a" "b" hab d d ⟨rfl, rfl⟩ ⟨rfl, rfl⟩⟩

end Hap
