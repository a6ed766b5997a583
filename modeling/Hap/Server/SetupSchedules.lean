import Hap.Server.SetupInterleaving

/-!
# Schedules of pair-setup requests

`interleave_two_setups` needs two Step-1 requests from two addresses. They
are the only way to get two pair-setup sessions. In any schedule of pair-setup
requests whose Step-1 requests all come from one address `a₀`, at most one
address holds a pair-setup session.

The invariant `ScheduleInv` has three parts. At most one address holds a
pair-setup session. A request that reached its handler carries the body it
decoded. Once a Step-1 request has passed its busy check, only `a₀` holds a
pair-setup session: Step 3 only re-registers a session that is already there,
and Step 5 leaves the registry alone.

* `holdsSetup_of_pairSetupDispatch`: a handler adds no pair-setup session
  except Step 1's, at its own address;
* `setupPhaseStep_inv`: step lemma, one atomic step keeps the invariant;
* `interleave_inv`: run lemma, over any schedule;
* `interleave_atMostOneSetup`: the result.
-/

namespace Hap

variable {σ : Type} {L : Libs σ} {srv : Server}

/-! ## Where pair-setup sessions come from -/

theorem holdsSetup_of_getPairSetupSession {st : ServerState σ} {addr : String}
    {v : Option (PairSetupSession σ)} (h : st.getPairSetupSession addr = .ok v) : st.HoldsSetup addr := by
  unfold ServerState.getPairSetupSession at h
  split at h
  · rename_i ss hss
    exact ⟨ss, hss⟩
  · cases h
  · cases h

theorem holdsSetup_setSession {st : ServerState σ} {addr a : String} {ss : Option (PairSetupSession σ)}
    (h : (st.setSession addr (.setup ss)).HoldsSetup a) : a = addr ∨ st.HoldsSetup a := by
  obtain ⟨ss', h⟩ := h
  rw [ServerState.lookup_setSession] at h
  split at h
  · exact .inl ‹_›
  · exact .inr ⟨ss', h⟩

/-- Step 3 registers a session only where one already is. -/
theorem pairSetupStep3_unchanged_or_holds (st : ServerState σ) (addr : String) (data : PairSetupPayload) :
    (pairSetupStep3 L st addr data).2 = st ∨ st.HoldsSetup addr := by
  unfold pairSetupStep3
  split
  · exact .inl rfl
  · exact .inl rfl
  · exact .inr (holdsSetup_of_getPairSetupSession ‹_›)

/-- A handler adds no pair-setup session, except Step 1 at its own address. -/
theorem holdsSetup_of_pairSetupDispatch {st : ServerState σ} {addr a : String} {data : PairSetupPayload}
    (h : (pairSetupDispatch L srv st addr data).2.HoldsSetup a) :
    st.HoldsSetup a ∨ (a = addr ∧ data.method = methodPair ∧ data.state = step1) := by
  unfold pairSetupDispatch at h
  split_ifs at h with hm h1 h3 h5
  · -- Step 1
    rcases pairSetupStep1_cases st addr data with he | ⟨ss, he⟩ <;> rw [he] at h
    · exact .inl h
    · exact (holdsSetup_setSession h).symm.imp_right fun ha => ⟨ha, hm, h1⟩
  · -- Step 3
    refine .inl ?_
    rcases pairSetupStep3_unchanged_or_holds st addr data with he | hold
    · rwa [he] at h
    · rcases pairSetupStep3_cases st addr data with he | ⟨ss, he⟩ <;> rw [he] at h
      · exact h
      · exact (holdsSetup_setSession h).elim (fun ha => ha ▸ hold) id
  · -- Step 5
    obtain ⟨ss, hss⟩ := h
    exact .inl ⟨ss, by rwa [pairSetupStep5_sessions] at hss⟩
  all_goals exact .inl h

/-! ## The invariant -/

/-- The request's body decodes to a Step 1. -/
def SetupRequest.IsStep1 (req : SetupRequest) : Prop :=
  ∃ data, req.body = .ok data ∧ data.method = methodPair ∧ data.state = step1

/-- Past the busy check, and not yet answered. -/
def SetupPhase.Checked : SetupPhase → Prop
  | .checked => True
  | .decoded _ => True
  | _ => False

/-- What each request in flight keeps true: a request that reached its handler
carries the body it decoded, and once a Step-1 request has passed its busy
check, only `a₀` holds a pair-setup session. -/
def InFlight.Good (a₀ : String) (st : ServerState σ) (r : InFlight) : Prop :=
  (∀ data, r.phase = .decoded data → r.req.body = .ok data) ∧
    (r.req.IsStep1 → r.phase.Checked → ∀ a, st.HoldsSetup a → a = a₀)

/-- The schedule invariant. -/
structure ScheduleInv (a₀ : String) (st : ServerState σ) (rs : List InFlight) : Prop where
  atMostOne : st.AtMostOneSetup
  good : ∀ r ∈ rs, r.Good a₀ st

theorem InFlight.good_done (a₀ : String) (st : ServerState σ) (req : SetupRequest) (reply : SetupReply) :
    InFlight.Good a₀ st ⟨req, .done reply⟩ :=
  ⟨fun _ h => (nomatch h), fun _ h => False.elim h⟩

theorem ScheduleInv.set {a₀ : String} {st : ServerState σ} {rs : List InFlight} (h : ScheduleInv a₀ st rs)
    (i : Nat) {r' : InFlight} (hr' : r'.Good a₀ st) : ScheduleInv a₀ st (rs.set i r') :=
  ⟨h.atMostOne, fun r hr => (List.mem_or_eq_of_mem_set hr).elim (h.good r) fun he => he ▸ hr'⟩

@[simp] theorem setupPhaseStep_req (st : ServerState σ) (r : InFlight) :
    (setupPhaseStep L srv st r).1.req = r.req := by
  unfold setupPhaseStep
  repeat' split
  all_goals rfl

/-- **Step lemma.** One atomic step of a request keeps the invariant, when
every Step-1 request comes from `a₀`. -/
theorem setupPhaseStep_inv {a₀ : String} {st : ServerState σ} {rs : List InFlight} (hinv : ScheduleInv a₀ st rs)
    (hstep1 : ∀ r ∈ rs, r.req.IsStep1 → r.req.addr = a₀) {i : Nat} {r : InFlight} (hr : rs[i]? = some r) :
    ScheduleInv a₀ (setupPhaseStep L srv st r).2 (rs.set i (setupPhaseStep L srv st r).1) := by
  have hmem : r ∈ rs := List.getElem?_mem hr
  obtain ⟨hdec, honly⟩ := hinv.good r hmem
  have hreq := hstep1 r hmem
  obtain ⟨req, phase⟩ := r
  cases phase with
  | start =>
    cases hrefuse : pairSetupRefusal L st req.addr with
    | some reply =>
      simp only [setupPhaseStep, hrefuse]
      exact hinv.set i (InFlight.good_done a₀ st req reply)
    | none =>
      -- the busy check passed: no other address has a session
      simp only [setupPhaseStep, hrefuse]
      refine hinv.set i ⟨fun _ h => (nomatch h), fun hs _ a ⟨_, ha⟩ => ?_⟩
      rw [pairSetupRefusal_eq_none hrefuse a (AList.mem_keys.2 (AList.lookup_isSome.1 (by rw [ha]; rfl))),
        hreq hs]
  | checked =>
    cases hb : req.body with
    | error e =>
      simp only [setupPhaseStep, hb]
      exact hinv.set i (InFlight.good_done a₀ st req _)
    | ok data =>
      simp only [setupPhaseStep, hb]
      exact hinv.set i ⟨fun _ h => by cases h; exact hb, fun hs _ => honly hs trivial⟩
  | decoded data =>
    have hbody : req.body = .ok data := hdec data rfl
    have hold : req.IsStep1 → ∀ a, st.HoldsSetup a → a = a₀ := fun hs => honly hs trivial
    -- a new holder is an old one, or the request's address after a Step 1
    have key : ∀ a, (pairSetupDispatch L srv st req.addr data).2.HoldsSetup a →
        st.HoldsSetup a ∨ (a = req.addr ∧ req.IsStep1) := fun a ha =>
      (holdsSetup_of_pairSetupDispatch ha).imp_right fun ⟨he, hm, h1⟩ => ⟨he, data, hbody, hm, h1⟩
    simp only [setupPhaseStep]
    refine ⟨fun a b ha hb => ?_, fun x hx => ?_⟩
    · rcases key a ha with ha' | ⟨rfl, hs⟩ <;> rcases key b hb with hb' | ⟨rfl, hs'⟩
      · exact hinv.atMostOne a b ha' hb'
      · rw [hold hs' a ha', hreq hs']
      · rw [hold hs b hb', hreq hs]
      · rfl
    · rcases List.mem_or_eq_of_mem_set hx with hx | rfl
      · obtain ⟨hd, ho⟩ := hinv.good x hx
        refine ⟨hd, fun hs hc a ha => ?_⟩
        rcases key a ha with ha' | ⟨rfl, hs'⟩
        · exact ho hs hc a ha'
        · exact hreq hs'
      · exact InFlight.good_done a₀ _ req _
  | done reply =>
    simp only [setupPhaseStep]
    exact hinv.set i ⟨hdec, honly⟩

/-- **Run lemma.** -/
theorem interleave_inv (a₀ : String) (st : ServerState σ) (rs : List InFlight) (hinv : ScheduleInv a₀ st rs)
    (hstep1 : ∀ r ∈ rs, r.req.IsStep1 → r.req.addr = a₀) (is : List Nat) :
    ScheduleInv a₀ (interleave L srv st rs is).1 (interleave L srv st rs is).2 := by
  induction is generalizing st rs with
  | nil => exact hinv
  | cons i is ih =>
    cases hr : rs[i]? with
    | none =>
      simp only [interleave, hr]
      exact ih st rs hinv hstep1
    | some r =>
      simp only [interleave, hr]
      refine ih _ _ (setupPhaseStep_inv hinv hstep1 hr) fun x hx => ?_
      rcases List.mem_or_eq_of_mem_set hx with hx | rfl
      · exact hstep1 x hx
      · rw [setupPhaseStep_req]
        exact hstep1 r (List.getElem?_mem hr)

/-- **The race needs Step-1 requests from two addresses.** Start from a state
in which at most one address holds a pair-setup session, with pair-setup
requests none of which has started, whose Step-1 requests all come from one
address `a₀`. Under every schedule of their atomic steps, at most one address
holds a pair-setup session afterwards; every prefix of a schedule is a
schedule, so this holds at every point. -/
theorem interleave_atMostOneSetup (st : ServerState σ) (h : st.AtMostOneSetup) (reqs : List SetupRequest)
    (a₀ : String) (hstep1 : ∀ req ∈ reqs, req.IsStep1 → req.addr = a₀) (is : List Nat) :
    (interleave L srv st (reqs.map fun req => ⟨req, .start⟩) is).1.AtMostOneSetup := by
  refine (interleave_inv a₀ st _ ⟨h, fun r hr => ?_⟩ (fun r hr => ?_) is).atMostOne
  · obtain ⟨req, -, rfl⟩ := List.mem_map.1 hr
    exact ⟨fun _ h => (nomatch h), fun _ h => False.elim h⟩
  · obtain ⟨req, hreq, rfl⟩ := List.mem_map.1 hr
    exact hstep1 req hreq

/-- A Step 1 from `"a"` and a Step 3 from `"b"`, their steps alternating. -/
theorem interleave_atMostOneSetup_toy :
    let st : ServerState Unit := ⟨∅, ∅, ⟨[], ∅, by decide⟩⟩
    let reqs : List SetupRequest := [⟨"a", .ok ⟨methodPair, [], [], [], step1⟩⟩,
      ⟨"b", .ok ⟨methodPair, [], [], [], step3⟩⟩]
    (st.AtMostOneSetup ∧ ∀ req ∈ reqs, req.IsStep1 → req.addr = "a") ∧
      (interleave Libs.toy ⟨[], [], [], []⟩ st (reqs.map fun req => ⟨req, .start⟩) [0, 1, 0, 1, 0, 1]).1.AtMostOneSetup := by
  intro st reqs
  have h : st.AtMostOneSetup := fun a _ ⟨_, ha⟩ => by simp [st] at ha
  have hstep1 : ∀ req ∈ reqs, req.IsStep1 → req.addr = "a" := by
    rintro req hreq ⟨data, hb, -, hs⟩
    simp only [reqs, List.mem_cons, List.mem_singleton, List.not_mem_nil, or_false] at hreq
    rcases hreq with rfl | rfl
    · rfl
    · cases hb
      exact absurd hs (by decide)
  exact ⟨⟨h, hstep1⟩, interleave_atMostOneSetup st h reqs "a" hstep1 _⟩

end Hap
