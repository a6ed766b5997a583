import Hap.Server.Admin
import Hap.Server.SetupInterleaving

/-!
# The session registry over runs of events

`sessions` maps a remote address to what that address has set up: a
pair-setup session, a pair-verify session or an established `Session`. Each
handler writes the entry of its own request's address, `ConnStateEvent`
deletes the entry of the connection that closed, and only pair-verify puts an
established `Session` there.

* `SessionsEffect` is everything one event can do to the map, and
  `serverStep_sessionsEffect` says that every event does one of these things;
* `serverRun_sessions_isolated`: an event never changes another address's
  entry, so a run of events from other addresses leaves an address's entry as
  it was;
* `serverRun_established`: every established session of a state reached from
  one with none was installed by a pair-verify from its address, which read the
  session's pairing from the store as it was then, checked the signature with
  its key and derived the session from the shared secret; the entry has stayed
  since;
* `serverRun_atMostOneSetup`: with one event at a time, the whole server keeps
  at most one address with a pair-setup session;
* `serverRun_sessionsConnected`: when requests arrive on registered
  connections, every session has a connection entry, so none is left behind
  when its connection closes.
-/

namespace Hap

variable {σ : Type} (L : Libs σ) (srv : Server)

/-- The remote address an event comes from. -/
def ServerEvent.addr : ServerEvent → String
  | .connect addr => addr
  | .setup req => req.addr
  | .verify req => req.addr
  | .admin req => req.addr
  | .closed addr => addr

/-- The state after a run of events. -/
def serverRun (st : ServerState σ) (es : List ServerEvent) : ServerState σ :=
  es.foldl (serverStep L srv) st

@[simp] theorem serverRun_nil (st : ServerState σ) : serverRun L srv st [] = st := rfl

@[simp] theorem serverRun_cons (st : ServerState σ) (e : ServerEvent) (es : List ServerEvent) :
    serverRun L srv st (e :: es) = serverRun L srv (serverStep L srv st e) es := rfl

theorem serverRun_append_singleton (st : ServerState σ) (es : List ServerEvent) (e : ServerEvent) :
    serverRun L srv st (es ++ [e]) = serverStep L srv (serverRun L srv st es) e := by
  rw [serverRun, List.foldl_append]
  rfl

/-! ## What an event does to the map -/

/-- What the event `e` can do to the session map: nothing, register a
pair-setup session at its address, install at its address a session that
pair-verify derived from a stored pairing whose key checks the signature, or
delete the entry of its address. -/
inductive SessionsEffect (st : ServerState σ) (e : ServerEvent) :
    (AList fun _ : String => SessionValue σ) → Prop
  | keep : SessionsEffect st e st.sessions
  | setup (ss : Option (PairSetupSession σ)) : SessionsEffect st e (st.sessions.insert e.addr (.setup ss))
  | verify {req : VerifyRequest} {s : Session} (he : e = .verify req)
      (hp : Storer.pairing L.json st.store req.identifier = .ok s.pairing)
      (hv : L.ed25519.validateSignature s.pairing.publicKey req.material req.signature = true)
      (hs : newSession L.hkdf req.shared s.pairing = (some s, none)) :
      SessionsEffect st e (st.sessions.insert e.addr (.established s))
  | erase : SessionsEffect st e (st.sessions.erase e.addr)

variable {L srv}

/-- Pair-verify installs a session exactly on a stored pairing, a valid
signature and a derivation that does not fail. -/
theorem pairVerify_cases (st : ServerState σ) (req : VerifyRequest) :
    pairVerify L st req = st ∨
      ∃ s : Session, Storer.pairing L.json st.store req.identifier = .ok s.pairing ∧
        L.ed25519.validateSignature s.pairing.publicKey req.material req.signature = true ∧
        newSession L.hkdf req.shared s.pairing = (some s, none) ∧
        pairVerify L st req = st.setSession req.addr (.established s) := by
  unfold pairVerify
  split
  · exact .inl rfl
  · rename_i p hp
    split
    · exact .inl rfl
    · rename_i hv
      split
      · rename_i s hs
        obtain ⟨-, -, hsp⟩ := newSession_counts (congrArg Prod.fst hs)
        subst hsp
        exact .inr ⟨s, hp, by simpa using hv, hs, rfl⟩
      · exact .inl rfl

@[simp] theorem pairingsHandler_sessions (st : ServerState σ) (req : AdminRequest) :
    (pairingsHandler L st req).2.sessions = st.sessions := by
  rcases pairingsHandler_cases st req with h | ⟨s, d, -, -, -, -, ⟨-, h⟩ | ⟨-, h⟩⟩ <;> rw [h]
  · exact addPairing_sessions st d
  · rcases deletePairing_cases st d with h' | ⟨p, -, -, h'⟩ <;> rw [h']
    rfl

theorem pairSetup_sessions_cases (st : ServerState σ) (req : SetupRequest) :
    (pairSetup L srv st req).2.sessions = st.sessions ∨
      ∃ ss, (pairSetup L srv st req).2.sessions = st.sessions.insert req.addr (.setup ss) := by
  unfold pairSetup
  split
  · exact .inl rfl
  · split
    · exact .inl rfl
    · exact pairSetupDispatch_cases st req.addr _

/-- **Step lemma.** Every event does one of the things `SessionsEffect` lists,
at its own address. -/
theorem serverStep_sessionsEffect (st : ServerState σ) (e : ServerEvent) :
    SessionsEffect L st e (serverStep L srv st e).sessions := by
  cases e with
  | connect addr => exact .keep
  | setup req =>
    rcases pairSetup_sessions_cases st req with h | ⟨ss, h⟩
    · show SessionsEffect L st _ (pairSetup L srv st req).2.sessions
      rw [h]; exact .keep
    · show SessionsEffect L st _ (pairSetup L srv st req).2.sessions
      rw [h]; exact .setup ss
  | verify req =>
    rcases pairVerify_cases st req with h | ⟨s, hp, hv, hs, h⟩
    · show SessionsEffect L st _ (pairVerify L st req).sessions
      rw [h]; exact .keep
    · show SessionsEffect L st _ (pairVerify L st req).sessions
      rw [h]; exact .verify rfl hp hv hs
  | admin req =>
    show SessionsEffect L st _ (pairingsHandler L st req).2.sessions
    rw [pairingsHandler_sessions]; exact .keep
  | closed addr => exact .erase

/-! ## Addresses do not touch each other's entries -/

/-- An event leaves the entry of every other address. -/
theorem SessionsEffect.lookup_of_ne {st : ServerState σ} {e : ServerEvent}
    {m : AList fun _ : String => SessionValue σ} (h : SessionsEffect L st e m) {a : String} (ha : a ≠ e.addr) :
    m.lookup a = st.sessions.lookup a := by
  cases h with
  | keep => rfl
  | setup => exact AList.lookup_insert_ne ha
  | verify => exact AList.lookup_insert_ne ha
  | erase => exact AList.lookup_erase_ne ha

theorem serverStep_sessions_frame (st : ServerState σ) (e : ServerEvent) {a : String} (ha : a ≠ e.addr) :
    (serverStep L srv st e).sessions.lookup a = st.sessions.lookup a :=
  (serverStep_sessionsEffect st e).lookup_of_ne ha

/-- **Address isolation.** A run of events that all come from other addresses
leaves the registry entry of `a` as it was: no pair-setup, pair-verify,
pairings request, new connection or closed connection from another address
replaces, installs or removes `a`'s session. -/
theorem serverRun_sessions_isolated (st : ServerState σ) (es : List ServerEvent) {a : String}
    (h : ∀ e ∈ es, e.addr ≠ a) : (serverRun L srv st es).sessions.lookup a = st.sessions.lookup a := by
  induction es generalizing st with
  | nil => rfl
  | cons e es ih =>
    rw [serverRun_cons, ih _ fun e' he' => h e' (List.mem_cons_of_mem e he'),
      serverStep_sessions_frame st e (Ne.symm (h e (List.mem_cons_self e es)))]

/-- A pair-verify session at `"a"` and a run of events from `"b"`: the entry of
`"a"` stays. -/
theorem serverRun_sessions_isolated_toy :
    let st : ServerState Unit := ⟨(∅ : AList fun _ : String => SessionValue Unit).insert "a" .verify, ∅, ⟨[], ∅, by decide⟩⟩
    let es : List ServerEvent := [.connect "b", .setup ⟨"b", .error "EOF"⟩, .closed "b"]
    (∀ e ∈ es, e.addr ≠ "a") ∧
      (serverRun Libs.toy ⟨[], [], [], []⟩ st es).sessions.lookup "a" = st.sessions.lookup "a" := by
  intro st es
  have h : ∀ e ∈ es, e.addr ≠ "a" := by decide
  exact ⟨h, serverRun_sessions_isolated st es h⟩

/-! ## Where established sessions come from -/

/-- **Step lemma.** An established session at `a` after an event was there
before, or the event is a pair-verify from `a` that read the session's pairing
from the store, checked the signature with its key and derived the session
from the shared secret. -/
theorem serverStep_established_cases (st : ServerState σ) (e : ServerEvent) {a : String} {s : Session}
    (h : (serverStep L srv st e).sessions.lookup a = some (.established s)) :
    st.sessions.lookup a = some (.established s) ∨
      ∃ req, e = .verify req ∧ req.addr = a ∧ Storer.pairing L.json st.store req.identifier = .ok s.pairing ∧
        L.ed25519.validateSignature s.pairing.publicKey req.material req.signature = true ∧
        newSession L.hkdf req.shared s.pairing = (some s, none) := by
  by_cases ha : a = e.addr
  · have heff : SessionsEffect L st e (serverStep L srv st e).sessions := serverStep_sessionsEffect st e
    generalize (serverStep L srv st e).sessions = m at h heff
    subst ha
    cases heff with
    | keep => exact .inl h
    | setup => simp at h
    | verify he hp hv hs =>
      rw [AList.lookup_insert, Option.some_inj, SessionValue.established.injEq] at h
      subst h he
      exact .inr ⟨_, rfl, rfl, hp, hv, hs⟩
    | erase => simp at h
  · exact .inl ((serverStep_sessions_frame st e ha).symm.trans h)

/-- **Where established sessions come from.** Start from a registry with no
established session. In every state of every run, an established session `s`
at address `a` was installed by a pair-verify event from `a`: the pairing that
event read from the store, as the store was at that moment, is `s.Pairing`;
that pairing's key checks the event's signature; and `s` is the session
`NewSession` derives from the event's shared secret and that pairing. From
that event on, the entry of `a` has stayed `s`. -/
theorem serverRun_established (st : ServerState σ) (h0 : ∀ a s, st.sessions.lookup a ≠ some (.established s))
    (es : List ServerEvent) {a : String} {s : Session}
    (h : (serverRun L srv st es).sessions.lookup a = some (.established s)) :
    ∃ es₁ req es₂, es = es₁ ++ .verify req :: es₂ ∧ req.addr = a ∧
      Storer.pairing L.json (serverRun L srv st es₁).store req.identifier = .ok s.pairing ∧
      L.ed25519.validateSignature s.pairing.publicKey req.material req.signature = true ∧
      newSession L.hkdf req.shared s.pairing = (some s, none) ∧
      ∀ es', es' <+: es₂ →
        (serverRun L srv st (es₁ ++ .verify req :: es')).sessions.lookup a = some (.established s) := by
  induction es using List.reverseRecOn with
  | nil => exact absurd h (h0 a s)
  | append_singleton es e ih =>
    rw [serverRun_append_singleton] at h
    rcases serverStep_established_cases _ e h with hprev | ⟨req, rfl, haddr, hp, hv, hs⟩
    · -- the session was there before `e`, and `e` kept it
      obtain ⟨es₁, req, es₂, rfl, haddr, hp, hv, hs, hstay⟩ := ih hprev
      refine ⟨es₁, req, es₂ ++ [e], by simp, haddr, hp, hv, hs, fun es' hes' => ?_⟩
      rcases List.prefix_concat_iff.1 hes' with rfl | hes'
      · rwa [show es₁ ++ .verify req :: (es₂ ++ [e]) = es₁ ++ .verify req :: es₂ ++ [e] by simp,
          serverRun_append_singleton]
      · exact hstay es' hes'
    · -- `e` is the pair-verify that installed it
      refine ⟨es, req, [], rfl, haddr, hp, hv, hs, fun es' hes' => ?_⟩
      rwa [List.prefix_nil.1 hes', serverRun_append_singleton]

/-- The controller `x` connects, pair-verifies on `"x"` with the signature
the transparent library checks, and lists the pairings: the session at `"x"`
comes from the pair-verify. -/
theorem serverRun_established_toy :
    let x : Pairing := ⟨[0x78], [1], permissionAdmin⟩
    let s : Session := ⟨x, Key.zero, Key.zero, 0, 0⟩
    let st : ServerState Unit := ⟨∅, ∅, (Storer.savePairing Json.tagged ⟨[], ∅, by decide⟩ x).2⟩
    let es : List ServerEvent := [.connect "x", .verify ⟨"x", [0x78], [], [1], []⟩,
      .admin ⟨"x", .ok ⟨methodListPairings, [], [], 0, step1⟩⟩]
    (∀ a s, st.sessions.lookup a ≠ some (.established s)) ∧
      (serverRun Libs.toy ⟨[], [], [], []⟩ st es).sessions.lookup "x" = some (.established s) ∧
      ∃ es₁ req es₂, es = es₁ ++ .verify req :: es₂ ∧ req.addr = "x" ∧
        Storer.pairing Libs.toy.json (serverRun Libs.toy ⟨[], [], [], []⟩ st es₁).store req.identifier =
          .ok s.pairing ∧
        Libs.toy.ed25519.validateSignature s.pairing.publicKey req.material req.signature = true ∧
        newSession Libs.toy.hkdf req.shared s.pairing = (some s, none) ∧
        ∀ es', es' <+: es₂ → (serverRun Libs.toy ⟨[], [], [], []⟩ st (es₁ ++ .verify req :: es')).sessions.lookup "x" =
          some (.established s) := by
  intro x s st es
  have h0 : ∀ a s, st.sessions.lookup a ≠ some (.established s) := by simp [st]
  have hx : Storer.pairing Libs.toy.json st.store [0x78] = .ok x :=
    Storer.pairing_savePairing_self Json.tagged_lawful _ (by decide) (by decide) (by decide)
  have h : (serverRun Libs.toy ⟨[], [], [], []⟩ st es).sessions.lookup "x" = some (.established s) := by
    simp only [es, serverRun_cons, serverRun_nil, serverStep, pairingsHandler_sessions]
    simp only [pairVerify, ServerState.setConn, hx]
    rfl
  exact ⟨h0, h, serverRun_established st h0 es h⟩

/-! ## At most one pair-setup session -/

/-- A state whose pair-setup sessions were all there before keeps the
invariant. -/
theorem ServerState.AtMostOneSetup.of_lookup {st st' : ServerState σ} (h : st.AtMostOneSetup)
    (hs : ∀ a ss, st'.sessions.lookup a = some (.setup ss) → st.sessions.lookup a = some (.setup ss)) :
    st'.AtMostOneSetup :=
  fun a b ⟨ss, ha⟩ ⟨ss', hb⟩ => h a b ⟨ss, hs a ss ha⟩ ⟨ss', hs b ss' hb⟩

/-- **Step lemma.** Pair-setup keeps the invariant by its busy check, and no
other event registers a pair-setup session. -/
theorem serverStep_atMostOneSetup {st : ServerState σ} (h : st.AtMostOneSetup) (e : ServerEvent) :
    (serverStep L srv st e).AtMostOneSetup := by
  cases e with
  | connect addr => exact h
  | setup req => exact pairSetup_atMostOneSetup h req
  | verify req =>
    refine h.of_lookup fun a ss ha => ?_
    rcases pairVerify_cases (L := L) st req with h' | ⟨s, -, -, -, h'⟩
    · rwa [serverStep, h'] at ha
    · rw [serverStep, h', ServerState.lookup_setSession] at ha
      split at ha
      · cases ha
      · exact ha
  | admin req => exact h.of_lookup fun a ss ha => by rwa [serverStep, pairingsHandler_sessions] at ha
  | closed addr =>
    refine h.of_lookup fun a ss ha => ?_
    rw [serverStep, ServerState.lookup_connStateEvent] at ha
    split at ha
    · cases ha
    · exact ha

/-- **One pair-setup at a time, across the whole server.** When events are
handled one after another, no run of pair-setup, pair-verify and pairings
requests, new connections and closed connections leaves pair-setup sessions
at two addresses, from any state with at most one. (Interleaved pair-setup
requests do, `interleave_two_setups`.) -/
theorem serverRun_atMostOneSetup {st : ServerState σ} (h : st.AtMostOneSetup) (es : List ServerEvent) :
    (serverRun L srv st es).AtMostOneSetup := by
  induction es generalizing st with
  | nil => exact h
  | cons e es ih => exact ih (serverStep_atMostOneSetup h e)

/-- From an empty registry, Step 1 from `"a"`, Step 1 from `"b"` (refused as
busy), and `"a"`'s connection closing. -/
theorem serverRun_atMostOneSetup_toy :
    let st : ServerState Unit := ⟨∅, ∅, ⟨[], ∅, by decide⟩⟩
    let d : PairSetupPayload := ⟨methodPair, [], [], [], step1⟩
    st.AtMostOneSetup ∧
      (serverRun Libs.toy ⟨[], [], [], []⟩ st [.setup ⟨"a", .ok d⟩, .setup ⟨"b", .ok d⟩, .closed "a"]).AtMostOneSetup := by
  intro st d
  have h : st.AtMostOneSetup := fun a _ ⟨_, ha⟩ => by simp [st] at ha
  exact ⟨h, serverRun_atMostOneSetup h _⟩

/-! ## No session outlives its connection -/

/-- A request, as against a connection event: it arrives on a connection. -/
def ServerEvent.isRequest : ServerEvent → Bool
  | .connect _ | .closed _ => false
  | .setup _ | .verify _ | .admin _ => true

/-- Every address holding a session has a connection entry. -/
def ServerState.SessionsConnected (st : ServerState σ) : Prop :=
  ∀ a, (st.sessions.lookup a).isSome → (st.conns.lookup a).isSome

theorem pairSetupStep5_conns (st : ServerState σ) (addr : String) (data : PairSetupPayload) :
    (pairSetupStep5 L srv st addr data).2.conns = st.conns := by
  unfold pairSetupStep5
  dsimp only
  repeat' split
  all_goals rfl

/-- Pair-setup never touches the connections. -/
@[simp] theorem pairSetup_conns (st : ServerState σ) (req : SetupRequest) :
    (pairSetup L srv st req).2.conns = st.conns := by
  unfold pairSetup
  split
  · rfl
  split
  · rfl
  rename_i data _
  unfold pairSetupDispatch
  split_ifs
  · rcases pairSetupStep1_cases st req.addr data with h | ⟨ss, h⟩ <;> rw [h]; rfl
  · rcases pairSetupStep3_cases st req.addr data with h | ⟨ss, h⟩ <;> rw [h]; rfl
  · exact pairSetupStep5_conns st req.addr data
  all_goals rfl

/-- An event keeps every connection entry, except that of a connection that
closed. -/
theorem serverStep_conns_isSome (st : ServerState σ) {e : ServerEvent} {a : String}
    (h : (st.conns.lookup a).isSome) (ha : e ≠ .closed a) : ((serverStep L srv st e).conns.lookup a).isSome := by
  cases e with
  | connect addr =>
    by_cases hb : a = addr
    · subst hb
      simp [serverStep, ServerState.setConn, AList.lookup_insert]
    · rwa [serverStep, ServerState.setConn, AList.lookup_insert_ne hb]
  | setup req => rwa [serverStep, pairSetup_conns]
  | verify req => rwa [serverStep, pairVerify_conns]
  | admin req =>
    rcases pairingsHandler_cases st req with h' | ⟨s, d, -, -, -, -, ⟨-, h'⟩ | ⟨-, h'⟩⟩ <;> rw [serverStep, h']
    · exact h
    · rwa [addPairing_conns]
    · -- a Delete only marks connections closed
      rcases deletePairing_cases st d with h'' | ⟨p, -, -, h''⟩ <;> rw [h'']
      · exact h
      · rw [lookup_closeConns]
        split_ifs
        exacts [rfl, h]
  | closed addr =>
    have hb : a ≠ addr := fun hb => ha (by rw [hb])
    rwa [serverStep, ServerState.connStateEvent, AList.lookup_erase_ne hb]

/-- **Step lemma.** A request on a registered connection, a new connection or
a closed one keeps every session on a connection: `ConnStateEvent` deletes
the session with the connection. -/
theorem serverStep_sessionsConnected {st : ServerState σ} (h : st.SessionsConnected) (e : ServerEvent)
    (he : e.isRequest → (st.conns.lookup e.addr).isSome) : (serverStep L srv st e).SessionsConnected := by
  intro a ha
  by_cases hae : a = e.addr
  · subst hae
    cases e with
    | connect addr => simp [ServerEvent.addr, serverStep, ServerState.setConn, AList.lookup_insert]
    | closed addr => simp [ServerEvent.addr, serverStep, ServerState.connStateEvent] at ha
    | setup req => exact serverStep_conns_isSome st (he rfl) (by simp)
    | verify req => exact serverStep_conns_isSome st (he rfl) (by simp)
    | admin req => exact serverStep_conns_isSome st (he rfl) (by simp)
  · rw [serverStep_sessions_frame st e hae] at ha
    exact serverStep_conns_isSome st (h a ha) fun hc => hae (by rw [hc]; rfl)

/-- **No session outlives its connection.** From a state where every session
has a connection entry, take any run in which every request arrives on a
connection registered at that point. Every session of the state reached has a
connection entry: once a connection closes, no session is left at its
address for a later connection from it to find. -/
theorem serverRun_sessionsConnected {st : ServerState σ} (h : st.SessionsConnected) (es : List ServerEvent)
    (hes : ∀ es₁ e es₂, es = es₁ ++ e :: es₂ → e.isRequest →
      ((serverRun L srv st es₁).conns.lookup e.addr).isSome) :
    (serverRun L srv st es).SessionsConnected := by
  induction es generalizing st with
  | nil => exact h
  | cons e es ih =>
    refine ih (serverStep_sessionsConnected h e (hes [] e es rfl)) fun es₁ e' es₂ hes' => ?_
    exact hes (e :: es₁) e' es₂ (by rw [hes']; rfl)

/-- From an empty registry: `"a"` connects and sends Step 1 on its connection.
The pair-setup session it registers is on that connection. -/
theorem serverRun_sessionsConnected_toy :
    let st : ServerState Unit := ⟨∅, ∅, ⟨[], ∅, by decide⟩⟩
    let es : List ServerEvent := [.connect "a", .setup ⟨"a", .ok ⟨methodPair, [], [], [], step1⟩⟩]
    (st.SessionsConnected ∧ ∀ es₁ e es₂, es = es₁ ++ e :: es₂ → e.isRequest →
      ((serverRun Libs.toy ⟨[], [], [], []⟩ st es₁).conns.lookup e.addr).isSome) ∧
      (serverRun Libs.toy ⟨[], [], [], []⟩ st es).SessionsConnected := by
  intro st es
  have h : st.SessionsConnected := fun a ha => by simp [st] at ha
  have hes : ∀ es₁ e es₂, es = es₁ ++ e :: es₂ → e.isRequest →
      ((serverRun Libs.toy ⟨[], [], [], []⟩ st es₁).conns.lookup e.addr).isSome := by
    intro es₁ e es₂ hsplit hr
    match es₁, hsplit with
    | [], hsplit =>
      obtain ⟨rfl, -⟩ := List.cons.inj hsplit
      cases hr
    | [_], hsplit =>
      obtain ⟨rfl, rfl, -⟩ := (show _ = _ ∧ _ = e ∧ _ by simpa [es] using hsplit)
      rfl
    | _ :: _ :: _, hsplit => simp [es] at hsplit
  exact ⟨⟨h, hes⟩, serverRun_sessionsConnected h es hes⟩

end Hap
