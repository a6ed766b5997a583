import Hap.Server.PairingStore

/-!
# Where the stored pairings come from

The accessory trusts every pairing it reads back: pair-verify accepts the
controller whose stored key checks the signature, and the pairings handler
takes its permission from it. So a pairing should be in the directory only if
some event was allowed to put it there.

* `ServerEvent.Vouches`: what lets an event, at the state it is handled in,
  save a pairing. A Step 5 of pair-setup on an unpaired accessory, from an
  address holding a pair-setup session, saves an admin whose key signed its
  own name and key; an Add that passed the admin check saves the key and the
  permission it carries;
* `serverStep_saves`: step lemma, an event keeps the store, saves a pairing it
  vouches for, or deletes a pairing that read back;
* `serverRun_saves_vouched`: run lemma, every save still live in the directory
  was vouched for by an event of the run, at the state it was handled in;
* `serverRun_pairing_vouched`: so is every pairing `Pairing(m)` reads back;
* `serverRun_session_vouched`: and so is the pairing of every established
  session.
-/

namespace Hap

variable {σ : Type} {L : Libs σ} {srv : Server}

/-- What lets event `e`, handled at state `st`, save pairing `p`. -/
def ServerEvent.Vouches (L : Libs σ) (st : ServerState σ) (e : ServerEvent) (p : Pairing) : Prop :=
  (∃ req data, e = .setup req ∧ req.body = .ok data ∧ data.method = methodPair ∧ data.state = step5 ∧
      isPaired L.json st.store = false ∧ st.HoldsSetup req.addr ∧ p.SelfSigned L.ed25519) ∨
    ∃ req d, e = .admin req ∧ AdminAuthorized L st req ∧ req.body = .ok d ∧ d.method = methodAddPairing ∧
      p.publicKey = d.publicKey ∧ p.permission = d.permission

/-! ## One event -/

/-- An Add keeps the state, or saves a pairing with the key and the permission
of the request: a new one, or the stored one when the keys agree. -/
theorem addPairing_saves (st : ServerState σ) (d : AdminPayload) :
    (addPairing L st d).2 = st ∨ ∃ p, p.publicKey = d.publicKey ∧ p.permission = d.permission ∧
      (addPairing L st d).2.store = (Storer.savePairing L.json st.store p).2 := by
  unfold addPairing
  split
  · exact .inr ⟨_, rfl, rfl, by rw [addPairingSave_snd]⟩
  · rename_i q _
    split_ifs with hk
    · exact .inl rfl
    · exact .inr ⟨{ q with permission := d.permission }, not_not.1 hk, rfl, by rw [addPairingSave_snd]⟩

/-- **Step lemma.** An event keeps the store, saves a pairing it vouches for,
or deletes the file of a pairing that read back. -/
theorem serverStep_saves (st : ServerState σ) (e : ServerEvent) :
    (serverStep L srv st e).store = st.store ∨
      (∃ p, e.Vouches L st p ∧ (serverStep L srv st e).store = (Storer.savePairing L.json st.store p).2) ∨
      ∃ n q, Storer.pairing L.json st.store n = .ok q ∧
        (serverStep L srv st e).store = (Storer.deletePairing st.store q.name).2 := by
  cases e with
  | connect addr => exact .inl rfl
  | setup req =>
    simp only [serverStep]
    rcases pairSetup_store_cases (L := L) st req with ⟨h, -⟩ | ⟨hp, ⟨data, hd, hm, h5⟩, hs, -, p, -, h, hsig⟩
    · exact .inl h
    · exact .inr (.inl ⟨p, .inl ⟨req, data, rfl, hd, hm, h5, hp, hs, hsig⟩, h⟩)
  | verify req => exact .inl (pairVerify_store st req)
  | admin req =>
    simp only [serverStep]
    rcases pairingsHandler_cases st req with h | ⟨s, d, hp, hs, ha, hd, ⟨hadd, hreq⟩ | ⟨hdel, hreq⟩⟩
    · exact .inl (by rw [h])
    · -- an Add past the admin check
      have hauth : AdminAuthorized L st req := ⟨hp, ⟨s, hs, ha⟩, d, hd, .inl hadd⟩
      rw [hreq]
      rcases addPairing_saves st d with h | ⟨p, hk, hperm, h⟩
      · exact .inl (by rw [h])
      · exact .inr (.inl ⟨p, .inr ⟨req, d, rfl, hauth, hd, hadd, hk, hperm⟩, h⟩)
    · -- a Delete past the admin check
      rw [hreq]
      rcases deletePairing_cases st d with h | ⟨q, hq, -, h⟩
      · exact .inl (by rw [h])
      · exact .inr (.inr ⟨_, q, hq, by rw [h]; rfl⟩)
  | closed addr => exact .inl rfl

/-! ## Runs -/

/-- A save still live after a call was live before it, or is the call's own. -/
theorem mem_saves_call {c : StoreCall} {name : Bytes} {h : List Pairing} {p : Pairing}
    (hp : p ∈ c.saves name h) : p ∈ h ∨ c = .savePairing p := by
  cases c with
  | savePairing q =>
    simp only [StoreCall.saves] at hp
    split_ifs at hp
    · rcases List.mem_append.1 hp with hp | hp
      · exact .inl hp
      · exact .inr (by rw [List.mem_singleton.1 hp])
    · exact .inl hp
  | deletePairing n =>
    simp only [StoreCall.saves] at hp
    split_ifs at hp
    · cases hp
    · exact .inl hp

/-- **Run lemma.** From a directory with no `.pairing` file, after any run of
events, the directory represents saves each of which was vouched for by an
event of the run, handled after the events before it. -/
theorem serverRun_saves_vouched {st : ServerState σ}
    (hst : ∀ k, (st.store.files.lookup k).isSome → ¬ ascii ".pairing" <:+ k) (es : List ServerEvent) :
    ∃ saves, Represents L.json (serverRun L srv st es).store saves ∧
      ∀ n, ∀ p ∈ saves n, ∃ es₁ e es₂, es = es₁ ++ e :: es₂ ∧ e.Vouches L (serverRun L srv st es₁) p := by
  induction es using List.reverseRecOn with
  | nil => exact ⟨_, represents_init hst, fun _ _ hp => nomatch hp⟩
  | append_singleton es e ih =>
    obtain ⟨saves, hrep, hv⟩ := ih
    -- a save vouched for within `es` is vouched for within `es ++ [e]`
    have hold : ∀ n, ∀ p ∈ saves n,
        ∃ es₁ e' es₂, es ++ [e] = es₁ ++ e' :: es₂ ∧ e'.Vouches L (serverRun L srv st es₁) p := by
      intro n p hp
      obtain ⟨es₁, e', es₂, rfl, he⟩ := hv n p hp
      exact ⟨es₁, e', es₂ ++ [e], by simp, he⟩
    rw [serverRun_append_singleton]
    rcases @serverStep_saves σ L srv (serverRun L srv st es) e with h | ⟨p, he, h⟩ | ⟨n, q, -, h⟩ <;>
      rw [h]
    · exact ⟨saves, hrep, hold⟩
    · -- the new save is `e`'s
      refine ⟨_, represents_call hrep (.savePairing p), fun m p' hp' => ?_⟩
      rcases mem_saves_call hp' with hp' | hc
      · exact hold m p' hp'
      · cases hc
        exact ⟨es, e, [], rfl, he⟩
    · refine ⟨_, represents_call hrep (.deletePairing q.name), fun m p' hp' => ?_⟩
      rcases mem_saves_call hp' with hp' | hc
      · exact hold m p' hp'
      · cases hc

/-- **Every stored pairing was vouched for.** Take lawful JSON and a directory
with no `.pairing` file. After any run of events, a pairing that `Pairing(m)`
reads back is a pairing `p` (its name coerced to UTF-8) that some event `e` of
the run saved, handled after the events `es₁` before it, and that `e` vouched
for: a Step 5 on an unpaired accessory from an address holding a pair-setup
session, saving an admin whose key signed its own name and key, or an Add that
passed the admin check and carried `p`'s key and permission. -/
theorem serverRun_pairing_vouched (hJ : L.json.Lawful) {st : ServerState σ}
    (hst : ∀ k, (st.store.files.lookup k).isSome → ¬ ascii ".pairing" <:+ k) (es : List ServerEvent)
    {m : Bytes} {q : Pairing} (hq : Storer.pairing L.json (serverRun L srv st es).store m = .ok q) :
    ∃ p es₁ e es₂, q = { p with name := coerceUTF8 p.name } ∧ es = es₁ ++ e :: es₂ ∧
      e.Vouches L (serverRun L srv st es₁) p := by
  obtain ⟨saves, hrep, hv⟩ := @serverRun_saves_vouched σ L srv st hst es
  obtain ⟨p, hp, rfl⟩ := pairing_of_represents_ok hJ hrep hq
  obtain ⟨es₁, e, es₂, hes, he⟩ := hv m p hp
  exact ⟨p, es₁, e, es₂, rfl, hes, he⟩

/-- The toy accessory pairs `"a"` with Step 1 and a Step 5 sealed under the
zero key: the pairing read back is the admin that Step 5 saved. -/
theorem serverRun_pairing_vouched_toy :
    let srv : Server := ⟨[], [], [], List.replicate 64 0⟩
    let st : ServerState Unit := ⟨∅, ∅, ⟨[], ∅, by decide⟩⟩
    let encData : SubTlv := ⟨[0x61], [1], [1] ++ (Key.zero.bytes ++ [0x61] ++ [1])⟩
    let es : List ServerEvent := [.setup ⟨"a", .ok ⟨methodPair, [], [], [], step1⟩⟩,
      .setup ⟨"a", .ok ⟨methodPair, [], [], step5Body Aead.transparent Key.zero (Tlv8.tagged.marshalSubTlv encData), step5⟩⟩]
    let q : Pairing := ⟨[0x61], [1], permissionAdmin⟩
    (Libs.toy.json.Lawful ∧ (∀ k, (st.store.files.lookup k).isSome → ¬ ascii ".pairing" <:+ k) ∧
      Storer.pairing Libs.toy.json (serverRun Libs.toy srv st es).store [0x61] = .ok q) ∧
    ∃ p es₁ e es₂, q = { p with name := coerceUTF8 p.name } ∧ es = es₁ ++ e :: es₂ ∧
      e.Vouches Libs.toy (serverRun Libs.toy srv st es₁) p := by
  intro srv st encData es q
  have hst : ∀ k, (st.store.files.lookup k).isSome → ¬ ascii ".pairing" <:+ k := by simp [st]
  obtain ⟨ss, e, h₁, h₂⟩ := pairSetup_toy_step1_step5
  have hrun : (serverRun Libs.toy srv st es).store = (Storer.savePairing Libs.toy.json ⟨[], ∅, by decide⟩ q).2 := by
    simp only [srv, st, encData, es, serverRun_cons, serverRun_nil, serverStep, h₁, h₂]
  have hq : Storer.pairing Libs.toy.json (serverRun Libs.toy srv st es).store [0x61] = .ok q := by
    rw [hrun]
    exact Storer.pairing_savePairing_self Json.tagged_lawful _ (by decide) (by decide) (by decide)
  exact ⟨⟨Json.tagged_lawful, hst, hq⟩, serverRun_pairing_vouched Json.tagged_lawful hst es hq⟩

/-! ## Sessions -/

/-- **Every session is bound to a vouched key.** Take lawful JSON, a directory
with no `.pairing` file and a registry with no established session. In every
reachable state, the pairing an established session was installed with is a
pairing `p`, its name coerced to UTF-8, that an event `e` of the run saved and
vouched for: pair-verify only binds a session to a key that a Step 5 saw sign
itself, or that an admin added. -/
theorem serverRun_session_vouched (hJ : L.json.Lawful) {st : ServerState σ}
    (hst : ∀ k, (st.store.files.lookup k).isSome → ¬ ascii ".pairing" <:+ k)
    (h0 : ∀ a s, st.sessions.lookup a ≠ some (.established s)) (es : List ServerEvent) {a : String} {s : Session}
    (h : (serverRun L srv st es).sessions.lookup a = some (.established s)) :
    ∃ p es₁ e es₂, s.pairing = { p with name := coerceUTF8 p.name } ∧ es = es₁ ++ e :: es₂ ∧
      e.Vouches L (serverRun L srv st es₁) p := by
  induction es using List.reverseRecOn with
  | nil => exact absurd h (h0 a s)
  | append_singleton es e ih =>
    rw [serverRun_append_singleton] at h
    rcases serverStep_established_cases _ e h with hprev | ⟨req, rfl, -, hp, -⟩
    · obtain ⟨p, es₁, e', es₂, hs, rfl, he⟩ := ih hprev
      exact ⟨p, es₁, e', es₂ ++ [e], hs, by simp, he⟩
    · -- the pair-verify read the session's pairing from the store, where a vouched save put it
      obtain ⟨saves, hrep, hv⟩ := @serverRun_saves_vouched σ L srv st hst es
      obtain ⟨p, hp', hs⟩ := pairing_of_represents_ok hJ hrep hp
      obtain ⟨es₁, e', es₂, rfl, he⟩ := hv _ p hp'
      exact ⟨p, es₁, e', es₂ ++ [.verify req], hs, by simp, he⟩

/-- The toy accessory pairs `"a"` with Step 1 and a sealed Step 5, and `"a"`
then pair-verifies with the signature the transparent library checks: its
session is bound to the admin Step 5 saved. -/
theorem serverRun_session_vouched_toy :
    let srv : Server := ⟨[], [], [], List.replicate 64 0⟩
    let st : ServerState Unit := ⟨∅, ∅, ⟨[], ∅, by decide⟩⟩
    let encData : SubTlv := ⟨[0x61], [1], [1] ++ (Key.zero.bytes ++ [0x61] ++ [1])⟩
    let es : List ServerEvent := [.setup ⟨"a", .ok ⟨methodPair, [], [], [], step1⟩⟩,
      .setup ⟨"a", .ok ⟨methodPair, [], [], step5Body Aead.transparent Key.zero (Tlv8.tagged.marshalSubTlv encData), step5⟩⟩,
      .verify ⟨"a", [0x61], [], [1], []⟩]
    let s : Session := ⟨⟨[0x61], [1], permissionAdmin⟩, Key.zero, Key.zero, 0, 0⟩
    (Libs.toy.json.Lawful ∧ (∀ k, (st.store.files.lookup k).isSome → ¬ ascii ".pairing" <:+ k) ∧
      (∀ a s, st.sessions.lookup a ≠ some (.established s)) ∧
      (serverRun Libs.toy srv st es).sessions.lookup "a" = some (.established s)) ∧
    ∃ p es₁ e es₂, s.pairing = { p with name := coerceUTF8 p.name } ∧ es = es₁ ++ e :: es₂ ∧
      e.Vouches Libs.toy (serverRun Libs.toy srv st es₁) p := by
  intro srv st encData es s
  have hst : ∀ k, (st.store.files.lookup k).isSome → ¬ ascii ".pairing" <:+ k := by simp [st]
  have h0 : ∀ a s, st.sessions.lookup a ≠ some (.established s) := by simp [st]
  obtain ⟨ss, e, h₁, h₂⟩ := pairSetup_toy_step1_step5
  have hq : Storer.pairing Libs.toy.json ((Storer.savePairing Libs.toy.json ⟨[], ∅, by decide⟩ ⟨[0x61], [1], permissionAdmin⟩).2)
      [0x61] = .ok ⟨[0x61], [1], permissionAdmin⟩ :=
    Storer.pairing_savePairing_self Json.tagged_lawful _ (by decide) (by decide) (by decide)
  have h : (serverRun Libs.toy srv st es).sessions.lookup "a" = some (.established s) := by
    simp only [srv, st, encData, es, serverRun_cons, serverRun_nil, serverStep, h₁, h₂]
    simp only [pairVerify, hq]
    rfl
  exact ⟨⟨Json.tagged_lawful, hst, h0, h⟩, serverRun_session_vouched Json.tagged_lawful hst h0 es h⟩

end Hap
