import Hap.Server.Registry
import Hap.Server.AdminRuns
import Hap.Server.SetupFailures
import Hap.Store.Pairings

/-!
# The pairing store under every server event

Pair-setup, pair-verify, the pairings requests and the connection events share
the pairing store. The handlers change it only through `SavePairing` and
`DeletePairing`, on names they have just read back or failed to read back.

* `StoreEffect` is everything one event can do to the store, and
  `serverStep_storeEffect` says that every event does one of these things;
* `serverStep_store_authorized`: an event changes the store only as a Step 5 of
  pair-setup on an unpaired accessory, from an address holding a pair-setup
  session, or as an Add or a Delete that passed the admin check;
* `serverRun_store_calls`: the store after any run of events is the store after
  a run of storer calls, so the law of the store over calls holds in every
  reachable state: `Pairings()` lists what `Pairing(m)` reads back, and
  `Pairing(m)` returns the name `m` coerced to UTF-8;
* `serverRun_keeps_invalid_pairing`: a pairing whose name is not valid UTF-8
  is never removed, by any run of events; `deletePairing_invalid_name` shows
  why: a Delete of it removes the file of the coerced name instead;
* `setupRun_pairs_once`: from a directory with no pairing file, a Step-6
  answer saved a self-signed admin, and every request after it is refused,
  unless the system refused the admin's file name: Step 5 answers before it
  saves and drops the save's error.
-/

namespace Hap

variable {σ : Type} {L : Libs σ} {srv : Server}

/-! ## What an event does to the store -/

/-- What one event can do to the pairing store: nothing, save a pairing whose
name does not read back, save a pairing that read back with a new permission,
or delete the file of a pairing that read back, under the name it read back
with. -/
inductive StoreEffect (J : Json) (st : FsStore) : FsStore → Prop
  | keep : StoreEffect J st st
  | saveNew (p : Pairing) {e : StoreError} (h : Storer.pairing J st p.name = .error e) :
      StoreEffect J st ((Storer.savePairing J st p).2)
  | saveRead {n : Bytes} {q : Pairing} (h : Storer.pairing J st n = .ok q) (perm : UInt8) :
      StoreEffect J st ((Storer.savePairing J st { q with permission := perm }).2)
  | deleteRead {n : Bytes} {q : Pairing} (h : Storer.pairing J st n = .ok q) :
      StoreEffect J st (Storer.deletePairing st q.name).2

theorem ServerState.getPairSetupSession_ok {st : ServerState σ} {addr : String} {ss : Option (PairSetupSession σ)}
    (h : st.getPairSetupSession addr = .ok ss) : st.sessions.lookup addr = some (.setup ss) := by
  unfold ServerState.getPairSetupSession at h
  split at h
  · rename_i hss
    cases h
    exact hss
  all_goals cases h

/-- A pairing as Step 5 saves it: an admin whose key signed, after a prefix,
its own name and key. -/
def Pairing.SelfSigned (E : Ed25519) (p : Pairing) : Prop :=
  p.permission = permissionAdmin ∧ ∃ pre sig, E.validateSignature p.publicKey (pre ++ p.name ++ p.publicKey) sig

/-- Step 5 leaves the state as it was and answers with no Step-6 payload, or
it answers with one and saves a self-signed admin; it runs only at an address
holding a pair-setup session. -/
theorem pairSetupStep5_cases (st : ServerState σ) (addr : String) (data : PairSetupPayload) :
    ((pairSetupStep5 L srv st addr data).2 = st ∧ ∀ b, (pairSetupStep5 L srv st addr data).1 ≠ .step6 b) ∨
      st.HoldsSetup addr ∧ ∃ b p, (pairSetupStep5 L srv st addr data).1 = .step6 b ∧
        (pairSetupStep5 L srv st addr data).2 = { st with store := (Storer.savePairing L.json st.store p).2 } ∧
        p.SelfSigned L.ed25519 := by
  unfold pairSetupStep5
  split
  · exact .inl ⟨rfl, by simp⟩
  · rename_i ses hses
    dsimp only
    repeat' split
    all_goals first
      | exact .inl ⟨rfl, by simp⟩
      | exact .inr ⟨⟨_, ServerState.getPairSetupSession_ok hses⟩, _, _, rfl, rfl, rfl, _, _,
          Bool.of_not_eq_false fun hf => ‹¬(!L.ed25519.validateSignature _ _ _) = true› (by rw [hf]; rfl)⟩

theorem pairSetupStep1_ne_step6 (st : ServerState σ) (addr : String) (data : PairSetupPayload) (b : Bytes) :
    (pairSetupStep1 L srv st addr data).1 ≠ .step6 b := by
  unfold pairSetupStep1
  repeat' split
  all_goals simp

theorem pairSetupStep3_ne_step6 (st : ServerState σ) (addr : String) (data : PairSetupPayload) (b : Bytes) :
    (pairSetupStep3 L st addr data).1 ≠ .step6 b := by
  unfold pairSetupStep3
  dsimp only
  repeat' split
  all_goals simp

/-- Only Step 5 answers with a Step-6 payload, and only it changes the
store, by saving a self-signed admin. -/
theorem pairSetupDispatch_store_cases (st : ServerState σ) (addr : String) (data : PairSetupPayload) :
    ((pairSetupDispatch L srv st addr data).2.store = st.store ∧
        ∀ b, (pairSetupDispatch L srv st addr data).1 ≠ .step6 b) ∨
      data.method = methodPair ∧ data.state = step5 ∧ st.HoldsSetup addr ∧
        ∃ b p, (pairSetupDispatch L srv st addr data).1 = .step6 b ∧
          (pairSetupDispatch L srv st addr data).2.store = (Storer.savePairing L.json st.store p).2 ∧
          p.SelfSigned L.ed25519 := by
  unfold pairSetupDispatch
  split
  next hm =>
    split
    · -- Step 1
      refine .inl ⟨?_, pairSetupStep1_ne_step6 st addr data⟩
      rcases @pairSetupStep1_cases _ L srv st addr data with h | ⟨ss, h⟩ <;> simp only [h, ServerState.setSession_store]
    split
    · -- Step 3
      refine .inl ⟨?_, pairSetupStep3_ne_step6 st addr data⟩
      rcases pairSetupStep3_cases (L := L) st addr data with h | ⟨ss, h⟩ <;> simp only [h, ServerState.setSession_store]
    split
    next h5 =>
      rcases pairSetupStep5_cases (L := L) st addr data with ⟨h, hr⟩ | ⟨hs, b, p, hr, h, hp⟩
      · exact .inl ⟨by rw [h], hr⟩
      · exact .inr ⟨hm, h5, hs, b, p, hr, by rw [h], hp⟩
    exact .inl ⟨rfl, by simp⟩
  · split <;> exact .inl ⟨rfl, by simp⟩

theorem pairSetupRefusal_reply {st : ServerState σ} {addr : String} {reply : SetupReply}
    (h : pairSetupRefusal L st addr = some reply) : ∀ b, reply ≠ .step6 b := by
  unfold pairSetupRefusal at h
  split_ifs at h <;> cases h <;> simp

theorem isPaired_of_refusal_none {st : ServerState σ} {addr : String} (h : pairSetupRefusal L st addr = none) :
    isPaired L.json st.store = false := by
  unfold pairSetupRefusal at h
  split_ifs at h with hp
  simpa using hp

/-- **What pair-setup does to the store.** A pair-setup request changes the
store, and answers with a Step-6 payload, only as a Step 5 past both
refusals: on an unpaired accessory, from an address holding a pair-setup
session. It then saves one pairing, a self-signed admin. -/
theorem pairSetup_store_cases (st : ServerState σ) (req : SetupRequest) :
    ((pairSetup L srv st req).2.store = st.store ∧ ∀ b, (pairSetup L srv st req).1 ≠ .step6 b) ∨
      isPaired L.json st.store = false ∧
        (∃ data, req.body = .ok data ∧ data.method = methodPair ∧ data.state = step5) ∧ st.HoldsSetup req.addr ∧
        ∃ b p, (pairSetup L srv st req).1 = .step6 b ∧
          (pairSetup L srv st req).2.store = (Storer.savePairing L.json st.store p).2 ∧ p.SelfSigned L.ed25519 := by
  unfold pairSetup
  split
  · rename_i reply hr
    exact .inl ⟨rfl, pairSetupRefusal_reply hr⟩
  · rename_i hr
    split
    · exact .inl ⟨rfl, by simp⟩
    · rename_i data hd
      rcases pairSetupDispatch_store_cases (L := L) st req.addr data with h | ⟨hm, h5, hs, h⟩
      · exact .inl h
      · exact .inr ⟨isPaired_of_refusal_none hr, ⟨data, hd, hm, h5⟩, hs, h⟩

/-- An unpaired accessory reads back no pairing. -/
theorem pairing_error_of_unpaired {J : Json} {st : FsStore} (h : isPaired J st = false) (n : Bytes) :
    ∃ e, Storer.pairing J st n = .error e := by
  cases hq : Storer.pairing J st n with
  | error e => exact ⟨e, rfl⟩
  | ok q => rw [isPaired_of_pairing hq] at h; cases h

theorem addPairing_storeEffect (st : ServerState σ) (d : AdminPayload) :
    StoreEffect L.json st.store (addPairing L st d).2.store := by
  unfold addPairing
  split
  · rename_i e he
    rw [addPairingSave_snd]
    exact .saveNew ⟨d.identifier, d.publicKey, d.permission⟩ he
  · rename_i q hq
    split_ifs
    · exact .keep
    · rw [addPairingSave_snd]
      exact .saveRead hq _

theorem deletePairing_storeEffect (st : ServerState σ) (d : AdminPayload) :
    StoreEffect L.json st.store (deletePairing L st d).2.store := by
  rcases deletePairing_cases st d with h | ⟨p, hp, -, h⟩ <;> rw [h]
  · exact .keep
  · exact .deleteRead hp

/-- **Step lemma.** Every event does one of the things `StoreEffect` lists. -/
theorem serverStep_storeEffect (st : ServerState σ) (e : ServerEvent) :
    StoreEffect L.json st.store (serverStep L srv st e).store := by
  cases e with
  | connect addr => exact .keep
  | setup req =>
    show StoreEffect _ _ (pairSetup L srv st req).2.store
    rcases pairSetup_store_cases (L := L) st req with ⟨h, -⟩ | ⟨hp, -, -, -, p, -, h, -⟩ <;> rw [h]
    · exact .keep
    · obtain ⟨e, he⟩ := pairing_error_of_unpaired hp p.name
      exact .saveNew p he
  | verify req =>
    show StoreEffect _ _ (pairVerify L st req).store
    rw [pairVerify_store]
    exact .keep
  | admin req =>
    show StoreEffect _ _ (pairingsHandler L st req).2.store
    rcases pairingsHandler_cases st req with h | ⟨s, d, -, -, -, -, ⟨-, h⟩ | ⟨-, h⟩⟩ <;> rw [h]
    · exact .keep
    · exact addPairing_storeEffect st d
    · exact deletePairing_storeEffect st d
  | closed addr => exact .keep

/-- **Who changes the store.** An event changes the pairing store only as a
pair-setup Step 5 on an unpaired accessory from an address holding a
pair-setup session, or as a pairings request that passed the admin check
(`AdminAuthorized`). Pair-verify, new connections and closed connections never
change it. -/
theorem serverStep_store_authorized (st : ServerState σ) (e : ServerEvent)
    (h : (serverStep L srv st e).store ≠ st.store) :
    (∃ req data, e = .setup req ∧ req.body = .ok data ∧ data.method = methodPair ∧ data.state = step5 ∧
        isPaired L.json st.store = false ∧ st.HoldsSetup req.addr) ∨
      ∃ req, e = .admin req ∧ AdminAuthorized L st req := by
  cases e with
  | connect addr => exact absurd rfl h
  | setup req =>
    rcases pairSetup_store_cases (L := L) st req with ⟨h', -⟩ | ⟨hp, ⟨data, hd, hm, h5⟩, hs, -⟩
    · exact absurd h' h
    · exact .inl ⟨req, data, rfl, hd, hm, h5, hp, hs⟩
  | verify req => exact absurd (pairVerify_store st req) h
  | admin req =>
    rcases pairingsHandler_cases st req with h' | ⟨s, d, hp, hs, ha, hd, hm⟩
    · exact absurd (congrArg ServerState.store h') h
    · exact .inr ⟨req, rfl, hp, ⟨s, hs, ha⟩, d, hd, hm.imp And.left And.left⟩
  | closed addr => exact absurd rfl h

/-- The admin `c` adds the fresh name `n` on its session: the store changes,
and the event is an authorized pairings request. -/
theorem serverStep_store_authorized_toy :
    let c : Pairing := ⟨[0x63], [3], permissionAdmin⟩
    let st : ServerState Unit :=
      ⟨(∅ : AList fun _ : String => SessionValue Unit).insert "c" (.established ⟨c, Key.zero, Key.zero, 0, 0⟩),
        ∅, (Storer.savePairing Json.tagged ⟨[], ∅, by decide⟩ c).2⟩
    let e : ServerEvent := .admin ⟨"c", .ok ⟨methodAddPairing, [0x6E], [1], permissionUser, step1⟩⟩
    (serverStep Libs.toy ⟨[], [], [], []⟩ st e).store ≠ st.store ∧
      ((∃ req data, e = .setup req ∧ req.body = .ok data ∧ data.method = methodPair ∧ data.state = step5 ∧
          isPaired Libs.toy.json st.store = false ∧ st.HoldsSetup req.addr) ∨
        ∃ req, e = .admin req ∧ AdminAuthorized Libs.toy st req) := by
  intro c st e
  have hc : Storer.pairing Libs.toy.json st.store [0x63] = .ok c :=
    Storer.pairing_savePairing_self Json.tagged_lawful _ (by decide) (by decide) (by decide)
  have hnew : st.store.files.lookup (keyForPairingName [0x6E]) = none := by
    rw [Storer.lookup_savePairing, if_neg (by decide)]
    rfl
  have hchange : (serverStep Libs.toy ⟨[], [], [], []⟩ st e).store ≠ st.store := by
    rw [serverStep_add _ (isPaired_of_pairing hc) (show st.getSession "c" = _ from rfl) rfl,
      addPairing_of_error (Storer.pairing_of_lookup_none hnew)]
    exact Storer.savePairing_ne hnew (by decide)
  exact ⟨hchange, serverStep_store_authorized st e hchange⟩

/-! ## The store over runs -/

namespace StoreEffect

variable {J : Json} {st st' : FsStore}

/-- An effect is a run of at most one storer call. -/
theorem calls (h : StoreEffect J st st') : ∃ cs, st' = Storer.run J st cs := by
  cases h with
  | keep => exact ⟨[], rfl⟩
  | saveNew p => exact ⟨[.savePairing p], rfl⟩
  | saveRead _ perm => exact ⟨[.savePairing _], rfl⟩
  | deleteRead _ => exact ⟨[.deletePairing _], rfl⟩

theorem represents {saves : Bytes → List Pairing} (h : StoreEffect J st st') (hrep : Represents J st saves) :
    ∃ saves', Represents J st' saves' := by
  obtain ⟨cs, rfl⟩ := h.calls
  exact ⟨_, represents_run hrep cs⟩

/-- A name that is not valid UTF-8 and reads back still reads back the same
after any effect: every name an effect saves or deletes either did not read
back, or is a name read back from the store, which is valid UTF-8. -/
theorem pairing_of_invalid {saves : Bytes → List Pairing} (hJ : J.Lawful) (hrep : Represents J st saves)
    (h : StoreEffect J st st') {n : Bytes} (hn : validUTF8 n = false) {q : Pairing}
    (hq : Storer.pairing J st n = .ok q) : Storer.pairing J st' n = .ok q := by
  have hvalid : ∀ {m r}, Storer.pairing J st m = .ok r → n ≠ r.name := by
    intro m r hr he
    obtain ⟨p, -, rfl⟩ := pairing_of_represents_ok hJ hrep hr
    rw [he, validUTF8_coerceUTF8] at hn
    cases hn
  cases h with
  | keep => exact hq
  | saveNew p he =>
    rw [Storer.pairing_savePairing_of_ne _ _ fun hn' => by rw [hn'] at hq; rw [hq] at he; cases he]
    exact hq
  | @saveRead _ r hr perm =>
    rw [Storer.pairing_savePairing_of_ne (p := { r with permission := perm }) _ _ (hvalid (r := r) hr)]
    exact hq
  | deleteRead hr =>
    rw [Storer.pairing_deletePairing_of_ne _ _ (hvalid hr)]
    exact hq

end StoreEffect

theorem serverRun_calls (st : ServerState σ) (es : List ServerEvent) :
    ∃ cs, (serverRun L srv st es).store = Storer.run L.json st.store cs := by
  induction es generalizing st with
  | nil => exact ⟨[], rfl⟩
  | cons e es ih =>
    obtain ⟨cs₁, h₁⟩ := (serverStep_storeEffect (L := L) st e).calls
    obtain ⟨cs₂, h₂⟩ := ih (serverStep L srv st e)
    exact ⟨cs₁ ++ cs₂, by rw [serverRun_cons, h₂, h₁, Storer.run, Storer.run, Storer.run, List.foldl_append]⟩

/-- **The server drives the store through storer calls.** Whatever the events,
the store after a run is the store after some run of `SavePairing` and
`DeletePairing` calls. From a directory with no pairing file, in every state a
run reaches, `Pairings()` lists exactly the pairings `Pairing(m)` reads back
for some name `m`, and `Pairing(m)` returns the name `m` coerced to UTF-8. -/
theorem serverRun_store_calls (hJ : L.json.Lawful) (st : ServerState σ)
    (hst : ∀ k, (st.store.files.lookup k).isSome → ¬ ascii ".pairing" <:+ k) (es : List ServerEvent) :
    (∃ cs, (serverRun L srv st es).store = Storer.run L.json st.store cs) ∧
      (∀ q, q ∈ Storer.pairings L.json (serverRun L srv st es).store ↔
        ∃ m, Storer.pairing L.json (serverRun L srv st es).store m = .ok q) ∧
      ∀ m q, Storer.pairing L.json (serverRun L srv st es).store m = .ok q → q.name = coerceUTF8 m := by
  obtain ⟨cs, hcs⟩ := serverRun_calls st es
  have hrep := represents_run (represents_init (J := L.json) hst) cs
  rw [← hcs] at hrep
  refine ⟨⟨cs, hcs⟩, mem_pairings_of_represents hrep, fun m q hq => ?_⟩
  obtain ⟨p, hp, rfl⟩ := pairing_of_represents_ok hJ hrep hq
  rw [mem_liveSaves_name hp]

/-- A fresh accessory, a connection and a Step 1 from `"a"`. -/
theorem serverRun_store_calls_toy :
    let st : ServerState Unit := ⟨∅, ∅, ⟨[], ∅, by decide⟩⟩
    let es : List ServerEvent := [.connect "a", .setup ⟨"a", .ok ⟨methodPair, [], [], [], step1⟩⟩]
    (Libs.toy.json.Lawful ∧ ∀ k, (st.store.files.lookup k).isSome → ¬ ascii ".pairing" <:+ k) ∧
      (∃ cs, (serverRun Libs.toy ⟨[], [], [], []⟩ st es).store = Storer.run Libs.toy.json st.store cs) ∧
      (∀ q, q ∈ Storer.pairings Libs.toy.json (serverRun Libs.toy ⟨[], [], [], []⟩ st es).store ↔
        ∃ m, Storer.pairing Libs.toy.json (serverRun Libs.toy ⟨[], [], [], []⟩ st es).store m = .ok q) ∧
      ∀ m q, Storer.pairing Libs.toy.json (serverRun Libs.toy ⟨[], [], [], []⟩ st es).store m = .ok q →
        q.name = coerceUTF8 m := by
  intro st es
  have hst : ∀ k, (st.store.files.lookup k).isSome → ¬ ascii ".pairing" <:+ k := by simp [st]
  exact ⟨⟨Json.tagged_lawful, hst⟩, serverRun_store_calls Json.tagged_lawful st hst es⟩

/-- **A pairing whose name is not valid UTF-8 is never removed.** Take a
directory that holds, for each name, the records its saves wrote (as after
any run of storer calls from a directory with no pairing file, so in every
state a server run reaches from one), and a name `n` that is not valid UTF-8
whose pairing reads back. Then after every run of events `n`'s pairing reads
back the same, and the accessory stays paired: neither a Delete, nor an Add,
nor pair-setup ever writes the file of `n` again. -/
theorem serverRun_keeps_invalid_pairing (hJ : L.json.Lawful) {st : ServerState σ} {saves : Bytes → List Pairing}
    (hrep : Represents L.json st.store saves) {n : Bytes} (hn : validUTF8 n = false) {q : Pairing}
    (hq : Storer.pairing L.json st.store n = .ok q) (es : List ServerEvent) :
    Storer.pairing L.json (serverRun L srv st es).store n = .ok q ∧
      isPaired L.json (serverRun L srv st es).store = true := by
  suffices h : Storer.pairing L.json (serverRun L srv st es).store n = .ok q from ⟨h, isPaired_of_pairing h⟩
  induction es generalizing st saves with
  | nil => exact hq
  | cons e es ih =>
    have step : StoreEffect L.json st.store (serverStep L srv st e).store := serverStep_storeEffect st e
    obtain ⟨saves', hrep'⟩ := step.represents hrep
    exact ih hrep' (step.pairing_of_invalid hJ hrep hn hq)

/-- The admin `[0xFF]`, whose name is not valid UTF-8, pair-verifies on
`"x"` and deletes itself: its pairing still reads back. -/
theorem serverRun_keeps_invalid_pairing_toy :
    let p : Pairing := ⟨[0xFF], [1], permissionAdmin⟩
    let st : ServerState Unit := ⟨∅, ∅, (Storer.savePairing Json.tagged ⟨[], ∅, by decide⟩ p).2⟩
    let q : Pairing := ⟨coerceUTF8 [0xFF], [1], permissionAdmin⟩
    let es : List ServerEvent := [.connect "x", .verify ⟨"x", [0xFF], [], [1], []⟩,
      .admin ⟨"x", .ok ⟨methodDeletePairing, [0xFF], [], 0, step1⟩⟩]
    (Libs.toy.json.Lawful ∧ (∃ saves, Represents Libs.toy.json st.store saves) ∧ validUTF8 [0xFF] = false ∧
        Storer.pairing Libs.toy.json st.store [0xFF] = .ok q) ∧
      Storer.pairing Libs.toy.json (serverRun Libs.toy ⟨[], [], [], []⟩ st es).store [0xFF] = .ok q ∧
        isPaired Libs.toy.json (serverRun Libs.toy ⟨[], [], [], []⟩ st es).store = true := by
  intro p st q es
  have hrep : Represents Libs.toy.json st.store _ :=
    represents_call (represents_init (by simp) : Represents Json.tagged ⟨[], ∅, by decide⟩ fun _ => []) (.savePairing p)
  have hq : Storer.pairing Libs.toy.json st.store [0xFF] = .ok q :=
    Storer.pairing_savePairing_fresh Json.tagged_lawful _ (p := p) (by decide) rfl
  exact ⟨⟨Json.tagged_lawful, ⟨_, hrep⟩, by decide, hq⟩,
    serverRun_keeps_invalid_pairing Json.tagged_lawful hrep (by decide) hq es⟩

/-- **A Delete of a name that is not valid UTF-8 misses.** Let the file of a
pairing `p` hold its record, where `p`'s name is not valid UTF-8. A
DeletePairing of that name reads the record back with the name coerced to
UTF-8, which is another name, and removes the file of that name instead: the
request succeeds exactly when a pairing is stored under the coerced name, which
it deletes, and `p` still reads back afterwards. -/
theorem deletePairing_invalid_name (hJ : L.json.Lawful) (st : ServerState σ) {p : Pairing}
    (hp : st.store.files.lookup (keyForPairingName p.name) = some (L.json.marshal p))
    (hv : validUTF8 p.name = false) (d : AdminPayload) (hd : d.identifier = p.name) :
    (deletePairing L st d).2.store = (Storer.deletePairing st.store (coerceUTF8 p.name)).2 ∧
      ((deletePairing L st d).1 = .state2 ↔
        (st.store.files.lookup (keyForPairingName (coerceUTF8 p.name))).isSome) ∧
      Storer.pairing L.json (deletePairing L st d).2.store p.name = .ok { p with name := coerceUTF8 p.name } := by
  have hq : Storer.pairing L.json st.store p.name = .ok { p with name := coerceUTF8 p.name } := by
    rw [Storer.pairing_of_lookup hp, hJ.unmarshal_marshal]
    rfl
  have hne : p.name ≠ coerceUTF8 p.name := fun h => by
    rw [(coerceUTF8_eq_self_iff _).1 h.symm] at hv
    cases hv
  have hkeep := Storer.pairing_deletePairing_of_ne L.json st.store hne
  unfold deletePairing
  rw [hd, hq]
  dsimp only
  cases hl : st.store.files.lookup (keyForPairingName (coerceUTF8 p.name)) with
  | none =>
    -- no file under the coerced name: the Delete fails and changes nothing
    have hdel : Storer.deletePairing st.store (coerceUTF8 p.name) =
        (.error (st.store.pathError "remove" (keyForPairingName (coerceUTF8 p.name))), st.store) :=
      FsStore.delete_of_lookup_none (by rwa [sanitizeFilename_keyForPairingName])
    simp [hdel, hq]
  | some c =>
    -- the file of the coerced name is removed
    obtain ⟨store', hdel⟩ : ∃ store', Storer.deletePairing st.store (coerceUTF8 p.name) = (.ok (), store') :=
      FsStore.delete_of_lookup_some (by rwa [sanitizeFilename_keyForPairingName])
    rw [hdel] at hkeep ⊢
    dsimp only
    split <;> simp [hkeep, hq]

/-- Two controllers, `[0xFF]` and `[0xEF, 0xBF, 0xBD]` (U+FFFD, what `[0xFF]`
reads back as). A Delete of `[0xFF]` removes the second one. -/
theorem deletePairing_invalid_name_toy :
    let p : Pairing := ⟨[0xFF], [1], permissionAdmin⟩
    let st : ServerState Unit := ⟨∅, ∅, (Storer.savePairing Json.tagged
      (Storer.savePairing Json.tagged ⟨[], ∅, by decide⟩ p).2 ⟨[0xEF, 0xBF, 0xBD], [2], permissionAdmin⟩).2⟩
    let d : AdminPayload := ⟨methodDeletePairing, [0xFF], [], 0, step1⟩
    (Libs.toy.json.Lawful ∧ st.store.files.lookup (keyForPairingName p.name) = some (Libs.toy.json.marshal p) ∧
        validUTF8 p.name = false ∧ d.identifier = p.name) ∧
      ((deletePairing Libs.toy st d).2.store = (Storer.deletePairing st.store (coerceUTF8 p.name)).2 ∧
        ((deletePairing Libs.toy st d).1 = .state2 ↔
          (st.store.files.lookup (keyForPairingName (coerceUTF8 p.name))).isSome) ∧
        Storer.pairing Libs.toy.json (deletePairing Libs.toy st d).2.store p.name =
          .ok { p with name := coerceUTF8 p.name }) ∧
      coerceUTF8 p.name = [0xEF, 0xBF, 0xBD] := by
  intro p st d
  have hp : st.store.files.lookup (keyForPairingName p.name) = some (Libs.toy.json.marshal p) := by decide
  exact ⟨⟨Json.tagged_lawful, hp, by decide, rfl⟩,
    deletePairing_invalid_name Json.tagged_lawful st hp (by decide) d rfl, by decide⟩

/-! ## Pair-setup succeeds once -/

/-- Every pair-setup request to a paired accessory is refused as Unavailable
and changes nothing. -/
theorem setupRun_of_paired {st : ServerState σ} (h : isPaired L.json st.store = true) (reqs : List SetupRequest) :
    setupRun L srv st reqs = (reqs.map fun _ => .tlvError none step2 tlvErrorUnavailable, st) := by
  have hreq : ∀ req, pairSetup L srv st req = (.tlvError none step2 tlvErrorUnavailable, st) := fun req => by
    simp [pairSetup, pairSetupRefusal, h]
  induction reqs with
  | nil => rfl
  | cons req reqs ih => simp only [setupRun, hreq, ih, List.map_cons]

/-- A directory with no `.pairing` file has none for any name. -/
theorem lookup_keyForPairingName_none {st : FsStore}
    (hst : ∀ k, (st.files.lookup k).isSome → ¬ ascii ".pairing" <:+ k) (n : Bytes) :
    st.files.lookup (keyForPairingName n) = none := by
  cases hl : st.files.lookup (keyForPairingName n)
  · rfl
  · exact absurd (suffix_keyForPairingName n) (hst _ (by rw [hl]; rfl))

/-- **Run lemma.** From a directory with no pairing file, pair-setup leaves the
store as it was until the accessory is paired: a Step 5 whose save the system
accepts pairs it, and one whose save it refuses writes nothing. -/
theorem setupRun_store_or_paired (hJ : L.json.Lawful) {st₀ : FsStore}
    (hst : ∀ k, (st₀.files.lookup k).isSome → ¬ ascii ".pairing" <:+ k) (reqs : List SetupRequest) :
    ∀ st : ServerState σ, (st.store = st₀ ∨ isPaired L.json st.store = true) →
      (setupRun L srv st reqs).2.store = st₀ ∨ isPaired L.json (setupRun L srv st reqs).2.store = true := by
  induction reqs with
  | nil => exact fun _ h => h
  | cons req reqs ih =>
    intro st h
    apply ih
    rcases pairSetup_store_cases (L := L) st req with ⟨hs, -⟩ | ⟨hp, -, -, -, p, -, hs, -⟩
    · rwa [hs]
    · -- a Step 5 on an unpaired accessory, so on `st₀`
      rw [hs, h.resolve_right (by simp [hp])]
      cases hfit : nameTooLong st₀.path (keyForPairingName p.name)
      · exact .inr (isPaired_of_pairing
          (Storer.pairing_savePairing_fresh hJ _ hfit (lookup_keyForPairingName_none hst p.name)))
      · exact .inl (by rw [Storer.savePairing_of_nameTooLong hfit])

/-- **Pair-setup succeeds at most once, when its save goes through.** Run
pair-setup requests from a directory with no pairing file, and let the request
after `reqs₁` be answered with a Step-6 payload. That request saved a
self-signed admin `p`. When the system accepts `p`'s file name, every request
after it is refused with Unavailable: `p` reads back, so the accessory is
paired. When the system refuses it, Step 6 was answered all the same, since
`savePairing`'s error is dropped, and the store is as it was. -/
theorem setupRun_pairs_once (hJ : L.json.Lawful) {st : ServerState σ}
    (hst : ∀ k, (st.store.files.lookup k).isSome → ¬ ascii ".pairing" <:+ k)
    (reqs₁ : List SetupRequest) (req : SetupRequest) (reqs₂ : List SetupRequest) {b : Bytes}
    (h : (pairSetup L srv (setupRun L srv st reqs₁).2 req).1 = .step6 b) :
    let st₁ := (setupRun L srv st reqs₁).2
    ∃ p, p.SelfSigned L.ed25519 ∧
      (pairSetup L srv st₁ req).2.store = (Storer.savePairing L.json st₁.store p).2 ∧
      (nameTooLong st.store.path (keyForPairingName p.name) = false →
        ∀ r ∈ (setupRun L srv (pairSetup L srv st₁ req).2 reqs₂).1, r = .tlvError none step2 tlvErrorUnavailable) ∧
      (nameTooLong st.store.path (keyForPairingName p.name) = true →
        (pairSetup L srv st₁ req).2.store = st₁.store) := by
  intro st₁
  rcases pairSetup_store_cases (L := L) st₁ req with ⟨-, hr⟩ | ⟨hp, -, -, -, p, -, hs, hself⟩
  · exact absurd h (hr b)
  · -- the accessory was unpaired, so no earlier request wrote to the store
    have h0 : st₁.store = st.store :=
      (setupRun_store_or_paired hJ hst reqs₁ st (.inl rfl)).resolve_right (by simp [hp])
    refine ⟨p, hself, hs, fun hfit => ?_, fun hfit => by rw [hs, h0, Storer.savePairing_of_nameTooLong hfit]⟩
    have hpaired : isPaired L.json (pairSetup L srv st₁ req).2.store = true := by
      rw [hs, h0]
      exact isPaired_of_pairing (Storer.pairing_savePairing_fresh hJ _ hfit (lookup_keyForPairingName_none hst _))
    intro r hr
    rw [setupRun_of_paired hpaired reqs₂] at hr
    obtain ⟨_, -, rfl⟩ := List.mem_map.1 hr
    rfl

/-- On a fresh accessory with the toy libraries, Step 1 from `"a"` registers a
session with the zero key, and a Step 5 sealed under that key around
`{id: "a", LTPK: [1]}`, with the signature the transparent library checks, is
answered with a Step-6 payload and saves `"a"` as an admin. -/
theorem pairSetup_toy_step1_step5 :
    let srv : Server := ⟨[], [], [], List.replicate 64 0⟩
    let st : ServerState Unit := ⟨∅, ∅, ⟨[], ∅, by decide⟩⟩
    let encData : SubTlv := ⟨[0x61], [1], [1] ++ (Key.zero.bytes ++ [0x61] ++ [1])⟩
    ∃ ss e, pairSetup Libs.toy srv st ⟨"a", .ok ⟨methodPair, [], [], [], step1⟩⟩ =
        (.step2 ss.salt ss.publicKey, st.setSession "a" (.setup (some ss))) ∧
      pairSetup Libs.toy srv (st.setSession "a" (.setup (some ss)))
          ⟨"a", .ok ⟨methodPair, [], [], step5Body Aead.transparent Key.zero (Tlv8.tagged.marshalSubTlv encData), step5⟩⟩ =
        (.step6 e, { st.setSession "a" (.setup (some ss)) with
          store := (Storer.savePairing Libs.toy.json st.store ⟨[0x61], [1], permissionAdmin⟩).2 }) := by
  intro srv st encData
  have hpaired : isPaired Libs.toy.json st.store = false := by
    simp [st, isPaired, Storer.pairings, FsStore.keysWithSuffix, AList.keys_empty]
  have hidle : ∀ a ∈ st.sessionAddrs, a = "a" := by
    simp [st, ServerState.sessionAddrs, AList.keys_empty]
  -- Step 1 registers a session with the zero key
  obtain ⟨ss, hK, -, -, h₁⟩ := pairSetup_step1 srv Srp.trivial_total hpaired hidle
    ⟨methodPair, [], [], [], step1⟩ rfl rfl
  -- Step 5 opens under that key and saves `"a"`
  have hss : (st.setSession "a" (.setup (some ss))).sessions.lookup "a" = some (.setup (some ss)) := by
    rw [ServerState.lookup_setSession, if_pos rfl]
  obtain ⟨e, h₅⟩ := pairSetupStep5_sealed Libs.toy_lawful (show srv.keyPrivate.length = 64 by rfl) hss encData
    (by simp [Libs.toy, Hkdf.zero, Ed25519.transparent])
    ⟨methodPair, [], [], step5Body Aead.transparent Key.zero (Tlv8.tagged.marshalSubTlv encData), step5⟩
    (by rw [hK]; rfl)
  have hrefuse : pairSetupRefusal Libs.toy (st.setSession "a" (.setup (some ss))) "a" = none :=
    pairSetupRefusal_none hpaired (sessionAddrs_setSession (.setup (some ss)) hidle)
  exact ⟨ss, e, h₁, (pairSetup_of_refusal_none hrefuse _).trans
    ((pairSetupDispatch_step5 srv _ "a" rfl rfl).trans h₅)⟩

/-- On a fresh accessory with the toy libraries: Step 1 and a Step 5 from
`"a"`, the Step 5 sealed under the zero key around `{id: "a", LTPK: [1]}` with
the signature the transparent library checks, then a Step 1 from `"b"`. The
Step 5 is answered with a Step-6 payload, and the request after it is refused
as Unavailable. -/
theorem setupRun_pairs_once_toy :
    let srv : Server := ⟨[], [], [], List.replicate 64 0⟩
    let st : ServerState Unit := ⟨∅, ∅, ⟨[], ∅, by decide⟩⟩
    let encData : SubTlv := ⟨[0x61], [1], [1] ++ (Key.zero.bytes ++ [0x61] ++ [1])⟩
    let reqs₁ : List SetupRequest := [⟨"a", .ok ⟨methodPair, [], [], [], step1⟩⟩]
    let req : SetupRequest :=
      ⟨"a", .ok ⟨methodPair, [], [], step5Body Aead.transparent Key.zero (Tlv8.tagged.marshalSubTlv encData), step5⟩⟩
    let reqs₂ : List SetupRequest := [⟨"b", .ok ⟨methodPair, [], [], [], step1⟩⟩]
    (Libs.toy.json.Lawful ∧ ∀ k, (st.store.files.lookup k).isSome → ¬ ascii ".pairing" <:+ k) ∧
      ∃ b, (pairSetup Libs.toy srv (setupRun Libs.toy srv st reqs₁).2 req).1 = .step6 b ∧
        let st₁ := (setupRun Libs.toy srv st reqs₁).2
        ∃ p, p.SelfSigned Libs.toy.ed25519 ∧
          (pairSetup Libs.toy srv st₁ req).2.store = (Storer.savePairing Libs.toy.json st₁.store p).2 ∧
          (nameTooLong st.store.path (keyForPairingName p.name) = false →
            ∀ r ∈ (setupRun Libs.toy srv (pairSetup Libs.toy srv st₁ req).2 reqs₂).1,
              r = .tlvError none step2 tlvErrorUnavailable) ∧
          (nameTooLong st.store.path (keyForPairingName p.name) = true →
            (pairSetup Libs.toy srv st₁ req).2.store = st₁.store) := by
  intro srv st encData reqs₁ req reqs₂
  have hst : ∀ k, (st.store.files.lookup k).isSome → ¬ ascii ".pairing" <:+ k := by simp [st]
  obtain ⟨ss, e, h₁, h₂⟩ := pairSetup_toy_step1_step5
  have hstep6 : (pairSetup Libs.toy srv (setupRun Libs.toy srv st reqs₁).2 req).1 = .step6 e := by
    simp only [reqs₁, setupRun, h₁, h₂]
  exact ⟨⟨Json.tagged_lawful, hst⟩, e, hstep6, setupRun_pairs_once Json.tagged_lawful hst reqs₁ req reqs₂ hstep6⟩

end Hap
