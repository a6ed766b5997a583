import Hap.Server.Admin

/-!
# Pairing administration over runs

What the administration requests do to the stored pairings and to the open
connections, over runs of server events.

* `addPairing_replaces_key`: a record that no longer reads back (a shorter
  record written over a longer one, with no `O_TRUNC`) makes the next Add treat
  its name as new, so the name's key changes with no Delete in between;
* `pairingsHandler_authorized`: a request that changes the store passed the
  admin check, on the permission the session was installed with
  (`ss.Pairing`), not the one stored now, and every Add and Delete on such a
  session is handled; `demoted_controller_adds_pairing` shows a controller
  demoted after its pair-verify adding a pairing;
* `pairingsHandler_closes_conns`: a Delete answered `{State: 2}` closes
  exactly the registered connections that pass its test, and every other
  request closes none;
  `demoted_last_admin_keeps_conns` shows an Add leaving no admin and every
  connection open.
-/

namespace Hap

variable {σ : Type} {L : Libs σ} (srv : Server)

/-! ## Keys change without a Delete -/

/-- **A key replaced by Add.** On a paired accessory with an admin session at
`addr` and no file for the UTF-8 name `n`, under a file name the system
accepts, three Adds for `n` on that session:
key `k` with permission `pl`, key `k` with a permission `ps` whose record is
shorter, then key `k'` with a record at least as long as the first. `Pairing(n)`
returns no key, `k`, no key (the second record left the first one's tail after
it), then `k'`: the key of `n` changed, and no Delete ran. -/
theorem addPairing_replaces_key (hJ : L.json.Lawful) {st : ServerState σ} {addr : String}
    {s : Session} (hs : st.getSession addr = .ok s) (hadmin : s.pairing.permission = permissionAdmin)
    {c : Bytes} {q : Pairing} (hc : Storer.pairing L.json st.store c = .ok q)
    {n : Bytes} (hn : validUTF8 n = true) (hnew : st.store.files.lookup (keyForPairingName n) = none)
    (hfit : nameTooLong st.store.path (keyForPairingName n) = false) (k k' : Bytes) (pl ps p' : UInt8)
    (hshort : (L.json.marshal ⟨n, k, ps⟩).length < (L.json.marshal ⟨n, k, pl⟩).length)
    (hlong : (L.json.marshal ⟨n, k, pl⟩).length ≤ (L.json.marshal ⟨n, k', p'⟩).length) :
    let add := fun (k : Bytes) (perm : UInt8) =>
      ServerEvent.admin ⟨addr, .ok ⟨methodAddPairing, n, k, perm, step1⟩⟩
    (serverTrace L srv st [add k pl, add k ps, add k' p']).map
        (fun st => (Storer.pairing L.json st.store n).toOption.map Pairing.publicKey) =
      [none, some k, none, some k'] := by
  intro add
  have hcn : c ≠ n := by
    rintro rfl
    rw [Storer.pairing_of_lookup_none hnew] at hc
    cases hc
  -- the first Add: `n` has no file, so it is new
  let s1 : ServerState σ := { st with store := (Storer.savePairing L.json st.store ⟨n, k, pl⟩).2 }
  have e1 : serverStep L srv st (add k pl) = s1 :=
    (serverStep_add srv (isPaired_of_pairing hc) hs hadmin n k pl step1).trans
      (addPairing_of_error (Storer.pairing_of_lookup_none hnew))
  have hl1 : s1.store.files.lookup (keyForPairingName n) = some (L.json.marshal ⟨n, k, pl⟩) := by
    simp [s1, Storer.lookup_savePairing, hnew, hfit]
  have r1 : Storer.pairing L.json s1.store n = .ok ⟨n, k, pl⟩ :=
    Storer.pairing_savePairing_self hJ st.store hfit hn (by simp [hnew])
  -- the second Add: the same key, and a shorter record over the first
  let s2 : ServerState σ := { st with store := (Storer.savePairing L.json s1.store ⟨n, k, ps⟩).2 }
  have e2 : serverStep L srv s1 (add k ps) = s2 :=
    (serverStep_add srv (isPaired_of_pairing r1) hs hadmin n k ps step1).trans (addPairing_of_ok r1)
  obtain ⟨e, r2⟩ := Storer.pairing_savePairing_shorter hJ ⟨n, k, ps⟩ hl1
    (hJ.marshal_getLast _) hshort
  -- the third Add: `n` does not read back, so it is new again; `c` keeps the
  -- accessory paired
  have hc2 : Storer.pairing L.json s2.store c = .ok q := by
    rwa [Storer.pairing_savePairing_of_ne _ _ hcn, Storer.pairing_savePairing_of_ne _ _ hcn]
  let s3 : ServerState σ := { st with store := (Storer.savePairing L.json s2.store ⟨n, k', p'⟩).2 }
  have e3 : serverStep L srv s2 (add k' p') = s3 :=
    (serverStep_add srv (isPaired_of_pairing hc2) hs hadmin n k' p' step1).trans (addPairing_of_error r2)
  have r3 : Storer.pairing L.json s3.store n = .ok ⟨n, k', p'⟩ := by
    refine Storer.pairing_savePairing_self hJ s2.store (by simpa [s2, s1] using hfit) hn ?_
    simp only [s2, s1, Storer.lookup_savePairing, Storer.savePairing_path, hfit, and_self, hl1, if_true,
      Option.getD_some, List.length_append, List.length_drop]
    omega
  simp only [serverTrace, e1, e2, e3, List.map_cons, List.map_nil, Storer.pairing_of_lookup_none hnew,
    r1, r2, r3]
  rfl

/-- A fresh name `n` added three times beside the admin `c`, with permissions
10, 1 and 10 (two, one and two decimal digits). -/
theorem addPairing_replaces_key_toy :
    let c : Pairing := ⟨[0x63], [3], permissionAdmin⟩
    let s : Session := ⟨c, Key.zero, Key.zero, 0, 0⟩
    let st : ServerState Unit :=
      ⟨(∅ : AList fun _ : String => SessionValue Unit).insert "c" (.established s), ∅,
        (Storer.savePairing Json.tagged ⟨[], ∅, by decide⟩ c).2⟩
    (Libs.toy.json.Lawful ∧ st.getSession "c" = .ok s ∧ s.pairing.permission = permissionAdmin ∧
      Storer.pairing Libs.toy.json st.store [0x63] = .ok c ∧ validUTF8 [0x6E] = true ∧
      st.store.files.lookup (keyForPairingName [0x6E]) = none ∧
      nameTooLong st.store.path (keyForPairingName [0x6E]) = false ∧
      (Libs.toy.json.marshal ⟨[0x6E], [1], 1⟩).length < (Libs.toy.json.marshal ⟨[0x6E], [1], 10⟩).length ∧
      (Libs.toy.json.marshal ⟨[0x6E], [1], 10⟩).length ≤ (Libs.toy.json.marshal ⟨[0x6E], [2], 10⟩).length) ∧
    let add := fun (k : Bytes) (perm : UInt8) =>
      ServerEvent.admin ⟨"c", .ok ⟨methodAddPairing, [0x6E], k, perm, step1⟩⟩
    (serverTrace Libs.toy ⟨[], [], [], []⟩ st [add [1] 10, add [1] 1, add [2] 10]).map
        (fun st => (Storer.pairing Libs.toy.json st.store [0x6E]).toOption.map Pairing.publicKey) =
      [none, some [1], none, some [2]] := by
  intro c s st
  have hs : st.getSession "c" = .ok s := rfl
  have hc : Storer.pairing Libs.toy.json st.store [0x63] = .ok c :=
    Storer.pairing_savePairing_self Json.tagged_lawful _ (by decide) (by decide) (by decide)
  have hnew : st.store.files.lookup (keyForPairingName [0x6E]) = none := by
    rw [Storer.lookup_savePairing, if_neg (by decide)]
    rfl
  have hshort : (Libs.toy.json.marshal ⟨[0x6E], [1], 1⟩).length <
      (Libs.toy.json.marshal ⟨[0x6E], [1], 10⟩).length := by decide
  have hlong : (Libs.toy.json.marshal ⟨[0x6E], [1], 10⟩).length ≤
      (Libs.toy.json.marshal ⟨[0x6E], [2], 10⟩).length := by decide
  have hfit : nameTooLong st.store.path (keyForPairingName [0x6E]) = false := by decide
  exact ⟨⟨Json.tagged_lawful, hs, rfl, hc, by decide, hnew, hfit, hshort, hlong⟩,
    addPairing_replaces_key ⟨[], [], [], []⟩ Json.tagged_lawful hs rfl hc (by decide) hnew hfit
      [1] [2] 10 1 10 hshort hlong⟩

/-! ## The admin check reads the session's copy -/

/-- What the handler checked before a request changed the store: the accessory
is paired, the request's session is bound to a pairing with permission Admin,
and the body is an Add or a Delete. -/
structure AdminAuthorized (L : Libs σ) (st : ServerState σ) (req : AdminRequest) : Prop where
  paired : isPaired L.json st.store = true
  session : ∃ s, st.getSession req.addr = .ok s ∧ s.pairing.permission = permissionAdmin
  method : ∃ d, req.body = .ok d ∧ (d.method = methodAddPairing ∨ d.method = methodDeletePairing)

/-- **Who changes the store, and by what right.** A pairings request that
changes the store passed every check of `AdminAuthorized`. The permission
checked is that of the pairing the session was installed with, and it is the
only one: on a paired accessory, every Add and every Delete on a session bound
to a pairing with permission Admin is handled as an Add or a Delete, whatever
the store holds now for that controller. -/
theorem pairingsHandler_authorized (st : ServerState σ) (req : AdminRequest) :
    ((pairingsHandler L st req).2.store ≠ st.store → AdminAuthorized L st req) ∧
    (isPaired L.json st.store = true → ∀ s d, st.getSession req.addr = .ok s →
      s.pairing.permission = permissionAdmin → req.body = .ok d →
      (d.method = methodAddPairing → pairingsHandler L st req = addPairing L st d) ∧
      (d.method = methodDeletePairing → pairingsHandler L st req = deletePairing L st d)) := by
  refine ⟨fun h => ?_, fun hp s d hs hadmin hd => ?_⟩
  · rcases pairingsHandler_cases (L := L) st req with h0 | ⟨s, d, hp, hs, ha, hd, hm⟩
    · exact absurd (congrArg ServerState.store h0) h
    · exact ⟨hp, ⟨s, hs, ha⟩, d, hd, hm.imp And.left And.left⟩
  · obtain ⟨addr, body⟩ := req
    obtain ⟨m, id, pk, perm, state⟩ := d
    subst hd
    exact ⟨fun hm => by subst hm; exact pairingsHandler_add hp hs hadmin,
      fun hm => by subst hm; exact pairingsHandler_delete hp hs hadmin⟩

/-- The admin `c` adds the fresh name `n`: the store changes, the request is
authorized, and it is handled as an Add. -/
theorem pairingsHandler_authorized_toy :
    let c : Pairing := ⟨[0x63], [3], permissionAdmin⟩
    let s : Session := ⟨c, Key.zero, Key.zero, 0, 0⟩
    let st : ServerState Unit :=
      ⟨(∅ : AList fun _ : String => SessionValue Unit).insert "c" (.established s), ∅,
        (Storer.savePairing Json.tagged ⟨[], ∅, by decide⟩ c).2⟩
    let d : AdminPayload := ⟨methodAddPairing, [0x6E], [1], permissionUser, step1⟩
    let req : AdminRequest := ⟨"c", .ok d⟩
    ((pairingsHandler Libs.toy st req).2.store ≠ st.store ∧ AdminAuthorized Libs.toy st req) ∧
      (isPaired Libs.toy.json st.store = true ∧ st.getSession req.addr = .ok s ∧
        s.pairing.permission = permissionAdmin ∧ req.body = .ok d ∧ d.method = methodAddPairing) ∧
      pairingsHandler Libs.toy st req = addPairing Libs.toy st d := by
  intro c s st d req
  have hc : Storer.pairing Libs.toy.json st.store [0x63] = .ok c :=
    Storer.pairing_savePairing_self Json.tagged_lawful _ (by decide) (by decide) (by decide)
  have hnew : st.store.files.lookup (keyForPairingName [0x6E]) = none := by
    rw [Storer.lookup_savePairing, if_neg (by decide)]
    rfl
  have H := pairingsHandler_authorized (L := Libs.toy) st req
  have hadd : pairingsHandler Libs.toy st req = addPairing Libs.toy st d :=
    ((H.2 (isPaired_of_pairing hc) s d rfl rfl rfl).1 rfl)
  have hchange : (pairingsHandler Libs.toy st req).2.store ≠ st.store := by
    rw [hadd, addPairing_of_error (Storer.pairing_of_lookup_none hnew)]
    exact Storer.savePairing_ne hnew (by decide)
  exact ⟨⟨hchange, H.1 hchange⟩, ⟨isPaired_of_pairing hc, rfl, rfl, rfl, rfl⟩, hadd⟩

/-- A controller that pair-verifies with its stored admin pairing `x` can set
its own permission: the Add of its own key saves `x` with the new permission,
and its session keeps the copy of `x` it was installed with. -/
theorem verify_then_set_permission (hH : L.hkdf.Total) {st : ServerState σ} (req : VerifyRequest)
    {x : Pairing} (hx : Storer.pairing L.json st.store req.identifier = .ok x)
    (hv : L.ed25519.validateSignature x.publicKey req.material req.signature = true)
    (hadmin : x.permission = permissionAdmin) (perm state : UInt8) :
    ∃ s : Session, s.pairing = x ∧
      serverStep L srv st (.verify req) = st.setSession req.addr (.established s) ∧
      serverStep L srv (serverStep L srv st (.verify req))
          (.admin ⟨req.addr, .ok ⟨methodAddPairing, req.identifier, x.publicKey, perm, state⟩⟩) =
        { st.setSession req.addr (.established s) with
          store := (Storer.savePairing L.json st.store { x with permission := perm }).2 } := by
  obtain ⟨s, e1, hsx⟩ := pairVerify_of_pairing hH req hx hv
  let st1 := st.setSession req.addr (.established s)
  have hs : st1.getSession req.addr = .ok s := by
    simp [st1, ServerState.getSession, ServerState.lookup_setSession]
  have hx1 : Storer.pairing L.json st1.store req.identifier = .ok x := hx
  refine ⟨s, hsx, e1, ?_⟩
  rw [show serverStep L srv st (.verify req) = st1 from e1]
  exact (serverStep_add srv (isPaired_of_pairing hx1) hs (hsx ▸ hadmin) _ _ perm state).trans
    (addPairing_of_ok hx1)

/-- A controller `x` demoted after its pair-verify adds a pairing. `x` verifies
on `"x"` (the signature of the transparent library is the key followed by the
material), sets its own permission to User, then adds `y`. Before that last
request the session at `"x"` is `x`'s and the store holds `x` as a User; the
request still changes the store. -/
theorem demoted_controller_adds_pairing :
    let x : Pairing := ⟨[0x78], [1], permissionAdmin⟩
    let srv : Server := ⟨[], [], [], []⟩
    let st0 : ServerState Unit := ⟨∅, ∅, (Storer.savePairing Json.tagged ⟨[], ∅, by decide⟩ x).2⟩
    let st1 := serverStep Libs.toy srv st0 (.verify ⟨"x", [0x78], [], [1], []⟩)
    let st2 := serverStep Libs.toy srv st1
      (.admin ⟨"x", .ok ⟨methodAddPairing, [0x78], [1], permissionUser, step1⟩⟩)
    let st3 := serverStep Libs.toy srv st2
      (.admin ⟨"x", .ok ⟨methodAddPairing, [0x79], [2], permissionAdmin, step1⟩⟩)
    (∃ s, st2.getSession "x" = .ok s ∧ s.pairing.name = [0x78]) ∧
      Storer.pairing Libs.toy.json st2.store [0x78] = .ok ⟨[0x78], [1], permissionUser⟩ ∧
      st3.store ≠ st2.store := by
  intro x srv st0 st1 st2 st3
  have hx : Storer.pairing Libs.toy.json st0.store [0x78] = .ok x :=
    Storer.pairing_savePairing_self Json.tagged_lawful _ (by decide) (by decide) (by decide)
  -- `x` pair-verifies, then sets its own permission to User
  obtain ⟨s, hsx, -, e2⟩ := verify_then_set_permission srv (L := Libs.toy) Hkdf.zero_total
    ⟨"x", [0x78], [], [1], []⟩ hx rfl rfl permissionUser step1
  have hs : st2.getSession "x" = .ok s := by
    rw [show st2 = _ from e2]
    simp [ServerState.getSession, ServerState.lookup_setSession]
  have r2 : Storer.pairing Libs.toy.json st2.store [0x78] = .ok ⟨[0x78], [1], permissionUser⟩ := by
    rw [show st2 = _ from e2]
    exact Storer.pairing_savePairing_self Json.tagged_lawful _ (by decide) (by decide) (by decide)
  -- its session still passes the admin check, and `y` is new
  have hy : st2.store.files.lookup (keyForPairingName [0x79]) = none := by
    rw [show st2 = _ from e2]
    simp only [st0, x]
    decide
  have e3 : st3 = { st2 with store := (Storer.savePairing Libs.toy.json st2.store ⟨[0x79], [2], permissionAdmin⟩).2 } :=
    (serverStep_add srv (isPaired_of_pairing r2) hs (by rw [hsx]) _ _ _ _).trans
      (addPairing_of_error (Storer.pairing_of_lookup_none hy))
  exact ⟨⟨s, hs, by rw [hsx]⟩, r2, by
    rw [e3]; exact Storer.savePairing_ne hy (by rw [show st2 = _ from e2]; simp [nameTooLong_keyForPairingName])⟩

/-! ## Which connections are closed -/

/-- **Which connections a request closes.** A Delete of `d` answered
`{State: 2}` found a stored pairing `p` and removed its file; it then closes
every registered connection if no admin is left, and otherwise exactly the
registered connections whose session belongs to `p`'s controller, and leaves
every other connection as it was. Every other request, an Add answered
`{State: 2}` included, leaves every connection as it was. -/
theorem pairingsHandler_closes_conns (st : ServerState σ) (req : AdminRequest) :
    let r := pairingsHandler L st req
    (∀ d, req.body = .ok d → d.method = methodDeletePairing → r.1 = .state2 →
      ∃ p, Storer.pairing L.json st.store d.identifier = .ok p ∧
        (Storer.deletePairing st.store p.name).1 = .ok () ∧
        r.2.store = (Storer.deletePairing st.store p.name).2 ∧
        ∀ a, r.2.conns.lookup a =
          if (st.conns.lookup a).isSome ∧ (!pairedWithAdmin L.json r.2.store || st.sessionOf p.name a)
          then some ⟨true⟩ else st.conns.lookup a) ∧
    ((∀ d, req.body = .ok d → d.method = methodDeletePairing → r.1 ≠ .state2) → r.2.conns = st.conns) := by
  intro r
  refine ⟨fun d hd hdel hr => ?_, fun hnot => ?_⟩
  · -- a Delete answered `{State: 2}` went through `deletePairing`
    obtain ⟨s, d', -, -, -, hd', hm⟩ := pairingsHandler_of_state2 hr
    obtain rfl : d' = d := Except.ok.inj (hd'.symm.trans hd)
    have hh : r = deletePairing L st d' := by
      rcases hm with ⟨hadd, -⟩ | ⟨-, hh⟩
      · exact absurd (hadd.symm.trans hdel) (by decide)
      · exact hh
    rw [hh] at hr ⊢
    obtain ⟨p, hp, hok, h1⟩ := deletePairing_of_state2 hr
    refine ⟨p, hp, hok, by rw [h1, closeConns_store], fun a => ?_⟩
    rw [h1, lookup_closeConns, closeConns_store]
  · rcases pairingsHandler_cases (L := L) st req with h0 | ⟨s, d, -, -, -, hd, ⟨-, hm⟩ | ⟨hdel, hm⟩⟩
    · simp only [r, h0]
    · simp only [r, hm, addPairing_conns]
    · -- a Delete not answered `{State: 2}` changes nothing
      rw [show r.2 = st from pairingsHandler_refused st req (hnot d hd hdel)]

/-- The last admin `x` demotes itself on its own connection: afterwards no
stored pairing is an admin, and the connection is still open. -/
theorem demoted_last_admin_keeps_conns :
    let x : Pairing := ⟨[0x78], [1], permissionAdmin⟩
    let srv : Server := ⟨[], [], [], []⟩
    let st0 : ServerState Unit := ⟨∅, ∅, (Storer.savePairing Json.tagged ⟨[], ∅, by decide⟩ x).2⟩
    let st1 := serverStep Libs.toy srv st0 (.connect "x")
    let st2 := serverStep Libs.toy srv st1 (.verify ⟨"x", [0x78], [], [1], []⟩)
    let st3 := serverStep Libs.toy srv st2
      (.admin ⟨"x", .ok ⟨methodAddPairing, [0x78], [1], permissionUser, step1⟩⟩)
    st2.conns.lookup "x" = some ⟨false⟩ ∧ pairedWithAdmin Libs.toy.json st3.store = false ∧
      st3.conns.lookup "x" = some ⟨false⟩ := by
  intro x srv st0 st1 st2 st3
  have hx : Storer.pairing Libs.toy.json st1.store [0x78] = .ok x :=
    Storer.pairing_savePairing_self Json.tagged_lawful _ (by decide) (by decide) (by decide)
  -- `x` pair-verifies, then sets its own permission to User: only the store changes
  obtain ⟨s, -, e2, e3⟩ := verify_then_set_permission srv (L := Libs.toy) Hkdf.zero_total
    ⟨"x", [0x78], [], [1], []⟩ hx rfl rfl permissionUser step1
  have hconn : (st1.setSession "x" (.established s)).conns.lookup "x" = some ⟨false⟩ := by
    simp only [ServerState.setSession_conns, st1, serverStep, ServerState.setConn, AList.lookup_insert]
  let store3 := (Storer.savePairing Libs.toy.json st1.store ⟨[0x78], [1], permissionUser⟩).2
  have hstore3 : st3.store = store3 := by rw [show st3 = _ from e3]
  -- the only file left is `x`'s, which reads back as a User
  have hread : Storer.pairing Libs.toy.json store3 [0x78] = .ok ⟨[0x78], [1], permissionUser⟩ :=
    Storer.pairing_savePairing_self Json.tagged_lawful _ (by decide) (by decide) (by decide)
  have honly : ∀ k, (store3.files.lookup k).isSome → k = keyForPairingName [0x78] := by
    intro k hk
    by_contra hne
    simp [store3, st1, st0, serverStep, ServerState.setConn, Storer.savePairing, FsStore.lookup_set, hne] at hk
  refine ⟨by rw [show st2 = _ from e2]; exact hconn, List.any_eq_false.2 fun q hq => ?_,
    by rw [show st3 = _ from e3]; exact hconn⟩
  rw [hstore3] at hq
  obtain ⟨k, hk, hq⟩ := Storer.exists_of_mem_pairings hq
  rw [honly k hk, ← Storer.pairing, hread] at hq
  cases hq
  decide

end Hap
