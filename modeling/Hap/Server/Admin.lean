import Hap.Server.PairSetup

/-!
# Pairing administration and the server's events

`Server.Pairings` (`pairings.go`) adds, deletes and lists pairings for a
verified controller; after a deletion it closes connections. With pair-setup,
pair-verify, new connections and closed connections it makes up the events
that change the accessory's pairings and registry (`ServerEvent`,
`serverStep`).

* `pairingsHandler` is `Server.Pairings`, branch by branch;
* `closeConns` is the loop of `conn.Close()` calls over a snapshot of
  `Conns()`; `lookup_closeConns` says which connections it closes;
* `pairVerify` is modelled from the spec: pair-verify installs a `Session`
  bound to the controller's stored pairing;
* `pairingsHandler_refused`: a request not answered `{State: 2}` changes
  nothing, a failed save of an Add included (`addPairingSave_snd`).
-/

namespace Hap

/-! ## Requests and replies -/

/-- The decoded body of a pairings request. -/
structure AdminPayload where
  method : UInt8
  identifier : Bytes
  publicKey : Bytes
  permission : UInt8
  state : UInt8
  deriving DecidableEq, Repr

/-- A pairings request: the remote address and the decoded body. -/
structure AdminRequest where
  addr : String
  body : Except String AdminPayload

/-- What `Server.Pairings` answers: `jsonError`, `tlv8Error` (after the status
`res.WriteHeader` set, if any), `{State: 2}`, the list of pairings, or nothing
for a method it does not know. -/
inductive AdminReply where
  | jsonError (status : Int)
  | tlvError (status : Option Nat) (state code : UInt8)
  | state2
  | list (ps : List Pairing)
  | empty
  deriving DecidableEq, Repr

/-- `JsonStatusInsufficientPrivileges`. Modelled from the spec (§6). -/
def jsonStatusInsufficientPrivileges : Int := -70401

/-! ## The handler -/

variable {σ : Type} (L : Libs σ)

/-- `srv.pairedWithAdmin()`. Modelled from the spec: some stored pairing has
permission Admin. -/
def pairedWithAdmin (J : Json) (st : FsStore) : Bool :=
  (Storer.pairings J st).any (·.permission == permissionAdmin)

/-- The `conn.Close()` loop over a snapshot of `Conns()`: close each connection
whose address passes `close`. -/
def closeConns (st : ServerState σ) (close : String → Bool) : ServerState σ :=
  { st with conns := st.conns.keys.foldl (fun cs a => if close a then cs.insert a ⟨true⟩ else cs) st.conns }

/-- The addresses whose session belongs to the controller named `name`
(`GetSession(addr)` succeeds and `ss.Pairing.Name == name`). -/
def ServerState.sessionOf (st : ServerState σ) (name : Bytes) (addr : String) : Bool :=
  match st.getSession addr with
  | .ok ss => ss.pairing.name == name
  | .error _ => false

/-- The end of `MethodAddPairing`: `err = srv.savePairing(p)`, answered with
TlvErrorUnknown when it fails and with State 2 otherwise. -/
def addPairingSave (st : ServerState σ) (p : Pairing) : AdminReply × ServerState σ :=
  match Storer.savePairing L.json st.store p with
  | (.error _, _) => (.tlvError none step2 tlvErrorUnknown, st)
  | (.ok (), store) => (.state2, { st with store := store })

/-- `MethodAddPairing`, after the admin check: a new pairing, or the stored one
with the new permission if the keys agree, then saved. The keys are compared
as byte lists; `reflect.DeepEqual` also tells a nil slice from an empty one,
which only an empty key can meet. -/
def addPairing (st : ServerState σ) (d : AdminPayload) : AdminReply × ServerState σ :=
  match Storer.pairing L.json st.store d.identifier with
  | .error _ => addPairingSave L st ⟨d.identifier, d.publicKey, d.permission⟩
  | .ok p =>
    if p.publicKey ≠ d.publicKey then (.tlvError none step2 tlvErrorUnknown, st)
    else addPairingSave L st { p with permission := d.permission }

/-- `MethodDeletePairing`, after the admin check: delete the stored pairing,
then close every connection if no admin is left, or else those of its
controller. -/
def deletePairing (st : ServerState σ) (d : AdminPayload) : AdminReply × ServerState σ :=
  match Storer.pairing L.json st.store d.identifier with
  | .error _ => (.tlvError none step2 tlvErrorUnknown, st)
  | .ok p =>
    match Storer.deletePairing st.store p.name with
    | (.error _, _) => (.tlvError none step2 tlvErrorUnknown, st)
    | (.ok (), store) =>
      let st := { st with store := store }
      if !pairedWithAdmin L.json store then (.state2, closeConns st fun _ => true)
      else (.state2, closeConns st (st.sessionOf p.name))

/-- `Server.Pairings`. Add and delete check the permission of the pairing the
session was installed with, `ss.Pairing`. -/
def pairingsHandler (st : ServerState σ) (req : AdminRequest) : AdminReply × ServerState σ :=
  if !isPaired L.json st.store then (.jsonError jsonStatusInsufficientPrivileges, st) else
  match st.getSession req.addr with
  | .error _ => (.tlvError (some 500) step2 tlvErrorUnknown, st)
  | .ok ss =>
    match req.body with
    | .error _ => (.tlvError (some 400) step2 tlvErrorUnknown, st)
    | .ok d =>
      if d.method = methodAddPairing then
        if ss.pairing.permission ≠ permissionAdmin then (.tlvError none step2 tlvErrorAuthentication, st)
        else addPairing L st d
      else if d.method = methodDeletePairing then
        if ss.pairing.permission ≠ permissionAdmin then (.tlvError none step2 tlvErrorAuthentication, st)
        else deletePairing L st d
      else if d.method = methodListPairings then (.list (Storer.pairings L.json st.store), st)
      else (.empty, st)

/-! ## Pair-verify and the other events -/

/-- A pair-verify exchange as far as the registry sees it: the controller's
identifier, its signature and the material it signs, and the shared secret. -/
structure VerifyRequest where
  addr : String
  identifier : Bytes
  material : Bytes
  signature : Bytes
  shared : Bytes

/-- Pair-verify's last round. Modelled from the spec (§4.2): look up the
controller's pairing, check its signature against the stored key, and install
a `Session` bound to that pairing with fresh keys; on failure no session. -/
def pairVerify (st : ServerState σ) (req : VerifyRequest) : ServerState σ :=
  match Storer.pairing L.json st.store req.identifier with
  | .error _ => st
  | .ok p =>
    if !L.ed25519.validateSignature p.publicKey req.material req.signature then st
    else
      match newSession L.hkdf req.shared p with
      | (some s, none) => st.setSession req.addr (.established s)
      | _ => st

/-- What can happen to the accessory's pairings and registry. -/
inductive ServerEvent where
  | connect (addr : String)
  | setup (req : SetupRequest)
  | verify (req : VerifyRequest)
  | admin (req : AdminRequest)
  | closed (addr : String)

/-- One event. -/
def serverStep (srv : Server) (st : ServerState σ) : ServerEvent → ServerState σ
  | .connect addr => st.setConn addr ⟨false⟩
  | .setup req => (pairSetup L srv st req).2
  | .verify req => pairVerify L st req
  | .admin req => (pairingsHandler L st req).2
  | .closed addr => st.connStateEvent addr

/-- The states of a run, the first one included. -/
def serverTrace (srv : Server) (st : ServerState σ) : List ServerEvent → List (ServerState σ)
  | [] => [st]
  | e :: es => st :: serverTrace srv (serverStep L srv st e) es

/-! ## Closing connections -/

theorem lookup_foldl_close (close : String → Bool) (a : String) :
    ∀ (ks : List String) (cs : AList fun _ : String => Conn),
      (ks.foldl (fun cs a => if close a then cs.insert a ⟨true⟩ else cs) cs).lookup a =
        if a ∈ ks ∧ close a then some ⟨true⟩ else cs.lookup a
  | [], cs => by simp
  | k :: ks, cs => by
    rw [List.foldl_cons, lookup_foldl_close close a ks]
    by_cases hk : a = k
    · subst hk; by_cases hc : close a <;> simp [hc, AList.lookup_insert]
    · split_ifs <;> simp_all [AList.lookup_insert_ne]

/-- A connection is closed by the loop exactly when it is registered and
passes the test; the others are left as they were. -/
theorem lookup_closeConns (st : ServerState σ) (close : String → Bool) (a : String) :
    (closeConns st close).conns.lookup a =
      if (st.conns.lookup a).isSome ∧ close a then some ⟨true⟩ else st.conns.lookup a := by
  rw [closeConns, lookup_foldl_close]
  simp only [AList.lookup_isSome, AList.mem_keys]

@[simp] theorem closeConns_store (st : ServerState σ) (close : String → Bool) :
    (closeConns st close).store = st.store := rfl

@[simp] theorem closeConns_sessions (st : ServerState σ) (close : String → Bool) :
    (closeConns st close).sessions = st.sessions := rfl

/-! ## What a request can do -/

variable {L}

/-- **What a pairings request can do.** It leaves the state as it was, or it
passed every check (paired, a session whose pairing is admin, a body that
decodes) and is an Add or a Delete. -/
theorem pairingsHandler_cases (st : ServerState σ) (req : AdminRequest) :
    (pairingsHandler L st req).2 = st ∨
    ∃ s d, isPaired L.json st.store = true ∧ st.getSession req.addr = .ok s ∧
      s.pairing.permission = permissionAdmin ∧ req.body = .ok d ∧
      (d.method = methodAddPairing ∧ pairingsHandler L st req = addPairing L st d ∨
        d.method = methodDeletePairing ∧ pairingsHandler L st req = deletePairing L st d) := by
  unfold pairingsHandler
  split
  · exact .inl rfl
  · rename_i hp
    split
    · exact .inl rfl
    · rename_i s hs
      split
      · exact .inl rfl
      · rename_i d hd
        split_ifs with hadd ha hdel hd' <;> try exact .inl rfl
        -- the two requests past the admin check
        · exact .inr ⟨s, d, by simpa using hp, hs, not_not.1 ha, hd, .inl ⟨hadd, rfl⟩⟩
        · exact .inr ⟨s, d, by simpa using hp, hs, not_not.1 hd', hd, .inr ⟨hdel, rfl⟩⟩

/-- Only an Add or a Delete past every check is answered `{State: 2}`. -/
theorem pairingsHandler_of_state2 {st : ServerState σ} {req : AdminRequest}
    (h : (pairingsHandler L st req).1 = .state2) :
    ∃ s d, isPaired L.json st.store = true ∧ st.getSession req.addr = .ok s ∧
      s.pairing.permission = permissionAdmin ∧ req.body = .ok d ∧
      (d.method = methodAddPairing ∧ pairingsHandler L st req = addPairing L st d ∨
        d.method = methodDeletePairing ∧ pairingsHandler L st req = deletePairing L st d) := by
  revert h
  unfold pairingsHandler
  split
  · simp
  · rename_i hp
    split
    · simp
    · rename_i s hs
      split
      · simp
      · rename_i d hd
        split_ifs with hadd ha hdel hd' <;> intro h <;> try simp at h
        · exact ⟨s, d, by simpa using hp, hs, not_not.1 ha, hd, .inl ⟨hadd, rfl⟩⟩
        · exact ⟨s, d, by simpa using hp, hs, not_not.1 hd', hd, .inr ⟨hdel, rfl⟩⟩

/-- An Add past the admin check. -/
theorem pairingsHandler_add {st : ServerState σ} {addr : String} {s : Session}
    {id pk : Bytes} {perm state : UInt8}
    (hp : isPaired L.json st.store = true) (hs : st.getSession addr = .ok s)
    (hadmin : s.pairing.permission = permissionAdmin) :
    pairingsHandler L st ⟨addr, .ok ⟨methodAddPairing, id, pk, perm, state⟩⟩ =
      addPairing L st ⟨methodAddPairing, id, pk, perm, state⟩ := by
  simp [pairingsHandler, hp, hs, hadmin]

/-- A Delete past the admin check. -/
theorem pairingsHandler_delete {st : ServerState σ} {addr : String} {s : Session}
    {id pk : Bytes} {perm state : UInt8}
    (hp : isPaired L.json st.store = true) (hs : st.getSession addr = .ok s)
    (hadmin : s.pairing.permission = permissionAdmin) :
    pairingsHandler L st ⟨addr, .ok ⟨methodDeletePairing, id, pk, perm, state⟩⟩ =
      deletePairing L st ⟨methodDeletePairing, id, pk, perm, state⟩ := by
  simp [pairingsHandler, hp, hs, hadmin, show methodDeletePairing ≠ methodAddPairing by decide]

/-- An Add event past the admin check. -/
theorem serverStep_add (srv : Server) {st : ServerState σ} (hp : isPaired L.json st.store = true)
    {addr : String} {s : Session} (hs : st.getSession addr = .ok s)
    (hadmin : s.pairing.permission = permissionAdmin) (id pk : Bytes) (perm state : UInt8) :
    serverStep L srv st (.admin ⟨addr, .ok ⟨methodAddPairing, id, pk, perm, state⟩⟩) =
      (addPairing L st ⟨methodAddPairing, id, pk, perm, state⟩).2 :=
  congrArg Prod.snd (pairingsHandler_add hp hs hadmin)

/-- A failed save leaves the state as it was, so the state after the save is
always the one with `SavePairing`'s store. -/
theorem addPairingSave_snd (st : ServerState σ) (p : Pairing) :
    (addPairingSave L st p).2 = { st with store := (Storer.savePairing L.json st.store p).2 } := by
  unfold addPairingSave
  split
  · rename_i h
    rw [h, Storer.savePairing_eq_of_error h]
  · rename_i h
    rw [h]

/-- The save is answered with State 2, or it changes nothing. -/
theorem addPairingSave_state2_or (st : ServerState σ) (p : Pairing) :
    (addPairingSave L st p).1 = .state2 ∨ (addPairingSave L st p).2 = st := by
  unfold addPairingSave
  split
  · exact .inr rfl
  · exact .inl rfl

/-- An Add for a name that does not read back saves a new pairing. -/
theorem addPairing_of_error {st : ServerState σ} {m : UInt8} {id pk : Bytes} {perm state : UInt8}
    {e : StoreError} (h : Storer.pairing L.json st.store id = .error e) :
    (addPairing L st ⟨m, id, pk, perm, state⟩).2 =
      { st with store := (Storer.savePairing L.json st.store ⟨id, pk, perm⟩).2 } := by
  rw [addPairing, h, addPairingSave_snd]

/-- An Add with the stored key saves the pairing with the new permission. -/
theorem addPairing_of_ok {st : ServerState σ} {m : UInt8} {id : Bytes} {perm state : UInt8}
    {p : Pairing} (h : Storer.pairing L.json st.store id = .ok p) :
    (addPairing L st ⟨m, id, p.publicKey, perm, state⟩).2 =
      { st with store := (Storer.savePairing L.json st.store { p with permission := perm }).2 } := by
  simp [addPairing, h, addPairingSave_snd]

@[simp] theorem addPairing_conns (st : ServerState σ) (d : AdminPayload) :
    (addPairing L st d).2.conns = st.conns := by
  unfold addPairing
  split
  · rw [addPairingSave_snd]
  · split_ifs <;> simp only [addPairingSave_snd]

@[simp] theorem addPairing_sessions (st : ServerState σ) (d : AdminPayload) :
    (addPairing L st d).2.sessions = st.sessions := by
  unfold addPairing
  split
  · rw [addPairingSave_snd]
  · split_ifs <;> simp only [addPairingSave_snd]

theorem sessionOf_store (st : ServerState σ) (store : FsStore) :
    ({ st with store := store } : ServerState σ).sessionOf = st.sessionOf := rfl

/-- A Delete changes nothing, or it removed the file of the stored pairing `p`
and closed the registered connections that pass one test: all of them if no
admin is left, else those whose session is `p`'s controller's. -/
theorem deletePairing_cases (st : ServerState σ) (d : AdminPayload) :
    (deletePairing L st d).2 = st ∨
    ∃ p, Storer.pairing L.json st.store d.identifier = .ok p ∧
      (Storer.deletePairing st.store p.name).1 = .ok () ∧
      (deletePairing L st d).2 = closeConns { st with store := (Storer.deletePairing st.store p.name).2 }
        fun a => !pairedWithAdmin L.json (Storer.deletePairing st.store p.name).2 || st.sessionOf p.name a := by
  unfold deletePairing
  split
  · exact .inl rfl
  · rename_i p hp
    split
    · exact .inl rfl
    · rename_i store hdel
      refine .inr ⟨p, hp, by rw [hdel], ?_⟩
      rw [hdel]
      by_cases ha : pairedWithAdmin L.json store <;> simp [ha, sessionOf_store]

/-- A Delete answered `{State: 2}` removed the file of the stored pairing `p`
and closed the connections that pass `deletePairing_cases`'s test. -/
theorem deletePairing_of_state2 {st : ServerState σ} {d : AdminPayload} (h : (deletePairing L st d).1 = .state2) :
    ∃ p, Storer.pairing L.json st.store d.identifier = .ok p ∧
      (Storer.deletePairing st.store p.name).1 = .ok () ∧
      (deletePairing L st d).2 = closeConns { st with store := (Storer.deletePairing st.store p.name).2 }
        fun a => !pairedWithAdmin L.json (Storer.deletePairing st.store p.name).2 || st.sessionOf p.name a := by
  revert h
  unfold deletePairing
  split
  · simp
  · rename_i p hp
    split
    · simp
    · rename_i store hdel
      intro _
      refine ⟨p, hp, by rw [hdel], ?_⟩
      rw [hdel]
      by_cases ha : pairedWithAdmin L.json store <;> simp [ha, sessionOf_store]

@[simp] theorem pairVerify_store (st : ServerState σ) (req : VerifyRequest) :
    (pairVerify L st req).store = st.store := by
  unfold pairVerify
  repeat' split
  all_goals rfl

@[simp] theorem pairVerify_conns (st : ServerState σ) (req : VerifyRequest) :
    (pairVerify L st req).conns = st.conns := by
  unfold pairVerify
  repeat' split
  all_goals rfl

/-- Pair-verify with a stored pairing and a valid signature installs a
session bound to that pairing. -/
theorem pairVerify_of_pairing (hH : L.hkdf.Total) {st : ServerState σ} (req : VerifyRequest)
    {p : Pairing} (hp : Storer.pairing L.json st.store req.identifier = .ok p)
    (hv : L.ed25519.validateSignature p.publicKey req.material req.signature = true) :
    ∃ s : Session, pairVerify L st req = st.setSession req.addr (.established s) ∧ s.pairing = p := by
  obtain ⟨s, hs, hsp⟩ := newSession_of_total hH req.shared p
  exact ⟨s, by simp [pairVerify, hp, hv, hs], hsp⟩

/-! ## Refused requests -/

/-- An Add is answered `{State: 2}`, or changes nothing. -/
theorem addPairing_state2_or (st : ServerState σ) (d : AdminPayload) :
    (addPairing L st d).1 = .state2 ∨ (addPairing L st d).2 = st := by
  unfold addPairing
  split
  · exact addPairingSave_state2_or st _
  · split_ifs
    · exact .inr rfl
    · exact addPairingSave_state2_or st _

/-- A Delete is answered `{State: 2}`, or changes nothing. -/
theorem deletePairing_state2_or (st : ServerState σ) (d : AdminPayload) :
    (deletePairing L st d).1 = .state2 ∨ (deletePairing L st d).2 = st := by
  suffices ∀ r, r = deletePairing L st d → r.1 = .state2 ∨ r.2 = st from this _ rfl
  intro r hr
  unfold deletePairing at hr
  split at hr
  · exact .inr (by rw [hr])
  · split at hr
    · exact .inr (by rw [hr])
    · split_ifs at hr <;> exact .inl (by rw [hr])

/-- **A refused pairings request changes nothing.** Every pairings request
not answered `{State: 2}` (an error, the list of pairings, or nothing) leaves
the store, the session registry and the connections as they were. -/
theorem pairingsHandler_refused (st : ServerState σ) (req : AdminRequest)
    (h : (pairingsHandler L st req).1 ≠ .state2) : (pairingsHandler L st req).2 = st := by
  rcases pairingsHandler_cases st req with h' | ⟨-, d, -, -, -, -, ⟨-, hreq⟩ | ⟨-, hreq⟩⟩
  · exact h'
  · rw [hreq] at h ⊢
    exact (addPairing_state2_or st d).resolve_left h
  · rw [hreq] at h ⊢
    exact (deletePairing_state2_or st d).resolve_left h

end Hap
