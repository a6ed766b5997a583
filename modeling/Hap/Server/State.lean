import Hap.Store.FsStore
import Hap.Session.Transport

/-!
# The server's shared state: registry, store and libraries

`session.go` keeps two process-wide maps behind one mutex, `sessions` (remote
address to `interface{}`: a pair-setup session, a pair-verify session or an
established `Session`) and `conns` (remote address to `*Conn`). Together with
the pairing store they are all the state the pairing handlers share.

* `SessionValue` is the interface value; a `*PairSetupSession` may be nil;
* `ServerState` holds the two maps and the store, and each registry function
  (`setSession`, `getSession`, `getPairSetupSession`, `connStateEvent`,
  `setConn`) is a function on it, with its lemma on what it changes;
* `Libs` bundles the libraries the handlers call and `Server` the
  accessory's configuration.
-/

namespace Hap

/-! ## Sessions and connections -/

/-- `PairSetupSession`, over the SRP server session's state `σ`. -/
structure PairSetupSession (σ : Type) where
  identifier : Bytes
  salt : Bytes
  publicKey : Bytes
  privateKey : Bytes
  encryptionKey : Key
  session : σ

/-- A value of the `sessions` map: a `*PairSetupSession` (nil when `setSession`
stored a nil pointer), a `*PairVerifySession` (whose fields no modelled code
reads) or an established `*Session`. -/
inductive SessionValue (σ : Type) where
  | setup (ss : Option (PairSetupSession σ))
  | verify
  | established (s : Session)

/-- `%T` of a session value, as the registry's errors print it. -/
def SessionValue.typeName {σ : Type} : SessionValue σ → String
  | .setup _ => "*hap.PairSetupSession"
  | .verify => "*hap.PairVerifySession"
  | .established _ => "*hap.Session"

/-- A `*Conn`: whether `Close` has been called on it. -/
structure Conn where
  closed : Bool
  deriving DecidableEq, Repr

/-- The registry's two maps and the pairing store. -/
structure ServerState (σ : Type) where
  sessions : AList fun _ : String => SessionValue σ
  conns : AList fun _ : String => Conn
  store : FsStore

namespace ServerState

variable {σ : Type} (st : ServerState σ)

/-- `SetSession` (and `setSession`). -/
def setSession (addr : String) (v : SessionValue σ) : ServerState σ :=
  { st with sessions := st.sessions.insert addr v }

/-- `GetSession`. -/
def getSession (addr : String) : Except String Session :=
  match st.sessions.lookup addr with
  | some (.established s) => .ok s
  | some v => .error ("unexpected session " ++ v.typeName)
  | none => .error ("no session for " ++ addr)

/-- `GetPairSetupSession` (and `getPairSetupSession`): the pointer, nil if a
nil pointer was stored. -/
def getPairSetupSession (addr : String) : Except String (Option (PairSetupSession σ)) :=
  match st.sessions.lookup addr with
  | some (.setup ss) => .ok ss
  | some v => .error ("unexpected session " ++ v.typeName)
  | none => .error ("no session for " ++ addr)

/-- `Sessions()`: the addresses of a snapshot of the map. -/
def sessionAddrs : List String := st.sessions.keys

/-- `SetConn`. -/
def setConn (addr : String) (conn : Conn) : ServerState σ :=
  { st with conns := st.conns.insert addr conn }

/-- `ConnStateEvent(conn, http.StateClosed)`: both entries of the address go. -/
def connStateEvent (addr : String) : ServerState σ :=
  { st with sessions := st.sessions.erase addr, conns := st.conns.erase addr }

@[simp] theorem setSession_store (addr : String) (v : SessionValue σ) :
    (st.setSession addr v).store = st.store := rfl

@[simp] theorem setSession_conns (addr : String) (v : SessionValue σ) :
    (st.setSession addr v).conns = st.conns := rfl

theorem lookup_setSession (addr a : String) (v : SessionValue σ) :
    (st.setSession addr v).sessions.lookup a = if a = addr then some v else st.sessions.lookup a := by
  split
  · subst a; exact AList.lookup_insert _
  · exact AList.lookup_insert_ne ‹_›

@[simp] theorem connStateEvent_store (addr : String) : (st.connStateEvent addr).store = st.store := rfl

theorem lookup_connStateEvent (addr a : String) :
    (st.connStateEvent addr).sessions.lookup a = if a = addr then none else st.sessions.lookup a := by
  split
  · subst a; exact AList.lookup_erase _ _
  · exact AList.lookup_erase_ne ‹_›

end ServerState

/-! ## Libraries and configuration -/

/-- The payload of Step 5's encrypted data and of Step 6's (`encData` and
`pairSetupStep6EncryptedPayload`: the same TLV8 types 1, 3 and 10). -/
structure SubTlv where
  identifier : Bytes
  publicKey : Bytes
  signature : Bytes
  deriving DecidableEq, Repr

/-- `tlv8.Unmarshal` and `tlv8.Marshal` on `SubTlv`. `Marshal` cannot fail on a
struct of byte slices, so it is total. -/
structure Tlv8 where
  unmarshalSubTlv : Bytes → Except String SubTlv
  marshalSubTlv : SubTlv → Bytes

/-- A marshalled payload unmarshals to itself. -/
def Tlv8.Lawful (T : Tlv8) : Prop := ∀ x, T.unmarshalSubTlv (T.marshalSubTlv x) = .ok x

/-- A lawful instance for witnesses: the three fields tagged byte by byte. -/
def Tlv8.tagged : Tlv8 where
  unmarshalSubTlv b :=
    match untagBytes b with
    | some (identifier, r) =>
      match untagBytes r with
      | some (publicKey, r) =>
        match untagBytes r with
        | some (signature, []) => .ok ⟨identifier, publicKey, signature⟩
        | _ => .error "invalid signature"
      | none => .error "invalid public key"
    | none => .error "invalid identifier"
  marshalSubTlv x := tagBytes x.identifier ++ tagBytes x.publicKey ++ tagBytes x.signature

theorem Tlv8.tagged_lawful : Tlv8.tagged.Lawful := fun x => by
  have h := untagBytes_tagBytes x.signature []
  rw [List.append_nil] at h
  simp [Tlv8.tagged, List.append_assoc, h]

/-- The libraries the pairing handlers call, over the SRP session state `σ`. -/
structure Libs (σ : Type) where
  aead : Aead
  ed25519 : Ed25519
  hkdf : Hkdf
  srp : Srp σ
  tlv8 : Tlv8
  json : Json

/-- Each library keeps the law the handlers' correctness needs. -/
structure Libs.Lawful {σ : Type} (L : Libs σ) : Prop where
  aead : L.aead.Correct
  ed25519 : L.ed25519.Correct
  hkdf : L.hkdf.Total
  srp : L.srp.Total
  tlv8 : L.tlv8.Lawful
  json : L.json.Lawful

/-- Lawful libraries for witnesses. -/
def Libs.toy : Libs Unit := ⟨Aead.transparent, Ed25519.transparent, Hkdf.zero, Srp.trivial,
  Tlv8.tagged, Json.tagged⟩

theorem Libs.toy_lawful : Libs.toy.Lawful :=
  ⟨Aead.transparent_ideal.toCorrect, Ed25519.transparent_correct, Hkdf.zero_total,
    Srp.trivial_total, Tlv8.tagged_lawful, Json.tagged_lawful⟩

/-- The accessory's configuration the handlers read: `srv.uuid`, the PIN as
`srv.fmtPin()` formats it, and the long-term key pair `srv.Key`. -/
structure Server where
  uuid : Bytes
  pin : Bytes
  keyPublic : Bytes
  keyPrivate : Bytes

/-- `srv.isPaired()`. Modelled from the spec: pair-setup is refused whenever
at least one pairing exists, i.e. `st.Pairings()` is not empty. -/
def isPaired (J : Json) (st : FsStore) : Bool := !(Storer.pairings J st).isEmpty

/-- A pairing that reads back makes the accessory paired. -/
theorem isPaired_of_pairing {J : Json} {st : FsStore} {m : Bytes} {q : Pairing}
    (h : Storer.pairing J st m = .ok q) : isPaired J st = true := by
  have hq := Storer.mem_pairings_of_pairing h
  unfold isPaired
  cases hps : Storer.pairings J st with
  | nil => rw [hps] at hq; cases hq
  | cons _ _ => rfl

end Hap
