import Hap.Characteristics.Tree
import Hap.Server.Admin

/-!
# `GetCharacteristics`

`GET /characteristics?id=1.4,1.5&meta=1`: the handler splits the `id` form value
at commas, keeps the tokens that split at dots into exactly two parts, and
builds one element per token, with the accumulators `arr` (the elements) and
`err` (some element names no characteristic).

* `getCharacteristicsLoop_eq`: the loop appends one `getEntry` per token of
  `idPairs`, and `err` records whether one of them carries a status;
* `getCharacteristics_entries`: the reply of a paired accessory to a request
  with a non-empty `id`.
-/

namespace Hap

variable {ν : Type}

/-- `strings.Split` with a one-byte separator. -/
def split (s : Bytes) (sep : UInt8) : List Bytes := s.splitOn sep

/-- The form values of a `GET /characteristics` request (`""` when absent),
and `req.RemoteAddr`. -/
structure GetRequest where
  addr : String
  id : Bytes
  meta : Bytes
  perms : Bytes
  type : Bytes
  ev : Bytes
  deriving DecidableEq, Repr

/-- The flags `meta`, `perms`, `type` and `ev`. -/
structure Projection where
  meta : Bool
  perms : Bool
  type : Bool
  ev : Bool
  deriving DecidableEq, Repr

/-- `req.FormValue(..) == "1"` for each flag. -/
def GetRequest.projection (req : GetRequest) : Projection :=
  ⟨req.meta == ascii "1", req.perms == ascii "1", req.type == ascii "1", req.ev == ascii "1"⟩

/-- The element for a characteristic `c` found at `(aid, iid)`: its value from
the read hook and the fields the flags select. `cdata.MinValue = c.MinVal`
under `c.MinVal != nil` leaves the field as `c.MinVal` is. -/
def characteristicData (lib : CharLib ν) (addr : String) (f : Projection) (c : Characteristic ν)
    (aid iid : UInt64) : CharacteristicData ν where
  aid := aid
  iid := iid
  value := some (lib.valueRequest c addr)
  format := if f.meta then some c.format else none
  unit := if f.meta then some c.unit else none
  minValue := if f.meta then c.minVal else none
  maxValue := if f.meta then c.maxVal else none
  minStep := if f.meta then c.stepVal else none
  maxLen := if f.meta && decide (0 < c.maxLen) then some c.maxLen else none
  events := if f.ev then some ((c.events.lookup addr).getD false) else none
  permissions := if f.perms then c.permissions else []
  type := if f.type then some c.type else none

/-- The loop over `strings.Split(v, ",")` with its accumulators `arr` and `err`. -/
def getCharacteristicsLoop (lib : CharLib ν) (t : AccessoryTree) (h : Nat → Characteristic ν)
    (addr : String) (f : Projection) :
    List Bytes → List (CharacteristicData ν) → Bool → List (CharacteristicData ν) × Bool
  | [], arr, err => (arr, err)
  | str :: strs, arr, err =>
    match split str 0x2E with
    | [a, i] =>
      let aid := lib.toUint64 a
      let iid := lib.toUint64 i
      match t.findC h aid iid with
      | none => getCharacteristicsLoop lib t h addr f strs
          (arr ++ [{ aid, iid, status := some jsonStatusServiceCommunicationFailure }]) true
      | some p => getCharacteristicsLoop lib t h addr f strs (arr ++ [characteristicData lib addr f (h p) aid iid]) err
    | _ => getCharacteristicsLoop lib t h addr f strs arr err

/-- `Server.GetCharacteristics`. -/
def getCharacteristics (lib : CharLib ν) (J : Json) (store : FsStore) (t : AccessoryTree)
    (h : Nat → Characteristic ν) (req : GetRequest) : CharReply ν :=
  if !isPaired J store then .jsonError jsonStatusInsufficientPrivileges
  else if req.id.length = 0 then .jsonError jsonStatusInvalidValueInRequest
  else
    let r := getCharacteristicsLoop lib t h req.addr req.projection (split req.id 0x2C) [] false
    if r.2 then .multiStatus r.1 else .ok r.1

/-! ## The elements -/

/-- The `(Aid, Iid)` of a token that splits at dots into exactly two parts. -/
def tokenIds (lib : CharLib ν) (str : Bytes) : Option (UInt64 × UInt64) :=
  match split str 0x2E with
  | [a, i] => some (lib.toUint64 a, lib.toUint64 i)
  | _ => none

/-- The ids of the tokens of `v`, in token order. -/
def idPairs (lib : CharLib ν) (v : Bytes) : List (UInt64 × UInt64) :=
  (split v 0x2C).filterMap (tokenIds lib)

/-- The element for `(aid, iid)`: ServiceCommunicationFailure when `findC`
finds nothing, the characteristic's data otherwise. -/
def getEntry (lib : CharLib ν) (t : AccessoryTree) (h : Nat → Characteristic ν) (addr : String)
    (f : Projection) (aid iid : UInt64) : CharacteristicData ν :=
  match t.findC h aid iid with
  | none => { aid, iid, status := some jsonStatusServiceCommunicationFailure }
  | some p => characteristicData lib addr f (h p) aid iid

section Entries

variable (lib : CharLib ν) (t : AccessoryTree) (h : Nat → Characteristic ν) (addr : String) (f : Projection)

@[simp] theorem getEntry_aid (aid iid : UInt64) : (getEntry lib t h addr f aid iid).aid = aid := by
  unfold getEntry; split <;> rfl

@[simp] theorem getEntry_iid (aid iid : UInt64) : (getEntry lib t h addr f aid iid).iid = iid := by
  unfold getEntry; split <;> rfl

theorem getEntry_status (aid iid : UInt64) :
    (getEntry lib t h addr f aid iid).status =
      if t.findC h aid iid = none then some jsonStatusServiceCommunicationFailure else none := by
  unfold getEntry; split <;> simp_all [characteristicData]

/-- **Run lemma.** The loop appends the elements of the remaining tokens and
sets `err` when one of them carries a status. -/
theorem getCharacteristicsLoop_eq (strs : List Bytes) (arr : List (CharacteristicData ν)) (err : Bool) :
    getCharacteristicsLoop lib t h addr f strs arr err =
      let es := (strs.filterMap (tokenIds lib)).map fun ids => getEntry lib t h addr f ids.1 ids.2
      (arr ++ es, err || es.any fun e => e.status.isSome) := by
  induction strs generalizing arr err with
  | nil => simp [getCharacteristicsLoop]
  | cons str strs ih =>
    simp only [getCharacteristicsLoop, List.filterMap_cons, tokenIds]
    split
    · cases hc : t.findC h (lib.toUint64 _) (lib.toUint64 _) <;>
        simp [ih, hc, getEntry, characteristicData]
    · simp [ih]

end Entries

/-- **The reply.** An accessory with no pairing answers with the error
InsufficientPrivileges, and an empty `id` with the error InvalidValueInRequest.
Otherwise the reply holds one element per token of `id` that splits into two
dot-separated parts, in token order, with the ids parsed from them. An element
carries the status ServiceCommunicationFailure exactly when `findC` finds
nothing, and otherwise the characteristic's value and the fields the flags
select. The reply is 200 when no element carries a status and 207 otherwise. -/
theorem getCharacteristics_entries (lib : CharLib ν) (J : Json) (store : FsStore) (t : AccessoryTree)
    (h : Nat → Characteristic ν) (req : GetRequest) :
    let es := (idPairs lib req.id).map fun ids => getEntry lib t h req.addr req.projection ids.1 ids.2
    (isPaired J store = false →
      getCharacteristics lib J store t h req = .jsonError jsonStatusInsufficientPrivileges) ∧
    (isPaired J store = true → req.id = [] →
      getCharacteristics lib J store t h req = .jsonError jsonStatusInvalidValueInRequest) ∧
    (isPaired J store = true → req.id ≠ [] →
      getCharacteristics lib J store t h req = (if es.any (fun e => e.status.isSome) then .multiStatus es else .ok es)) ∧
    ∀ e ∈ es, (e.status = some jsonStatusServiceCommunicationFailure ↔ t.findC h e.aid e.iid = none) ∧
      ∀ p, t.findC h e.aid e.iid = some p → e = characteristicData lib req.addr req.projection (h p) e.aid e.iid := by
  intro es
  refine ⟨fun hpaired => by simp [getCharacteristics, hpaired],
    fun hpaired hv => by simp [getCharacteristics, hpaired, hv], fun hpaired hv => ?_, ?_⟩
  · have hlen : req.id.length ≠ 0 := by simpa using hv
    simp only [getCharacteristics, hpaired, hlen, getCharacteristicsLoop_eq, idPairs, Bool.not_true,
      Bool.false_eq_true, if_false, List.nil_append, Bool.false_or]
    rfl
  · simp only [es, List.mem_map]
    rintro _ ⟨⟨aid, iid⟩, -, rfl⟩
    simp only [getEntry_aid, getEntry_iid]
    exact ⟨by simp [getEntry_status], fun p hp => by simp only [getEntry, hp]⟩

/-- Two accessories with aid 1, the second holding iid 9; the token `2` has
one part and is skipped, and `3.1` names no characteristic. -/
theorem getCharacteristics_entries_toy :
    let t : AccessoryTree := ⟨⟨1, [⟨[0]⟩]⟩, [⟨1, [⟨[1]⟩]⟩]⟩
    let h : Nat → Characteristic Nat := fun p =>
      if p = 0 then ⟨1, [], [], [], [], none, none, none, 0, 7, ∅⟩ else ⟨9, [], [], [], [], none, none, none, 0, 8, ∅⟩
    let store := (Storer.savePairing Json.tagged ⟨[], ∅, by decide⟩ ⟨[0x63], [3], permissionAdmin⟩).2
    -- id=1.1,2,1.9,3.1
    let req : GetRequest := ⟨"c", [0x31, 0x2E, 0x31, 0x2C, 0x32, 0x2C, 0x31, 0x2E, 0x39, 0x2C, 0x33, 0x2E, 0x31],
      [], [], [], []⟩
    (isPaired Json.tagged store = true ∧ req.id ≠ []) ∧
    (let es := (idPairs CharLib.toy req.id).map (fun ids => getEntry CharLib.toy t h req.addr req.projection ids.1 ids.2)
     (isPaired Json.tagged store = false →
       getCharacteristics CharLib.toy Json.tagged store t h req = .jsonError jsonStatusInsufficientPrivileges) ∧
     (isPaired Json.tagged store = true → req.id = [] →
       getCharacteristics CharLib.toy Json.tagged store t h req = .jsonError jsonStatusInvalidValueInRequest) ∧
     (isPaired Json.tagged store = true → req.id ≠ [] →
       getCharacteristics CharLib.toy Json.tagged store t h req =
         (if es.any (fun e => e.status.isSome) then .multiStatus es else .ok es)) ∧
       ∀ e ∈ es, (e.status = some jsonStatusServiceCommunicationFailure ↔ t.findC h e.aid e.iid = none) ∧
         ∀ p, t.findC h e.aid e.iid = some p →
           e = characteristicData CharLib.toy req.addr req.projection (h p) e.aid e.iid) ∧
    idPairs CharLib.toy req.id = [(1, 1), (1, 9), (3, 1)] ∧ t.findC h 1 9 = some 1 ∧ t.findC h 3 1 = none := by
  intro t h store req
  have hpaired : isPaired Json.tagged store = true :=
    isPaired_of_pairing (Storer.pairing_savePairing_self Json.tagged_lawful _ (by decide) (by decide) (by decide))
  exact ⟨⟨hpaired, by decide⟩, getCharacteristics_entries CharLib.toy Json.tagged store t h req,
    by decide, by decide, by decide⟩

/-- An empty `id` on a paired accessory: no token has two parts, yet the reply
is the error InvalidValueInRequest, not a 200 with no elements. -/
theorem getCharacteristics_empty_id :
    let t : AccessoryTree := ⟨⟨1, [⟨[0]⟩]⟩, []⟩
    let h : Nat → Characteristic Nat := fun _ => ⟨1, [], [], [], [], none, none, none, 0, 7, ∅⟩
    let store := (Storer.savePairing Json.tagged ⟨[], ∅, by decide⟩ ⟨[0x63], [3], permissionAdmin⟩).2
    let req : GetRequest := ⟨"c", [], [], [], [], []⟩
    isPaired Json.tagged store = true ∧ idPairs CharLib.toy req.id = [] ∧
      getCharacteristics CharLib.toy Json.tagged store t h req = .jsonError jsonStatusInvalidValueInRequest := by
  intro t h store req
  have hpaired : isPaired Json.tagged store = true :=
    isPaired_of_pairing (Storer.pairing_savePairing_self Json.tagged_lawful _ (by decide) (by decide) (by decide))
  refine ⟨hpaired, by decide, ?_⟩
  simp [getCharacteristics, hpaired, req]

end Hap
