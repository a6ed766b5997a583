import Hap.Server.State

/-!
# The accessory tree and `findC`

The server holds the primary accessory `srv.a` and the bridged accessories
`srv.as`; each accessory has services, each service has characteristics. The
characteristics are Go objects reached through pointers (`*characteristic.C`),
which the handlers find with `findC` and then change in place.

* a characteristic pointer is a `Nat`, the objects are a heap
  `Nat → Characteristic ν` (with `ν` the type of values, Go's `interface{}`),
  and the tree holds pointers only;
* `findC` is the nested scan of `Server.findC`;
* `findC_eq_lookup`: the scan is the lookup of `(aid, iid)` in the index of
  first occurrences (`charIndex`), the precomputed map the spec allows.
-/

namespace Hap

/-! ## Characteristics -/

/-- `PermissionEvents`. Modelled from the spec: a characteristic is observable
when its permissions hold the Events permission. -/
def permissionEvents : Bytes := ascii "ev"

/-- `PermissionWrite`. Modelled from the spec: a characteristic without it is
read-only. -/
def permissionWrite : Bytes := ascii "pw"

/-- The fields of `characteristic.C` the handlers and their hooks use. -/
structure Characteristic (ν : Type) where
  id : UInt64
  type : Bytes
  permissions : List Bytes
  format : Bytes
  unit : Bytes
  minVal : Option ν
  maxVal : Option ν
  stepVal : Option ν
  maxLen : Int
  val : ν
  events : AList fun _ : String => Bool

/-- `c.IsObservable()`. Modelled from the spec: the Events permission is set. -/
def Characteristic.isObservable {ν : Type} (c : Characteristic ν) : Bool :=
  c.permissions.contains permissionEvents

/-- The characteristic hooks the handlers call, and `to.Uint64`:

* `valueRequest c addr` is `c.ValueRequest(req)`, the value-read hook run for
  a request from `addr`;
* `setValueRequest c v addr` is `c.SetValueRequest(v, req)`, the write hook: the
  characteristic afterwards and the status it returns;
* `toUint64` is `to.Uint64` on a string. -/
structure CharLib (ν : Type) where
  valueRequest : Characteristic ν → String → ν
  setValueRequest : Characteristic ν → ν → String → Characteristic ν × Int
  toUint64 : Bytes → UInt64

/-- The write hook changes the value only: the id, the permissions and the
subscriptions stay. -/
structure CharLib.Lawful {ν : Type} (lib : CharLib ν) : Prop where
  id : ∀ c v a, (lib.setValueRequest c v a).1.id = c.id
  permissions : ∀ c v a, (lib.setValueRequest c v a).1.permissions = c.permissions
  events : ∀ c v a, (lib.setValueRequest c v a).1.events = c.events

/-- A library whose value hook reads `Val` and whose write hook refuses a
read-only characteristic with the status `-70404` (read-only) and otherwise
stores the value; `to.Uint64` reads decimal digits. -/
def CharLib.toy : CharLib Nat where
  valueRequest c _ := c.val
  setValueRequest c v _ :=
    if c.permissions.contains permissionWrite then ({ c with val := v }, 0) else (c, -70404)
  toUint64 s := (s.foldl (fun n (b : UInt8) => 10 * n + (b.toNat - 0x30)) 0).toUInt64

theorem CharLib.toy_lawful : CharLib.toy.Lawful where
  id c v a := by simp only [CharLib.toy]; split <;> rfl
  permissions c v a := by simp only [CharLib.toy]; split <;> rfl
  events c v a := by simp only [CharLib.toy]; split <;> rfl

/-! ## Requests and replies -/

/-- `CharacteristicData`, an element of a request body or a reply: `none`
(and the empty list for `perms`) is a field `omitempty` leaves out. -/
structure CharacteristicData (ν : Type) where
  aid : UInt64
  iid : UInt64
  value : Option ν := none
  type : Option Bytes := none
  permissions : List Bytes := []
  status : Option Int := none
  events : Option Bool := none
  format : Option Bytes := none
  unit : Option Bytes := none
  minValue : Option ν := none
  maxValue : Option ν := none
  minStep : Option ν := none
  maxLen : Option Int := none
  response : Option Bool := none
  deriving DecidableEq, Repr

/-- What the characteristic handlers write: `jsonError`, `jsonOK` (200),
`jsonMultiStatus` (207), or `StatusNoContent` (204). -/
inductive CharReply (ν : Type) where
  | jsonError (status : Int)
  | ok (cs : List (CharacteristicData ν))
  | multiStatus (cs : List (CharacteristicData ν))
  | noContent
  deriving DecidableEq, Repr

/-- `JsonStatusServiceCommunicationFailure`. Modelled from the spec (§6). -/
def jsonStatusServiceCommunicationFailure : Int := -70402

/-- `JsonStatusNotificationNotSupported`. Modelled from the spec (§6). -/
def jsonStatusNotificationNotSupported : Int := -70406

/-- `JsonStatusInvalidValueInRequest`. Modelled from the spec (§6). -/
def jsonStatusInvalidValueInRequest : Int := -70410

/-! ## The tree -/

/-- A service: pointers to its characteristics, in order. -/
structure Service where
  cs : List Nat
  deriving DecidableEq, Repr

/-- An accessory: its id and its services. -/
structure Accessory where
  id : UInt64
  ss : List Service
  deriving DecidableEq, Repr

/-- `srv.a` and `srv.as`. -/
structure AccessoryTree where
  a : Accessory
  as : List Accessory
  deriving DecidableEq, Repr

/-- The accessories in the order `findC` scans them: `append(as, srv.a)`, then
`append(as, srv.as[:]...)`. -/
def AccessoryTree.accessories (t : AccessoryTree) : List Accessory := t.a :: t.as

section Scan

variable {ν : Type} (h : Nat → Characteristic ν)

/-- The loops over `a.Ss` and `s.Cs`: the first characteristic with id `iid`. -/
def findInServices (iid : UInt64) : List Service → Option Nat
  | [] => none
  | s :: ss => (s.cs.find? fun p => (h p).id == iid).or (findInServices iid ss)

/-- The loop over the accessories: the first accessory with id `aid` that
has a characteristic `iid`. -/
def findInAccessories (aid iid : UInt64) : List Accessory → Option Nat
  | [] => none
  | a :: as =>
    if a.id = aid then (findInServices h iid a.ss).or (findInAccessories aid iid as)
    else findInAccessories aid iid as

/-- `Server.findC`: a pointer to the characteristic, or nil. -/
def AccessoryTree.findC (t : AccessoryTree) (aid iid : UInt64) : Option Nat :=
  findInAccessories h aid iid t.accessories

/-- The index of the tree: each pointer under its `(accessory Id,
characteristic Id)`, in scan order. -/
def charIndex (t : AccessoryTree) : List ((UInt64 × UInt64) × Nat) :=
  t.accessories.flatMap fun a => a.ss.flatMap fun s => s.cs.map fun p => ((a.id, (h p).id), p)

/-! ## The scan is the index lookup -/

theorem lookup_map_characteristics (aid iid : UInt64) (cs : List Nat) :
    (cs.map fun p => ((aid, (h p).id), p)).lookup (aid, iid) = cs.find? fun p => (h p).id == iid := by
  induction cs with
  | nil => rfl
  | cons p cs ih =>
    by_cases hp : (h p).id = iid
    · simp [List.lookup_cons, hp]
    · have hk : ((aid, iid) == (aid, (h p).id)) = false := by simpa using Ne.symm hp
      have hb : ((h p).id == iid) = false := by simpa using hp
      simp only [List.map_cons, List.lookup_cons, List.find?_cons, hk, hb, ih]

theorem findInServices_eq_lookup (aid iid : UInt64) (ss : List Service) :
    findInServices h iid ss =
      (ss.flatMap fun s => s.cs.map fun p => ((aid, (h p).id), p)).lookup (aid, iid) := by
  induction ss with
  | nil => rfl
  | cons s ss ih =>
    rw [findInServices, List.flatMap_cons, List.lookup_append, lookup_map_characteristics, ih]

/-- No entry of another accessory has the key `(aid, iid)`. -/
theorem lookup_accessory_ne {aid iid : UInt64} {a : Accessory} (ha : a.id ≠ aid) :
    (a.ss.flatMap fun s => s.cs.map fun p => ((a.id, (h p).id), p)).lookup (aid, iid) = none := by
  simp only [List.lookup_eq_none_iff, List.mem_flatMap, List.mem_map]
  rintro _ ⟨s, -, p, -, rfl⟩
  simp [Ne.symm ha]

/-- **`findC` is the index lookup.** The nested scan returns the first
characteristic with `(aid, iid)` in scan order, that is, the lookup of
`(aid, iid)` in the index of first occurrences; it returns nil exactly when
no accessory `aid` has a characteristic `iid`. This holds for every tree,
also when several accessories share `aid` and the first lacks `iid`. -/
theorem findC_eq_lookup (t : AccessoryTree) (aid iid : UInt64) :
    t.findC h aid iid = (charIndex h t).lookup (aid, iid) ∧
      (t.findC h aid iid = none ↔ ∀ e ∈ charIndex h t, e.1 ≠ (aid, iid)) := by
  have heq : t.findC h aid iid = (charIndex h t).lookup (aid, iid) := by
    rw [AccessoryTree.findC, charIndex]
    induction t.accessories with
    | nil => rfl
    | cons a as ih =>
      rw [findInAccessories, List.flatMap_cons, List.lookup_append, ← ih]
      by_cases ha : a.id = aid
      · rw [if_pos ha, findInServices_eq_lookup h aid iid, ha]
      · rw [if_neg ha, lookup_accessory_ne h ha, Option.none_or]
  refine ⟨heq, ?_⟩
  rw [heq, List.lookup_eq_none_iff]
  exact forall₂_congr fun e _ => by rw [bne_iff_ne, ne_comm]

/-! ## Frames -/

variable {h} {h' : Nat → Characteristic ν}

theorem findInServices_congr (hid : ∀ p, (h' p).id = (h p).id) (iid : UInt64) (ss : List Service) :
    findInServices h' iid ss = findInServices h iid ss := by
  induction ss with
  | nil => rfl
  | cons s ss ih => simp only [findInServices, hid, ih]

/-- The scan reads only the ids: a heap whose characteristics keep their ids
finds the same pointers. -/
theorem findC_congr (hid : ∀ p, (h' p).id = (h p).id) (t : AccessoryTree) (aid iid : UInt64) :
    t.findC h' aid iid = t.findC h aid iid := by
  unfold AccessoryTree.findC
  induction t.accessories with
  | nil => rfl
  | cons a as ih => simp only [findInAccessories, findInServices_congr hid, ih]

end Scan

end Hap
