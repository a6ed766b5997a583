import Hap.Characteristics.Get

/-!
# `PutCharacteristics`

`PUT /characteristics`: for each element of the body the handler finds the
characteristic, appends the element's reply data to `arr`, calls the write
hook and updates the subscriptions. The reply data is the pointer `cdata`: it
is appended once for `r` and once more for a refused `ev`, and both appends
show its last fields.

* `putCharacteristic_keys`, `putCharacteristic_shape`: one element appends
  `entryCount` copies of its data with the status `entryStatus`, and the
  heap keeps every characteristic's id and permissions;
* `putCharacteristicsLoop_keys`: the run lemma over the body, where the count
  and the status of each element are those of the heap before the request;
* `putCharacteristics_entries` and `putCharacteristics_ignores_write_status`:
  the reply.
-/

namespace Hap

variable {ν : Type}

/-- A `PUT /characteristics` request: `req.RemoteAddr`, and the body as
`json.NewDecoder(req.Body).Decode` reads it. -/
structure PutRequest (ν : Type) where
  addr : String
  body : Except String (List (CharacteristicData ν))

/-- `c.SetValueRequest(d.Value, req)` when the element carries a value: the
characteristic afterwards. The status the hook returns is dropped. -/
def writeValue (lib : CharLib ν) (addr : String) (c : Characteristic ν) : Option ν → Characteristic ν
  | some v => (lib.setValueRequest c v addr).1
  | none => c

/-- The loop body for one element `d`: the data it appends to `arr` and the
heap after its writes. For `d.Response != nil` the data gets the value read
before the write hook runs and is appended; observability is checked after
the write. -/
def putCharacteristic (lib : CharLib ν) (t : AccessoryTree) (addr : String) (h : Nat → Characteristic ν)
    (d : CharacteristicData ν) : List (CharacteristicData ν) × (Nat → Characteristic ν) :=
  match t.findC h d.aid d.iid with
  | none => ([{ aid := d.aid, iid := d.iid, status := some jsonStatusServiceCommunicationFailure }], h)
  | some p =>
    let cdata : CharacteristicData ν :=
      { aid := d.aid, iid := d.iid, value := d.response.map fun _ => lib.valueRequest (h p) addr }
    let n := if d.response.isSome then 1 else 0
    let c := writeValue lib addr (h p) d.value
    match d.events with
    | none => (List.replicate n cdata, Function.update h p c)
    | some b =>
      if c.isObservable then (List.replicate n cdata, Function.update h p { c with events := c.events.insert addr b })
      else (List.replicate (n + 1) { cdata with status := some jsonStatusNotificationNotSupported }, Function.update h p c)

/-- The loop over `data.Cs` with its accumulator `arr`. -/
def putCharacteristicsLoop (lib : CharLib ν) (t : AccessoryTree) (addr : String) :
    List (CharacteristicData ν) → (Nat → Characteristic ν) → List (CharacteristicData ν) →
      List (CharacteristicData ν) × (Nat → Characteristic ν)
  | [], h, arr => (arr, h)
  | d :: ds, h, arr =>
    let r := putCharacteristic lib t addr h d
    putCharacteristicsLoop lib t addr ds r.2 (arr ++ r.1)

/-- `Server.PutCharacteristics`: the reply and the heap afterwards. -/
def putCharacteristics (lib : CharLib ν) (J : Json) (store : FsStore) (t : AccessoryTree)
    (h : Nat → Characteristic ν) (req : PutRequest ν) : CharReply ν × (Nat → Characteristic ν) :=
  if !isPaired J store then (.jsonError jsonStatusInsufficientPrivileges, h)
  else
    match req.body with
    | .error _ => (.jsonError jsonStatusInvalidValueInRequest, h)
    | .ok ds =>
      let r := putCharacteristicsLoop lib t req.addr ds h []
      -- `len(arr) == 0`
      if r.1.isEmpty then (.noContent, r.2) else (.multiStatus r.1, r.2)

/-! ## What an element appends -/

/-- The number of times element `d` is appended: once when `findC` finds
nothing; otherwise once for an `r`, true or false, and once for an `ev` on a
characteristic that is not observable. -/
def entryCount (t : AccessoryTree) (h : Nat → Characteristic ν) (d : CharacteristicData ν) : Nat :=
  match t.findC h d.aid d.iid with
  | none => 1
  | some p => (if d.response.isSome then 1 else 0) + (if d.events.isSome && !(h p).isObservable then 1 else 0)

/-- The status element `d`'s data carries. -/
def entryStatus (t : AccessoryTree) (h : Nat → Characteristic ν) (d : CharacteristicData ν) : Option Int :=
  match t.findC h d.aid d.iid with
  | none => some jsonStatusServiceCommunicationFailure
  | some p => if d.events.isSome && !(h p).isObservable then some jsonStatusNotificationNotSupported else none

/-- What a reply element says apart from the value: its ids and status. -/
def entryKey (e : CharacteristicData ν) : UInt64 × UInt64 × Option Int := (e.aid, e.iid, e.status)

/-- Two heaps whose characteristics have the same ids and permissions. -/
def SameShape (h h' : Nat → Characteristic ν) : Prop :=
  ∀ q, (h' q).id = (h q).id ∧ (h' q).permissions = (h q).permissions

theorem SameShape.refl (h : Nat → Characteristic ν) : SameShape h h := fun _ => ⟨rfl, rfl⟩

theorem SameShape.update {h : Nat → Characteristic ν} {p : Nat} {c : Characteristic ν}
    (hid : c.id = (h p).id) (hperm : c.permissions = (h p).permissions) : SameShape h (Function.update h p c) := by
  intro q
  by_cases hq : q = p
  · subst hq; simp [hid, hperm]
  · simp [Function.update_noteq hq]

section Element

variable {lib : CharLib ν} (hL : lib.Lawful) (t : AccessoryTree) (addr : String)

theorem entryCount_congr {h h' : Nat → Characteristic ν} (hs : SameShape h h') (d : CharacteristicData ν) :
    entryCount t h' d = entryCount t h d := by
  simp only [entryCount, findC_congr (fun q => (hs q).1)]
  split <;> simp [Characteristic.isObservable, (hs _).2]

theorem entryStatus_congr {h h' : Nat → Characteristic ν} (hs : SameShape h h') (d : CharacteristicData ν) :
    entryStatus t h' d = entryStatus t h d := by
  simp only [entryStatus, findC_congr (fun q => (hs q).1)]
  split <;> simp [Characteristic.isObservable, (hs _).2]

theorem putCharacteristic_of_none (h : Nat → Characteristic ν) (d : CharacteristicData ν)
    (hp : t.findC h d.aid d.iid = none) :
    putCharacteristic lib t addr h d =
      ([{ aid := d.aid, iid := d.iid, status := some jsonStatusServiceCommunicationFailure }], h) := by
  simp only [putCharacteristic, hp]

theorem putCharacteristics_ok {J : Json} {store : FsStore} (hpaired : isPaired J store = true)
    (h : Nat → Characteristic ν) (ds : List (CharacteristicData ν)) :
    putCharacteristics lib J store t h ⟨addr, .ok ds⟩ =
      let r := putCharacteristicsLoop lib t addr ds h []
      if r.1.isEmpty then (.noContent, r.2) else (.multiStatus r.1, r.2) := by
  simp [putCharacteristics, hpaired]

include hL

theorem writeValue_id (c : Characteristic ν) (v : Option ν) : (writeValue lib addr c v).id = c.id := by
  cases v with
  | none => rfl
  | some v => exact hL.id c v addr

theorem writeValue_events (c : Characteristic ν) (v : Option ν) :
    (writeValue lib addr c v).events = c.events := by
  cases v with
  | none => rfl
  | some v => exact hL.events c v addr

theorem writeValue_permissions (c : Characteristic ν) (v : Option ν) :
    (writeValue lib addr c v).permissions = c.permissions := by
  cases v with
  | none => rfl
  | some v => exact hL.permissions c v addr

/-- **Step lemma (heap).** An element keeps every characteristic's id and
permissions. -/
theorem putCharacteristic_shape (h : Nat → Characteristic ν) (d : CharacteristicData ν) :
    SameShape h (putCharacteristic lib t addr h d).2 := by
  unfold putCharacteristic
  split
  · exact SameShape.refl h
  · -- the write, and the subscription, change neither the id nor the permissions
    rename_i p _
    have hid := writeValue_id hL addr (h p) d.value
    have hperm := writeValue_permissions hL addr (h p) d.value
    cases d.events with
    | none => exact SameShape.update hid hperm
    | some b => dsimp only; split <;> exact SameShape.update hid hperm

/-- **Step lemma (reply).** A found element appends `entryCount` copies of one
datum: the value read before the write when `r` is present, and the status
`entryStatus`. -/
theorem putCharacteristic_of_some (h : Nat → Characteristic ν) (d : CharacteristicData ν) {p : Nat}
    (hp : t.findC h d.aid d.iid = some p) :
    (putCharacteristic lib t addr h d).1 = List.replicate (entryCount t h d)
      { aid := d.aid, iid := d.iid, value := d.response.map fun _ => lib.valueRequest (h p) addr,
        status := entryStatus t h d } := by
  have hobs : (writeValue lib addr (h p) d.value).isObservable = (h p).isObservable := by
    simp only [Characteristic.isObservable, writeValue_permissions hL]
  simp only [putCharacteristic, entryCount, entryStatus, hp, hobs]
  cases d.events with
  | none => simp
  | some b => by_cases ho : (h p).isObservable <;> simp [ho, List.replicate_succ']

/-- What an element appends, apart from the values. -/
theorem putCharacteristic_keys (h : Nat → Characteristic ν) (d : CharacteristicData ν) :
    (putCharacteristic lib t addr h d).1.map entryKey =
      List.replicate (entryCount t h d) (d.aid, d.iid, entryStatus t h d) := by
  cases hp : t.findC h d.aid d.iid with
  | none => rw [putCharacteristic_of_none t addr h d hp]; simp [entryCount, entryStatus, hp, entryKey]
  | some p => simp [putCharacteristic_of_some hL t addr h d hp, entryKey]

/-- **Run lemma.** Over a whole body, the data appended are, element by
element, `entryCount` copies with the status `entryStatus`, both read on the
heap before the request: the writes of earlier elements change neither. -/
theorem putCharacteristicsLoop_keys (ds : List (CharacteristicData ν)) (h : Nat → Characteristic ν)
    (arr : List (CharacteristicData ν)) :
    (putCharacteristicsLoop lib t addr ds h arr).1.map entryKey =
      arr.map entryKey ++ ds.flatMap fun d => List.replicate (entryCount t h d) (d.aid, d.iid, entryStatus t h d) := by
  induction ds generalizing h arr with
  | nil => simp [putCharacteristicsLoop]
  | cons d ds ih =>
    have hs := putCharacteristic_shape hL t addr h d
    simp only [putCharacteristicsLoop]
    rw [ih, List.map_append, putCharacteristic_keys hL, List.flatMap_cons, List.append_assoc]
    simp only [entryCount_congr t hs, entryStatus_congr t hs]

/-- The data appended for a body is empty exactly when every element's
`entryCount` is zero. -/
theorem putCharacteristicsLoop_eq_nil (ds : List (CharacteristicData ν)) (h : Nat → Characteristic ν) :
    (putCharacteristicsLoop lib t addr ds h []).1 = [] ↔ ∀ d ∈ ds, entryCount t h d = 0 := by
  rw [← @List.map_eq_nil_iff _ _ entryKey, putCharacteristicsLoop_keys hL, List.map_nil, List.nil_append,
    List.flatMap_eq_nil_iff]
  simp only [List.replicate_eq_nil_iff]

end Element

/-- **The reply to a body.** On a paired accessory, the reply is 204 exactly
when no element is appended, and is otherwise a multi-status whose data are,
element by element, `entryCount` copies with the status `entryStatus`: an
element is appended once when nothing is found, and otherwise once for any
`r` (also `r: false`) plus once more for an `ev` on a characteristic that is
not observable. Whatever the heap an element meets, the value its data carry
for `r` is read before the element's write. -/
theorem putCharacteristics_entries {lib : CharLib ν} (hL : lib.Lawful) {J : Json} {store : FsStore}
    (hpaired : isPaired J store = true) (t : AccessoryTree) (h : Nat → Characteristic ν) (addr : String)
    (ds : List (CharacteristicData ν)) :
    ∃ es, (putCharacteristics lib J store t h ⟨addr, .ok ds⟩).1 = (if es.isEmpty then .noContent else .multiStatus es) ∧
      es.map entryKey = ds.flatMap (fun d => List.replicate (entryCount t h d) (d.aid, d.iid, entryStatus t h d)) ∧
      (es = [] ↔ ∀ d ∈ ds, entryCount t h d = 0) ∧
      ∀ (h' : Nat → Characteristic ν) (d : CharacteristicData ν) (p : Nat), t.findC h' d.aid d.iid = some p →
        ∀ e ∈ (putCharacteristic lib t addr h' d).1, e.value = d.response.map fun _ => lib.valueRequest (h' p) addr := by
  refine ⟨(putCharacteristicsLoop lib t addr ds h []).1, ?_, ?_, putCharacteristicsLoop_eq_nil hL t addr ds h, ?_⟩
  · rw [putCharacteristics_ok t addr hpaired]
    exact apply_ite Prod.fst _ _ _
  · simpa using putCharacteristicsLoop_keys hL t addr ds h []
  · intro h' d p hp e he
    rw [putCharacteristic_of_some hL t addr h' d hp] at he
    rw [List.eq_of_mem_replicate he]

/-- One element with a value, `ev` and `r` on a writable characteristic that
is not observable, then one with `r: false`: the first is appended twice with
the value from before its write, the second once with the written value. -/
theorem putCharacteristics_entries_toy :
    let t : AccessoryTree := ⟨⟨1, [⟨[0]⟩]⟩, []⟩
    let h : Nat → Characteristic Nat := fun _ => ⟨1, [], [permissionWrite], [], [], none, none, none, 0, 0, ∅⟩
    let store := (Storer.savePairing Json.tagged ⟨[], ∅, by decide⟩ ⟨[0x63], [3], permissionAdmin⟩).2
    let ds : List (CharacteristicData Nat) :=
      [{ aid := 1, iid := 1, value := some 5, events := some true, response := some true },
       { aid := 1, iid := 1, response := some false }]
    (CharLib.toy.Lawful ∧ isPaired Json.tagged store = true) ∧
    (∃ es, (putCharacteristics CharLib.toy Json.tagged store t h ⟨"c", .ok ds⟩).1 =
          (if es.isEmpty then .noContent else .multiStatus es) ∧
        es.map entryKey = ds.flatMap (fun d => List.replicate (entryCount t h d) (d.aid, d.iid, entryStatus t h d)) ∧
        (es = [] ↔ ∀ d ∈ ds, entryCount t h d = 0) ∧
        ∀ (h' : Nat → Characteristic Nat) (d : CharacteristicData Nat) (p : Nat), t.findC h' d.aid d.iid = some p →
          ∀ e ∈ (putCharacteristic CharLib.toy t "c" h' d).1,
            e.value = d.response.map fun _ => CharLib.toy.valueRequest (h' p) "c") ∧
    (putCharacteristics CharLib.toy Json.tagged store t h ⟨"c", .ok ds⟩).1 =
      .multiStatus [{ aid := 1, iid := 1, value := some 0, status := some jsonStatusNotificationNotSupported },
        { aid := 1, iid := 1, value := some 0, status := some jsonStatusNotificationNotSupported },
        { aid := 1, iid := 1, value := some 5 }] := by
  intro t h store ds
  have hpaired : isPaired Json.tagged store = true :=
    isPaired_of_pairing (Storer.pairing_savePairing_self Json.tagged_lawful _ (by decide) (by decide) (by decide))
  refine ⟨⟨CharLib.toy_lawful, hpaired⟩, putCharacteristics_entries CharLib.toy_lawful hpaired t h "c" ds, ?_⟩
  rw [putCharacteristics_ok t "c" hpaired]
  decide

/-- **Writes are never refused in the reply.** On a paired accessory, a body
whose elements all name a characteristic and carry neither `r` nor `ev` gets
204, whatever statuses the write hook returns, also for writes to read-only
characteristics. An `ev` on a characteristic that is not observable is
appended with NotificationNotSupported and leaves its subscriptions as they
were. -/
theorem putCharacteristics_ignores_write_status {lib : CharLib ν} (hL : lib.Lawful) {J : Json} {store : FsStore}
    (hpaired : isPaired J store = true) (t : AccessoryTree) (h : Nat → Characteristic ν) (addr : String)
    (ds : List (CharacteristicData ν))
    (hds : ∀ d ∈ ds, (t.findC h d.aid d.iid).isSome ∧ d.response = none ∧ d.events = none) :
    (putCharacteristics lib J store t h ⟨addr, .ok ds⟩).1 = .noContent ∧
      ∀ (d : CharacteristicData ν) (p : Nat), t.findC h d.aid d.iid = some p → d.events.isSome →
        (h p).isObservable = false →
        ((putCharacteristic lib t addr h d).2 p).events = (h p).events ∧ (putCharacteristic lib t addr h d).1 ≠ [] ∧
          ∀ e ∈ (putCharacteristic lib t addr h d).1, e.status = some jsonStatusNotificationNotSupported := by
  refine ⟨?_, fun d p hp hev hobs => ?_⟩
  · have hnil : (putCharacteristicsLoop lib t addr ds h []).1 = [] := by
      refine (putCharacteristicsLoop_eq_nil hL t addr ds h).2 fun d hd => ?_
      obtain ⟨hf, hr, he⟩ := hds d hd
      obtain ⟨p, hp⟩ := Option.isSome_iff_exists.1 hf
      simp [entryCount, hp, hr, he]
    rw [putCharacteristics_ok t addr hpaired]
    simp only [hnil, List.isEmpty_nil, if_true]
  · have hobs' : (writeValue lib addr (h p) d.value).isObservable = false := by
      simpa only [Characteristic.isObservable, writeValue_permissions hL] using hobs
    obtain ⟨b, hb⟩ := Option.isSome_iff_exists.1 hev
    have hstatus : entryStatus t h d = some jsonStatusNotificationNotSupported := by
      simp [entryStatus, hp, hb, hobs]
    have hcount : entryCount t h d ≠ 0 := by simp [entryCount, hp, hb, hobs]
    refine ⟨?_, ?_, ?_⟩
    · simp [putCharacteristic, hp, hb, hobs', writeValue_events hL]
    · rw [putCharacteristic_of_some hL t addr h d hp]
      simpa using hcount
    · intro e he
      rw [putCharacteristic_of_some hL t addr h d hp] at he
      rw [List.eq_of_mem_replicate he, hstatus]


/-- A write to a read-only characteristic, which the hook refuses with
`-70404`: the reply is 204. -/
theorem putCharacteristics_ignores_write_status_toy :
    let t : AccessoryTree := ⟨⟨1, [⟨[0]⟩]⟩, []⟩
    let h : Nat → Characteristic Nat := fun _ => ⟨1, [], [], [], [], none, none, none, 0, 0, ∅⟩
    let store := (Storer.savePairing Json.tagged ⟨[], ∅, by decide⟩ ⟨[0x63], [3], permissionAdmin⟩).2
    let ds : List (CharacteristicData Nat) := [{ aid := 1, iid := 1, value := some 5 }]
    (CharLib.toy.Lawful ∧ isPaired Json.tagged store = true ∧
      ∀ d ∈ ds, (t.findC h d.aid d.iid).isSome ∧ d.response = none ∧ d.events = none) ∧
    ((putCharacteristics CharLib.toy Json.tagged store t h ⟨"c", .ok ds⟩).1 = .noContent ∧
      ∀ (d : CharacteristicData Nat) (p : Nat), t.findC h d.aid d.iid = some p → d.events.isSome →
        (h p).isObservable = false →
        ((putCharacteristic CharLib.toy t "c" h d).2 p).events = (h p).events ∧
          (putCharacteristic CharLib.toy t "c" h d).1 ≠ [] ∧
          ∀ e ∈ (putCharacteristic CharLib.toy t "c" h d).1, e.status = some jsonStatusNotificationNotSupported) ∧
    (CharLib.toy.setValueRequest (h 0) 5 "c").2 = -70404 := by
  intro t h store ds
  have hpaired : isPaired Json.tagged store = true :=
    isPaired_of_pairing (Storer.pairing_savePairing_self Json.tagged_lawful _ (by decide) (by decide) (by decide))
  have hds : ∀ d ∈ ds, (t.findC h d.aid d.iid).isSome ∧ d.response = none ∧ d.events = none := by decide
  exact ⟨⟨CharLib.toy_lawful, hpaired, hds⟩,
    putCharacteristics_ignores_write_status CharLib.toy_lawful hpaired t h "c" ds hds, by decide⟩

end Hap
