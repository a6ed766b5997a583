import Hap.Characteristics.Put

/-!
# What a PUT writes, and what a GET reads back

A PUT body changes the characteristics its elements name, one element after
another: the write hook for a value, then the requester's subscription for an
`ev`. The writes go through the pointers `findC` returns, so two elements that
name one characteristic (by the same ids, or by ids that share a pointer)
write the same object.

* `applyElement` is what one element does to the characteristic it names, and
  `putCharacteristic_heap` says that this is the loop body's whole effect on
  the heap;
* `putCharacteristics_heap`: after a body, each characteristic is the fold of
  the element effects over the elements that name it, in body order; the
  others are left as they were;
* `putCharacteristics_events_of_ne`: no request changes another address's
  subscription;
* `getEntry_events_after_put`: a GET with `ev=1` from the same address then
  reports the last subscription the body set for the characteristic;
* `putRun_invariants`: over any run of PUTs the ids and permissions, and so
  what `findC` resolves, stay as they were, and so do the subscriptions of an
  address that sent none of the requests.
-/

namespace Hap

variable {ν : Type}

/-- What element `d` does to the characteristic it names: the write hook for a
value, then for an `ev` the subscription of `addr`, if the characteristic is
observable after the write. -/
def applyElement (lib : CharLib ν) (addr : String) (c : Characteristic ν) (d : CharacteristicData ν) :
    Characteristic ν :=
  let c' := writeValue lib addr c d.value
  match d.events with
  | none => c'
  | some b => if c'.isObservable then { c' with events := c'.events.insert addr b } else c'

/-- The loop body writes the characteristic it finds with `applyElement`, and
nothing else. -/
theorem putCharacteristic_heap (lib : CharLib ν) (t : AccessoryTree) (addr : String)
    (h : Nat → Characteristic ν) (d : CharacteristicData ν) :
    (putCharacteristic lib t addr h d).2 =
      match t.findC h d.aid d.iid with
      | none => h
      | some p => Function.update h p (applyElement lib addr (h p) d) := by
  cases hf : t.findC h d.aid d.iid with
  | none => simp only [putCharacteristic, hf]
  | some p =>
    simp only [putCharacteristic, applyElement, hf]
    cases d.events with
    | none => rfl
    | some b => dsimp only; split <;> rfl

theorem SameShape.trans {h h' h'' : Nat → Characteristic ν} (h₁ : SameShape h h') (h₂ : SameShape h' h'') :
    SameShape h h'' :=
  fun q => ⟨(h₂ q).1.trans (h₁ q).1, (h₂ q).2.trans (h₁ q).2⟩

/-- On a paired accessory, a PUT's heap is its loop's. -/
theorem putCharacteristics_ok_heap (t : AccessoryTree) (addr : String) {lib : CharLib ν} {J : Json} {store : FsStore}
    (hpaired : isPaired J store = true) (h : Nat → Characteristic ν) (ds : List (CharacteristicData ν)) :
    (putCharacteristics lib J store t h ⟨addr, .ok ds⟩).2 = (putCharacteristicsLoop lib t addr ds h []).2 := by
  rw [putCharacteristics_ok t addr hpaired]
  dsimp only
  split <;> rfl

/-- A PUT's heap is the one before it, when the request is refused, or its
loop's over some body. -/
theorem putCharacteristics_heap_cases (t : AccessoryTree) {lib : CharLib ν} {J : Json} {store : FsStore}
    (h : Nat → Characteristic ν) (req : PutRequest ν) :
    (putCharacteristics lib J store t h req).2 = h ∨
      ∃ ds, (putCharacteristics lib J store t h req).2 = (putCharacteristicsLoop lib t req.addr ds h []).2 := by
  unfold putCharacteristics
  split
  · exact .inl rfl
  · split
    · exact .inl rfl
    · dsimp only
      split <;> exact .inr ⟨_, rfl⟩

section Lawful

variable {lib : CharLib ν} (hL : lib.Lawful) (t : AccessoryTree) (addr : String)
include hL

theorem putCharacteristicsLoop_shape (ds : List (CharacteristicData ν)) (h : Nat → Characteristic ν)
    (arr : List (CharacteristicData ν)) : SameShape h (putCharacteristicsLoop lib t addr ds h arr).2 := by
  induction ds generalizing h arr with
  | nil => exact SameShape.refl h
  | cons d ds ih => exact (putCharacteristic_shape hL t addr h d).trans (ih _ _)

/-- Whatever it answers, a PUT keeps every id and permission. -/
theorem putCharacteristics_shape {J : Json} {store : FsStore} (h : Nat → Characteristic ν) (req : PutRequest ν) :
    SameShape h (putCharacteristics lib J store t h req).2 := by
  rcases putCharacteristics_heap_cases t h req with hput | ⟨ds, hput⟩ <;> rw [hput]
  · exact SameShape.refl h
  · exact putCharacteristicsLoop_shape hL t req.addr ds h []

/-- **Run lemma.** The characteristic at `p` after a body is the fold of the
element effects over the elements that name `p` on the heap before the body. -/
theorem putCharacteristicsLoop_heap (ds : List (CharacteristicData ν)) (h : Nat → Characteristic ν)
    (arr : List (CharacteristicData ν)) (p : Nat) :
    (putCharacteristicsLoop lib t addr ds h arr).2 p =
      (ds.filter fun d => t.findC h d.aid d.iid = some p).foldl (applyElement lib addr) (h p) := by
  induction ds generalizing h arr with
  | nil => rfl
  | cons d ds ih =>
    have hs := putCharacteristic_shape hL t addr h d
    simp only [putCharacteristicsLoop, ih, findC_congr fun q => (hs q).1, List.filter_cons]
    rw [putCharacteristic_heap]
    cases hd : t.findC h d.aid d.iid with
    | none => simp
    | some p' =>
      by_cases hp : p' = p
      · subst hp; simp
      · simp [hp, Function.update_noteq (Ne.symm hp)]

/-! ## Subscriptions -/

/-- An element keeps the permissions, so whether the characteristic is
observable. -/
theorem isObservable_applyElement (c : Characteristic ν) (d : CharacteristicData ν) :
    (applyElement lib addr c d).isObservable = c.isObservable := by
  have hperm := writeValue_permissions hL addr c d.value
  unfold applyElement
  cases d.events with
  | none => simp only [Characteristic.isObservable, hperm]
  | some b => dsimp only; split <;> simp only [Characteristic.isObservable, hperm]

/-- An element sets the subscription of `addr` to its `ev` when the
characteristic is observable, and leaves every other subscription. -/
theorem lookup_events_applyElement (c : Characteristic ν) (d : CharacteristicData ν) (a : String) :
    (applyElement lib addr c d).events.lookup a =
      if a = addr ∧ c.isObservable then d.events.or (c.events.lookup a) else c.events.lookup a := by
  have hobs : (writeValue lib addr c d.value).isObservable = c.isObservable := by
    simp only [Characteristic.isObservable, writeValue_permissions hL]
  unfold applyElement
  cases hd : d.events with
  | none => by_cases ha : a = addr <;> simp [writeValue_events hL, ha]
  | some b =>
    dsimp only
    rw [hobs]
    by_cases ho : c.isObservable
    · by_cases ha : a = addr
      · subst ha; simp [ho, AList.lookup_insert]
      · simp [ho, ha, AList.lookup_insert_ne ha, writeValue_events hL]
    · simp [ho, writeValue_events hL]

theorem lookup_events_foldl_applyElement (ds : List (CharacteristicData ν)) (c : Characteristic ν) (a : String) :
    (ds.foldl (applyElement lib addr) c).events.lookup a =
      if a = addr ∧ c.isObservable then (ds.filterMap (·.events)).getLast?.or (c.events.lookup a)
      else c.events.lookup a := by
  induction ds generalizing c with
  | nil => split <;> simp
  | cons d ds ih =>
    rw [List.foldl_cons, ih, isObservable_applyElement hL, lookup_events_applyElement hL]
    by_cases h : a = addr ∧ c.isObservable
    · -- the last `ev` of the remaining elements wins over `d`'s
      simp only [if_pos h, List.filterMap_cons]
      cases d.events with
      | none => rw [Option.none_or]
      | some b => rw [List.getLast?_cons]; cases (ds.filterMap (·.events)).getLast? <;> rfl
    · simp only [if_neg h]

/-- A body changes no subscription of another address. -/
theorem lookup_events_putCharacteristicsLoop_of_ne (ds : List (CharacteristicData ν))
    (h : Nat → Characteristic ν) {a : String} (ha : a ≠ addr) (p : Nat) :
    ((putCharacteristicsLoop lib t addr ds h []).2 p).events.lookup a = (h p).events.lookup a := by
  rw [putCharacteristicsLoop_heap hL, lookup_events_foldl_applyElement hL]
  simp [ha]

end Lawful

/-! ## A PUT, then a GET -/

variable {lib : CharLib ν}

/-- **The heap after a PUT.** On a paired accessory, for every lawful hook
library and body, the characteristic at each pointer `p` after the PUT is what
the element effects make of it, applied in body order, over exactly the
elements whose ids `findC` resolves to `p` on the heap before the request. A
characteristic no element names is left as it was. -/
theorem putCharacteristics_heap (hL : lib.Lawful) (t : AccessoryTree) (addr : String) {J : Json} {store : FsStore}
    (hpaired : isPaired J store = true)
    (h : Nat → Characteristic ν) (ds : List (CharacteristicData ν)) (p : Nat) :
    (putCharacteristics lib J store t h ⟨addr, .ok ds⟩).2 p =
      (ds.filter fun d => t.findC h d.aid d.iid = some p).foldl (applyElement lib addr) (h p) := by
  rw [putCharacteristics_ok_heap t addr hpaired]
  exact putCharacteristicsLoop_heap hL t addr ds h [] p

/-- Two elements naming one writable, observable characteristic: the second
write and its subscription are what stays. -/
theorem putCharacteristics_heap_toy :
    let t : AccessoryTree := ⟨⟨1, [⟨[0]⟩]⟩, []⟩
    let h : Nat → Characteristic Nat := fun _ =>
      ⟨1, [], [permissionWrite, permissionEvents], [], [], none, none, none, 0, 0, ∅⟩
    let store := (Storer.savePairing Json.tagged ⟨[], ∅, by decide⟩ ⟨[0x63], [3], permissionAdmin⟩).2
    let ds : List (CharacteristicData Nat) :=
      [{ aid := 1, iid := 1, value := some 5 }, { aid := 1, iid := 1, value := some 7, events := some true }]
    (CharLib.toy.Lawful ∧ isPaired Json.tagged store = true) ∧
      (putCharacteristics CharLib.toy Json.tagged store t h ⟨"c", .ok ds⟩).2 0 =
        (ds.filter fun d => t.findC h d.aid d.iid = some 0).foldl (applyElement CharLib.toy "c") (h 0) ∧
      ((putCharacteristics CharLib.toy Json.tagged store t h ⟨"c", .ok ds⟩).2 0).val = 7 ∧
      ((putCharacteristics CharLib.toy Json.tagged store t h ⟨"c", .ok ds⟩).2 0).events.lookup "c" = some true := by
  intro t h store ds
  have hpaired : isPaired Json.tagged store = true :=
    isPaired_of_pairing (Storer.pairing_savePairing_self Json.tagged_lawful _ (by decide) (by decide) (by decide))
  have hheap := putCharacteristics_heap CharLib.toy_lawful t "c" hpaired h ds 0
  refine ⟨⟨CharLib.toy_lawful, hpaired⟩, hheap, ?_⟩
  rw [hheap]
  decide

/-- **A PUT leaves other controllers' subscriptions.** For every lawful hook
library and every PUT request, whatever its body and whether or not the
accessory is paired, no characteristic's subscription of an address other than
the requester's changes. -/
theorem putCharacteristics_events_of_ne (hL : lib.Lawful) (t : AccessoryTree) {J : Json} {store : FsStore}
    (h : Nat → Characteristic ν)
    (req : PutRequest ν) {a : String} (ha : a ≠ req.addr) (p : Nat) :
    ((putCharacteristics lib J store t h req).2 p).events.lookup a = (h p).events.lookup a := by
  rcases putCharacteristics_heap_cases t h req with hput | ⟨ds, hput⟩ <;> rw [hput]
  exact lookup_events_putCharacteristicsLoop_of_ne hL t req.addr ds h ha p

/-- The PUT from `"c"` leaves the subscription of `"d"`. -/
theorem putCharacteristics_events_of_ne_toy :
    let t : AccessoryTree := ⟨⟨1, [⟨[0]⟩]⟩, []⟩
    let h : Nat → Characteristic Nat := fun _ =>
      ⟨1, [], [permissionWrite, permissionEvents], [], [], none, none, none, 0, 0, ∅⟩
    let store := (Storer.savePairing Json.tagged ⟨[], ∅, by decide⟩ ⟨[0x63], [3], permissionAdmin⟩).2
    let ds : List (CharacteristicData Nat) :=
      [{ aid := 1, iid := 1, value := some 5 }, { aid := 1, iid := 1, value := some 7, events := some true }]
    (CharLib.toy.Lawful ∧ "d" ≠ "c") ∧
      ((putCharacteristics CharLib.toy Json.tagged store t h ⟨"c", .ok ds⟩).2 0).events.lookup "d" =
        (h 0).events.lookup "d" := by
  intro t h store ds
  have hne : "d" ≠ "c" := by decide
  exact ⟨⟨CharLib.toy_lawful, hne⟩,
    putCharacteristics_events_of_ne CharLib.toy_lawful t h ⟨"c", .ok ds⟩ (a := "d") hne 0⟩

/-- **A GET reads back the subscription a PUT set.** After a PUT from `addr`
on a paired accessory, a GET from `addr` with `ev=1` finds for `(aid, iid)`
the characteristic it found before, and reports as its `ev` the last `ev` that
the body's elements naming that characteristic carried, if it is observable;
otherwise, or with no such `ev`, the subscription from before the PUT, and
false if there was none. -/
theorem getEntry_events_after_put (hL : lib.Lawful) (t : AccessoryTree) (addr : String) {J : Json}
    {store : FsStore} (hpaired : isPaired J store = true)
    (h : Nat → Characteristic ν) (ds : List (CharacteristicData ν)) (f : Projection) (hf : f.ev = true)
    {aid iid : UInt64} {p : Nat} (hp : t.findC h aid iid = some p) :
    (getEntry lib t (putCharacteristics lib J store t h ⟨addr, .ok ds⟩).2 addr f aid iid).events =
      some ((if (h p).isObservable then
          ((ds.filter fun d => t.findC h d.aid d.iid = some p).filterMap (·.events)).getLast?.or
            ((h p).events.lookup addr)
        else (h p).events.lookup addr).getD false) := by
  rw [putCharacteristics_ok_heap t addr hpaired]
  have hp' : t.findC (putCharacteristicsLoop lib t addr ds h []).2 aid iid = some p := by
    rw [findC_congr fun q => (putCharacteristicsLoop_shape hL t addr ds h [] q).1, hp]
  simp only [getEntry, hp', characteristicData, hf, if_true, putCharacteristicsLoop_heap hL,
    lookup_events_foldl_applyElement hL, true_and]

/-- After the PUT, `GET ?id=1.1&ev=1` from `"c"` reports the subscription the
second element set. -/
theorem getEntry_events_after_put_toy :
    let t : AccessoryTree := ⟨⟨1, [⟨[0]⟩]⟩, []⟩
    let h : Nat → Characteristic Nat := fun _ =>
      ⟨1, [], [permissionWrite, permissionEvents], [], [], none, none, none, 0, 0, ∅⟩
    let store := (Storer.savePairing Json.tagged ⟨[], ∅, by decide⟩ ⟨[0x63], [3], permissionAdmin⟩).2
    let ds : List (CharacteristicData Nat) :=
      [{ aid := 1, iid := 1, value := some 5 }, { aid := 1, iid := 1, value := some 7, events := some true }]
    let f : Projection := ⟨false, false, false, true⟩
    (CharLib.toy.Lawful ∧ isPaired Json.tagged store = true ∧ f.ev = true ∧ t.findC h 1 1 = some 0) ∧
      (getEntry CharLib.toy t (putCharacteristics CharLib.toy Json.tagged store t h ⟨"c", .ok ds⟩).2 "c" f 1 1).events =
        some ((if (h 0).isObservable then
            ((ds.filter fun d => t.findC h d.aid d.iid = some 0).filterMap (·.events)).getLast?.or
              ((h 0).events.lookup "c")
          else (h 0).events.lookup "c").getD false) ∧
      (getEntry CharLib.toy t (putCharacteristics CharLib.toy Json.tagged store t h ⟨"c", .ok ds⟩).2 "c" f 1 1).events =
        some true := by
  intro t h store ds f
  have hpaired : isPaired Json.tagged store = true :=
    isPaired_of_pairing (Storer.pairing_savePairing_self Json.tagged_lawful _ (by decide) (by decide) (by decide))
  have hp : t.findC h 1 1 = some 0 := by decide
  have hget := getEntry_events_after_put CharLib.toy_lawful t "c" hpaired h ds f rfl hp
  exact ⟨⟨CharLib.toy_lawful, hpaired, rfl, hp⟩, hget, by rw [hget]; decide⟩

/-! ## Runs of PUT requests -/

/-- PUT requests handled one after another, on a fixed tree and pairing store:
the heap after them. -/
def putRun (lib : CharLib ν) (J : Json) (store : FsStore) (t : AccessoryTree) (h : Nat → Characteristic ν)
    (reqs : List (PutRequest ν)) : Nat → Characteristic ν :=
  reqs.foldl (fun h req => (putCharacteristics lib J store t h req).2) h

/-- **What no run of PUTs changes.** For every lawful hook library, over any
run of PUT requests, whatever they carry and answer: every characteristic keeps
its id and permissions, so `findC` resolves every `(aid, iid)` as before the
run, and an address that sent none of the requests keeps every subscription. -/
theorem putRun_invariants (hL : lib.Lawful) (t : AccessoryTree) {J : Json} {store : FsStore}
    (h : Nat → Characteristic ν) (reqs : List (PutRequest ν)) :
    SameShape h (putRun lib J store t h reqs) ∧
      (∀ aid iid, t.findC (putRun lib J store t h reqs) aid iid = t.findC h aid iid) ∧
      ∀ a, (∀ req ∈ reqs, req.addr ≠ a) → ∀ p,
        (putRun lib J store t h reqs p).events.lookup a = (h p).events.lookup a := by
  have hrun : SameShape h (putRun lib J store t h reqs) ∧
      ∀ a, (∀ req ∈ reqs, req.addr ≠ a) → ∀ p,
        (putRun lib J store t h reqs p).events.lookup a = (h p).events.lookup a := by
    induction reqs generalizing h with
    | nil => exact ⟨SameShape.refl h, fun _ _ _ => rfl⟩
    | cons req reqs ih =>
      obtain ⟨ihs, ihe⟩ := ih (putCharacteristics lib J store t h req).2
      refine ⟨(putCharacteristics_shape hL t h req).trans ihs, fun a ha p => ?_⟩
      rw [putRun, List.foldl_cons, ← putRun, ihe a (fun r hr => ha r (List.mem_cons_of_mem _ hr))]
      -- the step: the PUT's requester is not `a`
      rcases putCharacteristics_heap_cases t h req with hput | ⟨ds, hput⟩ <;> rw [hput]
      exact lookup_events_putCharacteristicsLoop_of_ne hL t req.addr ds h
        (Ne.symm (ha req (List.mem_cons_self _ _))) p
  exact ⟨hrun.1, fun aid iid => findC_congr (fun q => (hrun.1 q).1) t aid iid, hrun.2⟩

/-- Two PUTs from `"c"`: `"d"` keeps its subscription, and the tree resolves
as before. -/
theorem putRun_invariants_toy :
    let t : AccessoryTree := ⟨⟨1, [⟨[0]⟩]⟩, []⟩
    let h : Nat → Characteristic Nat := fun _ =>
      ⟨1, [], [permissionWrite, permissionEvents], [], [], none, none, none, 0, 0, ∅⟩
    let store := (Storer.savePairing Json.tagged ⟨[], ∅, by decide⟩ ⟨[0x63], [3], permissionAdmin⟩).2
    let reqs : List (PutRequest Nat) := [⟨"c", .ok [{ aid := 1, iid := 1, value := some 5 }]⟩,
      ⟨"c", .ok [{ aid := 1, iid := 1, events := some true }]⟩]
    CharLib.toy.Lawful ∧
      SameShape h (putRun CharLib.toy Json.tagged store t h reqs) ∧
      (∀ aid iid, t.findC (putRun CharLib.toy Json.tagged store t h reqs) aid iid = t.findC h aid iid) ∧
      ∀ a, (∀ req ∈ reqs, req.addr ≠ a) → ∀ p,
        (putRun CharLib.toy Json.tagged store t h reqs p).events.lookup a = (h p).events.lookup a :=
  ⟨CharLib.toy_lawful, putRun_invariants CharLib.toy_lawful _ _ _⟩

end Hap
