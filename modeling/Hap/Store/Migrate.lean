import Hap.Store.FsStore

/-!
# `migrate`: the store of earlier versions

Earlier versions kept one `.entity` file per party: the accessory's name and
key pair, and each controller's name and public key. `migrate` runs once, when
the store has no `schema` key: `migrateFromHc` turns every entity into the
accessory's `keypair` or a controller's `.pairing` file, and `schema` is set
to `"1"`.

* `migrateEntities_of_decoded`: when every entity reads, the loop returns nil
  exactly when no save is refused a file name (`Entity.refused`), and is then a
  fold of `migrateEntity` over the entities in key order (`migrateAll`);
* `lookup_pairing_foldl`, `lookup_keypair_foldl`: each written file holds its
  records written over each other (`writeAll`), without truncation;
* `migrate_legacy_store`: what the store holds after `migrate`.
-/

namespace Hap

/-- `entity`, the record earlier versions kept for the accessory and for each
controller. -/
structure Entity where
  name : Bytes
  publicKey : Bytes
  privateKey : Bytes
  deriving DecidableEq, Repr

/-- `KeyPair`, the accessory's long-term keys. -/
structure KeyPair where
  «public» : Bytes
  «private» : Bytes
  deriving DecidableEq, Repr

/-- `json.Unmarshal` into an `entity`, and `json.Marshal` and `json.Unmarshal`
of a `KeyPair`, which cannot fail on a struct of two byte slices. -/
structure LegacyJson where
  unmarshalEntity : Bytes → Except String Entity
  marshalKeyPair : KeyPair → Bytes
  unmarshalKeyPair : Bytes → Except String KeyPair

/-- What `migrate` needs of `encoding/json`: a string it decodes is valid
UTF-8, and a key pair reads back. -/
structure LegacyJson.Lawful (LJ : LegacyJson) : Prop where
  unmarshalEntity_name : ∀ b e, LJ.unmarshalEntity b = .ok e → validUTF8 e.name = true
  unmarshal_marshal : ∀ kp, LJ.unmarshalKeyPair (LJ.marshalKeyPair kp) = .ok kp

/-- A lawful instance in the format of `Json.tagged`. -/
def LegacyJson.tagged : LegacyJson where
  unmarshalEntity b :=
    match (untagBytes b).bind fun r => (untagBytes r.2).bind fun s => (untagBytes s.2).map fun t =>
      Entity.mk r.1 s.1 t.1 with
    | some e => if validUTF8 e.name then .ok e else .error "invalid UTF-8"
    | none => .error "invalid record"
  marshalKeyPair kp := tagBytes kp.public ++ tagBytes kp.«private» ++ [0x7D]
  unmarshalKeyPair b :=
    match untagBytes b with
    | none => .error "invalid public key"
    | some (pk, r) =>
      match untagBytes r with
      | some (sk, [0x7D]) => .ok ⟨pk, sk⟩
      | _ => .error "invalid character after top-level value"

theorem LegacyJson.tagged_lawful : LegacyJson.tagged.Lawful where
  unmarshalEntity_name b e h := by
    simp only [LegacyJson.tagged] at h
    split at h
    · split at h
      · cases h; assumption
      · cases h
    · cases h
  unmarshal_marshal kp := by simp [LegacyJson.tagged, List.append_assoc]

namespace Storer

/-- `storer.GetString`. -/
def getString (st : FsStore) (key : Bytes) : Except PathError Bytes := st.get key

/-- `storer.SetString`. -/
def setString (st : FsStore) (key value : Bytes) : Except PathError Unit × FsStore := st.set key value

variable (LJ : LegacyJson)

/-- `storer.entityForKey`: read the file and unmarshal it. -/
def entityForKey (st : FsStore) (key : Bytes) : Except StoreError Entity :=
  match st.get key with
  | .error e => .error (.path e)
  | .ok b => (LJ.unmarshalEntity b).mapError .json

/-- `storer.KeyPair`. -/
def keyPair (st : FsStore) : Except StoreError KeyPair :=
  match st.get (ascii "keypair") with
  | .error e => .error (.path e)
  | .ok b => (LJ.unmarshalKeyPair b).mapError .json

/-- `storer.SaveKeyPair`: `Marshal` cannot fail; the error is `Set`'s. -/
def saveKeyPair (st : FsStore) (kp : KeyPair) : Except PathError Unit × FsStore :=
  st.set (ascii "keypair") (LJ.marshalKeyPair kp)

end Storer

section Migrate

variable (J : Json) (LJ : LegacyJson)

/-- The loop body of `migrateFromHc` for an entity that read: without a name
or a public key it is skipped; with a private key it is the accessory's key
pair; otherwise a controller, saved with permission Admin (the "best guess"). -/
def migrateEntity (st : FsStore) (e : Entity) : Except PathError Unit × FsStore :=
  -- `len(e.Name) == 0 || len(e.PublicKey) == 0`, then `len(e.PrivateKey) > 0`
  if e.name.isEmpty || e.publicKey.isEmpty then (.ok (), st)
  else if !e.privateKey.isEmpty then Storer.saveKeyPair LJ st ⟨e.publicKey, e.privateKey⟩
  else Storer.savePairing J st ⟨e.name, e.publicKey, permissionAdmin⟩

/-- The loop of `migrateFromHc` over the keys; it returns the error of the
first entity that does not read or the first save that fails, with the store
as far as it got. -/
def migrateEntities : List Bytes → FsStore → Except StoreError Unit × FsStore
  | [], st => (.ok (), st)
  | k :: ks, st =>
    match Storer.entityForKey LJ st k with
    | .error e => (.error e, st)
    | .ok e =>
      match migrateEntity J LJ st e with
      | (.error err, st) => (.error (.path err), st)
      | (.ok (), st) => migrateEntities ks st

/-- `migrateFromHc`, over the `.entity` keys in name order. -/
def migrateFromHc (st : FsStore) : Except StoreError Unit × FsStore :=
  migrateEntities J LJ (st.keysWithSuffix (ascii ".entity")) st

/-- `migrate`: with no schema, migrate and set it to `"1"`; otherwise nothing. -/
def migrate (st : FsStore) : Except StoreError Unit × FsStore :=
  -- `s, _ := st.GetString("schema")`: the empty string when `Get` fails
  let s := match Storer.getString st (ascii "schema") with
    | .ok b => b
    | .error _ => []
  if s = [] then
    match migrateFromHc J LJ st with
    | (.error e, st) => (.error e, st)
    -- `st.SetString("schema", "1")`, whose error is dropped
    | (.ok (), st) => (.ok (), (Storer.setString st (ascii "schema") (ascii "1")).2)
  else (.ok (), st)

/-! ## The entities and their records -/

/-- A controller entity: a name and a public key, no private key. -/
def Entity.isController (e : Entity) : Bool := !e.name.isEmpty && !e.publicKey.isEmpty && e.privateKey.isEmpty

/-- The accessory's entity: a name, a public key and a private key. -/
def Entity.isAccessory (e : Entity) : Bool := !e.name.isEmpty && !e.publicKey.isEmpty && !e.privateKey.isEmpty

/-- The system refuses the file name `migrateEntity` writes for `e`: a
controller's `.pairing` file, or the accessory's `keypair`. -/
def Entity.refused (dir : Bytes) (e : Entity) : Bool :=
  e.isController && nameTooLong dir (keyForPairingName e.name) ||
    e.isAccessory && nameTooLong dir (ascii "keypair")

/-- The store after `migrateEntity` ran on each of `es` in turn. -/
def migrateAll (st : FsStore) (es : List Entity) : FsStore :=
  es.foldl (fun st e => (migrateEntity J LJ st e).2) st

/-- The entities `migrateFromHc` reads, in key order. -/
def legacyEntities (st : FsStore) : List Entity :=
  (st.keysWithSuffix (ascii ".entity")).filterMap fun k => (Storer.entityForKey LJ st k).toOption

/-- The records `migrateEntity` writes to the file of the controller `n`. -/
def pairingRecords (n : Bytes) (es : List Entity) : List Bytes :=
  (es.filter fun e => e.isController && e.name == n).map fun e => J.marshal ⟨e.name, e.publicKey, permissionAdmin⟩

/-- The records `migrateEntity` writes to `keypair`. -/
def keyPairRecords (es : List Entity) : List Bytes :=
  (es.filter Entity.isAccessory).map fun e => LJ.marshalKeyPair ⟨e.publicKey, e.privateKey⟩

/-- A file after `fsStore.Set` wrote each of `bs` in turn over `old`. -/
def writeAll (old : Option Bytes) (bs : List Bytes) : Option Bytes :=
  bs.foldl (fun o b => some (b ++ (o.getD []).drop b.length)) old

/-! ## What one entity writes -/

/-- An entity is skipped, saved as the key pair, or saved as a controller's
pairing. -/
theorem migrateEntity_cases (st : FsStore) (e : Entity) :
    (e.isController = false ∧ e.isAccessory = false ∧ migrateEntity J LJ st e = (.ok (), st)) ∨
    (e.isController = false ∧ e.isAccessory = true ∧
      migrateEntity J LJ st e = Storer.saveKeyPair LJ st ⟨e.publicKey, e.privateKey⟩) ∨
    (e.isController = true ∧ e.isAccessory = false ∧
      migrateEntity J LJ st e = Storer.savePairing J st ⟨e.name, e.publicKey, permissionAdmin⟩) := by
  unfold migrateEntity Entity.isController Entity.isAccessory
  cases e.name.isEmpty <;> cases e.publicKey.isEmpty <;> cases e.privateKey.isEmpty <;> simp

@[simp] theorem migrateEntity_path (st : FsStore) (e : Entity) : (migrateEntity J LJ st e).2.path = st.path := by
  rcases migrateEntity_cases J LJ st e with ⟨-, -, h⟩ | ⟨-, -, h⟩ | ⟨-, -, h⟩ <;> simp [h, Storer.saveKeyPair]

theorem sanitizeFilename_keypair : sanitizeFilename (ascii "keypair") = ascii "keypair" := by decide

/-- A step returns nil exactly when the system accepts the file it writes. -/
theorem migrateEntity_fst (st : FsStore) (e : Entity) :
    (migrateEntity J LJ st e).1 = .ok () ↔ e.refused st.path = false := by
  rcases migrateEntity_cases J LJ st e with ⟨hc, ha, h⟩ | ⟨hc, ha, h⟩ | ⟨hc, ha, h⟩
  · simp [h, Entity.refused, hc, ha]
  · rw [h, Storer.saveKeyPair, FsStore.set_fst, sanitizeFilename_keypair]
    cases hk : nameTooLong st.path (ascii "keypair") <;> simp [Entity.refused, hc, ha, hk]
  · rw [h, Storer.savePairing_fst]
    cases hk : nameTooLong st.path (keyForPairingName e.name) <;> simp [Entity.refused, hc, ha, hk]

theorem keyForPairingName_ne_of_not_suffix {n k : Bytes} (hk : ¬ ascii ".pairing" <:+ k) :
    keyForPairingName n ≠ k := by
  rintro rfl
  exact hk (suffix_keyForPairingName n)

/-- **Frame.** A step writes only `keypair` and `.pairing` files. -/
theorem lookup_migrateEntity_of_ne (st : FsStore) (e : Entity) {k : Bytes} (hk : ¬ ascii ".pairing" <:+ k)
    (hk' : k ≠ ascii "keypair") : (migrateEntity J LJ st e).2.files.lookup k = st.files.lookup k := by
  rcases migrateEntity_cases J LJ st e with ⟨-, -, h⟩ | ⟨-, -, h⟩ | ⟨-, -, h⟩ <;> rw [h]
  · rw [Storer.saveKeyPair, FsStore.lookup_set, sanitizeFilename_keypair, if_neg fun h => hk' h.1]
  · rw [Storer.savePairing, FsStore.lookup_set, sanitizeFilename_keyForPairingName,
      if_neg fun h => keyForPairingName_ne_of_not_suffix hk h.1.symm]

/-- A step the system does not refuse writes its pairing record to its name's
file. -/
theorem lookup_pairing_migrateEntity (st : FsStore) (e : Entity) (he : e.refused st.path = false) (n : Bytes) :
    (migrateEntity J LJ st e).2.files.lookup (keyForPairingName n) =
      writeAll (st.files.lookup (keyForPairingName n)) (pairingRecords J n [e]) := by
  have hne : keyForPairingName n ≠ ascii "keypair" :=
    keyForPairingName_ne_of_not_suffix (show ¬ ascii ".pairing" <:+ ascii "keypair" by decide)
  rcases migrateEntity_cases J LJ st e with ⟨hc, -, h⟩ | ⟨hc, -, h⟩ | ⟨hc, ha, h⟩
  · simp [h, pairingRecords, hc, writeAll]
  · rw [h, Storer.saveKeyPair, FsStore.lookup_set, sanitizeFilename_keypair, if_neg fun h => hne h.1]
    simp [pairingRecords, hc, writeAll]
  · have hfit : nameTooLong st.path (keyForPairingName e.name) = false := by
      simpa [Entity.refused, hc, ha] using he
    rw [h, Storer.savePairing, FsStore.lookup_set, sanitizeFilename_keyForPairingName]
    by_cases hn : e.name = n
    · subst hn; simp [pairingRecords, hc, writeAll, hfit]
    · rw [if_neg fun he => hn (keyForPairingName_injective he.1).symm]
      simp [pairingRecords, hc, hn, writeAll]

/-- A step the system does not refuse writes its key pair to `keypair`. -/
theorem lookup_keypair_migrateEntity (st : FsStore) (e : Entity) (he : e.refused st.path = false) :
    (migrateEntity J LJ st e).2.files.lookup (ascii "keypair") =
      writeAll (st.files.lookup (ascii "keypair")) (keyPairRecords LJ [e]) := by
  rcases migrateEntity_cases J LJ st e with ⟨hc, ha, h⟩ | ⟨hc, ha, h⟩ | ⟨hc, ha, h⟩
  · simp [h, keyPairRecords, ha, writeAll]
  · have hfit : nameTooLong st.path (ascii "keypair") = false := by
      simpa [Entity.refused, hc, ha] using he
    rw [h, Storer.saveKeyPair, FsStore.lookup_set, sanitizeFilename_keypair, if_pos ⟨rfl, hfit⟩]
    simp [keyPairRecords, ha, writeAll]
  · rw [h, Storer.savePairing, FsStore.lookup_set, sanitizeFilename_keyForPairingName,
      if_neg fun h => keyForPairingName_ne_of_not_suffix (by decide) h.1.symm]
    simp [keyPairRecords, ha, writeAll]

/-! ## Over the loop -/

theorem writeAll_append (old : Option Bytes) (bs cs : List Bytes) :
    writeAll old (bs ++ cs) = writeAll (writeAll old bs) cs := List.foldl_append _ _ _ _

@[simp] theorem migrateAll_cons (st : FsStore) (e : Entity) (es : List Entity) :
    migrateAll J LJ st (e :: es) = migrateAll J LJ (migrateEntity J LJ st e).2 es := rfl

@[simp] theorem migrateAll_path (st : FsStore) (es : List Entity) : (migrateAll J LJ st es).path = st.path := by
  induction es generalizing st with
  | nil => rfl
  | cons e es ih => rw [migrateAll_cons, ih, migrateEntity_path]

/-- **Run lemma.** A file whose every step the system does not refuse writes
the records `(es.filter p).map f` holds them written over each other. -/
theorem lookup_foldl_of_step {k : Bytes} (p : Entity → Bool) (f : Entity → Bytes)
    (hstep : ∀ st e, e.refused st.path = false →
      (migrateEntity J LJ st e).2.files.lookup k = writeAll (st.files.lookup k) (([e].filter p).map f))
    (es : List Entity) (st : FsStore) (hes : ∀ e ∈ es, e.refused st.path = false) :
    (migrateAll J LJ st es).files.lookup k = writeAll (st.files.lookup k) ((es.filter p).map f) := by
  induction es generalizing st with
  | nil => rfl
  | cons e es ih =>
    have hrest : ∀ e' ∈ es, e'.refused (migrateEntity J LJ st e).2.path = false := fun e' he' => by
      rw [migrateEntity_path]; exact hes e' (List.mem_cons_of_mem e he')
    rw [migrateAll_cons, ih _ hrest, hstep st e (hes e (List.mem_cons_self e es)), ← writeAll_append,
      ← List.map_append, ← List.filter_append]
    rfl

theorem lookup_pairing_foldl (n : Bytes) (es : List Entity) (st : FsStore)
    (hes : ∀ e ∈ es, e.refused st.path = false) :
    (migrateAll J LJ st es).files.lookup (keyForPairingName n) =
      writeAll (st.files.lookup (keyForPairingName n)) (pairingRecords J n es) :=
  lookup_foldl_of_step J LJ _ _ (fun st e he => lookup_pairing_migrateEntity J LJ st e he n) es st hes

theorem lookup_keypair_foldl (es : List Entity) (st : FsStore) (hes : ∀ e ∈ es, e.refused st.path = false) :
    (migrateAll J LJ st es).files.lookup (ascii "keypair") =
      writeAll (st.files.lookup (ascii "keypair")) (keyPairRecords LJ es) :=
  lookup_foldl_of_step J LJ _ _ (fun st e he => lookup_keypair_migrateEntity J LJ st e he) es st hes

theorem lookup_foldl_of_ne (es : List Entity) (st : FsStore) {k : Bytes} (hk : ¬ ascii ".pairing" <:+ k)
    (hk' : k ≠ ascii "keypair") : (migrateAll J LJ st es).files.lookup k = st.files.lookup k := by
  induction es generalizing st with
  | nil => rfl
  | cons e es ih => rw [migrateAll_cons, ih, lookup_migrateEntity_of_ne J LJ st e hk hk']

/-- A sanitized `.entity` key is still one, and so neither `keypair` nor a
`.pairing` file. -/
theorem suffix_sanitizeFilename_entity {k : Bytes} (hk : ascii ".entity" <:+ k) :
    ascii ".entity" <:+ sanitizeFilename k := by
  obtain ⟨pre, rfl⟩ := hk
  exact ⟨pre.filter (· != 0x3A), by rw [sanitizeFilename, List.filter_append]; rfl⟩

theorem not_pairing_of_entity {k : Bytes} (hk : ascii ".entity" <:+ k) : ¬ ascii ".pairing" <:+ k :=
  fun hp => absurd (List.suffix_of_suffix_length_le hk hp (by decide)) (by decide)

theorem ne_keypair_of_entity {k : Bytes} (hk : ascii ".entity" <:+ k) : k ≠ ascii "keypair" := by
  rintro rfl
  exact absurd hk (by decide)

/-- The steps leave the `.entity` files, so every entity reads as before. -/
theorem entityForKey_migrateEntity (st : FsStore) (e : Entity) {k : Bytes} (hk : ascii ".entity" <:+ k) :
    Storer.entityForKey LJ (migrateEntity J LJ st e).2 k = Storer.entityForKey LJ st k := by
  have hs := suffix_sanitizeFilename_entity hk
  simp only [Storer.entityForKey, FsStore.get, FsStore.pathError, FsStore.filePathToFile, migrateEntity_path,
    lookup_migrateEntity_of_ne J LJ st e (not_pairing_of_entity hs) (ne_keypair_of_entity hs)]

/-- **The loop.** When every key names a `.entity` file that reads,
`migrateEntities` returns nil exactly when the system refuses none of the
files it writes, and it has then migrated the entities in key order. -/
theorem migrateEntities_of_decoded (ks : List Bytes) (st : FsStore)
    (hks : ∀ k ∈ ks, ascii ".entity" <:+ k ∧ ∃ e, Storer.entityForKey LJ st k = .ok e) :
    ((migrateEntities J LJ ks st).1 = .ok () ↔
      ∀ e ∈ ks.filterMap (fun k => (Storer.entityForKey LJ st k).toOption), e.refused st.path = false) ∧
    ((∀ e ∈ ks.filterMap (fun k => (Storer.entityForKey LJ st k).toOption), e.refused st.path = false) →
      (migrateEntities J LJ ks st).2 =
        migrateAll J LJ st (ks.filterMap fun k => (Storer.entityForKey LJ st k).toOption)) := by
  induction ks generalizing st with
  | nil => simp [migrateEntities, migrateAll]
  | cons k ks ih =>
    obtain ⟨-, e, he⟩ := hks k (List.mem_cons_self k ks)
    have hfst := migrateEntity_fst J LJ st e
    simp only [migrateEntities, he, List.filterMap_cons, Except.toOption, List.mem_cons, forall_eq_or_imp,
      migrateAll_cons]
    cases hm : migrateEntity J LJ st e with
    | mk r st' =>
      rw [hm] at hfst
      cases r with
      | error err =>
        -- the save is refused, and the loop stops with its error
        simp only [reduceCtorEq, false_iff] at hfst
        simp [hfst]
      | ok u =>
        -- the next entities read in `st'` as they did in `st`
        have hpath : st'.path = st.path := by rw [← migrateEntity_path J LJ st e, hm]
        have hsame : ∀ k' ∈ ks, Storer.entityForKey LJ st' k' = Storer.entityForKey LJ st k' := fun k' hk' => by
          rw [← entityForKey_migrateEntity J LJ st e (hks k' (List.mem_cons_of_mem k hk')).1, hm]
        have ih' := ih st' fun k' hk' => ⟨(hks k' (List.mem_cons_of_mem k hk')).1, by
          rw [hsame k' hk']; exact (hks k' (List.mem_cons_of_mem k hk')).2⟩
        rw [List.filterMap_congr fun k' hk' => by rw [hsame k' hk'], hpath] at ih'
        simpa [hfst.1 rfl] using ih'

/-! ## Reading the files back -/

theorem length_writeAll_le {m : Nat} {old : Option Bytes} (hold : (old.getD []).length ≤ m) {bs : List Bytes}
    (hbs : ∀ b ∈ bs, b.length ≤ m) : ((writeAll old bs).getD []).length ≤ m := by
  induction bs generalizing old with
  | nil => exact hold
  | cons b bs ih =>
    have hb := hbs b (List.mem_cons_self b bs)
    refine ih ?_ fun b' hb' => hbs b' (List.mem_cons_of_mem b hb')
    simp only [Option.getD_some, List.length_append, List.length_drop]
    omega

/-- The last record is the file when neither the old file nor an earlier record
was longer. -/
theorem writeAll_last {old : Option Bytes} {bs : List Bytes} {b : Bytes} (hold : (old.getD []).length ≤ b.length)
    (hbs : ∀ b' ∈ bs, b'.length ≤ b.length) : writeAll old (bs ++ [b]) = some b := by
  rw [writeAll_append]
  show some (b ++ ((writeAll old bs).getD []).drop b.length) = some b
  rw [List.drop_eq_nil_of_le (length_writeAll_le hold hbs), List.append_nil]

/-- Writing records over an old file keeps it at least as long, and ending
with `}` when it and every record do. -/
theorem writeAll_some_closing {old : Bytes} (hold : old.getLast? = some 0x7D) {bs : List Bytes}
    (hbs : ∀ b ∈ bs, b.getLast? = some 0x7D) :
    old.length ≤ ((writeAll (some old) bs).getD []).length ∧
      ((writeAll (some old) bs).getD []).getLast? = some 0x7D := by
  induction bs generalizing old with
  | nil => exact ⟨le_rfl, hold⟩
  | cons b bs ih =>
    have hlast : (b ++ old.drop b.length).getLast? = some 0x7D := by
      by_cases hd : old.drop b.length = []
      · rw [hd, List.append_nil]; exact hbs b (List.mem_cons_self b bs)
      · rw [List.getLast?_append_of_ne_nil _ hd, List.getLast?_drop, if_neg (by simpa using hd), hold]
    obtain ⟨hlen, hend⟩ := ih hlast fun b' hb' => hbs b' (List.mem_cons_of_mem b hb')
    refine ⟨le_trans ?_ hlen, hend⟩
    simp only [List.length_append, List.length_drop]
    omega

/-- An entity that reads has a UTF-8 name. -/
theorem validUTF8_of_mem_legacyEntities (hLJ : LJ.Lawful) {st : FsStore} {e : Entity}
    (he : e ∈ legacyEntities LJ st) : validUTF8 e.name = true := by
  obtain ⟨k, -, hk⟩ := List.mem_filterMap.1 he
  unfold Storer.entityForKey at hk
  split at hk
  · cases hk
  · rename_i b _
    cases hb : LJ.unmarshalEntity b with
    | error => simp [hb, Except.mapError, Except.toOption] at hk
    | ok e' =>
      simp only [hb, Except.mapError, Except.toOption, Option.some.injEq] at hk
      exact hk ▸ hLJ.unmarshalEntity_name b e' hb

theorem sanitizeFilename_schema : sanitizeFilename (ascii "schema") = ascii "schema" := by decide

/-- With no schema file, `migrate` runs the migration and then sets the schema. -/
theorem migrate_of_missing_schema (st : FsStore) (hschema : st.files.lookup (ascii "schema") = none) :
    migrate J LJ st = match migrateFromHc J LJ st with
      | (.error e, st) => (.error e, st)
      | (.ok (), st) => (.ok (), (Storer.setString st (ascii "schema") (ascii "1")).2) := by
  have hget : Storer.getString st (ascii "schema") = .error (st.pathError "open" (ascii "schema")) :=
    FsStore.get_of_lookup_none (by rwa [sanitizeFilename_schema])
  simp only [migrate, hget, if_true]

/-- **`migrate` on a store without schema.** Every entity reads, so `migrate`
returns nil exactly when the system refuses none of the files the migration
writes; it has then migrated every entity and set the schema. -/
theorem migrate_of_decoded (st : FsStore) (hschema : st.files.lookup (ascii "schema") = none)
    (hdecode : ∀ k ∈ st.keysWithSuffix (ascii ".entity"), ∃ e, Storer.entityForKey LJ st k = .ok e) :
    ((migrate J LJ st).1 = .ok () ↔ ∀ e ∈ legacyEntities LJ st, e.refused st.path = false) ∧
    ((∀ e ∈ legacyEntities LJ st, e.refused st.path = false) → (migrate J LJ st).2 =
      (Storer.setString (migrateAll J LJ st (legacyEntities LJ st)) (ascii "schema") (ascii "1")).2) := by
  have hks : ∀ k ∈ st.keysWithSuffix (ascii ".entity"),
      ascii ".entity" <:+ k ∧ ∃ e, Storer.entityForKey LJ st k = .ok e :=
    fun k hk => ⟨((FsStore.mem_keysWithSuffix _ _ _).1 hk).2, hdecode k hk⟩
  obtain ⟨hiff, hall⟩ := migrateEntities_of_decoded J LJ _ st hks
  unfold legacyEntities
  rw [migrate_of_missing_schema J LJ st hschema, migrateFromHc]
  cases hm : migrateEntities J LJ (st.keysWithSuffix (ascii ".entity")) st with
  | mk r st' =>
    rw [hm] at hiff hall
    cases r with
    | error e => exact ⟨by simpa using hiff, fun h => absurd (hiff.2 h) (by simp)⟩
    | ok u => exact ⟨by simpa using hiff, fun h => by rw [← show st' = _ from hall h]⟩

section Readback

variable (st : FsStore) (hschema : st.files.lookup (ascii "schema") = none)
  (hdecode : ∀ k ∈ st.keysWithSuffix (ascii ".entity"), ∃ e, Storer.entityForKey LJ st k = .ok e)
  (hfit : ∀ e ∈ legacyEntities LJ st, e.refused st.path = false)

include hschema hdecode hfit

/-- After `migrate`, every file but `schema` is as the loop left it. -/
theorem lookup_migrate_of_ne {k : Bytes} (hk : k ≠ ascii "schema") :
    (migrate J LJ st).2.files.lookup k = (migrateAll J LJ st (legacyEntities LJ st)).files.lookup k := by
  rw [(migrate_of_decoded J LJ st hschema hdecode).2 hfit, Storer.setString, FsStore.lookup_set,
    sanitizeFilename_schema, if_neg fun h => hk h.1]

/-- After `migrate`, `schema` reads `"1"` when the system accepts its name. -/
theorem getString_schema_migrate (hdir : nameTooLong st.path (ascii "schema") = false) :
    Storer.getString (migrate J LJ st).2 (ascii "schema") = .ok (ascii "1") := by
  apply FsStore.get_of_lookup
  rw [(migrate_of_decoded J LJ st hschema hdecode).2 hfit, Storer.setString, FsStore.lookup_set,
    sanitizeFilename_schema, migrateAll_path, if_pos ⟨rfl, hdir⟩, lookup_foldl_of_ne J LJ _ st (by decide) (by decide),
    hschema]
  rfl

/-- The last controller entity named `n` reads back, when no earlier record
and not the old file is longer. -/
theorem pairing_migrate_of_last (hJ : J.Lawful) (hLJ : LJ.Lawful) {n : Bytes} {ps : List Entity} {e : Entity}
    (hes : (legacyEntities LJ st).filter (fun e => e.isController && e.name == n) = ps ++ [e])
    (hps : ∀ q ∈ ps, (J.marshal ⟨q.name, q.publicKey, permissionAdmin⟩).length ≤
      (J.marshal ⟨e.name, e.publicKey, permissionAdmin⟩).length)
    (hold : ((st.files.lookup (keyForPairingName n)).getD []).length ≤
      (J.marshal ⟨e.name, e.publicKey, permissionAdmin⟩).length) :
    Storer.pairing J (migrate J LJ st).2 n = .ok ⟨n, e.publicKey, permissionAdmin⟩ := by
  have he : e ∈ (legacyEntities LJ st).filter fun e => e.isController && e.name == n := by
    rw [hes]; exact List.mem_append_right ps (List.mem_singleton_self e)
  have hname : e.name = n := by
    have := (List.mem_filter.1 he).2
    simp only [Bool.and_eq_true, beq_iff_eq] at this
    exact this.2
  have hl : (migrate J LJ st).2.files.lookup (keyForPairingName n) =
      some (J.marshal ⟨e.name, e.publicKey, permissionAdmin⟩) := by
    rw [lookup_migrate_of_ne J LJ st hschema hdecode hfit (keyForPairingName_ne_of_not_suffix (by decide)),
      lookup_pairing_foldl J LJ _ _ _ hfit, pairingRecords, hes, List.map_append, List.map_singleton,
      writeAll_last hold (by simpa using hps)]
  rw [Storer.pairing_of_lookup hl, hJ.unmarshal_marshal,
    (coerceUTF8_eq_self_iff _).2 (validUTF8_of_mem_legacyEntities LJ hLJ (List.mem_of_mem_filter he)), hname]
  rfl

/-- An old `.pairing` file longer than the last record for its name: the
migration writes the record over it without truncating, and `Pairing(n)`
fails. -/
theorem pairing_migrate_of_longer_file (hJ : J.Lawful) {n old : Bytes} {ps : List Entity} {e : Entity}
    (hes : (legacyEntities LJ st).filter (fun e => e.isController && e.name == n) = ps ++ [e])
    (hold : st.files.lookup (keyForPairingName n) = some old) (hlast : old.getLast? = some 0x7D)
    (hlt : (J.marshal ⟨e.name, e.publicKey, permissionAdmin⟩).length < old.length) :
    ∃ err, Storer.pairing J (migrate J LJ st).2 n = .error err := by
  have hbs : ∀ b ∈ ps.map fun q => J.marshal ⟨q.name, q.publicKey, permissionAdmin⟩, b.getLast? = some 0x7D := by
    simpa using fun q _ => hJ.marshal_getLast _
  obtain ⟨hlen, hend⟩ := writeAll_some_closing hlast hbs
  set w := (writeAll (some old) (ps.map fun q => J.marshal ⟨q.name, q.publicKey, permissionAdmin⟩)).getD []
  have htail : (w.drop (J.marshal ⟨e.name, e.publicKey, permissionAdmin⟩).length).getLast? = some 0x7D := by
    rw [List.getLast?_drop, if_neg (by omega), hend]
  obtain ⟨err, herr⟩ := hJ.unmarshal_closing _ htail
  have hl : (migrate J LJ st).2.files.lookup (keyForPairingName n) =
      some (J.marshal ⟨e.name, e.publicKey, permissionAdmin⟩ ++
        w.drop (J.marshal ⟨e.name, e.publicKey, permissionAdmin⟩).length) := by
    rw [lookup_migrate_of_ne J LJ st hschema hdecode hfit (keyForPairingName_ne_of_not_suffix (by decide)),
      lookup_pairing_foldl J LJ _ _ _ hfit, pairingRecords, hes, List.map_append, List.map_singleton,
      writeAll_append, hold]
    rfl
  exact ⟨.json err, by rw [Storer.pairing_of_lookup hl, herr]; rfl⟩

/-- The last accessory entity is the key pair, when no earlier record and not
the old file is longer. -/
theorem keyPair_migrate_of_last (hLJ : LJ.Lawful) {ps : List Entity} {a : Entity}
    (hes : (legacyEntities LJ st).filter Entity.isAccessory = ps ++ [a])
    (hps : ∀ q ∈ ps, (LJ.marshalKeyPair ⟨q.publicKey, q.privateKey⟩).length ≤
      (LJ.marshalKeyPair ⟨a.publicKey, a.privateKey⟩).length)
    (hold : ((st.files.lookup (ascii "keypair")).getD []).length ≤ (LJ.marshalKeyPair ⟨a.publicKey, a.privateKey⟩).length) :
    Storer.keyPair LJ (migrate J LJ st).2 = .ok ⟨a.publicKey, a.privateKey⟩ := by
  have hl : (migrate J LJ st).2.files.lookup (ascii "keypair") = some (LJ.marshalKeyPair ⟨a.publicKey, a.privateKey⟩) := by
    rw [lookup_migrate_of_ne J LJ st hschema hdecode hfit (by decide), lookup_keypair_foldl J LJ _ _ hfit,
      keyPairRecords, hes, List.map_append, List.map_singleton, writeAll_last hold (by simpa using hps)]
  rw [Storer.keyPair, FsStore.get_of_lookup (by rwa [sanitizeFilename_keypair])]
  dsimp only
  rw [hLJ.unmarshal_marshal]
  rfl

end Readback

/-- With the schema at `"1"`, `migrate` does nothing. -/
theorem migrate_of_schema (st : FsStore) (h : Storer.getString st (ascii "schema") = .ok (ascii "1")) :
    migrate J LJ st = (.ok (), st) := by
  simp only [migrate, h]
  rfl

/-- **Migrating a store of earlier versions.** Take a store with no `schema`
file whose `.entity` files all read. `migrate` returns nil exactly when the
system refuses none of the files the migration writes: a controller's
`.pairing` file (refused from a name of 124 bytes on) or `keypair`. When it
returns nil and the system accepts the name `schema`, `schema` reads `"1"` and
a second `migrate` changes nothing. A name `n` reads back as the last
controller entity named `n` in key order, with permission Admin, and
`KeyPair()` as the last accessory entity, each when no earlier record and not
the file that was there before is longer. `Set` does not truncate: an older
`.pairing` file longer than the record keeps its tail after it, and
`Pairing(n)` fails. -/
theorem migrate_legacy_store (hJ : J.Lawful) (hLJ : LJ.Lawful) (st : FsStore)
    (hschema : st.files.lookup (ascii "schema") = none)
    (hdecode : ∀ k ∈ st.keysWithSuffix (ascii ".entity"), ∃ e, Storer.entityForKey LJ st k = .ok e) :
    let st' := (migrate J LJ st).2
    ((migrate J LJ st).1 = .ok () ↔ ∀ e ∈ legacyEntities LJ st, e.refused st.path = false) ∧
    ((migrate J LJ st).1 = .ok () →
      (nameTooLong st.path (ascii "schema") = false →
        Storer.getString st' (ascii "schema") = .ok (ascii "1") ∧ migrate J LJ st' = (.ok (), st')) ∧
      (∀ n ps e, (legacyEntities LJ st).filter (fun e => e.isController && e.name == n) = ps ++ [e] →
        (∀ q ∈ ps, (J.marshal ⟨q.name, q.publicKey, permissionAdmin⟩).length ≤
          (J.marshal ⟨e.name, e.publicKey, permissionAdmin⟩).length) →
        ((st.files.lookup (keyForPairingName n)).getD []).length ≤
          (J.marshal ⟨e.name, e.publicKey, permissionAdmin⟩).length →
        Storer.pairing J st' n = .ok ⟨n, e.publicKey, permissionAdmin⟩) ∧
      (∀ n ps e old, (legacyEntities LJ st).filter (fun e => e.isController && e.name == n) = ps ++ [e] →
        st.files.lookup (keyForPairingName n) = some old → old.getLast? = some 0x7D →
        (J.marshal ⟨e.name, e.publicKey, permissionAdmin⟩).length < old.length →
        ∃ err, Storer.pairing J st' n = .error err) ∧
      (∀ ps a, (legacyEntities LJ st).filter Entity.isAccessory = ps ++ [a] →
        (∀ q ∈ ps, (LJ.marshalKeyPair ⟨q.publicKey, q.privateKey⟩).length ≤
          (LJ.marshalKeyPair ⟨a.publicKey, a.privateKey⟩).length) →
        ((st.files.lookup (ascii "keypair")).getD []).length ≤ (LJ.marshalKeyPair ⟨a.publicKey, a.privateKey⟩).length →
        Storer.keyPair LJ st' = .ok ⟨a.publicKey, a.privateKey⟩)) := by
  have hmig := migrate_of_decoded J LJ st hschema hdecode
  refine ⟨hmig.1, fun hok => ?_⟩
  have hfit := hmig.1.1 hok
  have hschema' := getString_schema_migrate J LJ st hschema hdecode hfit
  exact ⟨fun hdir => ⟨hschema' hdir, migrate_of_schema J LJ _ (hschema' hdir)⟩,
    fun _ _ _ => pairing_migrate_of_last J LJ st hschema hdecode hfit hJ hLJ,
    fun _ _ _ _ => pairing_migrate_of_longer_file J LJ st hschema hdecode hfit hJ,
    fun _ _ => keyPair_migrate_of_last J LJ st hschema hdecode hfit hLJ⟩

end Migrate

/-- A controller entity `c` with key `[1]`, next to a `.pairing` file for `c`
that holds a longer record (key `[1, 2, 3, 4]`); every hypothesis holds.
`migrate` returns nil, writes `c`'s record over the old one without
truncating, and `Pairing("c")` fails. -/
theorem migrate_over_longer_pairing :
    let old : Bytes := Json.tagged.marshal ⟨[0x63], [1, 2, 3, 4], permissionAdmin⟩
    let st : FsStore := ⟨[], ((∅ : AList fun _ : Bytes => Bytes).insert (ascii "63.entity")
      [1, 0x63, 0, 1, 1, 0, 0]).insert (keyForPairingName [0x63]) old, by decide⟩
    (Json.tagged.Lawful ∧ LegacyJson.tagged.Lawful ∧ st.files.lookup (ascii "schema") = none ∧
      ∀ k ∈ st.keysWithSuffix (ascii ".entity"), ∃ e, Storer.entityForKey LegacyJson.tagged st k = .ok e) ∧
    legacyEntities LegacyJson.tagged st = [⟨[0x63], [1], []⟩] ∧
    (migrate Json.tagged LegacyJson.tagged st).1 = .ok () ∧
    ∃ err, Storer.pairing Json.tagged (migrate Json.tagged LegacyJson.tagged st).2 [0x63] = .error err := by
  intro old st
  have hentity : st.files.lookup (ascii "63.entity") = some [1, 0x63, 0, 1, 1, 0, 0] := by decide
  have he : Storer.entityForKey LegacyJson.tagged st (ascii "63.entity") = .ok ⟨[0x63], [1], []⟩ := by
    rw [Storer.entityForKey, FsStore.get_of_lookup (show st.files.lookup (sanitizeFilename (ascii "63.entity")) =
      some [1, 0x63, 0, 1, 1, 0, 0] by decide)]
    rfl
  have hkeys : st.keysWithSuffix (ascii ".entity") = [ascii "63.entity"] := by
    refine FsStore.keysWithSuffix_eq_singleton (by rw [hentity]; rfl) (by decide) fun k hk hs => ?_
    by_contra hne
    have hp : k = keyForPairingName [0x63] := by
      by_contra hnp
      simp only [st, AList.lookup_insert_ne hnp, AList.lookup_insert_ne hne, AList.lookup_empty,
        Option.isSome_none, Bool.false_eq_true] at hk
    exact absurd (hp ▸ hs) (by decide)
  have hschema : st.files.lookup (ascii "schema") = none := by decide
  have hdecode : ∀ k ∈ st.keysWithSuffix (ascii ".entity"), ∃ e, Storer.entityForKey LegacyJson.tagged st k = .ok e := by
    rw [hkeys]
    rintro k hk
    rw [List.mem_singleton.1 hk]
    exact ⟨_, he⟩
  have hles : legacyEntities LegacyJson.tagged st = [⟨[0x63], [1], []⟩] := by
    rw [legacyEntities, hkeys, List.filterMap_cons, he]
    rfl
  have H := migrate_legacy_store Json.tagged LegacyJson.tagged Json.tagged_lawful LegacyJson.tagged_lawful st
    hschema hdecode
  have hok : (migrate Json.tagged LegacyJson.tagged st).1 = .ok () := H.1.2 (by rw [hles]; decide)
  refine ⟨⟨Json.tagged_lawful, LegacyJson.tagged_lawful, hschema, hdecode⟩, hles, hok, ?_⟩
  exact (H.2 hok).2.2.1 [0x63] [] ⟨[0x63], [1], []⟩ old (by rw [hles]; decide) (by decide) (by decide) (by decide)

/-! ## `migrate` runs once -/

section Once

variable (J : Json) (LJ : LegacyJson)

/-- **Run lemma.** However far it gets, the migration loop writes no file but
the `.pairing` files and `keypair`. -/
theorem lookup_migrateEntities_of_ne (ks : List Bytes) (st : FsStore) {k : Bytes} (hk : ¬ ascii ".pairing" <:+ k)
    (hkp : k ≠ ascii "keypair") : (migrateEntities J LJ ks st).2.files.lookup k = st.files.lookup k := by
  induction ks generalizing st with
  | nil => rfl
  | cons k' ks ih =>
    rw [migrateEntities]
    split
    · rfl
    · rename_i e _
      have hstep := lookup_migrateEntity_of_ne J LJ st e hk hkp
      cases hm : migrateEntity J LJ st e with
      | mk r st' =>
        rw [hm] at hstep
        cases r with
        | error => exact hstep
        | ok u => exact (ih st').trans hstep

@[simp] theorem migrateEntities_path (ks : List Bytes) (st : FsStore) :
    (migrateEntities J LJ ks st).2.path = st.path := by
  induction ks generalizing st with
  | nil => rfl
  | cons k' ks ih =>
    rw [migrateEntities]
    split
    · rfl
    · rename_i e _
      have hstep := migrateEntity_path J LJ st e
      cases hm : migrateEntity J LJ st e with
      | mk r st' =>
        rw [hm] at hstep
        cases r with
        | error => exact hstep
        | ok u => exact (ih st').trans hstep

/-- The migration loop never writes `schema`. -/
theorem lookup_schema_migrateEntities (ks : List Bytes) (st : FsStore) :
    (migrateEntities J LJ ks st).2.files.lookup (ascii "schema") = st.files.lookup (ascii "schema") :=
  lookup_migrateEntities_of_ne J LJ ks st (by decide) (by decide)

/-- When the system refuses the name `schema`, it refuses every file the loop
writes, whose names are longer; a loop that returns nil has skipped every
entity. -/
theorem migrateEntities_of_schema_refused (ks : List Bytes) (st : FsStore)
    (h : nameTooLong st.path (ascii "schema") = true) (hok : (migrateEntities J LJ ks st).1 = .ok ()) :
    (migrateEntities J LJ ks st).2 = st := by
  induction ks with
  | nil => rfl
  | cons k ks ih =>
    revert hok
    rw [migrateEntities]
    split
    · intro h; cases h
    · rename_i e _
      rcases migrateEntity_cases J LJ st e with ⟨-, -, hm⟩ | ⟨-, -, hm⟩ | ⟨-, -, hm⟩ <;> rw [hm]
      · exact ih
      · rw [Storer.saveKeyPair, FsStore.set_of_nameTooLong _ (nameTooLong_mono h (by decide))]
        intro h; cases h
      · rw [Storer.savePairing_of_nameTooLong (nameTooLong_mono h (by rw [length_keyForPairingName]; exact le_trans (by decide) (Nat.le_add_left 8 _)))]
        intro h; cases h

/-- **`migrate` runs once.** On every store where `migrate` returns nil, a
second `migrate` returns nil and changes nothing. A schema that was set stays
as it is; otherwise the schema file was missing or empty, and the migration
wrote `"1"` into it, with no byte of an older schema left after it, or the
system refused the name `schema` and the migration wrote nothing at all. -/
theorem migrate_idempotent (st : FsStore) (h : (migrate J LJ st).1 = .ok ()) :
    migrate J LJ (migrate J LJ st).2 = (.ok (), (migrate J LJ st).2) := by
  by_cases hs : (match Storer.getString st (ascii "schema") with | .ok b => b | .error _ => []) = []
  · -- the schema file is missing or empty
    have hold : (st.files.lookup (ascii "schema")).getD [] = [] := by
      cases hl : st.files.lookup (ascii "schema") with
      | none => rfl
      | some c => rwa [Storer.getString, FsStore.get_of_lookup (by rwa [sanitizeFilename_schema])] at hs
    have hmig : migrate J LJ st = match migrateFromHc J LJ st with
        | (.error e, st) => (.error e, st)
        | (.ok (), st) => (.ok (), (Storer.setString st (ascii "schema") (ascii "1")).2) := by
      simp only [migrate, hs, if_true]
    cases hm : migrateFromHc J LJ st with
    | mk r st' =>
      rw [hmig, hm] at h ⊢
      cases r with
      | error e => cases h
      | ok u =>
        cases u
        dsimp only
        have hloop : migrateEntities J LJ (st.keysWithSuffix (ascii ".entity")) st = (.ok (), st') := hm
        have hframe := lookup_schema_migrateEntities J LJ (st.keysWithSuffix (ascii ".entity")) st
        have hpath := migrateEntities_path J LJ (st.keysWithSuffix (ascii ".entity")) st
        rw [hloop] at hframe hpath
        cases hdir : nameTooLong st'.path (ascii "schema")
        · -- the migration wrote `"1"` into the schema file
          apply migrate_of_schema
          apply FsStore.get_of_lookup
          rw [Storer.setString, FsStore.lookup_set, sanitizeFilename_schema, if_pos ⟨rfl, hdir⟩, hframe, hold]
          rfl
        · -- the name `schema` is refused: nothing was written, and the migration runs again to the same end
          have hset : (Storer.setString st' (ascii "schema") (ascii "1")).2 = st' := by
            rw [Storer.setString, FsStore.set_of_nameTooLong _ (by rwa [sanitizeFilename_schema])]
          obtain rfl : st' = st := by
            have := migrateEntities_of_schema_refused J LJ _ st (by rwa [← hpath]) (by rw [hloop])
            rwa [hloop] at this
          rw [hset, hmig, hm]
          exact Prod.ext rfl hset
  · simp only [migrate, if_neg hs]

/-- **`migrate` keeps the other files.** On every store, whether it returns nil
or an error, `migrate` changes no file but the `.pairing` files, `keypair`
and `schema`, and `schema` only when it returns nil: the `.entity` files of
the older versions are never removed, and after an error the next `migrate`
runs the migration again. -/
theorem migrate_keeps_files (st : FsStore) {k : Bytes} (hk : ¬ ascii ".pairing" <:+ k)
    (hkp : k ≠ ascii "keypair") :
    (migrate J LJ st).2.files.lookup k = st.files.lookup k ∨
      k = ascii "schema" ∧ (migrate J LJ st).1 = .ok () := by
  have hloop := lookup_migrateEntities_of_ne J LJ (st.keysWithSuffix (ascii ".entity")) st hk hkp
  unfold migrate migrateFromHc
  dsimp only
  split_ifs
  · cases hm : migrateEntities J LJ (st.keysWithSuffix (ascii ".entity")) st with
    | mk r st' =>
      rw [hm] at hloop
      cases r with
      | error e => exact .inl hloop
      | ok u =>
        cases u
        by_cases hs : k = ascii "schema"
        · exact .inr ⟨hs, rfl⟩
        · refine .inl ?_
          dsimp only
          rw [Storer.setString, FsStore.lookup_set, sanitizeFilename_schema, if_neg fun h => hs h.1, hloop]
  · exact .inl rfl

end Once

/-- A store with an empty `schema` file and one controller entity: `migrate`
returns nil, and a second run changes nothing. -/
theorem migrate_idempotent_toy :
    let st : FsStore := ⟨[], ((∅ : AList fun _ : Bytes => Bytes).insert (ascii "63.entity")
      [1, 0x63, 0, 1, 1, 0, 0]).insert (ascii "schema") [], by decide⟩
    (migrate Json.tagged LegacyJson.tagged st).1 = .ok () ∧
      migrate Json.tagged LegacyJson.tagged (migrate Json.tagged LegacyJson.tagged st).2 =
        (.ok (), (migrate Json.tagged LegacyJson.tagged st).2) := by
  intro st
  have hget : Storer.getString st (ascii "schema") = .ok [] :=
    FsStore.get_of_lookup (show st.files.lookup (sanitizeFilename (ascii "schema")) = some [] by decide)
  have hentity : st.files.lookup (ascii "63.entity") = some [1, 0x63, 0, 1, 1, 0, 0] := by decide
  have hkeys : st.keysWithSuffix (ascii ".entity") = [ascii "63.entity"] := by
    refine FsStore.keysWithSuffix_eq_singleton (by rw [hentity]; rfl) (by decide) fun k hk hs => ?_
    by_contra hne
    have hp : k = ascii "schema" := by
      by_contra hnp
      simp only [st, AList.lookup_insert_ne hnp, AList.lookup_insert_ne hne, AList.lookup_empty,
        Option.isSome_none, Bool.false_eq_true] at hk
    exact absurd (hp ▸ hs) (by decide)
  have he : Storer.entityForKey LegacyJson.tagged st (ascii "63.entity") = .ok ⟨[0x63], [1], []⟩ := by
    rw [Storer.entityForKey, FsStore.get_of_lookup (show st.files.lookup (sanitizeFilename (ascii "63.entity")) =
      some [1, 0x63, 0, 1, 1, 0, 0] by decide)]
    rfl
  obtain ⟨st', hsave⟩ : ∃ st', migrateEntity Json.tagged LegacyJson.tagged st ⟨[0x63], [1], []⟩ = (.ok (), st') :=
    ⟨_, Prod.ext ((migrateEntity_fst _ _ _ _).2 (by decide)) rfl⟩
  have hok : (migrate Json.tagged LegacyJson.tagged st).1 = .ok () := by
    simp only [migrate, hget, if_true, migrateFromHc, hkeys, migrateEntities, he, hsave]
  exact ⟨hok, migrate_idempotent Json.tagged LegacyJson.tagged st hok⟩

/-- The `.entity` file of the toy store is kept. -/
theorem migrate_keeps_files_toy :
    let st : FsStore := ⟨[], (∅ : AList fun _ : Bytes => Bytes).insert (ascii "63.entity") [1, 0x63, 0, 1, 1, 0, 0],
      by decide⟩
    (¬ ascii ".pairing" <:+ ascii "63.entity" ∧ ascii "63.entity" ≠ ascii "keypair") ∧
      ((migrate Json.tagged LegacyJson.tagged st).2.files.lookup (ascii "63.entity") = st.files.lookup (ascii "63.entity") ∨
        ascii "63.entity" = ascii "schema" ∧ (migrate Json.tagged LegacyJson.tagged st).1 = .ok ()) := by
  intro st
  have hk : ¬ ascii ".pairing" <:+ ascii "63.entity" := by decide
  have hkp : ascii "63.entity" ≠ ascii "keypair" := by decide
  exact ⟨⟨hk, hkp⟩, migrate_keeps_files Json.tagged LegacyJson.tagged st hk hkp⟩

end Hap
