import Hap.Json

/-!
# The file-system store and the pairing records (`fsStore`, `storer`)

`fsStore` keeps one file per key in a directory; `storer` keeps each pairing
as the JSON of the `Pairing` under the key `hex(name) + ".pairing"`.

* `FsStore` is the directory: its regular files, by name, and its path (which
  only appears in error messages);
* `FsStore.set` opens the file with `O_WRONLY|O_CREATE` and no `O_TRUNC`, so a
  shorter value leaves the tail of the old contents in place; the open fails
  with `ENAMETOOLONG` on a name longer than `NAME_MAX` (`nameTooLong`), and no
  directory holds such a file (`FsStore.fits`);
* `FsStore.get` is the 32-byte read loop (`readAll`), `FsStore.delete` is
  `os.Remove`, `FsStore.keysWithSuffix` lists the sorted file names;
* `Storer.pairing`, `Storer.savePairing`, `Storer.deletePairing` and
  `Storer.pairings` are the four pairing calls, over a `Json` library.

Each operation comes with the lemma saying what it does to the file of every
name (`lookup_set`, `lookup_delete`, …), which the run proofs cite.
-/

namespace Hap

/-! ## Keys and file names -/

/-- `hextable`: the bytes of `"0123456789abcdef"`. -/
def hextable : Bytes := [0x30, 0x31, 0x32, 0x33, 0x34, 0x35, 0x36, 0x37, 0x38, 0x39,
  0x61, 0x62, 0x63, 0x64, 0x65, 0x66]

/-- `hex.EncodeToString`: each byte `v` as `hextable[v>>4]`, `hextable[v&0x0f]`. -/
def hexEncode : Bytes → Bytes
  | [] => []
  | v :: vs => hextable.getD (v.toNat / 16) 0 :: hextable.getD (v.toNat % 16) 0 :: hexEncode vs

/-- `keyForPairingName`. -/
def keyForPairingName (s : Bytes) : Bytes := hexEncode s ++ ascii ".pairing"

/-- `sanitizeFilename`: `strings.Replace(filename, ":", "", -1)`. -/
def sanitizeFilename (filename : Bytes) : Bytes := filename.filter (· != 0x3A)

theorem hextable_injective : ∀ i j : Fin 16, hextable.getD i 0 = hextable.getD j 0 → i = j := by
  decide

theorem hextable_ne_colon : ∀ i : Fin 16, hextable.getD i 0 ≠ 0x3A := by
  decide

theorem hexEncode_injective : ∀ {a b : Bytes}, hexEncode a = hexEncode b → a = b
  | [], [], _ => rfl
  | v :: vs, w :: ws, h => by
    simp only [hexEncode, List.cons.injEq] at h
    obtain ⟨hhi, hlo, h⟩ := h
    have hv := v.toNat_lt_size
    have hw := w.toNat_lt_size
    simp only [UInt8.size] at hv hw
    have hi := hextable_injective ⟨_, Nat.div_lt_of_lt_mul (by omega : v.toNat < 16 * 16)⟩
      ⟨_, Nat.div_lt_of_lt_mul (by omega : w.toNat < 16 * 16)⟩ hhi
    have lo := hextable_injective ⟨_, Nat.mod_lt v.toNat (by omega)⟩ ⟨_, Nat.mod_lt w.toNat (by omega)⟩ hlo
    simp only [Fin.mk.injEq] at hi lo
    rw [UInt8.ext (by omega : v.toNat = w.toNat), hexEncode_injective h]
  | [], _ :: _, h | _ :: _, [], h => by simp [hexEncode] at h

theorem length_hexEncode (s : Bytes) : (hexEncode s).length = 2 * s.length := by
  induction s with
  | nil => rfl
  | cons v vs ih => simp only [hexEncode, List.length_cons, ih]; omega

theorem length_keyForPairingName (s : Bytes) : (keyForPairingName s).length = 2 * s.length + 8 := by
  rw [keyForPairingName, List.length_append, length_hexEncode]
  rfl

/-- Distinct names have distinct keys. -/
theorem keyForPairingName_injective {a b : Bytes} (h : keyForPairingName a = keyForPairingName b) :
    a = b :=
  hexEncode_injective (List.append_cancel_right h)

theorem sanitizeFilename_hexEncode (s : Bytes) : sanitizeFilename (hexEncode s) = hexEncode s := by
  induction s with
  | nil => rfl
  | cons v vs ih =>
    have hv := v.toNat_lt_size
    simp only [UInt8.size] at hv
    have hi := hextable_ne_colon ⟨_, Nat.div_lt_of_lt_mul (by omega : v.toNat < 16 * 16)⟩
    have lo := hextable_ne_colon ⟨_, Nat.mod_lt v.toNat (by omega)⟩
    simp_all [hexEncode, sanitizeFilename]

/-- A pairing key has no colon, so it is its own file name. -/
@[simp] theorem sanitizeFilename_keyForPairingName (s : Bytes) :
    sanitizeFilename (keyForPairingName s) = keyForPairingName s := by
  rw [keyForPairingName, sanitizeFilename, List.filter_append, ← sanitizeFilename,
    sanitizeFilename_hexEncode]
  rfl

theorem suffix_keyForPairingName (s : Bytes) : ascii ".pairing" <:+ keyForPairingName s :=
  List.suffix_append _ _

/-! ## `fsStore` -/

/-- The `syscall.Errno` of a failed `open` or `remove` of a file. -/
inductive Errno where
  /-- `ENOENT`: no such file or directory. -/
  | enoent
  /-- `ENAMETOOLONG`: file name too long. -/
  | enametoolong
  deriving DecidableEq, Repr

/-- `os.PathError`: the operation, the path and the `Errno`. -/
structure PathError where
  op : String
  path : Bytes
  err : Errno
  deriving DecidableEq, Repr

/-- `NAME_MAX`: the longest file name, in bytes. -/
def nameMax : Nat := 255

/-- `PATH_MAX`: the longest path, in bytes with its terminating NUL. -/
def pathMax : Nat := 4096

/-- `open(2)` and `unlink(2)` refuse the file `name` of the directory `dir`
with `ENAMETOOLONG`: the name is longer than `NAME_MAX`, or the path
`dir/name` does not fit in `PATH_MAX`. -/
def nameTooLong (dir name : Bytes) : Bool :=
  nameMax < name.length || pathMax ≤ dir.length + 1 + name.length

/-- A pairing's file name is refused from 124 bytes of name on. -/
theorem nameTooLong_keyForPairingName (dir n : Bytes) :
    nameTooLong dir (keyForPairingName n) = (decide (123 < n.length) || decide (4087 ≤ dir.length + 2 * n.length)) := by
  simp only [nameTooLong, length_keyForPairingName, nameMax, pathMax]
  congr 1 <;> simp only [decide_eq_decide] <;> omega

/-- A longer name in the same directory is refused too. -/
theorem nameTooLong_mono {dir a b : Bytes} (h : nameTooLong dir a = true) (hab : a.length ≤ b.length) :
    nameTooLong dir b = true := by
  simp only [nameTooLong, Bool.or_eq_true, decide_eq_true_eq] at h ⊢
  omega

/-- An `fsStore`: the path of its directory and the regular files in it, none
of them under a name the system refuses. Sub-directories and I/O failures
other than these two errors are not modelled. -/
structure FsStore where
  path : Bytes
  files : AList fun _ : Bytes => Bytes
  fits : ∀ k ∈ files.keys, nameTooLong path k = false

/-- `filePathToFile`: `filepath.Join(fs.Path, sanitizeFilename(file))`. -/
def FsStore.filePathToFile (fs : FsStore) (file : Bytes) : Bytes :=
  fs.path ++ ascii "/" ++ sanitizeFilename file

/-- The error of `op` on the file of `key` when it cannot be opened:
`ENAMETOOLONG` for a name the system refuses, `ENOENT` for a missing file. -/
def FsStore.pathError (fs : FsStore) (op : String) (key : Bytes) : PathError :=
  ⟨op, fs.filePathToFile key, if nameTooLong fs.path (sanitizeFilename key) then .enametoolong else .enoent⟩

theorem FsStore.nameTooLong_of_lookup {fs : FsStore} {k : Bytes} (h : (fs.files.lookup k).isSome) :
    nameTooLong fs.path k = false :=
  fs.fits k (AList.mem_keys.2 (AList.lookup_isSome.1 h))

theorem fits_insert {dir k : Bytes} {v : Bytes} {files : AList fun _ : Bytes => Bytes}
    (hf : ∀ k ∈ files.keys, nameTooLong dir k = false) (hk : nameTooLong dir k = false) :
    ∀ k' ∈ (files.insert k v).keys, nameTooLong dir k' = false := by
  intro k' hk'
  rcases (AList.mem_insert _).1 (AList.mem_keys.1 hk') with rfl | hk'
  exacts [hk, hf k' (AList.mem_keys.2 hk')]

/-- `fsStore.Set`: `OpenFile(…, O_WRONLY|O_CREATE)` then `Write(value)` at
offset 0. `OpenFile` fails on a name the system refuses and nothing is
written; without `O_TRUNC` the file keeps its old bytes past `value`. -/
def FsStore.set (fs : FsStore) (key value : Bytes) : Except PathError Unit × FsStore :=
  if h : nameTooLong fs.path (sanitizeFilename key) then (.error (fs.pathError "open" key), fs)
  else
    let old := (fs.files.lookup (sanitizeFilename key)).getD []
    (.ok (), ⟨fs.path, fs.files.insert (sanitizeFilename key) (value ++ old.drop value.length),
      fits_insert fs.fits (Bool.eq_false_iff.2 h)⟩)

/-- `fsStore.Get`'s loop: append each non-empty `Read` of the 32-byte buffer,
stop at the first that returns no bytes. -/
def readAll : List ReadResult → Bytes
  | [] => []
  | r :: rs => if 0 < r.bytes.length then r.bytes ++ readAll rs else []

/-- `fsStore.Get`: open the file, or the `open` error; then read it whole. -/
def FsStore.get (fs : FsStore) (key : Bytes) : Except PathError Bytes :=
  match fs.files.lookup (sanitizeFilename key) with
  | none => .error (fs.pathError "open" key)
  | some contents => .ok (readAll (bufferReads 32 contents))

/-- `fsStore.Delete`: `os.Remove`, which fails on a missing file. -/
def FsStore.delete (fs : FsStore) (key : Bytes) : Except PathError Unit × FsStore :=
  match fs.files.lookup (sanitizeFilename key) with
  | none => (.error (fs.pathError "remove" key), fs)
  | some _ => (.ok (), ⟨fs.path, fs.files.erase (sanitizeFilename key),
      fun k hk => fs.fits k (AList.mem_keys.2 (AList.mem_erase.1 (AList.mem_keys.1 hk)).2)⟩)

/-- Go's `a <= b` on strings: bytewise, a prefix first. -/
def bytesLE : Bytes → Bytes → Bool
  | [], _ => true
  | _ :: _, [] => false
  | a :: as, b :: bs => a < b || (a == b && bytesLE as bs)

/-- `fsStore.KeysWithSuffix`: the names `ioutil.ReadDir` lists, sorted by
name, that end with `suffix`. -/
def FsStore.keysWithSuffix (fs : FsStore) (suffix : Bytes) : List Bytes :=
  (fs.files.keys.mergeSort bytesLE).filter suffix.isSuffixOf

/-- The read loop returns the whole file. -/
theorem readAll_bufferReads {n : Nat} (hn : 0 < n) (p : Bytes) : readAll (bufferReads n p) = p := by
  induction n, p using bufferReads.induct with
  | case1 p => omega
  | case2 n hn => simp [readAll]
  | case3 k b bs ih =>
    rw [bufferReads, readAll, if_pos (by simp), ih hn]
    show List.take (k + 1) (b :: bs) ++ _ = _
    rw [List.take_succ_cons, List.cons_append, List.take_append_drop]

theorem FsStore.get_of_lookup {fs : FsStore} {key contents : Bytes}
    (h : fs.files.lookup (sanitizeFilename key) = some contents) : fs.get key = .ok contents := by
  rw [FsStore.get, h]
  exact congrArg Except.ok (readAll_bufferReads (by omega) contents)

theorem FsStore.get_of_lookup_none {fs : FsStore} {key : Bytes}
    (h : fs.files.lookup (sanitizeFilename key) = none) :
    fs.get key = .error (fs.pathError "open" key) := by
  rw [FsStore.get, h]

/-- A refused name: `Set` returns `open`'s error and writes nothing. -/
theorem FsStore.set_of_nameTooLong {fs : FsStore} {key : Bytes} (value : Bytes)
    (h : nameTooLong fs.path (sanitizeFilename key) = true) :
    fs.set key value = (.error (fs.pathError "open" key), fs) :=
  dif_pos h

/-- `Set` fails exactly on a name the system refuses. -/
theorem FsStore.set_fst (fs : FsStore) (key value : Bytes) :
    (fs.set key value).1 =
      if nameTooLong fs.path (sanitizeFilename key) then .error (fs.pathError "open" key) else .ok () := by
  unfold FsStore.set
  split <;> simp_all

@[simp] theorem FsStore.set_path (fs : FsStore) (key value : Bytes) : (fs.set key value).2.path = fs.path := by
  unfold FsStore.set
  split <;> rfl

/-- What `Set` leaves in each file. -/
theorem FsStore.lookup_set (fs : FsStore) (key value name : Bytes) :
    (fs.set key value).2.files.lookup name =
      if name = sanitizeFilename key ∧ nameTooLong fs.path name = false then
        some (value ++ ((fs.files.lookup name).getD []).drop value.length)
      else fs.files.lookup name := by
  by_cases hk : nameTooLong fs.path (sanitizeFilename key) = true
  · rw [FsStore.set_of_nameTooLong value hk, if_neg (by rintro ⟨rfl, h⟩; simp_all)]
  · rw [FsStore.set, dif_neg hk]
    by_cases hn : name = sanitizeFilename key
    · subst hn
      rw [if_pos ⟨rfl, by simpa using hk⟩]
      exact AList.lookup_insert _
    · rw [if_neg fun h => hn h.1]
      exact AList.lookup_insert_ne hn

/-- What `Delete` leaves in each file; a failed `Delete` changes nothing. -/
theorem FsStore.lookup_delete (fs : FsStore) (key name : Bytes) :
    (fs.delete key).2.files.lookup name =
      if name = sanitizeFilename key then none else fs.files.lookup name := by
  rw [FsStore.delete]
  split
  · rename_i h; split
    · subst name; exact h
    · rfl
  · split
    · subst name; exact AList.lookup_erase _ _
    · exact AList.lookup_erase_ne ‹_›

theorem FsStore.delete_of_lookup_none {fs : FsStore} {key : Bytes} (h : fs.files.lookup (sanitizeFilename key) = none) :
    fs.delete key = (.error (fs.pathError "remove" key), fs) := by
  unfold FsStore.delete
  split <;> simp_all

theorem FsStore.delete_of_lookup_some {fs : FsStore} {key c : Bytes} (h : fs.files.lookup (sanitizeFilename key) = some c) :
    ∃ fs', fs.delete key = (.ok (), fs') := by
  unfold FsStore.delete
  split <;> simp_all

@[simp] theorem FsStore.delete_path (fs : FsStore) (key : Bytes) : (fs.delete key).2.path = fs.path := by
  unfold FsStore.delete
  split <;> rfl

theorem FsStore.mem_keysWithSuffix (fs : FsStore) (suffix name : Bytes) :
    name ∈ fs.keysWithSuffix suffix ↔ (fs.files.lookup name).isSome ∧ suffix <:+ name := by
  simp [FsStore.keysWithSuffix, AList.lookup_isSome, AList.mem_keys]

/-- The listing of a directory with one file of the suffix. -/
theorem FsStore.keysWithSuffix_eq_singleton {fs : FsStore} {suffix k : Bytes} (hk : (fs.files.lookup k).isSome)
    (hs : suffix <:+ k) (honly : ∀ k', (fs.files.lookup k').isSome → suffix <:+ k' → k' = k) :
    fs.keysWithSuffix suffix = [k] := by
  have hnd : (fs.keysWithSuffix suffix).Nodup :=
    ((List.mergeSort_perm _ _).nodup_iff.2 fs.files.keys_nodup).filter _
  refine List.perm_singleton.1 ((List.perm_ext_iff_of_nodup hnd (List.nodup_singleton k)).2 fun x => ?_)
  rw [FsStore.mem_keysWithSuffix, List.mem_singleton]
  exact ⟨fun h => honly x h.1 h.2, fun h => h ▸ ⟨hk, hs⟩⟩

/-! ## `storer` -/

/-- The error of a `storer` call: the file's, or `json.Unmarshal`'s. -/
inductive StoreError where
  | path (e : PathError)
  | json (msg : String)
  deriving DecidableEq, Repr

namespace Storer

variable (J : Json)

/-- `pairingForKey`: read the file and unmarshal it. -/
def pairingForKey (st : FsStore) (key : Bytes) : Except StoreError Pairing :=
  match st.get key with
  | .error e => .error (.path e)
  | .ok b => (J.unmarshal b).mapError .json

/-- `storer.Pairing`. -/
def pairing (st : FsStore) (name : Bytes) : Except StoreError Pairing :=
  pairingForKey J st (keyForPairingName name)

/-- `storer.SavePairing`: `json.Marshal` cannot fail on a `Pairing`; the error
is `Set`'s. -/
def savePairing (st : FsStore) (p : Pairing) : Except PathError Unit × FsStore :=
  st.set (keyForPairingName p.name) (J.marshal p)

/-- `storer.DeletePairing`. -/
def deletePairing (st : FsStore) (name : Bytes) : Except PathError Unit × FsStore :=
  st.delete (keyForPairingName name)

/-- `storer.Pairings`: every `.pairing` file that reads back, in name order. -/
def pairings (st : FsStore) : List Pairing :=
  (st.keysWithSuffix (ascii ".pairing")).filterMap fun k => (pairingForKey J st k).toOption

@[simp] theorem savePairing_path (J : Json) (st : FsStore) (p : Pairing) :
    (savePairing J st p).2.path = st.path :=
  FsStore.set_path _ _ _

/-- `SavePairing` fails exactly when the system refuses the name's file name. -/
theorem savePairing_fst (J : Json) (st : FsStore) (p : Pairing) :
    (savePairing J st p).1 = if nameTooLong st.path (keyForPairingName p.name) then
      .error (st.pathError "open" (keyForPairingName p.name)) else .ok () := by
  rw [savePairing, FsStore.set_fst, sanitizeFilename_keyForPairingName]

/-- A refused name: `SavePairing` returns `open`'s error and changes nothing. -/
theorem savePairing_of_nameTooLong {J : Json} {st : FsStore} {p : Pairing}
    (h : nameTooLong st.path (keyForPairingName p.name) = true) :
    savePairing J st p = (.error (st.pathError "open" (keyForPairingName p.name)), st) :=
  FsStore.set_of_nameTooLong _ (by rwa [sanitizeFilename_keyForPairingName])

/-- A failed `SavePairing` returns the store as it was. -/
theorem savePairing_eq_of_error {J : Json} {st st' : FsStore} {p : Pairing} {e : PathError}
    (h : savePairing J st p = (.error e, st')) : st' = st := by
  rw [savePairing, FsStore.set] at h
  split at h
  · exact (Prod.mk.inj h).2.symm
  · cases h

/-- What `SavePairing` leaves in the file of each name. -/
theorem lookup_savePairing (J : Json) (st : FsStore) (p : Pairing) (name : Bytes) :
    (savePairing J st p).2.files.lookup (keyForPairingName name) =
      if name = p.name ∧ nameTooLong st.path (keyForPairingName name) = false then
        some (J.marshal p ++ ((st.files.lookup (keyForPairingName name)).getD []).drop (J.marshal p).length)
      else st.files.lookup (keyForPairingName name) := by
  rw [savePairing, FsStore.lookup_set, sanitizeFilename_keyForPairingName]
  by_cases h : name = p.name
  · subst h; simp
  · rw [if_neg (fun he => h (keyForPairingName_injective he.1)), if_neg fun he => h he.1]

/-- A save under a name with no file that the system accepts changes the
directory. -/
theorem savePairing_ne {J : Json} {st : FsStore} {p : Pairing}
    (h : st.files.lookup (keyForPairingName p.name) = none)
    (hfit : nameTooLong st.path (keyForPairingName p.name) = false) : (savePairing J st p).2 ≠ st := by
  intro he
  have hl := congrArg (fun fs : FsStore => fs.files.lookup (keyForPairingName p.name)) he
  simp only [lookup_savePairing, hfit, and_self, if_true, h] at hl
  cases hl

/-- `Pairing(n)` unmarshals the file of `n`. -/
theorem pairing_of_lookup {J : Json} {st : FsStore} {n contents : Bytes}
    (h : st.files.lookup (keyForPairingName n) = some contents) :
    pairing J st n = (J.unmarshal contents).mapError .json := by
  rw [pairing, pairingForKey, FsStore.get_of_lookup (by rwa [sanitizeFilename_keyForPairingName])]

/-- With no file, `Pairing(n)` returns `open`'s error. -/
theorem pairing_of_lookup_none {J : Json} {st : FsStore} {n : Bytes}
    (h : st.files.lookup (keyForPairingName n) = none) :
    pairing J st n = .error (.path (st.pathError "open" (keyForPairingName n))) := by
  rw [pairing, pairingForKey, FsStore.get_of_lookup_none (by rwa [sanitizeFilename_keyForPairingName])]

/-- What `Pairing` reads back, `Pairings()` lists. -/
theorem mem_pairings_of_pairing {J : Json} {st : FsStore} {m : Bytes} {q : Pairing}
    (h : pairing J st m = .ok q) : q ∈ pairings J st := by
  simp only [pairings, List.mem_filterMap, FsStore.mem_keysWithSuffix]
  refine ⟨keyForPairingName m, ⟨?_, suffix_keyForPairingName m⟩, by rw [← pairing, h]; rfl⟩
  rw [pairing, pairingForKey] at h
  cases hl : st.files.lookup (keyForPairingName m)
  · rw [FsStore.get_of_lookup_none (by rwa [sanitizeFilename_keyForPairingName])] at h
    cases h
  · rfl

/-- A save leaves the other names' pairings as they were. -/
theorem pairing_savePairing_of_ne (J : Json) (st : FsStore) {p : Pairing} {m : Bytes} (h : m ≠ p.name) :
    pairing J (savePairing J st p).2 m = pairing J st m := by
  rw [pairing, pairing, pairingForKey, pairingForKey, FsStore.get, FsStore.get,
    sanitizeFilename_keyForPairingName, lookup_savePairing, if_neg fun he => h he.1]
  simp only [FsStore.pathError, FsStore.filePathToFile, savePairing_path]

/-- A `DeletePairing` of another name leaves `Pairing(m)` as it was. -/
theorem pairing_deletePairing_of_ne (J : Json) (st : FsStore) {n m : Bytes} (h : m ≠ n) :
    pairing J (deletePairing st n).2 m = pairing J st m := by
  rw [pairing, pairing, pairingForKey, pairingForKey, FsStore.get, FsStore.get, FsStore.pathError,
    FsStore.pathError, FsStore.filePathToFile, FsStore.filePathToFile, deletePairing, FsStore.delete_path,
    FsStore.lookup_delete,
    if_neg (by simpa using fun he => h (keyForPairingName_injective he))]

/-- A save where the name has no file, under a file name the system accepts,
reads back with its name coerced. -/
theorem pairing_savePairing_fresh {J : Json} (hJ : J.Lawful) (st : FsStore) {p : Pairing}
    (hfit : nameTooLong st.path (keyForPairingName p.name) = false)
    (h : st.files.lookup (keyForPairingName p.name) = none) :
    pairing J (savePairing J st p).2 p.name = .ok { p with name := coerceUTF8 p.name } := by
  rw [pairing_of_lookup (by rw [lookup_savePairing, if_pos ⟨rfl, hfit⟩, h]), Option.getD_none, List.drop_nil,
    List.append_nil, hJ.unmarshal_marshal]
  rfl

/-- A save of a UTF-8 name the system accepts, at least as long as the file it
writes, reads back. -/
theorem pairing_savePairing_self {J : Json} (hJ : J.Lawful) (st : FsStore) {p : Pairing}
    (hfit : nameTooLong st.path (keyForPairingName p.name) = false) (hn : validUTF8 p.name = true)
    (hlen : ((st.files.lookup (keyForPairingName p.name)).getD []).length ≤ (J.marshal p).length) :
    pairing J (savePairing J st p).2 p.name = .ok p := by
  rw [pairing_of_lookup (by rw [lookup_savePairing, if_pos ⟨rfl, hfit⟩]), List.drop_eq_nil_of_le hlen,
    List.append_nil, hJ.unmarshal_marshal, (coerceUTF8_eq_self_iff _).2 hn]
  rfl

/-- A shorter save over a record leaves the record's tail after it, and the
file no longer reads back. -/
theorem pairing_savePairing_shorter {J : Json} (hJ : J.Lawful) {st : FsStore} (p : Pairing)
    {old : Bytes} (hold : st.files.lookup (keyForPairingName p.name) = some old)
    (hlast : old.getLast? = some 0x7D) (hlt : (J.marshal p).length < old.length) :
    ∃ e, pairing J (savePairing J st p).2 p.name = .error e := by
  obtain ⟨e, he⟩ := hJ.unmarshal_closing p (t := old.drop (J.marshal p).length)
    (by rw [List.getLast?_drop, if_neg (by omega), hlast])
  have hfit := FsStore.nameTooLong_of_lookup (by rw [hold]; rfl : (st.files.lookup (keyForPairingName p.name)).isSome)
  have hl : (savePairing J st p).2.files.lookup (keyForPairingName p.name) =
      some (J.marshal p ++ old.drop (J.marshal p).length) := by
    rw [lookup_savePairing, if_pos ⟨rfl, hfit⟩, hold, Option.getD_some]
  exact ⟨.json e, by rw [pairing_of_lookup hl, he]; rfl⟩

/-- What `Pairings()` lists comes from some file. -/
theorem exists_of_mem_pairings {J : Json} {st : FsStore} {q : Pairing} (h : q ∈ pairings J st) :
    ∃ k, (st.files.lookup k).isSome ∧ pairingForKey J st k = .ok q := by
  simp only [pairings, List.mem_filterMap, FsStore.mem_keysWithSuffix] at h
  obtain ⟨k, ⟨hk, -⟩, hq⟩ := h
  refine ⟨k, hk, ?_⟩
  revert hq
  cases pairingForKey J st k <;> simp [Except.toOption]

end Storer

end Hap
