import Hap.Store.FsStore

/-!
# The pairing store over a whole run of calls

A run is a sequence of `SavePairing` and `DeletePairing` calls (`StoreCall`)
on a `storer` backed by `fsStore`. What `Pairing(n)` then returns depends on
the saves of `n` since its last deletion (`liveSaves`): the file holds their
records written over each other without truncation (`overlay`).

* `Represents` relates the directory to the saves of every name;
  `represents_init` and `represents_call` give it for every run
  (`represents_run`);
* from it, `pairing_of_represents_*` read back each name and
  `mem_pairings_of_represents` lists them;
* `pairing_run` is the law of the store over any run from a directory with no
  pairing file; `pairing_refines_db` says when it is the database the code is
  meant to be (`dbRun`): names that are valid UTF-8 and fit a file name, and
  records that never shrink.
-/

namespace Hap

/-- A call on the pairing store. -/
inductive StoreCall where
  | savePairing (p : Pairing)
  | deletePairing (name : Bytes)
  deriving DecidableEq, Repr

namespace Storer

variable (J : Json)

/-- One call; a failed call leaves the store as it was. -/
def call (st : FsStore) : StoreCall → FsStore
  | .savePairing p => (savePairing J st p).2
  | .deletePairing name => (deletePairing st name).2

/-- The calls in order. -/
def run (st : FsStore) (cs : List StoreCall) : FsStore := cs.foldl (call J) st

@[simp] theorem call_path (st : FsStore) (c : StoreCall) : (call J st c).path = st.path := by
  cases c <;> simp [call, deletePairing]

@[simp] theorem run_path (st : FsStore) (cs : List StoreCall) : (run J st cs).path = st.path := by
  induction cs generalizing st with
  | nil => rfl
  | cons c cs ih => exact (ih _).trans (call_path J st c)

end Storer

/-! ## The saves of a name and the file they leave -/

/-- What one call does to the saves of `name` since its last deletion. -/
def StoreCall.saves (name : Bytes) (h : List Pairing) : StoreCall → List Pairing
  | .savePairing p => if p.name = name then h ++ [p] else h
  | .deletePairing n => if n = name then [] else h

/-- The saves of `name` since its last `DeletePairing`, oldest first; a save
the system refuses is counted too, and `Represents` drops its file. -/
def liveSaves (cs : List StoreCall) (name : Bytes) : List Pairing :=
  cs.foldl (StoreCall.saves name) []

/-- The contents of a new file after `fsStore.Set` wrote each of `bs` in turn. -/
def overlay (bs : List Bytes) : Bytes := bs.foldl (fun old b => b ++ old.drop b.length) []

theorem overlay_append_singleton (bs : List Bytes) (b : Bytes) :
    overlay (bs ++ [b]) = b ++ (overlay bs).drop b.length := by
  rw [overlay, List.foldl_append]; rfl

theorem length_overlay_le {m : Nat} : ∀ {bs : List Bytes}, (∀ b ∈ bs, b.length ≤ m) →
    (overlay bs).length ≤ m := by
  intro bs
  induction bs using List.reverseRecOn with
  | nil => simp [overlay]
  | append_singleton bs b ih =>
    intro h
    rw [overlay_append_singleton, List.length_append, List.length_drop]
    have := ih fun b' hb' => h b' (by simp [hb'])
    have := h b (by simp)
    omega

theorem le_length_overlay : ∀ {bs : List Bytes} {b : Bytes}, b ∈ bs → b.length ≤ (overlay bs).length := by
  intro bs
  induction bs using List.reverseRecOn with
  | nil => simp
  | append_singleton bs c ih =>
    intro b hb
    rw [overlay_append_singleton, List.length_append, List.length_drop]
    rcases List.mem_append.1 hb with hb | hb
    · have := ih hb; omega
    · rw [List.mem_singleton.1 hb]; omega

/-- If every record ends with `}`, so does the file. -/
theorem getLast_overlay : ∀ {bs : List Bytes}, (∀ b ∈ bs, b.getLast? = some 0x7D) →
    overlay bs = [] ∨ (overlay bs).getLast? = some 0x7D := by
  intro bs
  induction bs using List.reverseRecOn with
  | nil => simp [overlay]
  | append_singleton bs b ih =>
    intro h
    have hb := h b (by simp)
    right
    rw [overlay_append_singleton]
    by_cases hd : (overlay bs).drop b.length = []
    · rwa [hd, List.append_nil]
    · rw [List.getLast?_append_of_ne_nil _ hd, List.getLast?_drop, if_neg]
      · exact (ih fun b' hb' => h b' (by simp [hb'])).resolve_left (by rintro h'; simp [h'] at hd)
      · simpa using hd

theorem mem_liveSaves_name {cs : List StoreCall} {name : Bytes} {p : Pairing}
    (h : p ∈ liveSaves cs name) : p.name = name := by
  suffices ∀ (h₀ : List Pairing), (∀ q ∈ h₀, q.name = name) →
      ∀ q ∈ cs.foldl (StoreCall.saves name) h₀, q.name = name from this [] (by simp) p h
  clear h
  induction cs with
  | nil => exact fun _ h => h
  | cons c cs ih =>
    intro h₀ hh
    apply ih
    cases c with
    | savePairing p' =>
      by_cases hp : p'.name = name
      · simp only [StoreCall.saves, if_pos hp, List.mem_append, List.mem_singleton]
        rintro q (hq | rfl)
        exacts [hh q hq, hp]
      · simpa only [StoreCall.saves, if_neg hp] using hh
    | deletePairing n =>
      by_cases hn : n = name
      · simp [StoreCall.saves, hn]
      · simpa only [StoreCall.saves, if_neg hn] using hh

/-! ## The directory represents the saves -/

/-- The directory holds, for every name, the `overlay` of its live saves'
records under its key (no file when there are none or the system refuses the
file name), and every `.pairing` file is some name's. -/
structure Represents (J : Json) (st : FsStore) (saves : Bytes → List Pairing) : Prop where
  lookup_key : ∀ n, st.files.lookup (keyForPairingName n) =
    if saves n = [] ∨ nameTooLong st.path (keyForPairingName n) = true then none
    else some (overlay ((saves n).map J.marshal))
  key_of_suffix : ∀ k, (st.files.lookup k).isSome → ascii ".pairing" <:+ k →
    ∃ n, k = keyForPairingName n

variable {J : Json} {st : FsStore} {saves : Bytes → List Pairing}

theorem getD_lookup_key (h : Represents J st saves) {n : Bytes}
    (hfit : nameTooLong st.path (keyForPairingName n) = false) :
    (st.files.lookup (keyForPairingName n)).getD [] = overlay ((saves n).map J.marshal) := by
  rw [h.lookup_key]
  split <;> simp_all [overlay]

/-- A directory with no `.pairing` file represents no saves. -/
theorem represents_init (hst : ∀ k, (st.files.lookup k).isSome → ¬ ascii ".pairing" <:+ k) :
    Represents J st fun _ => [] where
  lookup_key n := by
    rw [if_pos (Or.inl rfl), Option.eq_none_iff_forall_not_mem]
    intro c hc
    exact hst _ (by rw [hc]; rfl) (suffix_keyForPairingName n)
  key_of_suffix k hk hs := absurd hs (hst k hk)

/-- **Step lemma.** Every call keeps the representation, with the saves it makes. -/
theorem represents_call (h : Represents J st saves) (c : StoreCall) :
    Represents J (Storer.call J st c) fun n => c.saves n (saves n) := by
  cases c with
  | savePairing p =>
    constructor
    · intro n
      simp only [Storer.call, Storer.lookup_savePairing, Storer.savePairing_path, StoreCall.saves]
      by_cases hn : p.name = n
      · subst hn
        cases hfit : nameTooLong st.path (keyForPairingName p.name)
        · -- the save lands: its record is written over the file
          rw [if_pos ⟨rfl, rfl⟩, if_pos rfl, if_neg (by simp), getD_lookup_key h hfit, List.map_append,
            List.map_singleton, overlay_append_singleton]
        · -- the system refuses the file name: there was no file and is none
          simp [h.lookup_key, hfit]
      · rw [if_neg fun he => hn he.1.symm, if_neg hn, h.lookup_key]
    · intro k hk hs
      simp only [Storer.call, Storer.savePairing, FsStore.lookup_set,
        sanitizeFilename_keyForPairingName] at hk
      split at hk
      · exact ⟨p.name, ‹_ ∧ _›.1⟩
      · exact h.key_of_suffix k hk hs
  | deletePairing m =>
    constructor
    · intro n
      simp only [Storer.call, Storer.deletePairing, FsStore.lookup_delete, FsStore.delete_path,
        sanitizeFilename_keyForPairingName, StoreCall.saves]
      by_cases hn : m = n
      · subst hn; simp
      · rw [if_neg (fun he => hn (keyForPairingName_injective he).symm), if_neg hn, h.lookup_key]
    · intro k hk hs
      simp only [Storer.call, Storer.deletePairing, FsStore.lookup_delete,
        sanitizeFilename_keyForPairingName] at hk
      split at hk
      · simp at hk
      · exact h.key_of_suffix k hk hs

/-- **Run lemma.** -/
theorem represents_run (h : Represents J st saves) (cs : List StoreCall) :
    Represents J (Storer.run J st cs) fun n => cs.foldl (StoreCall.saves n) (saves n) := by
  induction cs generalizing st saves with
  | nil => exact h
  | cons c cs ih => exact ih (represents_call h c)

/-! ## Reading the pairings back -/

/-- No live save, or a file name the system refuses: the file is missing and
`Pairing` returns `open`'s error. -/
theorem pairing_of_represents_nil (h : Represents J st saves) {n : Bytes}
    (hn : saves n = [] ∨ nameTooLong st.path (keyForPairingName n) = true) :
    Storer.pairing J st n = .error (.path (st.pathError "open" (keyForPairingName n))) := by
  have hl := h.lookup_key n
  rw [if_pos hn] at hl
  exact Storer.pairing_of_lookup_none hl

/-- The file of a name whose last save is `p`: `p`'s record, then what is left
of the longer records before it. -/
theorem lookup_of_represents_last (h : Represents J st saves) {n : Bytes} {ps : List Pairing}
    {p : Pairing} (hfit : nameTooLong st.path (keyForPairingName n) = false) (hn : saves n = ps ++ [p]) :
    st.get (keyForPairingName n) =
      .ok (J.marshal p ++ (overlay (ps.map J.marshal)).drop (J.marshal p).length) := by
  apply FsStore.get_of_lookup
  rw [sanitizeFilename_keyForPairingName, h.lookup_key, hn, if_neg (by simp [hfit]), List.map_append,
    List.map_singleton, overlay_append_singleton]

/-- The last save reads back when no earlier live save wrote a longer record. -/
theorem pairing_of_represents_last (hJ : J.Lawful) (h : Represents J st saves) {n : Bytes}
    {ps : List Pairing} {p : Pairing} (hfit : nameTooLong st.path (keyForPairingName n) = false)
    (hn : saves n = ps ++ [p])
    (hlen : ∀ q ∈ ps, (J.marshal q).length ≤ (J.marshal p).length) :
    Storer.pairing J st n = .ok { p with name := coerceUTF8 p.name } := by
  have hshort : (overlay (ps.map J.marshal)).length ≤ (J.marshal p).length :=
    length_overlay_le (by simpa using hlen)
  rw [Storer.pairing, Storer.pairingForKey, lookup_of_represents_last h hfit hn,
    List.drop_eq_nil_of_le hshort, List.append_nil]
  simp only [hJ.unmarshal_marshal, Except.mapError]

/-- An earlier live save with a longer record leaves bytes after the JSON
value, and `Unmarshal` refuses them. -/
theorem pairing_of_represents_longer (hJ : J.Lawful) (h : Represents J st saves) {n : Bytes}
    {ps : List Pairing} {p : Pairing} (hfit : nameTooLong st.path (keyForPairingName n) = false)
    (hn : saves n = ps ++ [p])
    (hlong : ∃ q ∈ ps, (J.marshal p).length < (J.marshal q).length) :
    ∃ e, Storer.pairing J st n = .error e := by
  obtain ⟨q, hq, hlt⟩ := hlong
  have hlonger : (J.marshal p).length < (overlay (ps.map J.marshal)).length :=
    lt_of_lt_of_le hlt (le_length_overlay (List.mem_map_of_mem _ hq))
  have ht : (overlay (ps.map J.marshal)).drop (J.marshal p).length ≠ [] := by simp; omega
  have hlast : ((overlay (ps.map J.marshal)).drop (J.marshal p).length).getLast? = some 0x7D := by
    have := @getLast_overlay (ps.map J.marshal) (by simpa using fun q _ => hJ.marshal_getLast q)
    rw [List.getLast?_drop, if_neg (by omega)]
    exact this.resolve_left (by intro h0; simp [h0] at hlonger)
  obtain ⟨e, he⟩ := hJ.unmarshal_closing p hlast
  refine ⟨.json e, ?_⟩
  rw [Storer.pairing, Storer.pairingForKey, lookup_of_represents_last h hfit hn]
  simp only [he, Except.mapError]

/-- Whatever `Pairing(m)` reads back is a live save of `m`, with its name
coerced to UTF-8. -/
theorem pairing_of_represents_ok (hJ : J.Lawful) (h : Represents J st saves) {m : Bytes} {q : Pairing}
    (hq : Storer.pairing J st m = .ok q) : ∃ p ∈ saves m, q = { p with name := coerceUTF8 p.name } := by
  cases hfit : nameTooLong st.path (keyForPairingName m)
  case true =>
    rw [pairing_of_represents_nil h (Or.inr hfit)] at hq
    cases hq
  rcases List.eq_nil_or_concat (saves m) with hn | ⟨ps, p, hps⟩
  · rw [pairing_of_represents_nil h (Or.inl hn)] at hq
    cases hq
  · rw [List.concat_eq_append] at hps
    by_cases hlong : ∃ q ∈ ps, (J.marshal p).length < (J.marshal q).length
    · obtain ⟨e, he⟩ := pairing_of_represents_longer hJ h hfit hps hlong
      rw [he] at hq
      cases hq
    · push_neg at hlong
      rw [pairing_of_represents_last hJ h hfit hps hlong] at hq
      exact ⟨p, by simp [hps], (Except.ok.inj hq).symm⟩

/-- `Pairings()` lists exactly what `Pairing` reads back for some name. -/
theorem mem_pairings_of_represents (h : Represents J st saves) (q : Pairing) :
    q ∈ Storer.pairings J st ↔ ∃ m, Storer.pairing J st m = .ok q := by
  simp only [Storer.pairings, List.mem_filterMap, FsStore.mem_keysWithSuffix]
  constructor
  · rintro ⟨k, ⟨hk, hs⟩, hq⟩
    obtain ⟨m, rfl⟩ := h.key_of_suffix k hk hs
    refine ⟨m, ?_⟩
    rw [Storer.pairing]
    revert hq
    cases Storer.pairingForKey J st (keyForPairingName m) <;> simp [Except.toOption]
  · rintro ⟨m, hm⟩
    have := Storer.mem_pairings_of_pairing hm
    simpa only [Storer.pairings, List.mem_filterMap, FsStore.mem_keysWithSuffix] using this

/-! ## The store over a run -/

/-- **The pairing store.** Take any run of `SavePairing`/`DeletePairing` calls
from a directory with no `.pairing` file, and any name `n`. With no save of `n`
since its last deletion, or a file name for `n` that the system refuses,
`Pairing(n)` returns `open`'s error. Otherwise it returns the last save `p`,
with its key and permission and its name coerced to UTF-8, when no save of `n`
since its last deletion wrote a longer record, and it fails when one did.
`Pairings()` lists exactly what `Pairing` returns for some name. -/
theorem pairing_run (hJ : J.Lawful)
    (hst : ∀ k, (st.files.lookup k).isSome → ¬ ascii ".pairing" <:+ k) (cs : List StoreCall)
    (n : Bytes) :
    (liveSaves cs n = [] ∨ nameTooLong st.path (keyForPairingName n) = true →
      Storer.pairing J (Storer.run J st cs) n =
        .error (.path ((Storer.run J st cs).pathError "open" (keyForPairingName n)))) ∧
    (∀ p, (liveSaves cs n).getLast? = some p → nameTooLong st.path (keyForPairingName n) = false →
      (∀ q ∈ liveSaves cs n, (J.marshal q).length ≤ (J.marshal p).length) →
        Storer.pairing J (Storer.run J st cs) n = .ok { p with name := coerceUTF8 n }) ∧
    (∀ p, (liveSaves cs n).getLast? = some p → nameTooLong st.path (keyForPairingName n) = false →
      (∃ q ∈ liveSaves cs n, (J.marshal p).length < (J.marshal q).length) →
        ∃ e, Storer.pairing J (Storer.run J st cs) n = .error e) ∧
    (∀ q, q ∈ Storer.pairings J (Storer.run J st cs) ↔
      ∃ m, Storer.pairing J (Storer.run J st cs) m = .ok q) := by
  have h := represents_run (represents_init (J := J) hst) cs
  refine ⟨fun hn => pairing_of_represents_nil h (by rwa [Storer.run_path]), fun p hp hfit hlen => ?_,
    fun p hp hfit hlong => ?_, mem_pairings_of_represents h⟩
  · -- the last save reads back
    obtain ⟨ps, hps⟩ := List.getLast?_eq_some_iff.1 hp
    rw [pairing_of_represents_last hJ h (by rwa [Storer.run_path]) hps fun q hq => hlen q (by simp [hps, hq]),
      mem_liveSaves_name (List.mem_of_getLast?_eq_some hp)]
  · -- a longer record before it is still in the file
    obtain ⟨ps, hps⟩ := List.getLast?_eq_some_iff.1 hp
    obtain ⟨q, hq, hlt⟩ := hlong
    rw [hps, List.mem_append, List.mem_singleton] at hq
    refine pairing_of_represents_longer hJ h (by rwa [Storer.run_path]) hps ⟨q, hq.resolve_right ?_, hlt⟩
    rintro rfl
    exact lt_irrefl _ hlt

/-- Two runs from an empty directory that the law of a database refuses. The
second save of `a` has a one-byte key where the first had four (also shorter
as `encoding/json` writes it, `"AQ=="` against `"AQIDBA=="`): `Pairing("a")`
fails, though `a` was saved last and never deleted. A name of 124 bytes has a
key of 256: its save fails and `Pairing` of it fails too. -/
theorem pairing_after_shorter_save :
    let st : FsStore := ⟨[], ∅, by decide⟩
    let cs := [StoreCall.savePairing ⟨[0x61], [1, 2, 3, 4], 1⟩, .savePairing ⟨[0x61], [1], 1⟩]
    let long := List.replicate 124 0x61
    (Json.tagged.Lawful ∧ ∀ k, (st.files.lookup k).isSome → ¬ ascii ".pairing" <:+ k) ∧
      (liveSaves cs [0x61] = [⟨[0x61], [1, 2, 3, 4], 1⟩, ⟨[0x61], [1], 1⟩] ∧
        nameTooLong st.path (keyForPairingName [0x61]) = false ∧
        ∃ e, Storer.pairing Json.tagged (Storer.run Json.tagged st cs) [0x61] = .error e) ∧
      (liveSaves [.savePairing ⟨long, [1], 1⟩] long = [⟨long, [1], 1⟩] ∧
        ∃ e, Storer.pairing Json.tagged (Storer.run Json.tagged st [.savePairing ⟨long, [1], 1⟩]) long =
          .error e) := by
  intro st cs long
  have hst : ∀ k, (st.files.lookup k).isSome → ¬ ascii ".pairing" <:+ k := by
    simp [st, AList.lookup_empty]
  have hlong : nameTooLong st.path (keyForPairingName long) = true := by
    simp only [nameTooLong_keyForPairingName, long, List.length_replicate]
    decide
  refine ⟨⟨Json.tagged_lawful, hst⟩, ⟨rfl, by decide, ?_⟩, ⟨rfl, ?_⟩⟩
  · exact (pairing_run Json.tagged_lawful hst cs [0x61]).2.2.1 _ rfl (by decide)
      ⟨_, List.mem_cons_self _ _, by decide⟩
  · exact ⟨_, (pairing_run Json.tagged_lawful hst _ long).1 (Or.inr hlong)⟩

/-! ## The database the store stands for -/

/-- One call on the pairing database the store is meant to keep: a save puts
the pairing under its name, a deletion forgets the name. -/
def StoreCall.applyDb (db : Bytes → Option Pairing) : StoreCall → Bytes → Option Pairing
  | .savePairing p => Function.update db p.name (some p)
  | .deletePairing n => Function.update db n none

/-- The database after a run, from an empty one. -/
def dbRun (cs : List StoreCall) : Bytes → Option Pairing :=
  cs.foldl StoreCall.applyDb fun _ => none

/-- The database holds each name's last live save. -/
theorem dbRun_eq_getLast (cs : List StoreCall) (n : Bytes) :
    dbRun cs n = (liveSaves cs n).getLast? := by
  suffices ∀ db (h₀ : List Pairing), db n = h₀.getLast? →
      cs.foldl StoreCall.applyDb db n = (cs.foldl (StoreCall.saves n) h₀).getLast? from
    this _ [] rfl
  induction cs with
  | nil => exact fun _ _ h => h
  | cons c cs ih =>
    intro db h₀ h
    apply ih
    cases c with
    | savePairing p =>
      by_cases hp : p.name = n
      · subst hp; simp [StoreCall.applyDb, StoreCall.saves]
      · simp [StoreCall.applyDb, StoreCall.saves, hp, Function.update_noteq (Ne.symm hp), h]
    | deletePairing m =>
      by_cases hm : m = n
      · subst hm; simp [StoreCall.applyDb, StoreCall.saves]
      · simp [StoreCall.applyDb, StoreCall.saves, hm, Function.update_noteq (Ne.symm hm), h]

/-- **Refinement.** When every saved name is valid UTF-8 and has a file name
the system accepts, and no save of a name since its last deletion wrote a
longer record than its last one, `Pairing(n)` reads the database `dbRun`: the
last live save, or an error. -/
theorem pairing_refines_db (hJ : J.Lawful)
    (hst : ∀ k, (st.files.lookup k).isSome → ¬ ascii ".pairing" <:+ k) (cs : List StoreCall)
    (hvalid : ∀ n, liveSaves cs n ≠ [] → validUTF8 n = true)
    (hfit : ∀ n, liveSaves cs n ≠ [] → nameTooLong st.path (keyForPairingName n) = false)
    (hgrow : ∀ n p, (liveSaves cs n).getLast? = some p →
      ∀ q ∈ liveSaves cs n, (J.marshal q).length ≤ (J.marshal p).length)
    (n : Bytes) :
    (Storer.pairing J (Storer.run J st cs) n).toOption = dbRun cs n := by
  have h := represents_run (represents_init (J := J) hst) cs
  rw [dbRun_eq_getLast]
  cases hl : (liveSaves cs n).getLast? with
  | none =>
    rw [pairing_of_represents_nil h (Or.inl (List.getLast?_eq_none_iff.1 hl))]
    rfl
  | some p =>
    obtain ⟨ps, hps⟩ := List.getLast?_eq_some_iff.1 hl
    have hname := mem_liveSaves_name (List.mem_of_getLast?_eq_some hl)
    have hv := hvalid n (by simp [hps])
    have hf : nameTooLong (Storer.run J st cs).path (keyForPairingName n) = false := by
      rw [Storer.run_path]; exact hfit n (by simp [hps])
    rw [pairing_of_represents_last hJ h hf hps fun q hq => hgrow n p hl q (by simp [hps, hq]),
      hname, (coerceUTF8_eq_self_iff n).2 hv, ← hname]
    rfl

end Hap
