import Hap.Basic

/-!
# UTF-8 and `encoding/json`, as the pairing store uses them

`storer.SavePairing` writes `json.Marshal(&p)` and `storer.Pairing` reads it
back with `json.Unmarshal`. Go strings are byte strings, but a JSON string is
text: `Marshal` writes every byte that does not start a valid UTF-8 sequence
as `\ufffd`. A name comes back from the store as `coerceUTF8 name`.

* `decodeRune` transcribes `utf8.DecodeRune` (tables `first` and
  `acceptRanges`), `validUTF8` is `utf8.Valid`, and `coerceUTF8` is what
  `Marshal`'s string loop makes of a name after a round trip;
* `coerceUTF8_eq_self_iff`: a name survives the round trip exactly when it
  is valid UTF-8, and `validUTF8_coerceUTF8`: what comes back always is;
* `Json` and `Json.Lawful` are the contract on `Marshal`/`Unmarshal` of a
  `Pairing`, and `Json.tagged` a lawful instance for witnesses.
-/

namespace Hap

/-! ## `unicode/utf8` -/

/-- An entry of `utf8.first`: an ASCII byte, a byte no rune starts with, or the
first byte of a rune of `size` bytes whose second byte lies in `[lo, hi]`
(`acceptRanges`). -/
inductive LeadByte where
  | ascii
  | invalid
  | lead (size : Nat) (lo hi : UInt8)
  deriving DecidableEq, Repr

/-- `utf8.first`, with the accept range of each entry looked up. -/
def first (b : UInt8) : LeadByte :=
  if b < 0x80 then .ascii
  else if b < 0xC2 then .invalid
  else if b < 0xE0 then .lead 2 0x80 0xBF
  else if b = 0xE0 then .lead 3 0xA0 0xBF
  else if b < 0xED then .lead 3 0x80 0xBF
  else if b = 0xED then .lead 3 0x80 0x9F
  else if b < 0xF0 then .lead 3 0x80 0xBF
  else if b = 0xF0 then .lead 4 0x90 0xBF
  else if b < 0xF4 then .lead 4 0x80 0xBF
  else if b = 0xF4 then .lead 4 0x80 0x8F
  else .invalid

/-- `locb ≤ b ≤ hicb`: a continuation byte. -/
def isContinuation (b : UInt8) : Bool := 0x80 ≤ b && b ≤ 0xBF

/-- `utf8.DecodeRune(p)` on a non-empty `p`: `some size` for a valid rune of
`size` bytes, `none` where it returns `(RuneError, 1)` for an invalid byte. -/
def decodeRune : Bytes → Option Nat
  | [] => none
  | p0 :: p =>
    match first p0 with
    | .ascii => some 1
    | .invalid => none
    | .lead sz lo hi =>
      if p.length + 1 < sz then none
      else match p with
        | [] => none
        | b1 :: p =>
          if b1 < lo || hi < b1 then none
          else if sz ≤ 2 then some 2
          else match p with
            | [] => none
            | b2 :: p =>
              if !isContinuation b2 then none
              else if sz ≤ 3 then some 3
              else match p with
                | [] => none
                | b3 :: _ => if !isContinuation b3 then none else some 4

/-- `utf8.Valid`'s loop: `skip` bytes of the current rune still to pass, then
each rune must decode. -/
def validUTF8Loop : Nat → Bytes → Bool
  | _, [] => true
  | k + 1, _ :: bs => validUTF8Loop k bs
  | 0, b :: bs =>
    match decodeRune (b :: bs) with
    | none => false
    | some n => validUTF8Loop (n - 1) bs

/-- `utf8.Valid`: the string is a sequence of valid runes. -/
def validUTF8 (p : Bytes) : Bool := validUTF8Loop 0 p

/-- The bytes of U+FFFD, which `json.Unmarshal` makes of the escape `\ufffd`. -/
def runeErrorBytes : Bytes := [0xEF, 0xBF, 0xBD]

/-- `encodeState.string`'s loop, as the string reads back after `Unmarshal`:
`skip` bytes of the current rune still to copy (`i += size`); at the start of
a rune, `DecodeRune`, and `\ufffd` for a byte where it returns
`(RuneError, 1)`. -/
def coerceUTF8Loop : Nat → Bytes → Bytes
  | _, [] => []
  | k + 1, b :: bs => b :: coerceUTF8Loop k bs
  | 0, b :: bs =>
    match decodeRune (b :: bs) with
    | none => runeErrorBytes ++ coerceUTF8Loop 0 bs
    | some n => b :: coerceUTF8Loop (n - 1) bs

/-- A string after `json.Marshal` and `json.Unmarshal`: each valid rune copied,
each byte that starts none replaced by U+FFFD. -/
def coerceUTF8 (p : Bytes) : Bytes := coerceUTF8Loop 0 p

example : coerceUTF8 [0x61, 0xFF, 0xC3, 0xA9] = [0x61, 0xEF, 0xBF, 0xBD, 0xC3, 0xA9] := by decide

theorem coerceUTF8Loop_of_valid {k : Nat} {p : Bytes} (h : validUTF8Loop k p = true) :
    coerceUTF8Loop k p = p := by
  induction p generalizing k with
  | nil => cases k <;> rfl
  | cons b bs ih =>
    match k, h with
    | k + 1, h => rw [coerceUTF8Loop, ih h]
    | 0, h =>
      rw [validUTF8Loop] at h
      rw [coerceUTF8Loop]
      split at h
      · cases h
      · exact congrArg _ (ih h)

/-- The coercion never shortens a string, and lengthens every invalid one. -/
theorem length_coerceUTF8Loop (k : Nat) (p : Bytes) :
    p.length ≤ (coerceUTF8Loop k p).length ∧
      (validUTF8Loop k p = false → p.length < (coerceUTF8Loop k p).length) := by
  induction p generalizing k with
  | nil => simp [validUTF8Loop]
  | cons b bs ih =>
    match k with
    | k + 1 =>
      simp only [coerceUTF8Loop, validUTF8Loop, List.length_cons]
      exact ⟨by have := (ih k).1; omega, fun hv => by have := (ih k).2 hv; omega⟩
    | 0 =>
      rw [coerceUTF8Loop, validUTF8Loop]
      split
      · simp only [runeErrorBytes, List.length_append, List.length_cons]
        have := (ih 0).1
        omega
      · rename_i n _
        simp only [List.length_cons]
        exact ⟨by have := (ih (n - 1)).1; omega, fun hv => by have := (ih (n - 1)).2 hv; omega⟩

/-- **A name survives the JSON round trip exactly when it is valid UTF-8.** -/
theorem coerceUTF8_eq_self_iff (p : Bytes) : coerceUTF8 p = p ↔ validUTF8 p = true := by
  refine ⟨fun h => ?_, coerceUTF8Loop_of_valid⟩
  by_contra hv
  have := (length_coerceUTF8Loop 0 p).2 (by simpa using hv)
  rw [coerceUTF8] at h
  rw [h] at this
  exact lt_irrefl _ this

/-! ## The coercion's image -/

/-- A rune that decodes is no longer than the bytes, and still decodes when the
bytes after it change, as long as there are no fewer of them. -/
theorem decodeRune_prefix {b : UInt8} {bs : Bytes} {n : Nat} (h : decodeRune (b :: bs) = some n) :
    n ≤ bs.length + 1 ∧ ∀ t : Bytes, bs.length ≤ n - 1 + t.length →
      decodeRune (b :: (bs.take (n - 1) ++ t)) = some n := by
  simp only [decodeRune] at h ⊢
  cases hb : first b with
  | ascii => rw [hb] at h; cases h; exact ⟨by omega, fun _ _ => rfl⟩
  | invalid => rw [hb] at h; cases h
  | lead sz lo hi =>
    rw [hb] at h
    simp only at h ⊢
    -- the length check, then one branch per byte read
    split at h
    · cases h
    split at h
    · cases h
    split at h
    · cases h
    split at h
    · cases h
      simp only [List.length_cons] at *
      exact ⟨by omega, fun t ht => by simp [*]; omega⟩
    split at h
    · cases h
    split at h
    · cases h
    split at h
    · cases h
      simp only [List.length_cons] at *
      exact ⟨by omega, fun t ht => by simp [*]; omega⟩
    split at h
    · cases h
    split at h
    · cases h
    · cases h
      simp only [List.length_cons] at *
      exact ⟨by omega, fun t ht => by simp [*]; omega⟩

/-- The rest of a rune is copied as it is. -/
theorem coerceUTF8Loop_eq_take {k : Nat} {bs : Bytes} (hk : k ≤ bs.length) :
    coerceUTF8Loop k bs = bs.take k ++ coerceUTF8Loop 0 (bs.drop k) := by
  induction bs generalizing k with
  | nil => simp at hk; subst hk; rfl
  | cons b bs ih =>
    cases k with
    | zero => rfl
    | succ k => rw [coerceUTF8Loop, ih (by simpa using hk)]; rfl

theorem validUTF8Loop_coerceUTF8Loop (k : Nat) (p : Bytes) : validUTF8Loop k (coerceUTF8Loop k p) = true := by
  induction p generalizing k with
  | nil => cases k <;> rfl
  | cons b bs ih =>
    match k with
    | k + 1 => exact ih k
    | 0 =>
      rw [coerceUTF8Loop]
      split
      · -- an invalid byte becomes U+FFFD, a rune of three bytes
        have : decodeRune (runeErrorBytes ++ coerceUTF8Loop 0 bs) = some 3 := by
          simp [runeErrorBytes, decodeRune, first, isContinuation]
        simp only [runeErrorBytes, List.cons_append, List.nil_append] at this ⊢
        rw [validUTF8Loop, this]
        exact ih 0
      · -- a valid rune is copied, and decodes the same in the copy
        rename_i n hn
        obtain ⟨hle, hpre⟩ := decodeRune_prefix hn
        have hdec : decodeRune (b :: coerceUTF8Loop (n - 1) bs) = some n := by
          rw [coerceUTF8Loop_eq_take (by omega)]
          refine hpre _ ?_
          have := (length_coerceUTF8Loop 0 (bs.drop (n - 1))).1
          simp only [List.length_drop] at this
          omega
        rw [validUTF8Loop, hdec]
        exact ih (n - 1)

/-- **What the JSON round trip gives back is valid UTF-8**: no name that is
not valid UTF-8 is ever the coercion of another. -/
theorem validUTF8_coerceUTF8 (p : Bytes) : validUTF8 (coerceUTF8 p) = true :=
  validUTF8Loop_coerceUTF8Loop 0 p

/-! ## `encoding/json` on a `Pairing` -/

/-- The bytes JSON counts as white space between and after values. -/
def isJsonSpace (b : UInt8) : Bool := b = 0x20 || b = 0x09 || b = 0x0A || b = 0x0D

/-- `json.Marshal(&p)` and `json.Unmarshal(b, &p)` for the `Pairing` struct.
`Marshal` cannot fail on a struct of a string, a byte slice and a byte, so it
is total. -/
structure Json where
  marshal : Pairing → Bytes
  unmarshal : Bytes → Except String Pairing

/-- What the store needs of `encoding/json`: a record reads back with its name
coerced to UTF-8; it is an object, so it ends with `}`; and `Unmarshal` refuses
a document with anything but white space after the value ("invalid character
… after top-level value"). -/
structure Json.Lawful (J : Json) : Prop where
  unmarshal_marshal : ∀ p, J.unmarshal (J.marshal p) = .ok { p with name := coerceUTF8 p.name }
  marshal_getLast : ∀ p, (J.marshal p).getLast? = some 0x7D
  unmarshal_trailing : ∀ p t, (∃ b ∈ t, isJsonSpace b = false) →
    ∃ e, J.unmarshal (J.marshal p ++ t) = .error e

/-- A record followed by bytes that end with `}` does not unmarshal. -/
theorem Json.Lawful.unmarshal_closing {J : Json} (hJ : J.Lawful) (p : Pairing) {t : Bytes}
    (ht : t.getLast? = some 0x7D) : ∃ e, J.unmarshal (J.marshal p ++ t) = .error e :=
  hJ.unmarshal_trailing p t ⟨_, List.mem_of_getLast?_eq_some ht, by decide⟩

/-- Each byte prefixed by `1`, and `0` at the end. -/
def tagBytes : Bytes → Bytes
  | [] => [0]
  | b :: bs => 1 :: b :: tagBytes bs

/-- The inverse of `tagBytes`, and the bytes after it. -/
def untagBytes : Bytes → Option (Bytes × Bytes)
  | 0 :: r => some ([], r)
  | 1 :: b :: r => (untagBytes r).map fun x => (b :: x.1, x.2)
  | _ => none

@[simp] theorem untagBytes_tagBytes (p r : Bytes) : untagBytes (tagBytes p ++ r) = some (p, r) := by
  induction p with
  | nil => rfl
  | cons b bs ih => simp [tagBytes, untagBytes, ih]

/-- The number of decimal digits of a byte, which is how long JSON writes it. -/
def decimalWidth (b : UInt8) : Nat := if b < 10 then 1 else if b < 100 then 2 else 3

/-- A lawful instance: the coerced name and the key tagged byte by byte, then
a padding as long as the permission's decimal digits, the permission byte and
`}`. Records of one pairing thus differ in length as their JSON does. -/
def Json.tagged : Json where
  marshal p := tagBytes (coerceUTF8 p.name) ++ tagBytes p.publicKey ++
    tagBytes (List.replicate (decimalWidth p.permission) 0) ++ [p.permission, 0x7D]
  unmarshal b :=
    match untagBytes b with
    | none => .error "invalid name"
    | some (name, r) =>
      match untagBytes r with
      | none => .error "invalid public key"
      | some (publicKey, r) =>
        match untagBytes r with
        | some (_, [permission, 0x7D]) => .ok ⟨name, publicKey, permission⟩
        | some (_, _ :: 0x7D :: _) => .error "invalid character after top-level value"
        | _ => .error "invalid record"

theorem Json.tagged_lawful : Json.tagged.Lawful where
  unmarshal_marshal p := by simp [Json.tagged, List.append_assoc]
  marshal_getLast p := by simp [Json.tagged]
  unmarshal_trailing p t h := by
    obtain ⟨b, hb, -⟩ := h
    obtain ⟨c, t, rfl⟩ : ∃ c t', t = c :: t' := List.exists_cons_of_ne_nil (List.ne_nil_of_mem hb)
    exact ⟨"invalid character after top-level value", by simp [Json.tagged, List.append_assoc]⟩

end Hap
