/-
  DataProxy formalization — ULIDs (`diesel_ulid::DieselUlid`, a wrapper of
  `rusty_ulid::Ulid`) and their string form, Crockford's base32 as
  `rusty_ulid` writes and reads it.

  * `Ulid`: a 128-bit value;
  * `encode` gives the 26 digits of a `u128`, the highest bits first, and
    `Ulid.toString` is the `Display` of a ULID;
  * `decode` is `Ulid::from_str`: the length in bytes must be 26, then
    `parse_crockford_u128` reads the characters one by one (`decodeChars`):
    digits and letters of either case, `I` and `L` as `1`, `O` as `0`, `U`
    rejected; a first character above `7` is `DataTypeOverflow`, and each
    value is shifted into a `u128`; `Ulid.fromStr` is `DieselUlid::from_str`;
  * `encodeDigits_succ`: the first digit of an encoding is the five bits above
    the others; for a `u128` only three are left, so its first character is at
    most `7` and passes the overflow check (`decode_encode`);
  * `fromStr_toString`: every ULID reads back from its string, and
    `underscore_not_mem_toString`: that string holds no `_`.

  `DecodeError.toString` is the `Display` of the error; the character an
  `InvalidChar` carries is kept in the error and left out of its text.
-/
import DataProxy.Rust
import Mathlib.Data.String.Basic
import Mathlib.Tactic.Ring

namespace DataProxy

/-- A ULID: 128 bits. -/
structure Ulid where
  val : ℕ
  lt : val < 2 ^ 128
  deriving DecidableEq, Repr

/-- Crockford's base32 digits, as `rusty_ulid` writes them. -/
def alphabet : List Char := "0123456789ABCDEFGHJKMNPQRSTVWXYZ".toList

/-- The value `parse_crockford_u128` gives a character: a lowercase letter reads as its
    uppercase one, `I` and `L` as `1`, `O` as `0`, and `U` or any other character has none. -/
def lookup (c : Char) : Option ℕ :=
  match c.toUpper with
  | 'I' | 'L' => some 1
  | 'O' => some 0
  | u => alphabet.indexOf? u

/-! ## Encoding -/

/-- The last `n` digits of a value: the last is the lowest five bits. -/
def encodeDigits : ℕ → ℕ → List Char
  | 0, _ => []
  | n + 1, v => encodeDigits n (v >>> 5) ++ [alphabet.getD (v &&& 0x1f) '0']

/-- The 26 characters of a `u128`. -/
def encode (v : ℕ) : List Char := encodeDigits 26 v

/-- `Display` for a ULID. -/
def Ulid.toString (u : Ulid) : String := ⟨encode u.val⟩

/-! ## Decoding -/

/-- `rusty_ulid::DecodingError`. -/
inductive DecodeError where
  | invalidLength
  | invalidChar (c : Char)
  | dataTypeOverflow
  deriving DecidableEq, Repr

/-- `Display` for `DecodingError`. -/
def DecodeError.toString : DecodeError → String
  | .invalidLength => "invalid length"
  | .invalidChar _ => "invalid character"
  | .dataTypeOverflow => "data type overflow"

/-- The loop of `parse_crockford_u128` from the character at index `i`:
    `result = (result << 5) | value` on a `u128`, after the check that the first
    character is at most `7`. -/
def decodeChars : List Char → ℕ → ℕ → Except DecodeError ℕ
  | [], _, v => .ok v
  | c :: cs, i, v =>
    match lookup c with
    | none => .error (.invalidChar c)
    | some d =>
      if i = 0 ∧ 7 < d then .error .dataTypeOverflow
      else decodeChars cs (i + 1) ((v <<< 5 ||| d) % 2 ^ 128)

/-- `Ulid::from_str`: the length in bytes, then `parse_crockford_u128` (whose own length
    checks pass on 26 bytes). -/
def decode (s : String) : Except DecodeError ℕ :=
  if s.utf8ByteSize ≠ 26 then .error .invalidLength else decodeChars s.toList 0 0

theorem decodeChars_lt : ∀ (l : List Char) (i : ℕ) {a : ℕ} (_ : a < 2 ^ 128) {v : ℕ},
    decodeChars l i a = .ok v → v < 2 ^ 128
  | [], _, _, ha, _, h => by cases h; exact ha
  | c :: l, i, a, _, v, h => by
    simp only [decodeChars] at h
    split at h
    · cases h
    · split_ifs at h
      exact decodeChars_lt l _ (Nat.mod_lt _ (Nat.two_pow_pos 128)) h

theorem decode_lt {s : String} {v : ℕ} (h : decode s = .ok v) : v < 2 ^ 128 := by
  unfold decode at h
  split at h
  · cases h
  · exact decodeChars_lt _ 0 (Nat.two_pow_pos 128) h

/-- `DieselUlid::from_str`. -/
def Ulid.fromStr (s : String) : Except DecodeError Ulid :=
  match h : decode s with
  | .ok v => .ok ⟨v, decode_lt h⟩
  | .error e => .error e

/-! ## Round trip -/

theorem lookup_alphabet : ∀ d < 32, lookup (alphabet.getD d '0') = some d := by decide

theorem underscore_not_mem_alphabet : '_' ∉ alphabet := by decide

theorem utf8Size_of_mem_alphabet : ∀ c ∈ alphabet, c.utf8Size = 1 := by decide

theorem mem_alphabet_of_mem_encodeDigits : ∀ {n v c}, c ∈ encodeDigits n v → c ∈ alphabet
  | 0, _, _, h => by simp [encodeDigits] at h
  | n + 1, v, c, h => by
    simp only [encodeDigits, List.mem_append, List.mem_singleton] at h
    rcases h with h | rfl
    · exact mem_alphabet_of_mem_encodeDigits h
    · have : v &&& 0x1f < alphabet.length := Nat.and_lt_two_pow v (show 0x1f < 2 ^ 5 by decide)
      simp [List.getElem?_eq_getElem this, List.getElem_mem]

/-- Every digit is one byte, so an encoding is as long in bytes as in characters. -/
theorem utf8Len_encodeDigits : ∀ n v, String.utf8Len (encodeDigits n v) = n
  | 0, _ => rfl
  | n + 1, v => by
    rw [encodeDigits, String.utf8Len_append, utf8Len_encodeDigits n, String.utf8Len_cons,
      String.utf8Len_nil, utf8Size_of_mem_alphabet _
        (mem_alphabet_of_mem_encodeDigits (n := 1) (v := v) (List.mem_singleton_self _))]

/-- **The leading digit.** The first of `n + 1` digits is the five bits above the last
    `n` digits. -/
theorem encodeDigits_succ : ∀ n v,
    encodeDigits (n + 1) v = alphabet.getD ((v >>> (5 * n)) &&& 0x1f) '0' :: encodeDigits n v
  | 0, v => by simp [encodeDigits]
  | n + 1, v => by
    rw [encodeDigits, encodeDigits_succ n, ← Nat.shiftRight_add, encodeDigits]
    simp only [List.cons_append, show 5 + 5 * n = 5 * (n + 1) by ring]

/-- `(v << 5) | d` is `32 v + d` for a five-bit `d`. -/
theorem shift_or_eq {d : ℕ} (v : ℕ) (hd : d < 32) : v <<< 5 ||| d = 32 * v + d := by
  rw [Nat.shiftLeft_eq, Nat.mul_comm, ← Nat.mul_add_lt_is_or (i := 5) hd]

theorem mod_mul_add_mod (x k r m : ℕ) : (x % m * k + r) % m = (x * k + r) % m := by
  rw [Nat.add_mod, Nat.mul_mod, Nat.mod_mod, ← Nat.mul_mod, ← Nat.add_mod]

/-- The digit at position `n` of a value, as `encodeDigits_succ` writes it. -/
theorem digit_eq (v n : ℕ) : (v >>> (5 * n)) &&& 0x1f = v / 32 ^ n % 32 := by
  rw [Nat.shiftRight_eq_div_pow, pow_mul, show (0x1f : ℕ) = 2 ^ 5 - 1 from rfl,
    Nat.and_pow_two_sub_one_eq_mod]; rfl

/-- One character with a value, and no overflow at the first index. -/
theorem decodeChars_cons {c : Char} {cs : List Char} {i v d : ℕ} (hc : lookup c = some d)
    (hi : ¬(i = 0 ∧ 7 < d)) :
    decodeChars (c :: cs) i v = decodeChars cs (i + 1) ((v <<< 5 ||| d) % 2 ^ 128) := by
  simp only [decodeChars, hc, if_neg hi]

/-- Reading `n` encoded characters past the first shifts in the low `5 n` bits of the value. -/
theorem decodeChars_encodeDigits : ∀ (n : ℕ) {i a : ℕ} (v : ℕ), 0 < i → a < 2 ^ 128 →
    decodeChars (encodeDigits n v) i a = .ok ((a * 32 ^ n + v % 32 ^ n) % 2 ^ 128)
  | 0, i, a, v, _, ha => by
    simp only [encodeDigits, decodeChars, pow_zero, Nat.mul_one, Nat.mod_one, Nat.add_zero,
      Nat.mod_eq_of_lt ha]
  | n + 1, i, a, v, hi, ha => by
    have hd : v / 32 ^ n % 32 < 32 := Nat.mod_lt _ (by omega)
    rw [encodeDigits_succ, digit_eq, decodeChars_cons (lookup_alphabet _ hd) (by omega),
      shift_or_eq _ hd,
      decodeChars_encodeDigits n v (Nat.succ_pos i) (Nat.mod_lt _ (Nat.two_pow_pos 128)),
      mod_mul_add_mod, pow_succ 32 n, Nat.mod_mul (x := v)]
    congr 2; ring

theorem decode_encode {v : ℕ} (h : v < 2 ^ 128) : decode ⟨encode v⟩ = .ok v := by
  -- the leading digit: the top three bits
  have hd : v / 32 ^ 25 < 8 := Nat.div_lt_of_lt_mul (by omega)
  have hv : v / 32 ^ 25 % 32 = v / 32 ^ 25 := Nat.mod_eq_of_lt (by omega)
  have hlen : String.utf8ByteSize ⟨encode v⟩ = 26 := utf8Len_encodeDigits 26 v
  rw [decode, if_neg (not_not.2 hlen), encode, String.toList, encodeDigits_succ, digit_eq, hv,
    decodeChars_cons (lookup_alphabet _ (by omega)) (by omega), shift_or_eq _ (by omega),
    decodeChars_encodeDigits 25 v Nat.one_pos (Nat.mod_lt _ (Nat.two_pow_pos 128)),
    Nat.mul_zero, Nat.zero_add, Nat.mod_eq_of_lt (show v / 32 ^ 25 < 2 ^ 128 by omega),
    Nat.mul_comm, Nat.div_add_mod, Nat.mod_eq_of_lt h]

/-- **ULID round trip.** Every ULID reads back from its string. -/
theorem fromStr_toString (u : Ulid) : Ulid.fromStr u.toString = .ok u := by
  obtain ⟨v, hv⟩ := u
  have hd : decode (Ulid.toString ⟨v, hv⟩) = .ok v := decode_encode hv
  unfold Ulid.fromStr
  split
  · rename_i w hw; rw [hd] at hw; cases hw; rfl
  · rename_i e he; rw [hd] at he; cases he

theorem underscore_not_mem_toString (u : Ulid) : '_' ∉ u.toString.toList :=
  fun h => underscore_not_mem_alphabet (mem_alphabet_of_mem_encodeDigits h)

end DataProxy
