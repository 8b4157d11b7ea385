/-
  DataProxy formalization — `base64::encode` and `base64::decode` with the
  standard configuration, as the presigned URLs use them for the salt and the
  signature.

  * `base64Encode`: six bits per character, four characters per three bytes,
    and `=` up to a multiple of four (`encode_to_slice`, then `add_padding`);
  * `base64Decode`: the checks of `decode_helper` (a length of `1` mod `4`,
    `=` only at the end and only in the last two places of a group, no
    character outside the alphabet, no bits left over in the last character),
    then the bytes;
  * `base64Decode_encode`: every byte string reads back from its encoding.

  The decoder counts characters where the crate counts bytes, and reports no
  offsets; on the strings it accepts the two agree, and every other string is
  refused by both.
-/
import Mathlib.Data.List.GetD

namespace DataProxy

/-! ## Bytes -/

/-- A byte from its value. -/
theorem ofNat_eq_byte {n : ℕ} {a : UInt8} (h : n = a.toNat) : UInt8.ofNat n = a := by
  obtain ⟨⟨v, hv⟩⟩ := a
  subst h
  simp only [UInt8.ofNat, BitVec.ofNat]
  congr
  exact Fin.ext (Nat.mod_eq_of_lt hv)

theorem byte_toNat_lt (a : UInt8) : a.toNat < 256 := a.toBitVec.isLt

/-! ## Encoding -/

/-- The standard alphabet (RFC 4648, §4). -/
def base64Alphabet : List Char :=
  "ABCDEFGHIJKLMNOPQRSTUVWXYZabcdefghijklmnopqrstuvwxyz0123456789+/".toList

/-- The character of a six-bit value. -/
def sextetChar (n : ℕ) : Char := base64Alphabet.getD n 'A'

/-- `encode_to_slice`: four six-bit values per three bytes, and two or three for a last
    group of one or two bytes, the bits below the input's filled with zeros. -/
def encodeSextets : List UInt8 → List ℕ
  | a :: b :: c :: rest =>
    let v := a.toNat * 65536 + b.toNat * 256 + c.toNat
    [v / 262144, v / 4096 % 64, v / 64 % 64, v % 64] ++ encodeSextets rest
  | [a, b] =>
    let v := a.toNat * 256 + b.toNat
    [v / 1024, v / 16 % 64, v % 16 * 4]
  | [a] => [a.toNat / 4, a.toNat % 4 * 16]
  | [] => []

/-- `add_padding`: one `=` for each byte the last group lacks. -/
def base64Padding (inputLen : ℕ) : List Char :=
  List.replicate ((3 - inputLen % 3) % 3) '='

/-- `base64::encode`. -/
def base64Encode (bs : List UInt8) : String :=
  ⟨(encodeSextets bs).map sextetChar ++ base64Padding bs.length⟩

/-- The alphabet, checked character by character. -/
theorem sextetChar_check : ((List.range 64).all fun n =>
    base64Alphabet.indexOf? (sextetChar n) == some n && !(sextetChar n == '=') &&
      decide ((sextetChar n).toNat < 128)) = true := rfl

/-- Each character of the alphabet reads back as its index, none is `=`, and all are
    ASCII. -/
theorem sextetChar_table : ∀ n < 64, (base64Alphabet.indexOf? (sextetChar n) = some n) ∧
    (sextetChar n == '=') = false ∧ (sextetChar n).toNat < 128 := fun n hn => by
  simpa [and_assoc] using List.all_eq_true.1 sextetChar_check n (List.mem_range.2 hn)

theorem sextetChar_ascii (n : ℕ) : (sextetChar n).toNat < 128 := by
  rcases Nat.lt_or_ge n 64 with h | h
  · exact (sextetChar_table n h).2.2
  · rw [sextetChar, List.getD_eq_default]
    · decide
    · exact Nat.le_trans (by decide) h

/-- The encoding is ASCII: the alphabet and `=`. -/
theorem base64Encode_ascii (bs : List UInt8) : ∀ c ∈ (base64Encode bs).data, c.toNat < 128 := by
  intro c hc
  simp only [base64Encode, base64Padding, List.mem_append, List.mem_map, List.mem_replicate] at hc
  rcases hc with ⟨n, -, rfl⟩ | ⟨-, rfl⟩
  · exact sextetChar_ascii n
  · decide

/-! ## Decoding -/

/-- `base64::DecodeError`, without the offset and the byte it reports. -/
inductive Base64Error where
  | invalidByte
  | invalidLength
  | invalidLastSymbol
  deriving DecidableEq, Repr

/-- `DECODE_TABLE`: the value of a character of the alphabet. -/
def sextetValue (c : Char) : Option ℕ := base64Alphabet.indexOf? c

/-- The bytes of the six-bit values, three per four; a last group of two or three values
    gives one or two bytes, and the bits it has beyond them must be zero. -/
def decodeSextets : List ℕ → Except Base64Error (List UInt8)
  | a :: b :: c :: d :: rest =>
    let v := a * 262144 + b * 4096 + c * 64 + d
    (decodeSextets rest).map fun r =>
      UInt8.ofNat (v / 65536) :: UInt8.ofNat (v / 256 % 256) :: UInt8.ofNat (v % 256) :: r
  | [a, b, c] =>
    if c % 4 = 0 then .ok [UInt8.ofNat (a * 4 + b / 16), UInt8.ofNat (b % 16 * 16 + c / 4)]
    else .error .invalidLastSymbol
  | [a, b] => if b % 16 = 0 then .ok [UInt8.ofNat (a * 4 + b / 16)] else .error .invalidLastSymbol
  | [_] => .error .invalidLength
  | [] => .ok []

/-- `base64::decode`: the length is checked first, then the trailing `=` (each in the third
    or fourth place of its group), then the characters before them, then the bytes. -/
def base64Decode (s : String) : Except Base64Error (List UInt8) :=
  let body := (s.toList.reverse.dropWhile (· == '=')).reverse
  let pads := s.length - body.length
  if s.length % 4 = 1 then .error .invalidLength
  else if (List.range pads).any (fun j => (body.length + j) % 4 < 2) then .error .invalidByte
  else match body.mapM sextetValue with
    | some vs => decodeSextets vs
    | none => .error .invalidByte

/-! ## Round trip -/

theorem sextetValue_sextetChar : ∀ n < 64, sextetValue (sextetChar n) = some n :=
  fun n hn => (sextetChar_table n hn).1

theorem sextetChar_ne_pad : ∀ n < 64, (sextetChar n == '=') = false :=
  fun n hn => (sextetChar_table n hn).2.1

theorem encodeSextets_lt (bs : List UInt8) : ∀ x ∈ encodeSextets bs, x < 64 := by
  induction bs using encodeSextets.induct with
  | case1 a b c rest ih =>
    have := byte_toNat_lt a; have := byte_toNat_lt b; have := byte_toNat_lt c
    intro x hx
    simp only [encodeSextets, List.mem_append, List.mem_cons, List.mem_nil_iff, or_false] at hx
    rcases hx with (rfl | rfl | rfl | rfl) | hx
    all_goals first | omega | exact ih x hx
  | case2 a b =>
    have := byte_toNat_lt a; have := byte_toNat_lt b
    simp only [encodeSextets, List.mem_cons, List.mem_nil_iff, or_false]
    rintro x (rfl | rfl | rfl) <;> omega
  | case3 a =>
    have := byte_toNat_lt a
    simp only [encodeSextets, List.mem_cons, List.mem_nil_iff, or_false]
    rintro x (rfl | rfl) <;> omega
  | case4 => simp [encodeSextets]

/-- The encoding's length: four characters per group of up to three bytes. -/
theorem length_encodeSextets (bs : List UInt8) :
    (encodeSextets bs).length + (3 - bs.length % 3) % 3 = 4 * ((bs.length + 2) / 3) := by
  induction bs using encodeSextets.induct with
  | case1 a b c rest ih =>
    simp only [encodeSextets, List.length_append, List.length_cons, List.length_nil] at ih ⊢
    omega
  | _ => simp [encodeSextets]

theorem decodeSextets_encodeSextets (bs : List UInt8) :
    decodeSextets (encodeSextets bs) = .ok bs := by
  induction bs using encodeSextets.induct with
  | case1 a b c rest ih =>
    have := byte_toNat_lt a; have := byte_toNat_lt b; have := byte_toNat_lt c
    simp only [encodeSextets, List.cons_append, List.append_eq, List.nil_append, decodeSextets,
      ih, Except.map, Except.ok.injEq, List.cons.injEq, and_true]
    refine ⟨ofNat_eq_byte ?_, ofNat_eq_byte ?_, ofNat_eq_byte ?_⟩ <;> omega
  | case2 a b =>
    have := byte_toNat_lt a; have := byte_toNat_lt b
    simp only [encodeSextets, decodeSextets,
      if_pos (show (a.toNat * 256 + b.toNat) % 16 * 4 % 4 = 0 by omega), Except.ok.injEq,
      List.cons.injEq, and_true]
    refine ⟨ofNat_eq_byte ?_, ofNat_eq_byte ?_⟩ <;> omega
  | case3 a =>
    have := byte_toNat_lt a
    simp only [encodeSextets, decodeSextets, if_pos (show a.toNat % 4 * 16 % 16 = 0 by omega),
      Except.ok.injEq, List.cons.injEq, and_true]
    exact ofNat_eq_byte (by omega)
  | case4 => rfl

theorem mapM_sextetValue : ∀ xs : List ℕ, (∀ x ∈ xs, x < 64) →
    (xs.map sextetChar).mapM sextetValue = some xs
  | [], _ => rfl
  | x :: xs, h => by
    rw [List.map_cons, List.mapM_cons, sextetValue_sextetChar x (h x (by simp)),
      mapM_sextetValue xs fun y hy => h y (by simp [hy])]
    rfl

/-- Dropping the padding from the end leaves the characters of the six-bit values. -/
theorem dropPadding (xs : List ℕ) (k : ℕ) (h : ∀ x ∈ xs, x < 64) :
    ((xs.map sextetChar ++ List.replicate k '=').reverse.dropWhile (· == '=')).reverse =
      xs.map sextetChar := by
  rw [List.reverse_append, List.reverse_replicate, List.dropWhile_append, List.dropWhile_replicate]
  simp only [beq_self_eq_true, if_true, List.isEmpty_nil]
  cases hx : xs.reverse with
  | nil => simp_all
  | cons x rest =>
    have hx' : x ∈ xs := List.mem_reverse.1 (hx ▸ List.mem_cons_self x rest)
    rw [← List.map_reverse, hx, List.map_cons, List.dropWhile_cons_of_neg
      (by simp [sextetChar_ne_pad x (h x hx')]), ← List.map_cons, ← hx, List.map_reverse,
      List.reverse_reverse]

/-- **Base64 round trip.** Every byte string reads back from its encoding. -/
theorem base64Decode_encode (bs : List UInt8) : base64Decode (base64Encode bs) = .ok bs := by
  have hlt := encodeSextets_lt bs
  have hlen := length_encodeSextets bs
  simp only [base64Decode, base64Encode, base64Padding, String.toList, String.length,
    dropPadding _ _ hlt, mapM_sextetValue _ hlt, List.length_append, List.length_map,
    List.length_replicate, decodeSextets_encodeSextets]
  rw [if_neg (by omega), if_neg]
  simp only [List.any_eq_true, List.mem_range, decide_eq_true_eq, not_exists, not_and]
  omega

end DataProxy
