/-
  DataProxy formalization — the query of a URL as `application/x-www-form-urlencoded`
  pairs (`form_urlencoded` and `url`), as the presign handler writes and reads it.

  * `appendPair`: `query_pairs_mut().append_pair(name, value)`, a `&` unless the
    query is empty, then the name and the value through `byte_serialize`;
  * `parseQuery`: `form_urlencoded::parse`, the non-empty `&`-pieces, each cut at
    its first `=`, both halves through `+` to space, `percent_decode` and
    `String::from_utf8_lossy` (`utf8DecodeLossy`);
  * `Url`: the parts of a URL the signer reads and writes, its path and query.

  Main result: `queryPairs_appendPair`, a pair appended to any query, with an
  ASCII name and value, is read back as the last pair, after the pairs the
  query already had.
-/
import DataProxy.Presign.Base64
import Mathlib.Data.List.Basic

namespace DataProxy

/-! ## The bytes of a string -/

/-- `as_bytes`: a string's UTF-8 encoding. -/
def utf8Bytes (s : String) : List UInt8 := s.data.flatMap String.utf8EncodeChar

/-- Characters that are all ASCII. -/
def IsAscii (cs : List Char) : Prop := ∀ c ∈ cs, c.toNat < 128

instance (cs : List Char) : Decidable (IsAscii cs) :=
  inferInstanceAs (Decidable (∀ c ∈ cs, c.toNat < 128))

@[simp] theorem isAscii_nil : IsAscii [] := List.forall_mem_nil _

@[simp] theorem isAscii_append {xs ys : List Char} :
    IsAscii (xs ++ ys) ↔ IsAscii xs ∧ IsAscii ys :=
  List.forall_mem_append

@[simp] theorem isAscii_cons {c : Char} {xs : List Char} :
    IsAscii (c :: xs) ↔ c.toNat < 128 ∧ IsAscii xs :=
  List.forall_mem_cons

theorem toNat_ofNat_ascii : ∀ n < 128, (Char.ofNat n).toNat = n := by decide

theorem utf8EncodeChar_ascii {c : Char} (h : c.toNat < 128) :
    String.utf8EncodeChar c = [UInt8.ofNat c.toNat] := by
  have : c.val ≤ 0x7f := by
    rw [UInt32.le_def, BitVec.le_def]; exact Nat.le_of_lt_succ h
  simp [String.utf8EncodeChar, this]
  rfl

theorem utf8Bytes_ascii {cs : List Char} (h : IsAscii cs) :
    utf8Bytes ⟨cs⟩ = cs.map fun c => UInt8.ofNat c.toNat := by
  induction cs with
  | nil => rfl
  | cons c cs ih =>
    simp only [utf8Bytes, List.flatMap_cons, List.map_cons] at ih ⊢
    rw [utf8EncodeChar_ascii (h c (by simp)), ih fun d hd => h d (by simp [hd])]
    rfl

@[simp] theorem utf8Bytes_append (s t : String) : utf8Bytes (s ++ t) = utf8Bytes s ++ utf8Bytes t := by
  simp [utf8Bytes, String.append]

/-! ## Serializing -/

/-- `byte_serialized_unchanged`: `*`, `-`, `.`, `_`, the digits and the ASCII letters. -/
def byteSerializedUnchanged (b : UInt8) : Bool :=
  let n := b.toNat
  n = 0x2A || n = 0x2D || n = 0x2E || (0x30 ≤ n && n ≤ 0x39) || (0x41 ≤ n && n ≤ 0x5A) ||
    n = 0x5F || (0x61 ≤ n && n ≤ 0x7A)

/-- An upper-case hexadecimal digit. -/
def hexDigitUpper (n : ℕ) : Char := "0123456789ABCDEF".toList.getD n '0'

/-- `byte_serialize` on one byte: itself where unchanged, `+` for a space, and
    `percent_encode_byte` (`%` and two upper-case digits) for the rest. -/
def serializeByte (b : UInt8) : List Char :=
  if byteSerializedUnchanged b then [Char.ofNat b.toNat]
  else if b.toNat = 0x20 then ['+']
  else ['%', hexDigitUpper (b.toNat / 16), hexDigitUpper (b.toNat % 16)]

/-- `form_urlencoded::byte_serialize` of a string's bytes. -/
def byteSerialize (s : String) : List Char := (utf8Bytes s).flatMap serializeByte

/-- `Serializer::append_pair` on a query: `append_separator_if_needed`, then the name,
    `=` and the value. -/
def appendPair (query name value : String) : String :=
  (if query = "" then query else query ++ "&") ++ ⟨byteSerialize name⟩ ++ "=" ++
    ⟨byteSerialize value⟩

/-! ## Parsing -/

/-- `replace_plus`. -/
def replacePlus (bs : List UInt8) : List UInt8 :=
  bs.map fun b => if b.toNat = 0x2B then 0x20 else b

/-- The value of a hexadecimal digit of either case. -/
def hexValue (b : UInt8) : Option ℕ :=
  let n := b.toNat
  if 0x30 ≤ n ∧ n ≤ 0x39 then some (n - 0x30)
  else if 0x41 ≤ n ∧ n ≤ 0x46 then some (n - 0x37)
  else if 0x61 ≤ n ∧ n ≤ 0x66 then some (n - 0x57)
  else none

/-- `percent_decode`: `%` and two hexadecimal digits are the byte they spell; any other
    `%` stays as it is. -/
def percentDecode : List UInt8 → List UInt8
  | b :: h :: l :: rest =>
    if b.toNat = 0x25 then
      match hexValue h, hexValue l with
      | some x, some y => UInt8.ofNat (x * 16 + y) :: percentDecode rest
      | _, _ => b :: percentDecode (h :: l :: rest)
    else b :: percentDecode (h :: l :: rest)
  | b :: rest => b :: percentDecode rest
  | [] => []

/-- A continuation byte, `0x80` to `0xBF`. -/
def isContinuation (b : UInt8) : Bool := 0x80 ≤ b.toNat && b.toNat ≤ 0xBF

/-- The range the second byte of a three-byte sequence may take after the first
    (`E0`: no overlong form, `ED`: no surrogate). -/
def secondOfThree (n : ℕ) (b : UInt8) : Bool :=
  if n = 0xE0 then 0xA0 ≤ b.toNat && b.toNat ≤ 0xBF
  else if n = 0xED then 0x80 ≤ b.toNat && b.toNat ≤ 0x9F
  else isContinuation b

/-- The range the second byte of a four-byte sequence may take after the first
    (`F0`: no overlong form, `F4`: nothing above U+10FFFF). -/
def secondOfFour (n : ℕ) (b : UInt8) : Bool :=
  if n = 0xF0 then 0x90 ≤ b.toNat && b.toNat ≤ 0xBF
  else if n = 0xF4 then 0x80 ≤ b.toNat && b.toNat ≤ 0x8F
  else isContinuation b

/-- One character of `String::from_utf8_lossy` at the byte `b`, followed by `rest`: the
    character of a well-formed sequence, or U+FFFD for the longest prefix of one that
    cannot be completed; and how many bytes of `rest` it takes. A missing byte reads as
    `0`, which continues no sequence. -/
def utf8Step (b : UInt8) (rest : List UInt8) : Char × ℕ :=
  let n := b.toNat
  let next (i : ℕ) := rest.getD i 0
  if n < 0x80 then (Char.ofNat n, 0)
  else if 0xC2 ≤ n ∧ n ≤ 0xDF then
    if isContinuation (next 0) then (Char.ofNat (n % 32 * 64 + (next 0).toNat % 64), 1)
    else ('�', 0)
  else if 0xE0 ≤ n ∧ n ≤ 0xEF then
    if !secondOfThree n (next 0) then ('�', 0)
    else if !isContinuation (next 1) then ('�', 1)
    else (Char.ofNat (n % 16 * 4096 + (next 0).toNat % 64 * 64 + (next 1).toNat % 64), 2)
  else if 0xF0 ≤ n ∧ n ≤ 0xF4 then
    if !secondOfFour n (next 0) then ('�', 0)
    else if !isContinuation (next 1) then ('�', 1)
    else if !isContinuation (next 2) then ('�', 2)
    else (Char.ofNat (n % 8 * 262144 + (next 0).toNat % 64 * 4096 + (next 1).toNat % 64 * 64 +
      (next 2).toNat % 64), 3)
  else ('�', 0)

/-- `String::from_utf8_lossy`. -/
def utf8DecodeLossy : List UInt8 → List Char
  | [] => []
  | b :: rest => (utf8Step b rest).1 :: utf8DecodeLossy (rest.drop (utf8Step b rest).2)
termination_by bs => bs.length
decreasing_by simp only [List.length_drop, List.length_cons]; omega

/-- `decode` of `form_urlencoded`: `+` as a space, then percent-decoding, then UTF-8. -/
def decodeComponent (bs : List UInt8) : String :=
  ⟨utf8DecodeLossy (percentDecode (replacePlus bs))⟩

/-- `splitn(2, sep)`: the bytes before the first `sep`, and the bytes after it (none where
    there is no `sep`). -/
def splitFirst (sep : UInt8) : List UInt8 → List UInt8 × List UInt8
  | [] => ([], [])
  | b :: rest => if b = sep then ([], rest) else ((b :: (splitFirst sep rest).1), (splitFirst sep rest).2)

/-- `form_urlencoded::parse`. -/
def parseQuery (input : List UInt8) : List (String × String) :=
  ((input.splitOn 0x26).filter fun piece => !piece.isEmpty).map fun piece =>
    (decodeComponent (splitFirst 0x3D piece).1, decodeComponent (splitFirst 0x3D piece).2)

/-! ## URLs -/

/-- A URL, with the parts the signer reads and writes: its path, and its query (`None`
    where it has no `?`). -/
structure Url where
  path : String
  query : Option String
  deriving DecidableEq, Repr

/-- `url.query_pairs_mut().append_pair(name, value)`: a URL without a query gets an empty
    one first. -/
def Url.appendPair (u : Url) (name value : String) : Url :=
  { u with query := some (DataProxy.appendPair (u.query.getD "") name value) }

/-- `url.query_pairs()`. -/
def Url.queryPairs (u : Url) : List (String × String) :=
  parseQuery (utf8Bytes (u.query.getD ""))

/-! ## A serialized component reads back -/

/-- The bytes `byte_serialize` writes for a byte. -/
def serializedBytes (b : UInt8) : List UInt8 := (serializeByte b).map fun c => UInt8.ofNat c.toNat

theorem hexDigitUpper_ascii : ∀ n < 16, (hexDigitUpper n).toNat < 128 := by decide

theorem hexValue_hexDigitUpper :
    ∀ n < 16, hexValue (UInt8.ofNat (hexDigitUpper n).toNat) = some n := by
  decide

theorem hexDigitUpper_not_separator : ∀ n < 16,
    (UInt8.ofNat (hexDigitUpper n).toNat).toNat ∉ [0x25, 0x26, 0x2B, 0x3D] := by decide

/-- The bytes `byte_serialize` keeps are ASCII, and none is a space, `%`, `&`, `+` or `=`. -/
theorem byteSerializedUnchanged_spec {b : UInt8} (h : byteSerializedUnchanged b = true) :
    b.toNat < 128 ∧ b.toNat ≠ 0x20 ∧ b.toNat ≠ 0x25 ∧ b.toNat ≠ 0x26 ∧ b.toNat ≠ 0x2B ∧
      b.toNat ≠ 0x3D := by
  simp only [byteSerializedUnchanged, Bool.or_eq_true, Bool.and_eq_true, decide_eq_true_eq] at h
  omega

/-- A kept byte is written as the character of its value, and read back as itself. -/
theorem ofNat_keptChar {b : UInt8} (h : b.toNat < 128) :
    UInt8.ofNat (Char.ofNat b.toNat).toNat = b :=
  ofNat_eq_byte (toNat_ofNat_ascii _ h)

theorem serializeByte_ascii (b : UInt8) : IsAscii (serializeByte b) := by
  have hb := byte_toNat_lt b
  unfold serializeByte
  split_ifs with h₁ h₂
  · have hlt := (byteSerializedUnchanged_spec h₁).1
    simp only [isAscii_cons, isAscii_nil, and_true]
    rwa [toNat_ofNat_ascii _ hlt]
  · simp [IsAscii]
  · simp only [IsAscii, List.mem_cons, List.mem_singleton, List.not_mem_nil, or_false]
    rintro c (rfl | rfl | rfl)
    · decide
    · exact hexDigitUpper_ascii _ (by omega)
    · exact hexDigitUpper_ascii _ (by omega)

theorem utf8Bytes_byteSerialize (s : String) :
    utf8Bytes ⟨byteSerialize s⟩ = (utf8Bytes s).flatMap serializedBytes := by
  rw [utf8Bytes_ascii, byteSerialize, List.map_flatMap]
  · rfl
  · intro c hc
    obtain ⟨b, -, hb⟩ := List.mem_flatMap.1 hc
    exact serializeByte_ascii b c hb

/-- A byte that is not `%` is left alone by percent-decoding. -/
theorem percentDecode_cons_of_ne {b : UInt8} (h : b.toNat ≠ 0x25) :
    ∀ rest, percentDecode (b :: rest) = b :: percentDecode rest
  | _ :: _ :: _ => by simp [percentDecode, h]
  | [_] | [] => rfl

/-- One serialized byte reads back as the byte. -/
theorem percentDecode_serializedBytes (b : UInt8) (rest : List UInt8) :
    percentDecode (replacePlus (serializedBytes b ++ rest)) = b :: percentDecode (replacePlus rest) := by
  have hb := byte_toNat_lt b
  unfold serializedBytes serializeByte
  split_ifs with h₁ h₂
  · obtain ⟨hlt, -, hpct, -, hplus, -⟩ := byteSerializedUnchanged_spec h₁
    simp only [List.map_cons, List.map_nil, ofNat_keptChar hlt, List.cons_append, List.nil_append,
      replacePlus, List.map_cons]
    rw [if_neg hplus, percentDecode_cons_of_ne hpct]
  · have hsp : (0x20 : UInt8) = b := ofNat_eq_byte h₂.symm
    simp only [List.map_cons, List.map_nil, List.cons_append, List.nil_append, replacePlus]
    rw [if_pos (by decide), percentDecode_cons_of_ne (by decide), hsp]
  · have hhi := hexDigitUpper_not_separator (b.toNat / 16) (by omega)
    have hlo := hexDigitUpper_not_separator (b.toNat % 16) (by omega)
    simp only [List.mem_cons, List.not_mem_nil, or_false, not_or] at hhi hlo
    simp only [List.map_cons, List.map_nil, List.cons_append, List.nil_append, replacePlus,
      if_neg hhi.2.2.1, if_neg hlo.2.2.1]
    rw [percentDecode, if_pos (by decide)]
    simp only [hexValue_hexDigitUpper _ (show b.toNat / 16 < 16 by omega),
      hexValue_hexDigitUpper _ (show b.toNat % 16 < 16 by omega)]
    rw [show b.toNat / 16 * 16 + b.toNat % 16 = b.toNat by omega, ofNat_eq_byte rfl]

theorem percentDecode_flatMap_serializedBytes (bs : List UInt8) :
    percentDecode (replacePlus (bs.flatMap serializedBytes)) = bs := by
  induction bs with
  | nil => rfl
  | cons b bs ih => rw [List.flatMap_cons, percentDecode_serializedBytes, ih]

theorem utf8DecodeLossy_ascii {bs : List UInt8} (h : ∀ b ∈ bs, b.toNat < 128) :
    utf8DecodeLossy bs = bs.map fun b => Char.ofNat b.toNat := by
  induction bs with
  | nil => rw [utf8DecodeLossy]; rfl
  | cons b bs ih =>
    rw [utf8DecodeLossy, utf8Step, if_pos (h b (by simp))]
    simp only [List.drop_zero, ih fun c hc => h c (by simp [hc]), List.map_cons]

/-- **A serialized ASCII string reads back.** -/
theorem decodeComponent_byteSerialize {s : String} (h : IsAscii s.data) :
    decodeComponent (utf8Bytes ⟨byteSerialize s⟩) = s := by
  have hbytes : utf8Bytes s = s.data.map fun c => UInt8.ofNat c.toNat := utf8Bytes_ascii h
  have hback : ∀ c ∈ s.data, Char.ofNat (UInt8.ofNat c.toNat).toNat = c := fun c hc => by
    rw [UInt8.toNat_ofNat_of_lt (by have := h c hc; unfold UInt8.size; omega), Char.ofNat_toNat]
  rw [decodeComponent, utf8Bytes_byteSerialize, percentDecode_flatMap_serializedBytes, hbytes,
    utf8DecodeLossy_ascii, List.map_map, Function.comp_def, List.map_congr_left hback, List.map_id']
  simp only [List.mem_map]
  rintro _ ⟨c, hc, rfl⟩
  rw [UInt8.toNat_ofNat_of_lt (by have := h c hc; unfold UInt8.size; omega)]
  exact h c hc

/-! ## Reading an appended pair back -/

theorem splitOn_append_sep {α : Type} [DecidableEq α] (a : α) (xs ys : List α) :
    (xs ++ a :: ys).splitOn a = xs.splitOn a ++ ys.splitOn a := by
  simp only [List.splitOn]
  induction xs with
  | nil => simp
  | cons x xs ih =>
    rw [List.cons_append, List.splitOnP_cons, List.splitOnP_cons, ih]
    split
    · rfl
    · cases h : xs.splitOnP (· == a) with
      | nil => exact absurd h (List.splitOnP_ne_nil _ _)
      | cons => rfl

theorem splitOn_of_not_mem {α : Type} [DecidableEq α] {a : α} {xs : List α} (h : a ∉ xs) :
    xs.splitOn a = [xs] :=
  List.splitOnP_eq_single _ _ fun x hx hxa => h (by rwa [beq_iff_eq.1 hxa] at hx)

theorem splitFirst_append {sep : UInt8} {xs : List UInt8} (h : sep ∉ xs) (ys : List UInt8) :
    splitFirst sep (xs ++ sep :: ys) = (xs, ys) := by
  induction xs with
  | nil => simp [splitFirst]
  | cons x xs ih =>
    have hx : x ≠ sep := fun hx => h (by simp [hx])
    simp [splitFirst, hx, ih fun hs => h (by simp [hs])]

/-- `byte_serialize` writes no `&` and no `=`. -/
theorem serializedBytes_not_separator (b : UInt8) :
    ∀ x ∈ serializedBytes b, x ≠ 0x26 ∧ x ≠ 0x3D := by
  have hb := byte_toNat_lt b
  unfold serializedBytes serializeByte
  split_ifs with h₁ h₂
  · obtain ⟨hlt, -, -, hamp, -, heq⟩ := byteSerializedUnchanged_spec h₁
    simp only [List.map_cons, List.map_nil, ofNat_keptChar hlt, List.mem_singleton, forall_eq]
    exact ⟨fun h => hamp (h ▸ rfl), fun h => heq (h ▸ rfl)⟩
  · simp
  · have hhi := hexDigitUpper_not_separator (b.toNat / 16) (by omega)
    have hlo := hexDigitUpper_not_separator (b.toNat % 16) (by omega)
    simp only [List.map_cons, List.map_nil, List.mem_cons, List.not_mem_nil, or_false]
    rintro x (rfl | rfl | rfl)
    · decide
    · constructor <;> rintro h <;> simp [h] at hhi
    · constructor <;> rintro h <;> simp [h] at hlo

theorem not_separator_byteSerialize (s : String) :
    (0x26 : UInt8) ∉ utf8Bytes ⟨byteSerialize s⟩ ∧
      (0x3D : UInt8) ∉ utf8Bytes ⟨byteSerialize s⟩ := by
  rw [utf8Bytes_byteSerialize, List.mem_flatMap, List.mem_flatMap]
  exact ⟨fun ⟨b, _, hx⟩ => (serializedBytes_not_separator b _ hx).1 rfl,
    fun ⟨b, _, hx⟩ => (serializedBytes_not_separator b _ hx).2 rfl⟩

/-- A query joined at `&` parses as its two sides. -/
theorem parseQuery_append_sep (q r : List UInt8) :
    parseQuery (q ++ 0x26 :: r) = parseQuery q ++ parseQuery r := by
  simp [parseQuery, splitOn_append_sep]

/-- One piece, cut at its first `=`. -/
theorem parseQuery_pair {name value : List UInt8} (hname : (0x26 : UInt8) ∉ name)
    (hsep : (0x3D : UInt8) ∉ name) (hvalue : (0x26 : UInt8) ∉ value) :
    parseQuery (name ++ 0x3D :: value) = [(decodeComponent name, decodeComponent value)] := by
  have hpiece : (0x26 : UInt8) ∉ name ++ 0x3D :: value := by simp [hname, hvalue]
  simp [parseQuery, splitOn_of_not_mem hpiece, splitFirst_append hsep]

/-- **Appended pairs read back.** A pair appended to the query of any URL, with an ASCII
    name and value, is read back by `query_pairs` as the last pair, after those the query
    had. -/
theorem queryPairs_appendPair (u : Url) {name value : String} (hname : IsAscii name.data)
    (hvalue : IsAscii value.data) :
    (u.appendPair name value).queryPairs = u.queryPairs ++ [(name, value)] := by
  have hn := not_separator_byteSerialize name
  have hv := not_separator_byteSerialize value
  have hpair : parseQuery (utf8Bytes ⟨byteSerialize name⟩ ++
      0x3D :: utf8Bytes ⟨byteSerialize value⟩) = [(name, value)] := by
    rw [parseQuery_pair hn.1 hn.2 hv.1, decodeComponent_byteSerialize hname,
      decodeComponent_byteSerialize hvalue]
  have heq : utf8Bytes "=" = [0x3D] := rfl
  have hamp : utf8Bytes "&" = [0x26] := rfl
  have hnil : utf8Bytes "" = [] := rfl
  simp only [Url.queryPairs, Url.appendPair, Option.getD_some, appendPair]
  split_ifs with hq
  · simp only [hq, hnil, utf8Bytes_append, heq, List.append_assoc, List.singleton_append,
      List.nil_append, hpair]
    rfl
  · simp only [utf8Bytes_append, heq, hamp, List.append_assoc, List.singleton_append,
      List.cons_append, List.nil_append, parseQuery_append_sep, hpair]

end DataProxy
