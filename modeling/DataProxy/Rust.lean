/-
  DataProxy formalization — the parts of Rust's standard library that the
  proxy's codecs rest on.

  * `Outcome`: how a call ends, with a value, an `Err` or a panic;
  * `decimal` is `Display` for unsigned integers (`Nat.toDigits 10`), and
    `I32.display` the one for `i32`;
  * `parseU8` and `parseI32` are `u8::from_str` and `i32::from_str`
    (`from_str_radix` with radix 10): an optional sign, decimal digits, and
    the range of the type;
  * `parseU8_decimal` and `parseI32_display`: parsing undoes printing.
-/
import Mathlib.Data.Nat.Digits

namespace DataProxy

/-! ## Outcomes -/

/-- `Result`s compare by their value or their error. -/
instance instDecidableEqExcept {ε α : Type} [DecidableEq ε] [DecidableEq α] :
    DecidableEq (Except ε α)
  | .ok a, .ok b => decidable_of_iff (a = b) (by simp)
  | .error e, .error e' => decidable_of_iff (e = e') (by simp)
  | .ok _, .error _ => isFalse (by simp)
  | .error _, .ok _ => isFalse (by simp)

/-- How a Rust call ends: a value, an `Err`, or a panic with its message. -/
inductive Outcome (ε α : Type) where
  | ok (a : α)
  | err (e : ε)
  | panic (msg : String)
  deriving Repr, DecidableEq

namespace Outcome

variable {ε α β : Type}

/-- `?`: continue with the value, pass an error or a panic on. -/
def bind : Outcome ε α → (α → Outcome ε β) → Outcome ε β
  | .ok a, f => f a
  | .err e, _ => .err e
  | .panic m, _ => .panic m

instance : Monad (Outcome ε) where
  pure := .ok
  bind := Outcome.bind

/-- A `Result` that cannot panic. -/
def ofExcept : Except ε α → Outcome ε α
  | .ok a => .ok a
  | .error e => .err e

instance : MonadLift (Except ε) (Outcome ε) := ⟨ofExcept⟩

@[simp] theorem bind_ok (a : α) (f : α → Outcome ε β) : (Outcome.ok a).bind f = f a := rfl

theorem bind_eq_ok {x : Outcome ε α} {f : α → Outcome ε β} {b : β} :
    x.bind f = .ok b ↔ ∃ a, x = .ok a ∧ f a = .ok b := by
  cases x <;> simp [bind]

/-- Whether an outcome is an `Err` (not a value, not a panic). -/
def isErr : Outcome ε α → Bool
  | .err _ => true
  | _ => false

end Outcome

/-! ## Printing integers -/

/-- `Display` for an unsigned integer: its decimal digits, without leading zeros. -/
def decimal (n : ℕ) : List Char := Nat.toDigits 10 n

theorem toDigitsCore_append : ∀ {f n : ℕ} (acc : List Char), n < f →
    Nat.toDigitsCore 10 f n acc = Nat.toDigitsCore 10 f n [] ++ acc
  | 0, _, _, h => absurd h (Nat.not_lt_zero _)
  | f + 1, n, acc, h => by
    simp only [Nat.toDigitsCore]
    split
    · rfl
    · rw [toDigitsCore_append _ (by omega), toDigitsCore_append [_] (by omega)]
      simp

theorem toDigitsCore_fuel : ∀ {f g n : ℕ}, n < f → n < g →
    Nat.toDigitsCore 10 f n [] = Nat.toDigitsCore 10 g n []
  | 0, _, _, hf, _ => absurd hf (Nat.not_lt_zero _)
  | _, 0, _, _, hg => absurd hg (Nat.not_lt_zero _)
  | f + 1, g + 1, n, hf, hg => by
    simp only [Nat.toDigitsCore]
    split
    · rfl
    · rw [toDigitsCore_append _ (by omega), toDigitsCore_append (f := g) _ (by omega),
        toDigitsCore_fuel (f := f) (g := g) (by omega) (by omega)]

/-- The last digit is printed last. -/
theorem decimal_eq (n : ℕ) :
    decimal n = (if n < 10 then [] else decimal (n / 10)) ++ [Nat.digitChar (n % 10)] := by
  conv_lhs => rw [decimal, Nat.toDigits, Nat.toDigitsCore]
  split
  · rw [if_pos (by omega)]; rfl
  · rw [if_neg (by omega), toDigitsCore_append _ (by omega),
      toDigitsCore_fuel (g := n / 10 + 1) (by omega) (by omega)]; rfl

theorem digitChar_isDigit : ∀ d < 10, (Nat.digitChar d).isDigit = true := by decide

theorem digitChar_toNat : ∀ d < 10, (Nat.digitChar d).toNat = 48 + d := by decide

theorem isDigit_of_mem_decimal (n : ℕ) : ∀ c ∈ decimal n, c.isDigit = true := by
  induction n using Nat.strong_induction_on with
  | _ n ih =>
    rw [decimal_eq]
    intro c hc
    simp only [List.mem_append, List.mem_singleton] at hc
    rcases hc with hc | rfl
    · split at hc
      · simp at hc
      · exact ih _ (by omega) c hc
    · exact digitChar_isDigit _ (Nat.mod_lt _ (by omega))

theorem decimal_ne_nil (n : ℕ) : decimal n ≠ [] := by
  rw [decimal_eq]; simp

/-! ## Parsing integers -/

/-- One step of reading a decimal digit string: shift the digit in, or fail. -/
def digitStep (acc : Option ℕ) (c : Char) : Option ℕ :=
  acc.bind fun v => if c.isDigit then some (10 * v + (c.toNat - 48)) else none

/-- The value of a decimal digit string, or `none` at a character that is no digit. -/
def digitsValue (s : List Char) : Option ℕ := s.foldl digitStep (some 0)

theorem digitsValue_append_singleton (s : List Char) (c : Char) :
    digitsValue (s ++ [c]) = digitStep (digitsValue s) c := by
  simp [digitsValue]

theorem digitsValue_decimal (n : ℕ) : digitsValue (decimal n) = some n := by
  induction n using Nat.strong_induction_on with
  | _ n ih =>
    have hd := Nat.mod_lt n (show 10 > 0 by omega)
    rw [decimal_eq, digitsValue_append_singleton]
    split
    · simp [digitsValue, digitStep, digitChar_isDigit _ hd, digitChar_toNat _ hd]; omega
    · rw [ih _ (by omega)]
      simp [digitStep, digitChar_isDigit _ hd, digitChar_toNat _ hd]; omega

/-- `u8::from_str`: an optional `+`, then decimal digits whose value is below `256`. -/
def parseU8 : List Char → Option ℕ
  | [] | ['+'] | ['-'] => none
  | '+' :: ds => (digitsValue ds).filter (· < 256)
  | ds => (digitsValue ds).filter (· < 256)

/-- A Rust `i32`. -/
structure I32 where
  val : ℤ
  ge : -2 ^ 31 ≤ val
  lt : val < 2 ^ 31
  deriving DecidableEq, Repr

/-- `i32::from_str` on a string with no sign: the digits' value, when it is below `2^31`. -/
def parseI32Nonneg (ds : List Char) : Option I32 :=
  (digitsValue ds).bind fun v => if h : v < 2 ^ 31 then some ⟨v, by omega, by omega⟩ else none

/-- `i32::from_str`: an optional sign, then decimal digits, the value within `i32`. -/
def parseI32 : List Char → Option I32
  | [] | ['+'] | ['-'] => none
  | '-' :: ds =>
    (digitsValue ds).bind fun v => if h : v ≤ 2 ^ 31 then some ⟨-v, by omega, by omega⟩ else none
  | '+' :: ds => parseI32Nonneg ds
  | ds => parseI32Nonneg ds

/-- `x as i64` for a `u64`: the same 64 bits, read in two's complement. -/
def asI64 (x : UInt64) : ℤ :=
  if x.toNat < 2 ^ 63 then x.toNat else x.toNat - 2 ^ 64

/-- `Display` for `i32`: a `-` before the digits of the magnitude of a negative value. -/
def I32.display (i : I32) : List Char :=
  if i.val < 0 then '-' :: decimal i.val.natAbs else decimal i.val.natAbs

/-- A printed number starts with a digit, so no sign rule of a parser applies to it. -/
theorem decimal_cons (n : ℕ) : ∃ c cs, decimal n = c :: cs ∧ c ≠ '+' ∧ c ≠ '-' := by
  obtain ⟨c, cs, h⟩ := List.exists_cons_of_ne_nil (decimal_ne_nil n)
  have hc := isDigit_of_mem_decimal n c (by simp [h])
  exact ⟨c, cs, h, by rintro rfl; simp at hc, by rintro rfl; simp at hc⟩

theorem parseU8_decimal {n : ℕ} (h : n < 256) : parseU8 (decimal n) = some n := by
  obtain ⟨c, cs, hdec, hp, hm⟩ := decimal_cons n
  have hv := digitsValue_decimal n
  rw [hdec] at hv ⊢
  cases cs <;> simp [parseU8, hp, hm, hv, h]

theorem parseI32Nonneg_decimal {n : ℕ} (h : n < 2 ^ 31) :
    parseI32Nonneg (decimal n) = some ⟨n, by omega, by omega⟩ := by
  rw [parseI32Nonneg, digitsValue_decimal, Option.some_bind, dif_pos h]

theorem parseI32_display (i : I32) : parseI32 i.display = some i := by
  obtain ⟨v, hge, hlt⟩ := i
  obtain ⟨c, cs, hdec, hp, hm⟩ := decimal_cons v.natAbs
  simp only [I32.display]
  split
  · rename_i hneg
    have habs : (v.natAbs : ℤ) = -v := Int.ofNat_natAbs_of_nonpos (by omega)
    have hv := digitsValue_decimal v.natAbs
    rw [hdec] at hv ⊢
    simp only [parseI32, hv, Option.some_bind]
    rw [dif_pos (by omega)]
    simp only [Option.some.injEq, I32.mk.injEq]; omega
  · rename_i hnn
    have habs : (v.natAbs : ℤ) = v := Int.natAbs_of_nonneg (by omega)
    have hv := parseI32Nonneg_decimal (n := v.natAbs) (by omega)
    rw [hdec] at hv ⊢
    cases cs <;> simp [parseI32, hp, hm, hv, habs]

end DataProxy
