/-
  DataProxy formalization — `get_token_from_md` (`auth/auth.rs`, and its copy
  in `caching/auth.rs`, which logs otherwise): the bearer token of a gRPC
  request's metadata.

  * `MetadataMap.get`: the first value filed under a name, as `http` files
    names, in lowercase;
  * `MetadataValue.toStr`: tonic's `MetadataValue::to_str`, that is
    `HeaderValue::to_str`, which takes visible ASCII and tabs only, with its
    error as tonic's `ToStrError`;
  * `getTokenFromMd`: the value of `Authorization`, split at each space; two
    parts, the first `Bearer` and the second not empty.

  Main result: `getTokenFromMd_eq_ok`, the function returns `t` exactly when
  the `Authorization` value reads `Bearer `, then `t`, where `t` is not empty,
  has no space, and every byte of the value is visible ASCII or a tab.
-/
import Mathlib.Data.List.Basic

namespace DataProxy

/-! ## Splitting at a separator -/

section SplitOn

variable {α : Type} [DecidableEq α] {x : α}

/-- No piece of a split holds the separator. -/
theorem not_mem_of_mem_splitOn : ∀ {xs l : List α}, l ∈ xs.splitOn x → x ∉ l
  | [], l, h => by
    rw [List.splitOn_nil, List.mem_singleton] at h
    simp [h]
  | y :: ys, l, h => by
    rw [List.splitOn, List.splitOnP_cons] at h
    split at h
    · rcases List.mem_cons.1 h with rfl | h
      · exact List.not_mem_nil x
      · exact not_mem_of_mem_splitOn h
    · obtain ⟨a, rest, hs⟩ := List.exists_cons_of_ne_nil (List.splitOnP_ne_nil (· == x) ys)
      rw [hs, List.modifyHead_cons, List.mem_cons] at h
      have hrest : ∀ l' ∈ a :: rest, x ∉ l' := fun l' hl' =>
        @not_mem_of_mem_splitOn ys l' (by rw [List.splitOn, hs]; exact hl')
      rcases h with rfl | h
      · rw [List.mem_cons, not_or]
        exact ⟨fun e => ‹¬(y == x) = true› (by simp [e]), hrest a (List.mem_cons_self _ _)⟩
      · exact hrest l (List.mem_cons_of_mem _ h)

/-- A split into two pieces is at the one separator of the list. -/
theorem splitOn_eq_pair {xs a b : List α} :
    xs.splitOn x = [a, b] ↔ xs = a ++ x :: b ∧ x ∉ a ∧ x ∉ b := by
  constructor
  · intro h
    have hmem : ∀ l ∈ xs.splitOn x, x ∉ l := fun _ => not_mem_of_mem_splitOn
    rw [h] at hmem
    refine ⟨?_, hmem a (by simp), hmem b (by simp)⟩
    rw [← List.intercalate_splitOn xs x, h]
    simp [List.intercalate]
  · rintro ⟨rfl, ha, hb⟩
    have hne : ∀ l : List α, x ∉ l → ∀ y ∈ l, ¬(y == x) = true := fun l hl y hy e =>
      hl (by rwa [beq_iff_eq.1 e] at hy)
    rw [List.splitOn, List.splitOnP_first _ _ (hne a ha) x (by simp),
      List.splitOnP_eq_single _ _ (hne b hb)]

end SplitOn

/-! ## Metadata -/

/-- The name `http` files a header under: its letters in lowercase. -/
def headerName (key : String) : String := ⟨key.data.map Char.toLower⟩

/-- `MetadataMap`: its entries in order, each under the name `http` files it under, with
    the value's bytes. -/
structure MetadataMap where
  entries : List (String × List UInt8)

/-- `MetadataMap::get`: the first value filed under the key's name. -/
def MetadataMap.get (md : MetadataMap) (key : String) : Option (List UInt8) :=
  md.entries.lookup (headerName key)

/-- `is_visible_ascii`, the bytes `HeaderValue::to_str` takes. -/
def isVisibleAscii (b : UInt8) : Bool := 32 ≤ b && b < 127 || b == 9

/-- The character of an ASCII byte. -/
def asciiChar (b : UInt8) : Char := Char.ofNat b.toNat

/-- `MetadataValue::to_str`: the value as a string, if every byte is visible ASCII or a tab
    (`HeaderValue::to_str`); the error is tonic's `ToStrError`. -/
def MetadataValue.toStr (value : List UInt8) : Except String String :=
  if value.all isVisibleAscii then .ok ⟨value.map asciiChar⟩
  else .error "failed to convert metadata to a str"

/-- The checks of `get_token_from_md` on the value's string: split at each space, two
    pieces, `Bearer` and a token that is not empty. -/
def bearerToken (tokenString : String) : Except String String :=
  match tokenString.data.splitOn ' ' with
  | [kind, token] =>
    if kind ≠ "Bearer".data then .error "Authorization flow error"
    else if token.isEmpty then .error "Authorization flow error"
    else .ok ⟨token⟩
  | _ => .error "Authorization flow error"

/-- `get_token_from_md`. -/
def getTokenFromMd (md : MetadataMap) : Except String String := do
  let value ← match md.get "Authorization" with
    | some value => pure value
    | none => throw "Metadata token not found"
  let tokenString ← MetadataValue.toStr value
  bearerToken tokenString

theorem MetadataValue.toStr_eq_ok {value : List UInt8} {s : String} :
    MetadataValue.toStr value = .ok s ↔
      value.all isVisibleAscii = true ∧ s.data = value.map asciiChar := by
  unfold MetadataValue.toStr
  split
  · simp only [Except.ok.injEq, true_and, *]
    exact ⟨fun h => h ▸ rfl, fun h => String.ext h.symm⟩
  · simp [*]

theorem bearerToken_eq_ok {s t : String} :
    bearerToken s = .ok t ↔ s.data.splitOn ' ' = ["Bearer".data, t.data] ∧ t.data ≠ [] := by
  unfold bearerToken
  split
  · rename_i kind token hs
    rw [hs]
    split_ifs with hb he
    · exact iff_of_false (by simp) fun h => hb (List.cons.inj h.1).1
    · rw [List.isEmpty_iff] at he
      subst he
      exact iff_of_false (by simp) fun h => h.2 (List.cons.inj (List.cons.inj h.1).2).1.symm
    · rw [not_not] at hb
      subst hb
      simp only [Except.ok.injEq, List.cons.injEq, true_and, and_true]
      exact ⟨fun h => h ▸ ⟨rfl, by simpa using he⟩, fun h => String.ext h.1⟩
  · rename_i hs
    exact iff_of_false (by simp) fun h => hs _ _ h.1

/-- **The bearer token.** `get_token_from_md` returns `t` exactly when the metadata holds
    an `Authorization` value of visible ASCII or tabs that reads `Bearer `, then `t`, with `t`
    not empty and without a space. -/
theorem getTokenFromMd_eq_ok {md : MetadataMap} {t : String} :
    getTokenFromMd md = .ok t ↔
      ∃ value, md.get "Authorization" = some value ∧ value.all isVisibleAscii = true ∧
        value.map asciiChar = "Bearer".data ++ ' ' :: t.data ∧ t.data ≠ [] ∧ ' ' ∉ t.data := by
  unfold getTokenFromMd
  cases hv : md.get "Authorization" with
  | none => simp [bind, Except.bind, throw, throwThe, MonadExceptOf.throw]
  | some value =>
    simp only [bind, Except.bind, pure, Except.pure, Option.some.injEq, exists_eq_left']
    cases hs : MetadataValue.toStr value with
    | error e =>
      refine iff_of_false (by simp) fun h => ?_
      have := MetadataValue.toStr_eq_ok.2 ⟨h.1, rfl⟩
      rw [hs] at this
      cases this
    | ok s =>
      obtain ⟨hvis, hdata⟩ := MetadataValue.toStr_eq_ok.1 hs
      rw [bearerToken_eq_ok, hdata, splitOn_eq_pair]
      simp only [hvis, true_and, and_assoc]
      exact ⟨fun h => ⟨h.1, h.2.2.2, h.2.2.1⟩, fun h => ⟨h.1, by decide, h.2.2, h.2.1⟩⟩

example : getTokenFromMd ⟨[("authorization", [66, 101, 97, 114, 101, 114, 32, 97, 98, 99])]⟩ =
    .ok "abc" := rfl

end DataProxy
