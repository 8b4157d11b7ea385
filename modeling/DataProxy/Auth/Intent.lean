/-
  DataProxy formalization — the intent of a token (`auth/auth.rs`): the action
  a token is minted for and the proxy it targets.

  * `Action.toU8` is `action as u8`, and `Action.fromU8` is `From<u8> for
    Action`, which panics on a byte above `4`;
  * `serializeIntent` writes `"{target}_{action as u8:?}"`, and
    `deserializeIntent` splits its input at `_` and reads the first two parts
    back, indexing `split[1]` with no bound check; both take the numbering of
    the actions as a parameter, since `caching/auth.rs` has a copy of them with
    its own `Action`; `Intent.serialize` and `Intent.deserialize` are the ones
    of this file;
  * `Intent.deserialize_serialize`: every intent reads back from its string;
  * `deserializeIntent_toString` and `deserialize_invalid_action`: a ULID alone,
    and a ULID with a byte above `4`, make the decoder panic;
  * `deserialize_accepts`: the strings the decoder reads as an intent, and the
    ones among them that `serialize` gives back.
-/
import DataProxy.Ulid

namespace DataProxy

/-- `Action`, with its `repr(u8)` values `0, …, 4`. -/
inductive Action where
  | all
  | createSecrets
  | impersonate
  | fetchInfo
  | dpExchange
  deriving DecidableEq, Repr

/-- `action as u8`. -/
def Action.toU8 : Action → ℕ
  | .all => 0
  | .createSecrets => 1
  | .impersonate => 2
  | .fetchInfo => 3
  | .dpExchange => 4

/-- `From<u8> for Action`. -/
def Action.fromU8 : ℕ → Outcome String Action
  | 0 => .ok .all
  | 1 => .ok .createSecrets
  | 2 => .ok .impersonate
  | 3 => .ok .fetchInfo
  | 4 => .ok .dpExchange
  | _ => .panic "Invalid action"

theorem Action.fromU8_toU8 (a : Action) : Action.fromU8 a.toU8 = .ok a := by
  cases a <;> rfl

theorem Action.toU8_lt (a : Action) : a.toU8 < 256 := by
  cases a <;> decide

theorem Action.fromU8_eq_ok {b : ℕ} {a : Action} : Action.fromU8 b = .ok a ↔ b = a.toU8 := by
  cases a <;> rcases b with _ | _ | _ | _ | _ | b <;> simp [Action.fromU8, Action.toU8]

theorem Action.fromU8_of_gt {b : ℕ} (h : 4 < b) : Action.fromU8 b = .panic "Invalid action" :=
  match b, h with
  | _ + 5, _ => rfl

/-! ## The string form, for any numbering of the actions -/

section Codec

variable {A I : Type}

/-- `Serialize for Intent`: `format!("{}_{:?}", self.target, self.action as u8)`, with `toU8`
    the `action as u8` of the file's `Action`. -/
def serializeIntent (toU8 : A → ℕ) (target : Ulid) (action : A) : String :=
  target.toString ++ "_" ++ ⟨decimal (toU8 action)⟩

/-- `Deserialize for Intent`: `temp.split('_')`, the target from `split[0]`, the action
    from `split[1]` through the file's `From<u8> for Action` (`fromU8`); `mk` builds the
    file's `Intent`. -/
def deserializeIntent (fromU8 : ℕ → Outcome String A) (mk : Ulid → A → I) (temp : String) :
    Outcome String I :=
  match temp.toList.splitOn '_' with
  | [] => .panic "index out of bounds: the len is 0 but the index is 0"
  | first :: rest =>
    match Ulid.fromStr ⟨first⟩ with
    | .error _ => .err "Invalid UUID"
    | .ok target =>
      match rest with
      | [] => .panic "index out of bounds: the len is 1 but the index is 1"
      | second :: _ =>
        match parseU8 second with
        | none => .err "Invalid Action"
        | some b => (fromU8 b).bind fun action => .ok (mk target action)

theorem underscore_not_mem_decimal (n : ℕ) : '_' ∉ decimal n :=
  fun h => by simpa using isDigit_of_mem_decimal n '_' h

theorem serializeIntent_data (toU8 : A → ℕ) (u : Ulid) (a : A) :
    (serializeIntent toU8 u a).data = encode u.val ++ '_' :: decimal (toU8 a) := by
  simp [serializeIntent, Ulid.toString]

theorem splitOn_toString (u : Ulid) : u.toString.toList.splitOn '_' = [encode u.val] :=
  List.splitOnP_eq_single _ _ fun x hx h =>
    underscore_not_mem_toString u (by rwa [beq_iff_eq.1 h] at hx)

/-- A target and a byte, written as `serialize` writes them, split into the two again. -/
theorem splitOn_target_decimal (u : Ulid) (n : ℕ) :
    (u.toString ++ "_" ++ ⟨decimal n⟩).toList.splitOn '_' = [encode u.val, decimal n] := by
  have hu := underscore_not_mem_toString u
  have hd := underscore_not_mem_decimal n
  rw [show (u.toString ++ "_" ++ ⟨decimal n⟩).toList = encode u.val ++ '_' :: decimal n by
    simp [Ulid.toString], List.splitOn, List.splitOnP_first, List.splitOnP_eq_single]
  · intro x hx h; exact hd (by rwa [beq_iff_eq.1 h] at hx)
  · intro x hx h; exact hu (by rwa [beq_iff_eq.1 h] at hx)
  · simp

/-- A target and a byte, written as `serialize` writes them, read back: the byte goes through
    `From<u8>`. -/
theorem deserializeIntent_target_byte (fromU8 : ℕ → Outcome String A) (mk : Ulid → A → I)
    (u : Ulid) {b : ℕ} (hb : b < 256) :
    deserializeIntent fromU8 mk (u.toString ++ "_" ++ ⟨decimal b⟩) =
      (fromU8 b).bind fun a => .ok (mk u a) := by
  have hu : Ulid.fromStr ⟨encode u.val⟩ = .ok u := fromStr_toString u
  simp only [deserializeIntent, splitOn_target_decimal, hu, parseU8_decimal hb]

/-- The round trip, for a numbering whose `From<u8>` undoes its `as u8`. -/
theorem deserializeIntent_serializeIntent {toU8 : A → ℕ} {fromU8 : ℕ → Outcome String A}
    (mk : Ulid → A → I) (hlt : ∀ a, toU8 a < 256) (hfrom : ∀ a, fromU8 (toU8 a) = .ok a)
    (u : Ulid) (a : A) :
    deserializeIntent fromU8 mk (serializeIntent toU8 u a) = .ok (mk u a) := by
  rw [serializeIntent, deserializeIntent_target_byte fromU8 mk u (hlt a), hfrom]
  rfl

/-- A ULID with no `_` after it: `split[1]` is out of bounds. -/
theorem deserializeIntent_toString (fromU8 : ℕ → Outcome String A) (mk : Ulid → A → I)
    (u : Ulid) : deserializeIntent fromU8 mk u.toString =
      .panic "index out of bounds: the len is 1 but the index is 1" := by
  have hu : Ulid.fromStr ⟨encode u.val⟩ = .ok u := fromStr_toString u
  simp only [deserializeIntent, splitOn_toString, hu]

end Codec

/-! ## The intents of `auth/auth.rs` -/

/-- `Intent`: the proxy a token is for, and what it may do there. -/
structure Intent where
  target : Ulid
  action : Action
  deriving DecidableEq, Repr

/-- `Serialize for Intent`. -/
def Intent.serialize (i : Intent) : String := serializeIntent Action.toU8 i.target i.action

/-- `Deserialize for Intent`. -/
def Intent.deserialize (temp : String) : Outcome String Intent :=
  deserializeIntent Action.fromU8 Intent.mk temp

theorem splitOn_serialize (i : Intent) :
    i.serialize.toList.splitOn '_' = [encode i.target.val, decimal i.action.toU8] :=
  splitOn_target_decimal i.target i.action.toU8

/-- **Intent round trip.** Every intent reads back from the string it is serialized to. -/
theorem Intent.deserialize_serialize (i : Intent) : Intent.deserialize i.serialize = .ok i :=
  deserializeIntent_serializeIntent Intent.mk Action.toU8_lt Action.fromU8_toU8 i.target i.action

/-! ## Panics -/

/-- A ULID and a byte above `4`: `Action::from` panics. -/
theorem deserialize_invalid_action (u : Ulid) {b : ℕ} (hb : 4 < b) (hb' : b < 256) :
    Intent.deserialize (u.toString ++ "_" ++ ⟨decimal b⟩) = .panic "Invalid action" := by
  rw [Intent.deserialize, deserializeIntent_target_byte _ _ u hb', Action.fromU8_of_gt hb]
  rfl

/-! ## The strings the decoder accepts -/

/-- Four strings the decoder reads as the intent `createSecrets` for the ULID `10`, none of
    them the string that intent serializes to: a lowercase target, a leading zero, a sign,
    and a third segment. -/
theorem deserialize_non_canonical :
    Intent.deserialize "0000000000000000000000000a_1" = .ok ⟨⟨10, by decide⟩, .createSecrets⟩ ∧
    Intent.deserialize "0000000000000000000000000A_01" = .ok ⟨⟨10, by decide⟩, .createSecrets⟩ ∧
    Intent.deserialize "0000000000000000000000000A_+1" = .ok ⟨⟨10, by decide⟩, .createSecrets⟩ ∧
    Intent.deserialize "0000000000000000000000000A_1_x" = .ok ⟨⟨10, by decide⟩, .createSecrets⟩ ∧
    Intent.serialize ⟨⟨10, by decide⟩, .createSecrets⟩ = "0000000000000000000000000A_1" := by
  decide

theorem deserialize_eq_ok {s : String} {i : Intent} :
    Intent.deserialize s = .ok i ↔ ∃ t a rest, s.toList.splitOn '_' = t :: a :: rest ∧
      Ulid.fromStr ⟨t⟩ = .ok i.target ∧ parseU8 a = some i.action.toU8 := by
  unfold Intent.deserialize deserializeIntent
  rcases s.toList.splitOn '_' with _ | ⟨t, _ | ⟨a, rest⟩⟩ <;> dsimp only
  · simp
  · cases Ulid.fromStr ⟨t⟩ <;> simp
  · have hsplit : (∃ t' a' rest', t :: a :: rest = t' :: a' :: rest' ∧
        Ulid.fromStr ⟨t'⟩ = .ok i.target ∧ parseU8 a' = some i.action.toU8) ↔
        Ulid.fromStr ⟨t⟩ = .ok i.target ∧ parseU8 a = some i.action.toU8 :=
      ⟨fun ⟨_, _, _, h, hu, hb⟩ => by cases h; exact ⟨hu, hb⟩,
        fun h => ⟨t, a, rest, rfl, h⟩⟩
    rw [hsplit]
    obtain ⟨target, action⟩ := i
    cases Ulid.fromStr ⟨t⟩ <;> cases parseU8 a <;>
      simp [Outcome.bind_eq_ok, Action.fromU8_eq_ok, and_assoc, and_comm]

/-- `serialize` gives back a string the decoder accepts exactly when the string is the
    canonical one: the target in upper case, the byte in plain decimal, and no third
    segment. -/
theorem serialize_eq_iff {s : String} {i : Intent} {t a : List Char} {rest : List (List Char)}
    (hs : s.toList.splitOn '_' = t :: a :: rest) :
    i.serialize = s ↔ t = encode i.target.val ∧ a = decimal i.action.toU8 ∧ rest = [] := by
  constructor
  · intro h
    rw [← h, splitOn_serialize, List.cons.injEq, List.cons.injEq] at hs
    exact ⟨hs.1.symm, hs.2.1.symm, hs.2.2.symm⟩
  · rintro ⟨ht, ha, hr⟩
    have h := List.intercalate_splitOn s.toList '_'
    rw [hs, ht, ha, hr] at h
    apply String.ext
    change _ = s.toList
    rw [← h, Intent.serialize, serializeIntent_data]
    simp [List.intercalate]

/-- **What the decoder accepts.** `deserialize` reads a string as an intent exactly when its
    first two `_`-segments are a spelling `from_str` reads as the target and one `u8::from_str`
    reads as the action's byte; `serialize` gives back such a string exactly when both are the
    canonical spellings and there is no third segment. -/
theorem deserialize_accepts (s : String) (i : Intent) :
    (Intent.deserialize s = .ok i ↔ ∃ t a rest, s.toList.splitOn '_' = t :: a :: rest ∧
      Ulid.fromStr ⟨t⟩ = .ok i.target ∧ parseU8 a = some i.action.toU8) ∧
    ∀ t a rest, s.toList.splitOn '_' = t :: a :: rest →
      (i.serialize = s ↔ t = encode i.target.val ∧ a = decimal i.action.toU8 ∧ rest = []) :=
  ⟨deserialize_eq_ok, fun _ _ _ => serialize_eq_iff⟩

end DataProxy
