/-
  DataProxy formalization — the byte-range helpers of the S3 data server
  (`data_server/utils/ranges.rs`): an S3 `Range` header against an object of
  `content_length` bytes, as the half-open range the footer parser works on.

  * `arunaRangeFromS3range`, `calculateRanges` and
    `calculateContentLengthFromRange`, on `u64` with Rust's wrapping
    arithmetic of a release build; the footer parser is the part of
    `aruna_file` that `calculate_ranges` calls;
  * `calculateRanges_closed`: a closed range `first-last` inside the object
    becomes `[first, last + 1)`, of `last + 1 - first` bytes;
  * `calculateRanges_open_and_suffix`: an open range and a suffix range get one
    byte too many, and a suffix longer than the object wraps below zero.
-/
import DataProxy.Rust
import Mathlib.Data.UInt

namespace DataProxy

/-- `s3s::dto::Range`: `bytes=first-last`, `bytes=first-`, or `bytes=-length`. -/
inductive S3Range where
  | int (first : UInt64) (last : Option UInt64)
  | suffix (length : UInt64)
  deriving DecidableEq, Repr

/-- `aruna_file`'s footer `Range`: a half-open byte range. -/
structure ArunaRange where
  «from» : UInt64
  «to» : UInt64
  deriving DecidableEq, Repr

/-- `FooterParser`, as `calculate_ranges` uses it: `parse` reads the footer, and then
    gives the offsets of a range in the stored and in the decrypted stream. -/
structure FooterParser where
  parse : Except String (ArunaRange → Except String (ArunaRange × ArunaRange))

/-- `aruna_range_from_s3range`. -/
def arunaRangeFromS3range (rangeString : S3Range) (contentLength : UInt64) : ArunaRange :=
  match rangeString with
  | .int first last =>
    match last with
    | some val => ⟨first, val⟩
    | none => ⟨first, contentLength⟩
  | .suffix length => ⟨contentLength - length, contentLength⟩

/-- `calculate_ranges`. -/
def calculateRanges (inputRange : Option S3Range) (contentLength : UInt64)
    (footer : Option FooterParser) : Except String (Option String × Option ArunaRange) :=
  match inputRange with
  | some r =>
    match footer with
    | some foot => do
      let getOffsetsByRange ← foot.parse
      let (o1, o2) ← getOffsetsByRange (arunaRangeFromS3range r contentLength)
      let first := o1.«from»
      let last := o1.«to» - 1
      .ok (some s!"bytes={first}-{last}", some { o2 with «to» := o2.«to» + 1 })
    | none =>
      let arRange := arunaRangeFromS3range r contentLength
      .ok (none, some { arRange with «to» := arRange.«to» + 1 })
  | none => .ok (none, none)

/-- `calculate_content_length_from_range`. -/
def calculateContentLengthFromRange (range : ArunaRange) : ℤ :=
  asI64 (range.«to» - range.«from»)

/-- Below the largest `u64`, adding one does not wrap. -/
theorem toNat_add_one_of_lt {a b : UInt64} (h : a < b) : (a + 1).toNat = a.toNat + 1 := by
  have hl : a.toNat < b.toNat := h
  have hb : b.toNat < 2 ^ 64 := b.toBitVec.isLt
  show (a.toBitVec + 1#64).toNat = _
  rw [BitVec.toNat_add, BitVec.toNat_ofNat]
  show (a.toNat + 1 % 2 ^ 64) % 2 ^ 64 = a.toNat + 1
  omega

/-- A closed range inside the object is the half-open range one past its last byte (for
    an object whose size fits an `i64`, as the lengths of `ObjectLocation` do). -/
theorem calculateRanges_closed {first last contentLength : UInt64} (hfl : first ≤ last)
    (hlast : last < contentLength) (hsize : contentLength.toNat < 2 ^ 63) :
    calculateRanges (some (.int first (some last))) contentLength none =
        .ok (none, some ⟨first, last + 1⟩) ∧
      calculateContentLengthFromRange ⟨first, last + 1⟩ = last.toNat + 1 - first.toNat := by
  refine ⟨rfl, ?_⟩
  have hf : first.toNat ≤ last.toNat := hfl
  have hl : last.toNat < contentLength.toNat := hlast
  have hL : contentLength.toNat < 2 ^ 64 := contentLength.toBitVec.isLt
  have hsum := toNat_add_one_of_lt hlast
  have hsub : (last + 1 - first).toNat = last.toNat + 1 - first.toNat := by
    rw [UInt64.toNat_sub_of_le _ _ (by show first.toNat ≤ (last + 1).toNat; omega), hsum]
  unfold calculateContentLengthFromRange asI64
  rw [hsub, if_pos (by omega)]
  omega

theorem calculateRanges_closed_twoToFive :
    ((2 : UInt64) ≤ 5 ∧ (5 : UInt64) < 10 ∧ (10 : UInt64).toNat < 2 ^ 63) ∧
    calculateRanges (some (.int 2 (some 5))) 10 none = .ok (none, some ⟨2, 5 + 1⟩) ∧
      calculateContentLengthFromRange ⟨2, 5 + 1⟩ = (5 : UInt64).toNat + 1 - (2 : UInt64).toNat :=
  ⟨⟨by decide, by decide, by decide⟩, calculateRanges_closed (by decide) (by decide) (by decide)⟩

/-- On a 10-byte object: `bytes=0-` and `bytes=-20` both name the 10 bytes of the object,
    `bytes=0-` becomes the 11-byte range `[0, 11)`, and `bytes=-20` starts below zero
    and wraps, a 21-byte range. -/
theorem calculateRanges_open_and_suffix :
    calculateRanges (some (.int 0 none)) 10 none = .ok (none, some ⟨0, 11⟩) ∧
      calculateContentLengthFromRange ⟨0, 11⟩ = 11 ∧
    calculateRanges (some (.suffix 20)) 10 none =
        .ok (none, some ⟨18446744073709551606, 11⟩) ∧
      calculateContentLengthFromRange ⟨18446744073709551606, 11⟩ = 21 :=
  ⟨rfl, by decide, rfl, by decide⟩

end DataProxy
