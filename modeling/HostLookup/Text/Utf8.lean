/-!
# Bytes and characters

Files and sinks hold bytes, names and messages are text. `decode?` reads a byte string that is
UTF-8 throughout; `decodeLossy` reads any byte string, with U+FFFD for each maximal part that is
the beginning of no character. Both walk the string by `Lead.of`, which takes the first character,
or the first invalid part, off the front.

A lead byte fixes how many bytes follow and, for four of the leads, a narrower range of the byte
right after it: `E0` and `F0` exclude forms that are too long, `ED` the surrogates, `F4` what lies
beyond U+10FFFF.
-/

namespace HostLookup

/-- A string of bytes. -/
abbrev Bytes := List UInt8

namespace Text

/-- The bytes of a text in UTF-8. -/
def encode (s : String) : Bytes :=
  s.toUTF8.toList

/-- What a lead byte asks for: the number of bytes that follow, the range of the first of them,
and the bits that the lead contributes. `none` for a byte that leads no character. -/
def follow (lead : UInt8) : Option (Nat × UInt8 × UInt8 × Nat) :=
  let n := lead.toNat
  if n < 0xC2 then none
  else if n ≤ 0xDF then some (1, 0x80, 0xBF, n - 0xC0)
  else if n = 0xE0 then some (2, 0xA0, 0xBF, 0)
  else if n = 0xED then some (2, 0x80, 0x9F, 0xD)
  else if n ≤ 0xEF then some (2, 0x80, 0xBF, n - 0xE0)
  else if n = 0xF0 then some (3, 0x90, 0xBF, 0)
  else if n ≤ 0xF3 then some (3, 0x80, 0xBF, n - 0xF0)
  else if n = 0xF4 then some (3, 0x80, 0x8F, 4)
  else none

/-- Takes `k` continuation bytes, the first between `lo` and `hi`. Answers with the value read so
far, or `none` in its place where a byte is missing, and with what is left. -/
def continuation : Nat → UInt8 → UInt8 → Nat → Bytes → Option Nat × Bytes
  | 0, _, _, value, bytes => (some value, bytes)
  | _ + 1, _, _, _, [] => (none, [])
  | k + 1, lo, hi, value, b :: bytes =>
    if lo ≤ b ∧ b ≤ hi then continuation k 0x80 0xBF (value * 64 + (b.toNat - 0x80)) bytes
    else (none, b :: bytes)

/-- What is left is no longer than what there was. -/
theorem length_continuation_le (k : Nat) (lo hi : UInt8) (value : Nat) (bytes : Bytes) :
    (continuation k lo hi value bytes).2.length ≤ bytes.length := by
  induction bytes generalizing k lo hi value with
  | nil => cases k <;> simp [continuation]
  | cons b bytes ih =>
    cases k with
    | zero => simp [continuation]
    | succ k =>
      simp only [continuation]
      split
      · exact Nat.le_succ_of_le (ih ..)
      · simp

/-- What a byte string begins with. -/
inductive Lead where
  /-- The string is empty. -/
  | done
  /-- A whole character. -/
  | scalar (c : Char) (rest : Bytes)
  /-- The longest part that begins no character. -/
  | invalid (rest : Bytes)

/-- Takes the first character or the first invalid part off a byte string. -/
def Lead.of : Bytes → Lead
  | [] => .done
  | b :: bytes =>
    if b < 0x80 then .scalar (Char.ofNat b.toNat) bytes
    else
      match follow b with
      | none => .invalid bytes
      | some (k, lo, hi, high) =>
        match continuation k lo hi high bytes with
        | (some value, rest) => .scalar (Char.ofNat value) rest
        | (none, rest) => .invalid rest

/-- What remains after the first character or invalid part. -/
def Lead.rest : Lead → Bytes
  | .done => []
  | .scalar _ rest | .invalid rest => rest

/-- A step takes at least one byte. -/
theorem Lead.length_rest_of_lt (b : UInt8) (bytes : Bytes) :
    (Lead.of (b :: bytes)).rest.length < (b :: bytes).length := by
  simp only [Lead.of]
  split
  · simp [Lead.rest]
  · cases follow b with
    | none => simp [Lead.rest]
    | some form =>
      obtain ⟨k, lo, hi, high⟩ := form
      have shorter := length_continuation_le k lo hi high bytes
      rcases taken : continuation k lo hi high bytes with ⟨_ | value, rest⟩ <;>
        simp [taken] at shorter <;> simp [taken, Lead.rest] <;> omega

/-- The characters of a byte string that is UTF-8, after those in `acc`, which are reversed. -/
def decodeChars (acc : List Char) : Bytes → Option (List Char)
  | [] => some acc.reverse
  | b :: bytes =>
    match h : Lead.of (b :: bytes) with
    | .done => some acc.reverse
    | .scalar c rest =>
      have : rest.length < (b :: bytes).length := by
        have := Lead.length_rest_of_lt b bytes
        rwa [h] at this
      decodeChars (c :: acc) rest
    | .invalid _ => none
  termination_by bytes => bytes.length
  decreasing_by all_goals assumption

/-- The text that a byte string holds, if it is UTF-8. -/
def decode? (bytes : Bytes) : Option String :=
  (decodeChars [] bytes).map String.ofList

/-- The characters of any byte string, each invalid part replaced, after those in `acc`. -/
def decodeLossyChars (acc : List Char) : Bytes → List Char
  | [] => acc.reverse
  | b :: bytes =>
    match h : Lead.of (b :: bytes) with
    | .done => acc.reverse
    | .scalar c rest =>
      have : rest.length < (b :: bytes).length := by
        have := Lead.length_rest_of_lt b bytes
        rwa [h] at this
      decodeLossyChars (c :: acc) rest
    | .invalid rest =>
      have : rest.length < (b :: bytes).length := by
        have := Lead.length_rest_of_lt b bytes
        rwa [h] at this
      decodeLossyChars ('\uFFFD' :: acc) rest
  termination_by bytes => bytes.length
  decreasing_by all_goals assumption

/-- The text of any byte string, with U+FFFD for each maximal invalid part. -/
def decodeLossy (bytes : Bytes) : String :=
  String.ofList (decodeLossyChars [] bytes)

end Text

end HostLookup
