import HostLookup.Text.Utf8
import Mathlib.Data.List.Basic

/-!
# Reading what was written

The bytes of a text are those of its characters, one after the other. The decoder takes them apart
again, and it takes nothing else: what it reads is what the encoder writes.

* **`Text.decode?_eq_some_iff`**: a byte string holds a text exactly when it is the text in UTF-8.
* **`Text.mem_encode_iff`**: an ASCII byte stands for its character and for nothing else, so lines
  can be found without decoding.
-/

namespace HostLookup.Text

/-! ## The bytes of a text

The library keeps a text as an array of bytes, which is the characters of the text encoded one by
one. -/

/-- The loop behind `ByteArray.toList` goes through the bytes from one place on. -/
theorem toList_loop (bytes : ByteArray) (i : Nat) (acc : List UInt8) :
    ByteArray.toList.loop bytes i acc = acc.reverse ++ bytes.data.toList.drop i := by
  fun_induction ByteArray.toList.loop bytes i acc with
  | case1 i acc h ih =>
    have hlt : i < bytes.data.toList.length := by simpa using h
    rw [ih, List.reverse_cons, List.append_assoc, List.drop_eq_getElem_cons hlt]
    simp [ByteArray.get!, h]
  | case2 i acc h =>
    have hle : bytes.data.toList.length ≤ i := by simpa using h
    rw [List.drop_eq_nil_of_le hle, List.append_nil]

/-- The bytes of a text are those of its characters. -/
theorem encode_eq (s : String) : encode s = s.toList.flatMap String.utf8EncodeChar := by
  have hbytes : s.toByteArray = s.toList.utf8Encode := String.utf8Encode_toList.symm
  rw [encode, String.toUTF8, hbytes, ByteArray.toList, toList_loop, List.utf8Encode]
  simp

theorem encode_ofList (cs : List Char) :
    encode (String.ofList cs) = cs.flatMap String.utf8EncodeChar := by
  rw [encode_eq, String.toList_ofList]

/-! ## One character

A lead byte says how many bytes follow and in which range the next one has to be; each of those adds
six bits. The proofs are arithmetic on the numbers of the bytes, with the table of lead bytes told
once (`follow_eq`). -/

/-- The numbers of characters: the surrogates are left out. -/
theorem toNat_bounds (c : Char) : c.toNat < 0xD800 ∨ 0xDFFF < c.toNat ∧ c.toNat < 0x110000 :=
  c.valid

/-- A number below 256 is that of its byte. -/
theorem toNat_ofNat_of_lt {n : Nat} (h : n < 256) : (UInt8.ofNat n).toNat = n :=
  Nat.mod_eq_of_lt h

/-- Every number but those of the surrogates is that of a character. -/
theorem toNat_val_ofNat {n : Nat} (h : n < 0xD800 ∨ 0xDFFF < n ∧ n < 0x110000) :
    (Char.ofNat n).val.toNat = n := by
  unfold Char.ofNat
  rw [dif_pos h]
  rfl

theorem ofNat_eq_of_toNat {n : Nat} {b : UInt8} (h : n = b.toNat) : UInt8.ofNat n = b := by
  rw [h, UInt8.ofNat_toNat]

/-- A continuation byte adds its six bits. -/
theorem continuation_cons {k value : Nat} {lo hi b : UInt8} (hlo : lo.toNat ≤ b.toNat)
    (hhi : b.toNat ≤ hi.toNat) (bytes : Bytes) :
    continuation (k + 1) lo hi value (b :: bytes) =
      continuation k 0x80 0xBF (value * 64 + (b.toNat - 0x80)) bytes := by
  rw [continuation, if_pos ⟨UInt8.le_iff_toNat_le.mpr hlo, UInt8.le_iff_toNat_le.mpr hhi⟩]

/-- What a continuation has taken is one byte in the range, and then the rest of it. -/
theorem continuation_eq_some {k value last : Nat} {lo hi : UInt8} {bytes rest : Bytes}
    (h : continuation (k + 1) lo hi value bytes = (some last, rest)) :
    ∃ b later, bytes = b :: later ∧ lo.toNat ≤ b.toNat ∧ b.toNat ≤ hi.toNat ∧
      continuation k 0x80 0xBF (value * 64 + (b.toNat - 0x80)) later = (some last, rest) := by
  cases bytes with
  | nil => simp [continuation] at h
  | cons b later =>
    rw [continuation] at h
    split at h
    · next hrange =>
      exact ⟨b, later, rfl, UInt8.le_iff_toNat_le.mp hrange.1, UInt8.le_iff_toNat_le.mp hrange.2, h⟩
    · simp at h

/-- With no byte to come the value is complete. -/
theorem continuation_zero {value last : Nat} {lo hi : UInt8} {bytes rest : Bytes}
    (h : continuation 0 lo hi value bytes = (some last, rest)) : last = value ∧ rest = bytes := by
  rw [continuation] at h
  obtain ⟨hlast, hrest⟩ := Prod.mk.inj h
  exact ⟨(Option.some.inj hlast).symm, hrest.symm⟩

/-- The table of lead bytes, by the number of bytes that follow. -/
theorem follow_eq (b : UInt8) : follow b =
    if b.toNat < 0xC2 then none
    else if b.toNat ≤ 0xDF then some (1, 0x80, 0xBF, b.toNat - 0xC0)
    else if b.toNat ≤ 0xEF then
      some (2, if b.toNat = 0xE0 then 0xA0 else 0x80, if b.toNat = 0xED then 0x9F else 0xBF,
        b.toNat - 0xE0)
    else if b.toNat ≤ 0xF4 then
      some (3, if b.toNat = 0xF0 then 0x90 else 0x80, if b.toNat = 0xF4 then 0x8F else 0xBF,
        b.toNat - 0xF0)
    else none := by
  unfold follow
  generalize b.toNat = n
  dsimp only
  split_ifs <;> first | (exfalso; omega) | simp_all

/-- What a lead byte asks for. The range of the byte behind it is narrower where the character would
have a shorter form, would be a surrogate, or would be no character at all. -/
theorem cases_of_follow {b lo hi : UInt8} {k high : Nat} (h : follow b = some (k, lo, hi, high)) :
    (0xC2 ≤ b.toNat ∧ b.toNat ≤ 0xDF ∧ k = 1 ∧ lo.toNat = 0x80 ∧ hi.toNat = 0xBF ∧
      high = b.toNat - 0xC0) ∨
    (0xE0 ≤ b.toNat ∧ b.toNat ≤ 0xEF ∧ k = 2 ∧
      lo.toNat = (if b.toNat = 0xE0 then 0xA0 else 0x80) ∧
      hi.toNat = (if b.toNat = 0xED then 0x9F else 0xBF) ∧ high = b.toNat - 0xE0) ∨
    (0xF0 ≤ b.toNat ∧ b.toNat ≤ 0xF4 ∧ k = 3 ∧
      lo.toNat = (if b.toNat = 0xF0 then 0x90 else 0x80) ∧
      hi.toNat = (if b.toNat = 0xF4 then 0x8F else 0xBF) ∧ high = b.toNat - 0xF0) := by
  have hsplit : ∀ (p : Prop) [Decidable p] (x y : UInt8),
      (if p then x else y).toNat = if p then x.toNat else y.toNat :=
    fun p _ x y => apply_ite UInt8.toNat p x y
  rw [follow_eq] at h
  split at h
  · contradiction
  · split at h
    · simp only [Option.some.injEq, Prod.mk.injEq] at h
      obtain ⟨rfl, rfl, rfl, rfl⟩ := h
      exact Or.inl ⟨by omega, by omega, rfl, rfl, rfl, rfl⟩
    · split at h
      · simp only [Option.some.injEq, Prod.mk.injEq] at h
        obtain ⟨rfl, rfl, rfl, rfl⟩ := h
        exact Or.inr (Or.inl ⟨by omega, by omega, rfl, hsplit .., hsplit .., rfl⟩)
      · split at h
        · simp only [Option.some.injEq, Prod.mk.injEq] at h
          obtain ⟨rfl, rfl, rfl, rfl⟩ := h
          exact Or.inr (Or.inr ⟨by omega, by omega, rfl, hsplit .., hsplit .., rfl⟩)
        · contradiction

/-- A lead byte and the continuation that it asks for. -/
theorem lead_of_follow {b lo hi : UInt8} {k high last : Nat} {bytes rest : Bytes}
    (hb : 0x80 ≤ b.toNat) (hfollow : follow b = some (k, lo, hi, high))
    (hcontinuation : continuation k lo hi high bytes = (some last, rest)) :
    Lead.of (b :: bytes) = .scalar (Char.ofNat last) rest := by
  have hlt : ¬b < 0x80 := fun h => absurd (UInt8.lt_iff_toNat_lt.mp h) (Nat.not_lt.mpr hb)
  simp only [Lead.of, if_neg hlt, hfollow, hcontinuation]

/-! ### From a character to its bytes and back

A character takes one byte to four. Each length has a lemma for the way there and one for the way
back; the numbers are those of the encoder, six bits to each byte behind the first. -/

/-- The last byte adds the last six bits, and nothing is left to be read. -/
theorem continuation_last {lo hi : UInt8} (v value : Nat) (rest : Bytes)
    (hlo : lo.toNat ≤ v % 64 + 128) (hhi : v % 64 + 128 ≤ hi.toNat) :
    continuation 1 lo hi value (UInt8.ofNat (v % 64 + 128) :: rest) =
      (some (value * 64 + v % 64), rest) := by
  have hb : (UInt8.ofNat (v % 64 + 128)).toNat = v % 64 + 128 := toNat_ofNat_of_lt (by omega)
  rw [continuation_cons (by rw [hb]; exact hlo) (by rw [hb]; exact hhi), hb, Nat.add_sub_cancel]
  rfl

/-- A number up to `0x7F` is read off its one byte. -/
theorem lead_of_one {v : Nat} (hhigh : v ≤ 0x7F) (rest : Bytes) :
    Lead.of (UInt8.ofNat v :: rest) = .scalar (Char.ofNat v) rest := by
  have hb : (UInt8.ofNat v).toNat = v := toNat_ofNat_of_lt (by omega)
  have hlt : UInt8.ofNat v < 0x80 :=
    UInt8.lt_iff_toNat_lt.mpr (by rw [hb]; exact Nat.lt_succ_of_le hhigh)
  rw [Lead.of, if_pos hlt, hb]

/-- A number up to `0x7FF` is read off its two bytes. -/
theorem lead_of_two {v : Nat} (hlow : 0x7F < v) (hhigh : v ≤ 0x7FF) (rest : Bytes) :
    Lead.of (UInt8.ofNat (v / 64 % 32 + 192) :: UInt8.ofNat (v % 64 + 128) :: rest) =
      .scalar (Char.ofNat v) rest := by
  have hb : (UInt8.ofNat (v / 64 % 32 + 192)).toNat = v / 64 % 32 + 192 :=
    toNat_ofNat_of_lt (by omega)
  have hfollow := follow_eq (UInt8.ofNat (v / 64 % 32 + 192))
  rw [hb, if_neg (by omega), if_pos (by omega)] at hfollow
  have hvalue : (v / 64 % 32 + 192 - 0xC0) * 64 + v % 64 = v := by omega
  have hread := lead_of_follow (by rw [hb]; omega) hfollow
    (continuation_last v _ rest (Nat.le_add_left _ _) (show _ ≤ 191 by omega))
  rwa [hvalue] at hread

/-- A number up to `0xFFFF` is read off its three bytes, unless it is a surrogate. -/
theorem lead_of_three {v : Nat} (hlow : 0x7FF < v) (hhigh : v ≤ 0xFFFF)
    (hvalid : v < 0xD800 ∨ 0xDFFF < v) (rest : Bytes) :
    Lead.of (UInt8.ofNat (v / 4096 % 16 + 224) :: UInt8.ofNat (v / 64 % 64 + 128) ::
        UInt8.ofNat (v % 64 + 128) :: rest) = .scalar (Char.ofNat v) rest := by
  have hb : (UInt8.ofNat (v / 4096 % 16 + 224)).toNat = v / 4096 % 16 + 224 :=
    toNat_ofNat_of_lt (by omega)
  have hb' : (UInt8.ofNat (v / 64 % 64 + 128)).toNat = v / 64 % 64 + 128 :=
    toNat_ofNat_of_lt (by omega)
  have hfollow := follow_eq (UInt8.ofNat (v / 4096 % 16 + 224))
  rw [hb, if_neg (by omega), if_neg (by omega), if_pos (by omega)] at hfollow
  have hvalue : ((v / 4096 % 16 + 224 - 0xE0) * 64 + (v / 64 % 64 + 128 - 0x80)) * 64 + v % 64 =
      v := by omega
  have hread := lead_of_follow (by rw [hb]; omega) hfollow
    ((continuation_cons (by rw [hb']; split <;> simp; omega)
      (by rw [hb']; split <;> simp <;> omega) _).trans
        (continuation_last v _ rest (Nat.le_add_left _ _) (show _ ≤ 191 by omega)))
  rwa [hb', hvalue] at hread

/-- Any other number of a character is read off its four bytes. -/
theorem lead_of_four {v : Nat} (hlow : 0xFFFF < v) (hhigh : v < 0x110000) (rest : Bytes) :
    Lead.of (UInt8.ofNat (v / 262144 % 8 + 240) :: UInt8.ofNat (v / 4096 % 64 + 128) ::
        UInt8.ofNat (v / 64 % 64 + 128) :: UInt8.ofNat (v % 64 + 128) :: rest) =
      .scalar (Char.ofNat v) rest := by
  have hb : (UInt8.ofNat (v / 262144 % 8 + 240)).toNat = v / 262144 % 8 + 240 :=
    toNat_ofNat_of_lt (by omega)
  have hb' : (UInt8.ofNat (v / 4096 % 64 + 128)).toNat = v / 4096 % 64 + 128 :=
    toNat_ofNat_of_lt (by omega)
  have hb'' : (UInt8.ofNat (v / 64 % 64 + 128)).toNat = v / 64 % 64 + 128 :=
    toNat_ofNat_of_lt (by omega)
  have hfollow := follow_eq (UInt8.ofNat (v / 262144 % 8 + 240))
  rw [hb, if_neg (by omega), if_neg (by omega), if_neg (by omega), if_pos (by omega)] at hfollow
  have hvalue : (((v / 262144 % 8 + 240 - 0xF0) * 64 + (v / 4096 % 64 + 128 - 0x80)) * 64 +
      (v / 64 % 64 + 128 - 0x80)) * 64 + v % 64 = v := by omega
  have hread := lead_of_follow (by rw [hb]; omega) hfollow
    (((continuation_cons (by rw [hb']; split <;> simp; omega)
      (by rw [hb']; split <;> simp <;> omega) _).trans
        (continuation_cons (by rw [hb'']; exact Nat.le_add_left _ _)
          (by rw [hb'']; show _ ≤ 191; omega) _)).trans
        (continuation_last v _ rest (Nat.le_add_left _ _) (show _ ≤ 191 by omega)))
  rwa [hb', hb'', hvalue] at hread

/-- **The bytes of a character are read as that character.** -/
theorem lead_encodeChar (c : Char) (rest : Bytes) :
    Lead.of (String.utf8EncodeChar c ++ rest) = .scalar c rest := by
  have hbounds := toNat_bounds c
  have hc : Char.ofNat c.toNat = c := Char.ofNat_toNat c
  simp only [String.utf8EncodeChar]
  generalize hv : c.val.toNat = v
  replace hv : c.toNat = v := hv
  rw [hv] at hbounds hc
  -- the branches of the encoder, by the number of bytes
  split
  · next hone => exact (lead_of_one hone rest).trans (by rw [hc])
  · next hone =>
    split
    · next htwo => exact (lead_of_two (by omega) htwo rest).trans (by rw [hc])
    · next htwo =>
      split
      · next hthree =>
        exact (lead_of_three (by omega) hthree (by omega) rest).trans (by rw [hc])
      · next hthree => exact (lead_of_four (by omega) (by omega) rest).trans (by rw [hc])

/-- An ASCII byte is the only one of its character. -/
theorem encodeChar_of_one {b : UInt8} (hb : b.toNat < 0x80) :
    String.utf8EncodeChar (Char.ofNat b.toNat) = [b] := by
  have hc := toNat_val_ofNat (n := b.toNat) (Or.inl (by omega))
  simp only [String.utf8EncodeChar, hc]
  rw [if_pos (by omega), UInt8.ofNat_toNat]

/-- Two bytes are those of the character that is read off them. -/
theorem encodeChar_of_two {b b₁ : UInt8} {value : Nat} (hb : 0xC2 ≤ b.toNat ∧ b.toNat ≤ 0xDF)
    (hb₁ : 0x80 ≤ b₁.toNat ∧ b₁.toNat ≤ 0xBF)
    (hvalue : value = (b.toNat - 0xC0) * 64 + (b₁.toNat - 0x80)) :
    String.utf8EncodeChar (Char.ofNat value) = [b, b₁] := by
  have hc := toNat_val_ofNat (n := value) (Or.inl (by omega))
  simp only [String.utf8EncodeChar, hc]
  rw [if_neg (by omega), if_pos (by omega), ofNat_eq_of_toNat (b := b) (by omega),
    ofNat_eq_of_toNat (b := b₁) (by omega)]

/-- Three bytes are those of the character that is read off them. The narrower ranges of the second
byte leave out the shorter forms and the surrogates. -/
theorem encodeChar_of_three {b b₁ b₂ : UInt8} {value : Nat}
    (hb : 0xE0 ≤ b.toNat ∧ b.toNat ≤ 0xEF)
    (hlo : (if b.toNat = 0xE0 then 0xA0 else 0x80) ≤ b₁.toNat)
    (hhi : b₁.toNat ≤ if b.toNat = 0xED then 0x9F else 0xBF)
    (hb₂ : 0x80 ≤ b₂.toNat ∧ b₂.toNat ≤ 0xBF)
    (hvalue : value = ((b.toNat - 0xE0) * 64 + (b₁.toNat - 0x80)) * 64 + (b₂.toNat - 0x80)) :
    String.utf8EncodeChar (Char.ofNat value) = [b, b₁, b₂] := by
  have hrange : (0x800 ≤ value ∧ value < 0xD800) ∨ (0xDFFF < value ∧ value ≤ 0xFFFF) := by
    split at hlo <;> split at hhi <;> omega
  have hb₁ : 0x80 ≤ b₁.toNat ∧ b₁.toNat ≤ 0xBF := by
    split at hlo <;> split at hhi <;> omega
  clear hlo hhi
  have hc := toNat_val_ofNat (n := value) (by omega)
  simp only [String.utf8EncodeChar, hc]
  rw [if_neg (by omega), if_neg (by omega), if_pos (by omega),
    ofNat_eq_of_toNat (b := b) (by omega), ofNat_eq_of_toNat (b := b₁) (by omega),
    ofNat_eq_of_toNat (b := b₂) (by omega)]

/-- Four bytes are those of the character that is read off them. The narrower ranges of the second
byte leave out the shorter forms and the numbers that are too large. -/
theorem encodeChar_of_four {b b₁ b₂ b₃ : UInt8} {value : Nat}
    (hb : 0xF0 ≤ b.toNat ∧ b.toNat ≤ 0xF4)
    (hlo : (if b.toNat = 0xF0 then 0x90 else 0x80) ≤ b₁.toNat)
    (hhi : b₁.toNat ≤ if b.toNat = 0xF4 then 0x8F else 0xBF)
    (hb₂ : 0x80 ≤ b₂.toNat ∧ b₂.toNat ≤ 0xBF) (hb₃ : 0x80 ≤ b₃.toNat ∧ b₃.toNat ≤ 0xBF)
    (hvalue : value =
      (((b.toNat - 0xF0) * 64 + (b₁.toNat - 0x80)) * 64 + (b₂.toNat - 0x80)) * 64 +
        (b₃.toNat - 0x80)) :
    String.utf8EncodeChar (Char.ofNat value) = [b, b₁, b₂, b₃] := by
  have hrange : 0xFFFF < value ∧ value < 0x110000 := by
    split at hlo <;> split at hhi <;> omega
  have hb₁ : 0x80 ≤ b₁.toNat ∧ b₁.toNat ≤ 0xBF := by
    split at hlo <;> split at hhi <;> omega
  clear hlo hhi
  have hc := toNat_val_ofNat (n := value) (by omega)
  simp only [String.utf8EncodeChar, hc]
  rw [if_neg (by omega), if_neg (by omega), if_neg (by omega),
    ofNat_eq_of_toNat (b := b) (by omega), ofNat_eq_of_toNat (b := b₁) (by omega),
    ofNat_eq_of_toNat (b := b₂) (by omega), ofNat_eq_of_toNat (b := b₃) (by omega)]

/-- **Whatever is read as a character are the bytes of that character.** -/
theorem eq_of_lead {bytes rest : Bytes} {c : Char} (h : Lead.of bytes = .scalar c rest) :
    bytes = String.utf8EncodeChar c ++ rest := by
  cases bytes with
  | nil => simp [Lead.of] at h
  | cons b bytes =>
    rw [Lead.of] at h
    split at h
    · next hlt =>
      -- an ASCII byte
      obtain ⟨rfl, rfl⟩ := Lead.scalar.inj h
      rw [encodeChar_of_one (UInt8.lt_iff_toNat_lt.mp hlt)]
      rfl
    · next hlt =>
      split at h
      · contradiction
      · next k lo hi high hfollow =>
        rcases hread : continuation k lo hi high bytes with ⟨_ | value, left⟩
        · rw [hread] at h
          contradiction
        · rw [hread] at h
          obtain ⟨rfl, rfl⟩ := Lead.scalar.inj h
          -- the value is put together from the bytes, so they can be computed from it
          rcases cases_of_follow hfollow with ⟨hlow, hhigh, rfl, hlo, hhi, hbits⟩ |
            ⟨hlow, hhigh, rfl, hlo, hhi, hbits⟩ | ⟨hlow, hhigh, rfl, hlo, hhi, hbits⟩
          · obtain ⟨b₁, later, rfl, hlo₁, hhi₁, hread⟩ := continuation_eq_some hread
            obtain ⟨hvalue, rfl⟩ := continuation_zero hread
            rw [hbits] at hvalue
            rw [encodeChar_of_two ⟨hlow, hhigh⟩ ⟨hlo ▸ hlo₁, hhi ▸ hhi₁⟩ hvalue]
            rfl
          · obtain ⟨b₁, later, rfl, hlo₁, hhi₁, hread⟩ := continuation_eq_some hread
            obtain ⟨b₂, later, rfl, hlo₂, hhi₂, hread⟩ := continuation_eq_some hread
            obtain ⟨hvalue, rfl⟩ := continuation_zero hread
            rw [hbits] at hvalue
            rw [encodeChar_of_three ⟨hlow, hhigh⟩ (hlo ▸ hlo₁) (hhi ▸ hhi₁) ⟨hlo₂, hhi₂⟩ hvalue]
            rfl
          · obtain ⟨b₁, later, rfl, hlo₁, hhi₁, hread⟩ := continuation_eq_some hread
            obtain ⟨b₂, later, rfl, hlo₂, hhi₂, hread⟩ := continuation_eq_some hread
            obtain ⟨b₃, later, rfl, hlo₃, hhi₃, hread⟩ := continuation_eq_some hread
            obtain ⟨hvalue, rfl⟩ := continuation_zero hread
            rw [hbits] at hvalue
            rw [encodeChar_of_four ⟨hlow, hhigh⟩ (hlo ▸ hlo₁) (hhi ▸ hhi₁) ⟨hlo₂, hhi₂⟩
              ⟨hlo₃, hhi₃⟩ hvalue]
            rfl

/-! ## Whole texts

The decoder takes one character after the other, and `lead_encodeChar` and `eq_of_lead` are its step
in both directions. What remains is induction: on the characters for the one direction, along the
decoder for the other. -/

/-- A character that was read is kept, and the decoder goes on behind it. -/
theorem decodeChars_of_lead {bytes rest : Bytes} {c : Char} (acc : List Char)
    (h : Lead.of bytes = .scalar c rest) : decodeChars acc bytes = decodeChars (c :: acc) rest := by
  cases bytes with
  | nil => simp [Lead.of] at h
  | cons b bytes =>
    rw [decodeChars]
    split
    · next hlead => simp [h] at hlead
    · next hlead =>
      rw [h] at hlead
      obtain ⟨rfl, rfl⟩ := Lead.scalar.inj hlead
      rfl
    · next hlead => simp [h] at hlead

/-- The bytes of characters are decoded as these characters. -/
theorem decodeChars_flatMap (acc cs : List Char) :
    decodeChars acc (cs.flatMap String.utf8EncodeChar) = some (acc.reverse ++ cs) := by
  induction cs generalizing acc with
  | nil => simp [decodeChars]
  | cons c cs ih =>
    rw [List.flatMap_cons, decodeChars_of_lead acc (lead_encodeChar c _), ih]
    simp

/-- What was decoded are the bytes of what came out, in order. -/
theorem eq_of_decodeChars {acc cs : List Char} {bytes : Bytes}
    (h : decodeChars acc bytes = some cs) :
    ∃ later, cs = acc.reverse ++ later ∧ bytes = later.flatMap String.utf8EncodeChar := by
  fun_induction decodeChars acc bytes with
  | case1 acc => exact ⟨[], by simpa using h.symm, rfl⟩
  | case2 acc b bytes hlead =>
    -- a string that is not empty begins with something
    have hshort := Lead.length_rest_of_lt b bytes
    simp only [Lead.of] at hlead
    split at hlead
    · contradiction
    · split at hlead
      · contradiction
      · split at hlead <;> contradiction
  | case3 acc b bytes c rest hlead hlt ih =>
    obtain ⟨later, rfl, hrest⟩ := ih h
    refine ⟨c :: later, by simp, ?_⟩
    rw [eq_of_lead hlead, hrest, List.flatMap_cons]
  | case4 => contradiction

/-- **A byte string holds a text exactly when it is the text in UTF-8.** -/
theorem decode?_eq_some_iff (bytes : Bytes) (text : String) :
    decode? bytes = some text ↔ encode text = bytes := by
  constructor
  · intro h
    obtain ⟨cs, hcs, rfl⟩ := Option.map_eq_some_iff.mp h
    obtain ⟨later, rfl, rfl⟩ := eq_of_decodeChars hcs
    rw [encode_ofList]
  · rintro rfl
    rw [decode?, encode_eq, decodeChars_flatMap]
    simp

/-- A byte string that cannot be decoded is no text in UTF-8. -/
theorem decode?_eq_none_iff (bytes : Bytes) :
    decode? bytes = none ↔ ∀ text, encode text ≠ bytes := by
  rw [Option.eq_none_iff_forall_ne_some]
  exact forall_congr' fun text => not_congr (decode?_eq_some_iff bytes text)

/-! ## ASCII bytes

All bytes of a character that takes more than one are `0x80` or more. -/

/-- An ASCII byte is among the bytes of its own character only. -/
theorem mem_encodeChar_iff {a : Char} (ha : a.toNat < 0x80) (c : Char) :
    UInt8.ofNat a.toNat ∈ String.utf8EncodeChar c ↔ c = a := by
  have hbyte : ∀ n, 0x80 ≤ n → n < 0x100 → UInt8.ofNat a.toNat ≠ UInt8.ofNat n := by
    intro n hlow hhigh heq
    have hnat := congrArg UInt8.toNat heq
    rw [toNat_ofNat_of_lt (by omega), toNat_ofNat_of_lt hhigh] at hnat
    omega
  simp only [String.utf8EncodeChar]
  constructor
  · intro hmem
    split at hmem
    · next hone =>
      have hnat := congrArg UInt8.toNat (List.mem_singleton.mp hmem)
      rw [toNat_ofNat_of_lt (by omega), toNat_ofNat_of_lt (by omega)] at hnat
      exact Char.toNat_inj.mp hnat.symm
    · exfalso
      split at hmem
      · simp only [List.mem_cons, List.not_mem_nil, or_false] at hmem
        rcases hmem with h | h <;> exact hbyte _ (by omega) (by omega) h
      · split at hmem
        · simp only [List.mem_cons, List.not_mem_nil, or_false] at hmem
          rcases hmem with h | h | h <;> exact hbyte _ (by omega) (by omega) h
        · simp only [List.mem_cons, List.not_mem_nil, or_false] at hmem
          rcases hmem with h | h | h | h <;> exact hbyte _ (by omega) (by omega) h
  · rintro rfl
    have hone : c.val.toNat ≤ 127 := Nat.le_of_lt_succ ha
    rw [if_pos hone]
    exact List.mem_singleton.mpr rfl

/-- **An ASCII byte in a text stands for its character.** -/
theorem mem_encode_iff {a : Char} (ha : a.toNat < 0x80) (text : String) :
    UInt8.ofNat a.toNat ∈ encode text ↔ a ∈ text.toList := by
  rw [encode_eq, List.mem_flatMap]
  constructor
  · rintro ⟨c, hmem, hbyte⟩
    exact (mem_encodeChar_iff ha c).mp hbyte ▸ hmem
  · exact fun hmem => ⟨a, hmem, (mem_encodeChar_iff ha a).mpr rfl⟩

/-- There is a newline byte in a text exactly when there is a newline. -/
theorem newline_mem_encode_iff (text : String) : 0x0A ∈ encode text ↔ '\n' ∈ text.toList :=
  mem_encode_iff (a := '\n') (by decide) text

end HostLookup.Text
