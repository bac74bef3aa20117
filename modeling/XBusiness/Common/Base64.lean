import XBusiness.Common.ComFunc

/-! # `base64_encode` and `base64_decode`

The two loops of `com_func.cpp`, with their groups, counters and tails.  A text of the encoder is
a list of characters and every group is a list of bytes, the `i` elements that the array holds; the
arithmetic is that of `unsigned char`.

* `standardEncoding` — 24 bits as four digits of six bits, the rest filled with zero bits and padded.
* `base64EncodeBytes_eq` — the encoder computes it, and so does `base64Encode`.
* `base64Decode_encode` — the decoder turns it back.
* `base64_survives` — both, with the form of the encoded text.
-/

namespace XBusiness

/-! ## The encoder -/

/-- `char_array_4` from the three bytes of `char_array_3`. -/
def sextets (first second third : UInt8) : List UInt8 :=
  [(first &&& 0xfc) >>> 2,
    ((first &&& 0x03) <<< 4) + ((second &&& 0xf0) >>> 4),
    ((second &&& 0x0f) <<< 2) + ((third &&& 0xc0) >>> 6),
    third &&& 0x3f]

def base64CharOf (sextet : UInt8) : Char := base64Char sextet.toNat

/-- The loop of `base64_encode`. `group` is `char_array_3` up to `i`; a load behind the bytes is
    undefined. -/
def base64EncodeLoop : Nat → List UInt8 → List UInt8 → List Char → Except Fault (List UInt8 × List Char)
  | 0, _, group, ret => .ok (group, ret)
  | _ + 1, [], _, _ => .error .undefined
  | inLen + 1, byte :: bytes, group, ret =>
    match group ++ [byte] with
    | [first, second, third] =>
      base64EncodeLoop inLen bytes [] (ret ++ (sextets first second third).map base64CharOf)
    | group => base64EncodeLoop inLen bytes group ret

/-- The end of `base64_encode`: a group that is not full is filled with zero bytes. -/
def base64EncodeTail (group : List UInt8) : List Char :=
  if group.length = 0 then []
  else
    let filled := group ++ List.replicate (3 - group.length) 0
    let chars := (sextets (filled.getD 0 0) (filled.getD 1 0) (filled.getD 2 0)).map base64CharOf
    chars.take (group.length + 1) ++ List.replicate (3 - group.length) '='

/-- `base64_encode` on the bytes of a string; the length is an `unsigned int`. -/
def base64EncodeBytes (bytes : List UInt8) : Except Fault (List Char) := do
  let (group, ret) ← base64EncodeLoop (bytes.length % 2 ^ 32) bytes [] []
  return ret ++ base64EncodeTail group

/-! ## The decoder -/

/-- `is_base64`. -/
def isBase64 (char : Char) : Bool := char.isAlphanum || char = '+' || char = '/'

/-- A character of a string as an `unsigned char`. -/
def byteOf (char : Char) : UInt8 := UInt8.ofNat char.toNat

/-- `base64_chars.find` stored in an `unsigned char`; `npos` is the greatest `size_t`. -/
def findBase64 (byte : UInt8) : UInt8 :=
  UInt8.ofNat ((base64Chars.findIdx? fun char => byteOf char = byte).getD (2 ^ 64 - 1))

/-- `char_array_3` from the four elements of `char_array_4`. -/
def octets (first second third fourth : UInt8) : List UInt8 :=
  [(first <<< 2) + ((second &&& 0x30) >>> 4),
    ((second &&& 0xf) <<< 4) + ((third &&& 0x3c) >>> 2),
    ((third &&& 0x3) <<< 6) + fourth]

/-- The loop of `base64_decode`. `group` is `char_array_4` up to `i`.  The counter is an `int`,
    and behind the text stands the zero byte, which is not in the alphabet. -/
def base64DecodeLoop : Int → List Char → List UInt8 → List UInt8 → Except Fault (List UInt8 × List UInt8)
  | inLen, [], group, ret => do
    let _ ← checkInt (inLen - 1)
    return (group, ret)
  | inLen, char :: encoded, group, ret => do
    let next ← checkInt (inLen - 1)
    if inLen ≠ 0 ∧ char ≠ '=' ∧ isBase64 char then
      match group ++ [byteOf char] with
      | [first, second, third, fourth] =>
        base64DecodeLoop next encoded []
          (ret ++ octets (findBase64 first) (findBase64 second) (findBase64 third) (findBase64 fourth))
      | group => base64DecodeLoop next encoded group ret
    else
      return (group, ret)

/-- The end of `base64_decode`: a group that is not full is filled with zero bytes before the
    search, which finds none of them. -/
def base64DecodeTail (group : List UInt8) : List UInt8 :=
  if group.length = 0 then []
  else
    let filled := (group ++ List.replicate (4 - group.length) 0).map findBase64
    (octets (filled.getD 0 0) (filled.getD 1 0) (filled.getD 2 0) (filled.getD 3 0)).take (group.length - 1)

/-- `base64_decode`; the size is cast to `int`. -/
def base64Decode (encoded : List Char) : Except Fault (List UInt8) := do
  let (group, ret) ← base64DecodeLoop (castInt encoded.length) encoded [] []
  return ret ++ base64DecodeTail group

/-! ## The standard encoding -/

/-- Three bytes are 24 bits, written as four digits of six bits.  One or two bytes at the end are
    filled up with zero bits to two or three digits, and the text with `=` to four characters. -/
def standardEncoding : List UInt8 → List Char
  | first :: second :: third :: rest =>
    let bits := first.toNat * 2 ^ 16 + second.toNat * 2 ^ 8 + third.toNat
    base64Char (bits / 2 ^ 18) :: base64Char (bits / 2 ^ 12 % 2 ^ 6) ::
      base64Char (bits / 2 ^ 6 % 2 ^ 6) :: base64Char (bits % 2 ^ 6) :: standardEncoding rest
  | [first, second] =>
    let bits := (first.toNat * 2 ^ 8 + second.toNat) * 2 ^ 2
    [base64Char (bits / 2 ^ 12), base64Char (bits / 2 ^ 6 % 2 ^ 6), base64Char (bits % 2 ^ 6), '=']
  | [first] =>
    let bits := first.toNat * 2 ^ 4
    [base64Char (bits / 2 ^ 6), base64Char (bits % 2 ^ 6), '=', '=']
  | [] => []

/-! ## Bytes -/

/-- A statement about a byte is checked on the 256 of them. -/
theorem forall_byte {property : UInt8 → Prop} (all : ∀ value < 256, property (UInt8.ofNat value))
    (byte : UInt8) : property byte := by
  have here := all byte.toNat byte.toNat_lt
  rwa [UInt8.ofNat_toNat] at here

/-- The masks and shifts of the encoder. -/
theorem encode_masks : ∀ byte : UInt8,
    ((byte &&& 0xfc) >>> 2).toNat = byte.toNat / 4 ∧
    ((byte &&& 0x03) <<< 4).toNat = byte.toNat % 4 * 16 ∧
    ((byte &&& 0xf0) >>> 4).toNat = byte.toNat / 16 ∧
    ((byte &&& 0x0f) <<< 2).toNat = byte.toNat % 16 * 4 ∧
    ((byte &&& 0xc0) >>> 6).toNat = byte.toNat / 64 ∧
    (byte &&& 0x3f).toNat = byte.toNat % 64 :=
  forall_byte (by decide +kernel)

/-- The masks and shifts of the decoder; the first shift loses the upper two bits. -/
theorem decode_masks : ∀ byte : UInt8,
    (byte <<< 2).toNat = byte.toNat * 4 % 256 ∧
    ((byte &&& 0x30) >>> 4).toNat = byte.toNat / 16 % 4 ∧
    ((byte &&& 0xf) <<< 4).toNat = byte.toNat % 16 * 16 ∧
    ((byte &&& 0x3c) >>> 2).toNat = byte.toNat / 4 % 16 ∧
    ((byte &&& 0x3) <<< 6).toNat = byte.toNat % 4 * 64 :=
  forall_byte (by decide +kernel)

/-- Each character of the alphabet is found at its place and goes on the loop. -/
theorem base64Char_found : ∀ index < 64,
    findBase64 (byteOf (base64Char index)) = UInt8.ofNat index ∧
      isBase64 (base64Char index) = true ∧ base64Char index ≠ '=' ∧ base64Char index ∈ base64Chars := by
  decide +kernel

/-! ## The encoder computes the standard encoding -/

/-- The digits of 24 bits. -/
theorem sextets_chars (first second third : UInt8) :
    (sextets first second third).map base64CharOf =
      [base64Char (first.toNat / 4), base64Char (first.toNat % 4 * 16 + second.toNat / 16),
        base64Char (second.toNat % 16 * 4 + third.toNat / 64), base64Char (third.toNat % 64)] := by
  obtain ⟨high, low, -⟩ := encode_masks first
  obtain ⟨-, -, highSecond, lowSecond, -⟩ := encode_masks second
  obtain ⟨-, -, -, -, highThird, lowThird⟩ := encode_masks third
  have boundFirst := first.toNat_lt
  have boundSecond := second.toNat_lt
  have boundThird := third.toNat_lt
  simp only [sextets, List.map_cons, List.map_nil, base64CharOf, UInt8.toNat_add, high, low, highSecond,
    lowSecond, highThird, lowThird]
  congr 3
  · omega
  · congr 2
    omega

/-- The digits of a group, with those of a shorter one. -/
theorem base64Encode_eq (bytes : List UInt8) : base64Encode (bytes.map UInt8.toNat) = standardEncoding bytes := by
  induction bytes using standardEncoding.induct with
  | case1 first second third rest inductionHypothesis =>
    have boundFirst := first.toNat_lt
    have boundSecond := second.toNat_lt
    have boundThird := third.toNat_lt
    have digit0 : (first.toNat * 2 ^ 16 + second.toNat * 2 ^ 8 + third.toNat) / 2 ^ 18 = first.toNat / 4 := by
      omega
    have digit1 : (first.toNat * 2 ^ 16 + second.toNat * 2 ^ 8 + third.toNat) / 2 ^ 12 % 2 ^ 6 =
        first.toNat % 4 * 16 + second.toNat / 16 := by omega
    have digit2 : (first.toNat * 2 ^ 16 + second.toNat * 2 ^ 8 + third.toNat) / 2 ^ 6 % 2 ^ 6 =
        second.toNat % 16 * 4 + third.toNat / 64 := by omega
    have digit3 : (first.toNat * 2 ^ 16 + second.toNat * 2 ^ 8 + third.toNat) % 2 ^ 6 = third.toNat % 64 := by
      omega
    simp only [List.map_cons, base64Encode, standardEncoding, inductionHypothesis, digit0, digit1, digit2, digit3]
  | case2 first second =>
    have boundFirst := first.toNat_lt
    have boundSecond := second.toNat_lt
    have digit0 : (first.toNat * 2 ^ 8 + second.toNat) * 2 ^ 2 / 2 ^ 12 = first.toNat / 4 := by omega
    have digit1 : (first.toNat * 2 ^ 8 + second.toNat) * 2 ^ 2 / 2 ^ 6 % 2 ^ 6 =
        first.toNat % 4 * 16 + second.toNat / 16 := by omega
    have digit2 : (first.toNat * 2 ^ 8 + second.toNat) * 2 ^ 2 % 2 ^ 6 = second.toNat % 16 * 4 := by omega
    simp only [List.map_cons, List.map_nil, base64Encode, standardEncoding, digit0, digit1, digit2]
  | case3 first =>
    have boundFirst := first.toNat_lt
    have digit0 : first.toNat * 2 ^ 4 / 2 ^ 6 = first.toNat / 4 := by omega
    have digit1 : first.toNat * 2 ^ 4 % 2 ^ 6 = first.toNat % 4 * 16 := by omega
    simp only [List.map_cons, List.map_nil, base64Encode, standardEncoding, digit0, digit1]
  | case4 => rfl

/-- The loop over bytes that start a group, and the tail for what it leaves. -/
theorem base64EncodeLoop_eq (bytes : List UInt8) (ret : List Char) :
    ∃ group ret', base64EncodeLoop bytes.length bytes [] ret = .ok (group, ret') ∧
      ret' ++ base64EncodeTail group = ret ++ base64Encode (bytes.map UInt8.toNat) := by
  induction bytes using standardEncoding.induct generalizing ret with
  | case1 first second third rest inductionHypothesis =>
    obtain ⟨group, ret', ran, tail⟩ := inductionHypothesis (ret ++ (sextets first second third).map base64CharOf)
    refine ⟨group, ret', ran, ?_⟩
    rw [tail, sextets_chars]
    simp [base64Encode]
  | case2 first second =>
    refine ⟨[first, second], ret, rfl, ?_⟩
    simp [base64EncodeTail, sextets_chars, base64Encode]
  | case3 first =>
    refine ⟨[first], ret, rfl, ?_⟩
    simp [base64EncodeTail, sextets_chars, base64Encode]
  | case4 => exact ⟨[], ret, rfl, by simp [base64EncodeTail, base64Encode]⟩

/-- The encoder with its loop is the one by groups, as long as the length fits its parameter. -/
theorem base64EncodeBytes_eq {bytes : List UInt8} (fits : bytes.length < 2 ^ 32) :
    base64EncodeBytes bytes = .ok (base64Encode (bytes.map UInt8.toNat)) := by
  obtain ⟨group, ret, ran, tail⟩ := base64EncodeLoop_eq bytes []
  rw [base64EncodeBytes, Nat.mod_eq_of_lt fits, ran]
  exact congrArg Except.ok tail

/-! ## The form of the encoded text -/

/-- How many `=` the standard encoding ends in. -/
def base64Padding (length : Nat) : Nat := if length % 3 = 0 then 0 else 3 - length % 3

theorem base64Char_mem {index : Nat} (bound : index < 64) : base64Char index ∈ base64Chars :=
  (base64Char_found index bound).2.2.2

theorem base64Encode_length (bytes : List UInt8) :
    (base64Encode (bytes.map UInt8.toNat)).length = 4 * ((bytes.length + 2) / 3) := by
  induction bytes using standardEncoding.induct with
  | case1 first second third rest inductionHypothesis =>
    simp only [List.map_cons, base64Encode, List.length_cons, inductionHypothesis]
    omega
  | case2 first second => simp [base64Encode]
  | case3 first => simp [base64Encode]
  | case4 => rfl

/-- Characters of the alphabet, and behind them the padding. -/
theorem base64Encode_digits (bytes : List UInt8) :
    ∃ digits, base64Encode (bytes.map UInt8.toNat) = digits ++ List.replicate (base64Padding bytes.length) '=' ∧
      ∀ char ∈ digits, char ∈ base64Chars := by
  induction bytes using standardEncoding.induct with
  | case1 first second third rest inductionHypothesis =>
    obtain ⟨digits, split, alphabet⟩ := inductionHypothesis
    have boundFirst := first.toNat_lt
    have boundSecond := second.toNat_lt
    have boundThird := third.toNat_lt
    refine ⟨base64Char (first.toNat / 4) :: base64Char (first.toNat % 4 * 16 + second.toNat / 16) ::
      base64Char (second.toNat % 16 * 4 + third.toNat / 64) :: base64Char (third.toNat % 64) :: digits, ?_, ?_⟩
    · have sameRest : (rest.length + 3) % 3 = rest.length % 3 := by omega
      simp [base64Encode, split, base64Padding, sameRest]
    · intro char mem
      simp only [List.mem_cons] at mem
      rcases mem with rfl | rfl | rfl | rfl | mem
      · exact base64Char_mem (by omega)
      · exact base64Char_mem (by omega)
      · exact base64Char_mem (by omega)
      · exact base64Char_mem (by omega)
      · exact alphabet char mem
  -- two bytes make three digits, one byte makes two
  | case2 first second =>
    have boundFirst := first.toNat_lt
    have boundSecond := second.toNat_lt
    refine ⟨[base64Char (first.toNat / 4), base64Char (first.toNat % 4 * 16 + second.toNat / 16),
      base64Char (second.toNat % 16 * 4)], rfl, ?_⟩
    intro char mem
    simp only [List.mem_cons, List.not_mem_nil, or_false] at mem
    rcases mem with rfl | rfl | rfl
    · exact base64Char_mem (by omega)
    · exact base64Char_mem (by omega)
    · exact base64Char_mem (by omega)
  | case3 first =>
    have boundFirst := first.toNat_lt
    refine ⟨[base64Char (first.toNat / 4), base64Char (first.toNat % 4 * 16)], rfl, ?_⟩
    intro char mem
    simp only [List.mem_cons, List.not_mem_nil, or_false] at mem
    rcases mem with rfl | rfl
    · exact base64Char_mem (by omega)
    · exact base64Char_mem (by omega)
  | case4 => exact ⟨[], rfl, by simp⟩

/-! ## The decoder turns it back -/

theorem octet_first (first second : UInt8) :
    (UInt8.ofNat (first.toNat / 4) <<< 2) +
      ((UInt8.ofNat (first.toNat % 4 * 16 + second.toNat / 16) &&& 0x30) >>> 4) = first := by
  have boundFirst := first.toNat_lt
  have boundSecond := second.toNat_lt
  simp only [← UInt8.toNat_inj, UInt8.toNat_add, decode_masks, UInt8.toNat_ofNat']
  omega

theorem octet_second (first second third : UInt8) :
    ((UInt8.ofNat (first.toNat % 4 * 16 + second.toNat / 16) &&& 0xf) <<< 4) +
      ((UInt8.ofNat (second.toNat % 16 * 4 + third.toNat / 64) &&& 0x3c) >>> 2) = second := by
  have boundFirst := first.toNat_lt
  have boundSecond := second.toNat_lt
  have boundThird := third.toNat_lt
  simp only [← UInt8.toNat_inj, UInt8.toNat_add, decode_masks, UInt8.toNat_ofNat']
  omega

theorem octet_third (second third : UInt8) :
    ((UInt8.ofNat (second.toNat % 16 * 4 + third.toNat / 64) &&& 0x3) <<< 6) +
      UInt8.ofNat (third.toNat % 64) = third := by
  have boundSecond := second.toNat_lt
  have boundThird := third.toNat_lt
  simp only [← UInt8.toNat_inj, UInt8.toNat_add, decode_masks, UInt8.toNat_ofNat']
  omega

theorem checkInt_ok {value : Int} (fits : InInt32 value) : checkInt value = .ok value := by
  rw [checkInt, if_pos fits]

section Decode

variable {inLen : Int} {encoded : List Char} {ret : List UInt8}

/-- A digit that does not fill its group. -/
theorem base64DecodeLoop_digit {index : Nat} (digit : index < 64) (positive : 0 < inLen) (small : inLen < 2 ^ 31)
    {group : List UInt8} (room : group.length < 3) :
    base64DecodeLoop inLen (base64Char index :: encoded) group ret =
      base64DecodeLoop (inLen - 1) encoded (group ++ [byteOf (base64Char index)]) ret := by
  obtain ⟨-, inAlphabet, notPadding, -⟩ := base64Char_found index digit
  have fits : InInt32 (inLen - 1) := ⟨by omega, by omega⟩
  have nonzero : inLen ≠ 0 := by omega
  rcases group with _ | ⟨first, _ | ⟨second, _ | ⟨third, rest⟩⟩⟩
  · simp [base64DecodeLoop, checkInt_ok fits, nonzero, notPadding, inAlphabet]
    rfl
  · simp [base64DecodeLoop, checkInt_ok fits, nonzero, notPadding, inAlphabet]
    rfl
  · simp [base64DecodeLoop, checkInt_ok fits, nonzero, notPadding, inAlphabet]
    rfl
  · simp only [List.length_cons] at room
    omega

/-- The fourth digit of a group. -/
theorem base64DecodeLoop_full {index : Nat} (digit : index < 64) (positive : 0 < inLen) (small : inLen < 2 ^ 31)
    (first second third : UInt8) :
    base64DecodeLoop inLen (base64Char index :: encoded) [first, second, third] ret =
      base64DecodeLoop (inLen - 1) encoded []
        (ret ++ octets (findBase64 first) (findBase64 second) (findBase64 third) (UInt8.ofNat index)) := by
  obtain ⟨found, inAlphabet, notPadding, -⟩ := base64Char_found index digit
  have fits : InInt32 (inLen - 1) := ⟨by omega, by omega⟩
  have nonzero : inLen ≠ 0 := by omega
  simp [base64DecodeLoop, checkInt_ok fits, nonzero, notPadding, inAlphabet, found]
  rfl

/-- The loop stops at the padding. -/
theorem base64DecodeLoop_padding (positive : 0 < inLen) (small : inLen < 2 ^ 31) (group : List UInt8) :
    base64DecodeLoop inLen ('=' :: encoded) group ret = .ok (group, ret) := by
  have fits : InInt32 (inLen - 1) := ⟨by omega, by omega⟩
  simp [base64DecodeLoop, checkInt_ok fits]

/-- A group of four digits. -/
theorem base64DecodeLoop_group (enough : 4 ≤ inLen) (small : inLen < 2 ^ 31) (first second third : UInt8) :
    base64DecodeLoop inLen
      (base64Char (first.toNat / 4) :: base64Char (first.toNat % 4 * 16 + second.toNat / 16) ::
        base64Char (second.toNat % 16 * 4 + third.toNat / 64) :: base64Char (third.toNat % 64) :: encoded) [] ret =
      base64DecodeLoop (inLen - 4) encoded [] (ret ++ [first, second, third]) := by
  have boundFirst := first.toNat_lt
  have boundSecond := second.toNat_lt
  have boundThird := third.toNat_lt
  have digit0 : first.toNat / 4 < 64 := by omega
  have digit1 : first.toNat % 4 * 16 + second.toNat / 16 < 64 := by omega
  have digit2 : second.toNat % 16 * 4 + third.toNat / 64 < 64 := by omega
  have digit3 : third.toNat % 64 < 64 := by omega
  rw [base64DecodeLoop_digit digit0 (by omega) small (by simp),
    base64DecodeLoop_digit digit1 (by omega) (by omega) (by simp),
    base64DecodeLoop_digit digit2 (by omega) (by omega) (by simp)]
  simp only [List.nil_append, List.cons_append]
  rw [base64DecodeLoop_full digit3 (by omega) (by omega), (base64Char_found _ digit0).1,
    (base64Char_found _ digit1).1, (base64Char_found _ digit2).1]
  have bytes : octets (UInt8.ofNat (first.toNat / 4)) (UInt8.ofNat (first.toNat % 4 * 16 + second.toNat / 16))
      (UInt8.ofNat (second.toNat % 16 * 4 + third.toNat / 64)) (UInt8.ofNat (third.toNat % 64)) =
      [first, second, third] := by
    simp only [octets, octet_first, octet_second, octet_third]
  have counter : inLen - 1 - 1 - 1 - 1 = inLen - 4 := by omega
  rw [bytes, counter]

theorem base64DecodeTail_two (first second : UInt8) :
    base64DecodeTail [first, second] =
      (octets (findBase64 first) (findBase64 second) (findBase64 0) (findBase64 0)).take 1 := rfl

theorem base64DecodeTail_three (first second third : UInt8) :
    base64DecodeTail [first, second, third] =
      (octets (findBase64 first) (findBase64 second) (findBase64 third) (findBase64 0)).take 2 := rfl

/-- The loop over the text of bytes that start a group, and the tail for what it leaves. -/
theorem base64DecodeLoop_eq (bytes ret : List UInt8)
    (counted : inLen = (base64Encode (bytes.map UInt8.toNat)).length) (small : inLen < 2 ^ 31) :
    ∃ group ret', base64DecodeLoop inLen (base64Encode (bytes.map UInt8.toNat)) [] ret = .ok (group, ret') ∧
      ret' ++ base64DecodeTail group = ret ++ bytes := by
  induction bytes using standardEncoding.induct generalizing inLen ret with
  | case1 first second third rest inductionHypothesis =>
    simp only [List.map_cons, base64Encode, List.length_cons] at counted ⊢
    -- a whole group is decoded in the loop, which goes on with the rest
    rw [base64DecodeLoop_group (by omega) small]
    obtain ⟨group, ret', ran, tail⟩ := inductionHypothesis (ret ++ [first, second, third])
      (show inLen - 4 = _ by omega) (by omega)
    exact ⟨group, ret', ran, by rw [tail]; simp⟩
  | case2 first second =>
    have boundFirst := first.toNat_lt
    have boundSecond := second.toNat_lt
    have digit0 : first.toNat / 4 < 64 := by omega
    have digit1 : first.toNat % 4 * 16 + second.toNat / 16 < 64 := by omega
    have digit2 : second.toNat % 16 * 4 < 64 := by omega
    simp only [List.map_cons, List.map_nil, base64Encode, List.length_cons, List.length_nil] at counted ⊢
    rw [base64DecodeLoop_digit digit0 (by omega) small (by simp),
      base64DecodeLoop_digit digit1 (by omega) (by omega) (by simp),
      base64DecodeLoop_digit digit2 (by omega) (by omega) (by simp),
      base64DecodeLoop_padding (by omega) (by omega)]
    -- the padding ends the loop with three digits left, which are two bytes
    refine ⟨_, _, rfl, ?_⟩
    have byte0 := octet_first first second
    have byte1 := octet_second first second 0
    simp only [UInt8.toNat_zero, Nat.zero_div, Nat.add_zero] at byte1
    simp only [List.nil_append, List.cons_append, base64DecodeTail_three, (base64Char_found _ digit0).1,
      (base64Char_found _ digit1).1, (base64Char_found _ digit2).1, octets, List.take_succ_cons, List.take_zero,
      byte0, byte1]
  | case3 first =>
    have boundFirst := first.toNat_lt
    have digit0 : first.toNat / 4 < 64 := by omega
    have digit1 : first.toNat % 4 * 16 < 64 := by omega
    simp only [List.map_cons, List.map_nil, base64Encode, List.length_cons, List.length_nil] at counted ⊢
    rw [base64DecodeLoop_digit digit0 (by omega) small (by simp),
      base64DecodeLoop_digit digit1 (by omega) (by omega) (by simp),
      base64DecodeLoop_padding (by omega) (by omega)]
    -- two digits left, which are one byte
    refine ⟨_, _, rfl, ?_⟩
    have byte0 := octet_first first 0
    simp only [UInt8.toNat_zero, Nat.zero_div, Nat.add_zero] at byte0
    simp only [List.nil_append, List.cons_append, base64DecodeTail_two, (base64Char_found _ digit0).1,
      (base64Char_found _ digit1).1, octets, List.take_succ_cons, List.take_zero, byte0]
  | case4 =>
    refine ⟨[], ret, ?_, by simp [base64DecodeTail]⟩
    simp only [List.map_nil, base64Encode, List.length_nil] at counted ⊢
    have fits : InInt32 (inLen - 1) := ⟨by omega, by omega⟩
    simp only [base64DecodeLoop, checkInt_ok fits]
    rfl

end Decode

/-- The decoder gives back the bytes, as long as the text fits its counter. -/
theorem base64Decode_encode {bytes : List UInt8} (fits : 4 * ((bytes.length + 2) / 3) < 2 ^ 31) :
    base64Decode (base64Encode (bytes.map UInt8.toNat)) = .ok bytes := by
  have length := base64Encode_length bytes
  have cast : castInt (base64Encode (bytes.map UInt8.toNat)).length =
      (base64Encode (bytes.map UInt8.toNat)).length := by
    rw [castInt, length]
    omega
  obtain ⟨group, ret, ran, tail⟩ := base64DecodeLoop_eq bytes [] cast (by rw [cast, length]; omega)
  rw [base64Decode, ran]
  exact congrArg Except.ok tail

/-- Image bytes survive base64: for every string of at most 2^30 bytes the encoder gives the
    standard encoding, four characters for three bytes begun, digits of the alphabet with the
    padding that the length modulo three asks for, and the decoder gives back the bytes. -/
theorem base64_survives (bytes : List UInt8) (bounded : bytes.length ≤ 2 ^ 30) :
    ∃ encoded, base64EncodeBytes bytes = .ok encoded ∧ base64Decode encoded = .ok bytes ∧
      encoded = standardEncoding bytes ∧ encoded.length = 4 * ((bytes.length + 2) / 3) ∧
      ∃ digits, encoded = digits ++ List.replicate (base64Padding bytes.length) '=' ∧
        ∀ char ∈ digits, char ∈ base64Chars := by
  refine ⟨base64Encode (bytes.map UInt8.toNat), base64EncodeBytes_eq (by omega),
    base64Decode_encode (by omega), base64Encode_eq bytes, base64Encode_length bytes,
    base64Encode_digits bytes⟩

theorem base64_survives_two : ∃ encoded, base64EncodeBytes [0x4d, 0x61] = .ok encoded ∧
    base64Decode encoded = .ok [0x4d, 0x61] ∧ encoded.length = 4 := by
  obtain ⟨encoded, ran, back, -, length, -⟩ := base64_survives [0x4d, 0x61] (by decide)
  exact ⟨encoded, ran, back, length⟩

end XBusiness
