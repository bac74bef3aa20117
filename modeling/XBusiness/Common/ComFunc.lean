import XBusiness.Json.Value

/-! # Helpers of `com_func.cpp` and of the C library

The string and time helpers that the data classes and the handler call, on texts as lists
of characters.
-/

namespace XBusiness

/-! ## Machine integers -/

def InInt32 (value : Int) : Prop := -2 ^ 31 ≤ value ∧ value < 2 ^ 31

instance (value : Int) : Decidable (InInt32 value) := inferInstanceAs (Decidable (_ ∧ _))

/-- A result of `int` arithmetic; overflow is undefined. -/
def checkInt (value : Int) : Except Fault Int :=
  if InInt32 value then .ok value else .error .undefined

/-- A result of `int64_t` arithmetic. -/
def checkInt64 (value : Int) : Except Fault Int :=
  if -2 ^ 63 ≤ value ∧ value < 2 ^ 63 then .ok value else .error .undefined

/-- A cast to `int`. -/
def castInt (value : Int) : Int := (value + 2 ^ 31) % 2 ^ 32 - 2 ^ 31

/-! ## Strings -/

/-- `std::string::find` of a character from a position on. -/
def findFrom (char : Char) (text : List Char) (pos : Nat) : Option Nat :=
  ((text.drop pos).findIdx? (· = char)).map (· + pos)

/-- `std::string::find_last_of`. -/
def findLastOf (char : Char) : List Char → Option Nat
  | [] => none
  | first :: rest =>
    match findLastOf char rest with
    | some index => some (index + 1)
    | none => if first = char then some 0 else none

/-- Whether `std::string::find` of a text succeeds. -/
def containsText (needle : String) (text : String) : Bool :=
  text.toList.tails.any fun rest => needle.toList.isPrefixOf rest

/-- `substr`. -/
def substr (text : List Char) (pos count : Nat) : String := String.ofList ((text.drop pos).take count)

/-- `hobotcommon::getsplitstr`: what stands behind the last slash. -/
def getsplitstr (str : String) : String :=
  if str ≠ "" then
    match findLastOf '/' str.toList with
    | some index => String.ofList (str.toList.drop (index + 1))
    | none => str
  else str

/-- The three parts of a storage url. -/
structure StorageUrl where
  endpoint : String
  bucket : String
  key : String
  deriving DecidableEq, Repr

/-- The splitting of a storage url into endpoint, bucket and key. -/
def splitUri (uri : String) : Option StorageUrl :=
  let text := uri.toList
  match findFrom '/' text 0 with
  | none => none
  | some endpoint =>
    match findFrom '/' text (endpoint + 1) with
    | none => none
    | some bucket =>
      if bucket + 1 < text.length then
        some {
          endpoint := substr text 0 endpoint
          bucket := substr text (endpoint + 1) (bucket - endpoint - 1)
          key := String.ofList (text.drop (bucket + 1)) }
      else none

/-! ## Numbers in texts -/

def isSpace (char : Char) : Bool :=
  char = ' ' || char = '\t' || char = '\n' || char = '\r' || char.toNat = 11 || char.toNat = 12

/-- The value of the leading decimal digits. -/
def leadingDigits : List Char → Nat → Nat
  | [], value => value
  | char :: rest, value =>
    if char.isDigit then leadingDigits rest (10 * value + (char.toNat - '0'.toNat)) else value

/-- `atoi`, which is `strtol` with its result clamped to `long` and then cast to `int`. -/
def atoi (str : String) : Int :=
  let text := str.toList.dropWhile isSpace
  match text with
  | '-' :: rest => castInt (max (-(leadingDigits rest 0 : Int)) (-2 ^ 63))
  | '+' :: rest => castInt (min (leadingDigits rest 0 : Int) (2 ^ 63 - 1))
  | rest => castInt (min (leadingDigits rest 0 : Int) (2 ^ 63 - 1))

/-- `hobotcommon::Age`: the age groups. -/
def ageGroup (manualAge : Int) : Int :=
  if 0 ≤ manualAge ∧ manualAge ≤ 6 then 0
  else if 7 ≤ manualAge ∧ manualAge ≤ 12 then 1
  else if 13 ≤ manualAge ∧ manualAge ≤ 18 then 2
  else if 19 ≤ manualAge ∧ manualAge ≤ 28 then 3
  else if 29 ≤ manualAge ∧ manualAge ≤ 35 then 4
  else if 36 ≤ manualAge ∧ manualAge ≤ 45 then 5
  else if 46 ≤ manualAge ∧ manualAge ≤ 55 then 6
  else if 56 ≤ manualAge then 7
  else -1

/-! ## Base64 -/

def base64Chars : List Char :=
  "ABCDEFGHIJKLMNOPQRSTUVWXYZabcdefghijklmnopqrstuvwxyz0123456789+/".toList

def base64Char (index : Nat) : Char := base64Chars.getD index '='

/-- `base64_encode`, on bytes: full groups of three, then one or two bytes with padding. -/
def base64Encode : List Nat → List Char
  | first :: second :: third :: rest =>
    base64Char (first / 4) :: base64Char (first % 4 * 16 + second / 16) ::
      base64Char (second % 16 * 4 + third / 64) :: base64Char (third % 64) :: base64Encode rest
  | [first, second] =>
    [base64Char (first / 4), base64Char (first % 4 * 16 + second / 16),
      base64Char (second % 16 * 4), '=']
  | [first] => [base64Char (first / 4), base64Char (first % 4 * 16), '=', '=']
  | [] => []

/-! ## Times -/

/-- A number in decimal, with leading zeros up to the width. -/
def padded (width : Nat) (value : Nat) : String :=
  let digits := toString value
  String.ofList (List.replicate (width - digits.length) '0') ++ digits

/-- Year, month and day of a number of days since 1970-01-01. -/
def civilFromDays (days : Int) : Int × Int × Int :=
  let shifted := days + 719468
  let era := shifted / 146097
  let dayOfEra := shifted % 146097
  let yearOfEra := (dayOfEra - dayOfEra / 1460 + dayOfEra / 36524 - dayOfEra / 146096) / 365
  let dayOfYear := dayOfEra - (365 * yearOfEra + yearOfEra / 4 - yearOfEra / 100)
  let shiftedMonth := (5 * dayOfYear + 2) / 153
  let day := dayOfYear - (153 * shiftedMonth + 2) / 5 + 1
  let month := if shiftedMonth < 10 then shiftedMonth + 3 else shiftedMonth - 9
  let year := yearOfEra + era * 400 + (if month ≤ 2 then 1 else 0)
  (year, month, day)

/-- `strftime` with `"%Y-%m-%dT%H:%M:%SZ"` of `gmtime_r`. -/
def utcTime (seconds : Int) : String :=
  let (year, month, day) := civilFromDays (seconds / 86400)
  let rest := (seconds % 86400).toNat
  toString year ++ "-" ++ padded 2 month.toNat ++ "-" ++ padded 2 day.toNat ++ "T" ++
    padded 2 (rest / 3600) ++ ":" ++ padded 2 (rest / 60 % 60) ++ ":" ++ padded 2 (rest % 60) ++ "Z"

end XBusiness
