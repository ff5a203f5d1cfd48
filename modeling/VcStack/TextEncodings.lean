import Mathlib.Data.List.Basic
import Mathlib.Data.Nat.Init

/-!
Bytes as texts: lower-case hexadecimal, and base64 in its alphabet for URLs
without padding. Decimal numerals are read as Go reads them.
-/

namespace VcStack.TextEncodings

def hexAlphabet : List Char := "0123456789abcdef".toList

def hexDigit (digit : Nat) : Char := hexAlphabet.getD digit '0'

def hexChars : List UInt8 → List Char
  | [] => []
  | byte :: rest =>
    hexDigit (byte.toNat / 16) :: hexDigit (byte.toNat % 16) :: hexChars rest

def hexEncode (bytes : List UInt8) : String := String.ofList (hexChars bytes)

def urlAlphabet : List Char :=
  "ABCDEFGHIJKLMNOPQRSTUVWXYZabcdefghijklmnopqrstuvwxyz0123456789-_".toList

def urlDigit (sextet : Nat) : Char := urlAlphabet.getD sextet 'A'

/-- Three bytes are four characters; the missing bits of the last ones are zero. -/
def urlChars : List UInt8 → List Char
  | [] => []
  | [first] => [urlDigit (first.toNat / 4), urlDigit (first.toNat % 4 * 16)]
  | [first, second] =>
    [urlDigit (first.toNat / 4), urlDigit (first.toNat % 4 * 16 + second.toNat / 16),
      urlDigit (second.toNat % 16 * 4)]
  | first :: second :: third :: rest =>
    urlDigit (first.toNat / 4) :: urlDigit (first.toNat % 4 * 16 + second.toNat / 16) ::
      urlDigit (second.toNat % 16 * 4 + third.toNat / 64) :: urlDigit (third.toNat % 64) ::
        urlChars rest

def urlEncode (bytes : List UInt8) : String := String.ofList (urlChars bytes)

theorem digit_listed {alphabet : List Char} {default : Char} (listed : default ∈ alphabet)
    (digit : Nat) : alphabet.getD digit default ∈ alphabet := by
  rw [List.getD_eq_getElem?_getD]
  cases found : alphabet[digit]? with
  | none => exact listed
  | some char => exact List.mem_of_getElem? found

variable (bytes : List UInt8)

theorem hex_chars_length : (hexChars bytes).length = 2 * bytes.length := by
  induction bytes with
  | nil => rfl
  | cons byte rest ih =>
    simp only [hexChars, List.length_cons, ih]
    omega

theorem hex_chars_listed : ∀ char ∈ hexChars bytes, char ∈ hexAlphabet := by
  have digit : ∀ value, hexDigit value ∈ hexAlphabet := digit_listed (by decide)
  induction bytes with
  | nil => simp [hexChars]
  | cons byte rest ih =>
    simp only [hexChars, List.mem_cons, forall_eq_or_imp]
    exact ⟨digit _, digit _, ih⟩

theorem hex_digit_injective {left right : Nat} (leftSmall : left < 16) (rightSmall : right < 16)
    (same : hexDigit left = hexDigit right) : left = right := by
  have all : ∀ first second : Fin 16, hexDigit first = hexDigit second → first = second := by
    decide
  exact congrArg Fin.val (all ⟨left, leftSmall⟩ ⟨right, rightSmall⟩ same)

theorem hex_chars_injective (left right : List UInt8) (same : hexChars left = hexChars right) :
    left = right := by
  induction left generalizing right with
  | nil =>
    cases right with
    | nil => rfl
    | cons byte rest => contradiction
  | cons byte rest ih =>
    cases right with
    | nil => contradiction
    | cons other others =>
      simp only [hexChars, List.cons.injEq] at same
      obtain ⟨high, low, onward⟩ := same
      have byteSmall := byte.toNat_lt
      have otherSmall := other.toNat_lt
      have highs := hex_digit_injective (by omega) (by omega) high
      have lows := hex_digit_injective (by omega) (by omega) low
      have bytes : byte = other := UInt8.toNat_inj.mp (by omega)
      rw [bytes, ih others onward]

theorem hex_encode_injective {left right : List UInt8} (same : hexEncode left = hexEncode right) :
    left = right :=
  hex_chars_injective left right (String.ofList_injective same)

theorem hex_encode_length : (hexEncode bytes).length = 2 * bytes.length := by
  rw [hexEncode, String.length_ofList, hex_chars_length]

theorem hex_encode_listed :
    ∀ char ∈ (hexEncode bytes).toList, char ∈ hexAlphabet := by
  rw [hexEncode, String.toList_ofList]
  exact hex_chars_listed bytes

theorem url_chars_length :
    (urlChars bytes).length = (4 * bytes.length + 2) / 3 := by
  induction bytes using urlChars.induct with
  | case1 => rfl
  | case2 first => simp [urlChars]
  | case3 first second => simp [urlChars]
  | case4 first second third rest ih =>
    simp only [urlChars, List.length_cons, ih]
    omega

theorem url_chars_listed : ∀ char ∈ urlChars bytes, char ∈ urlAlphabet := by
  have digit : ∀ value, urlDigit value ∈ urlAlphabet := digit_listed (by decide)
  induction bytes using urlChars.induct with
  | case1 => simp [urlChars]
  | case2 first => simp [urlChars, digit]
  | case3 first second => simp [urlChars, digit]
  | case4 first second third rest ih =>
    simp only [urlChars, List.mem_cons, forall_eq_or_imp]
    exact ⟨digit _, digit _, digit _, digit _, ih⟩

theorem url_encode_length :
    (urlEncode bytes).length = (4 * bytes.length + 2) / 3 := by
  rw [urlEncode, String.length_ofList, url_chars_length]

theorem url_encode_listed :
    ∀ char ∈ (urlEncode bytes).toList, char ∈ urlAlphabet := by
  rw [urlEncode, String.toList_ofList]
  exact url_chars_listed bytes

/-- `strconv.ParseInt` in base 10 with 64 bits. -/
def parseInt (text : String) : Option Int64 :=
  let (negative, digits) := match text.toList with
    | '-' :: rest => (true, rest)
    | '+' :: rest => (false, rest)
    | chars => (false, chars)
  if digits = [] ∨ digits.any (fun char => !char.isDigit) then none
  else
    let magnitude : Int := Nat.ofDigitChars 10 digits 0
    let value := if negative then -magnitude else magnitude
    if -9223372036854775808 ≤ value ∧ value < 9223372036854775808 then some (Int64.ofInt value)
    else none

def scanUint (limit : Nat) : List Char → Nat → Except Nat Nat
  | [], value => .ok value
  | char :: rest, value =>
    if char.isDigit then
      let next := value * 10 + (char.toNat - '0'.toNat)
      if limit < next then .error limit else scanUint limit rest next
    else .error 0

/-- `strconv.ParseUint` in base 10 with the greatest value given; an error comes
with the number that is returned beside it. -/
def parseUint (limit : Nat) (text : String) : Except Nat Nat :=
  if text = "" then .error 0 else scanUint limit text.toList 0

end VcStack.TextEncodings
