import SpeechModules.CBuffer
import SpeechModules.PercentCode
import Mathlib.Algebra.Group.Int.Defs

/-!
# `UriUtils`

`UrlEncode` and `UrlDecode` hand a `std::string` to libcurl as a pointer and a
size, and take a C string back.  The size of the string becomes an `int` on the
way.  An encoded text has no zero byte, but what it stands for can have one, and
`UrlDecode` does not look at the length that libcurl reports.
-/

namespace SpeechModules

namespace UriUtils

open PercentCode

/-! ## The calls of libcurl -/

/-- A `size_t` that is passed for a parameter of type `int`. -/
def intOfSize (size : Nat) : Int :=
  (size : Int).bmod (2 ^ 32)

/-- The bytes that a string and a length argument stand for.  For the length 0
libcurl takes the string to end at its first zero byte; a negative length is an
error. -/
def inputBytes (string : List UInt8) (length : Int) : Option (List UInt8) :=
  if length < 0 then none
  else if length = 0 then some (string.takeWhile (· ≠ 0))
  else some (string.take length.toNat)

/-- `curl_easy_escape`, which returns `NULL` or a C string. -/
def curlEasyEscape (code : PercentCode) (string : List UInt8) (length : Int) :
    Option (List UInt8) :=
  (inputBytes string length).map code.encode

/-- `std::string(output)` reads up to the first zero byte. -/
def stringOf (output : List UInt8) : List UInt8 :=
  output.takeWhile (· ≠ 0)

/-- `UrlEncode`.  There is no string of the null pointer. -/
def urlEncode (code : PercentCode) (src : List UInt8) : Option (List UInt8) :=
  (curlEasyEscape code src (intOfSize src.length)).map stringOf

/-- A size below 2 GiB is an `int` of the same value.  A multiple of 4 GiB becomes
0, and libcurl then determines the size itself. -/
def Passes (size : Nat) : Prop :=
  size < 2 ^ 31 ∨ size % 2 ^ 32 = 0

end UriUtils

end SpeechModules
