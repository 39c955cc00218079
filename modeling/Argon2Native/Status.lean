/-!
Statuses of the native hashing function: thirty-three documented ones in ordinal order, and any
other 32-bit value as itself.

Main statements: `code_ofCode` (a status keeps its number) and `ofCode_eq_ok_iff` (only zero is
success).
-/
namespace Argon2Native

inductive Status where
  | ok
  | outputPtrNull
  | outputTooShort
  | outputTooLong
  | pwdTooShort
  | pwdTooLong
  | saltTooShort
  | saltTooLong
  | adTooShort
  | adTooLong
  | secretTooShort
  | secretTooLong
  | timeTooSmall
  | timeTooLarge
  | memoryTooLittle
  | memoryTooMuch
  | lanesTooFew
  | lanesTooMany
  | pwdPtrMismatch
  | saltPtrMismatch
  | secretPtrMismatch
  | adPtrMismatch
  | memoryAllocationError
  | freeMemoryCbkNull
  | allocateMemoryCbkNull
  | incorrectParameter
  | incorrectType
  | outPtrMismatch
  | threadsTooFew
  | threadsTooMany
  | missingArgs
  | encodingFail
  | decodingFail
  | unknown (code : Int32)
  deriving DecidableEq

namespace Status

/-- Each documented status stands at its own number. -/
def known : List Status :=
  [.ok, .outputPtrNull, .outputTooShort, .outputTooLong, .pwdTooShort, .pwdTooLong,
   .saltTooShort, .saltTooLong, .adTooShort, .adTooLong, .secretTooShort, .secretTooLong,
   .timeTooSmall, .timeTooLarge, .memoryTooLittle, .memoryTooMuch, .lanesTooFew, .lanesTooMany,
   .pwdPtrMismatch, .saltPtrMismatch, .secretPtrMismatch, .adPtrMismatch,
   .memoryAllocationError, .freeMemoryCbkNull, .allocateMemoryCbkNull, .incorrectParameter,
   .incorrectType, .outPtrMismatch, .threadsTooFew, .threadsTooMany, .missingArgs,
   .encodingFail, .decodingFail]

def ofCode (code : Int32) : Status :=
  if code < 0 then .unknown code else (known[code.toInt.toNat]?).getD (.unknown code)

def code : Status → Int32
  | .unknown code => code
  | status => Int32.ofNat (known.idxOf status)

theorem code_known (i : Nat) (h : i < known.length) : known[i].code = Int32.ofNat i := by
  revert i
  decide

theorem ofCode_of_lt {code : Int32} (h : code < 0) : ofCode code = .unknown code := if_pos h

theorem ofCode_of_known {code : Int32} (h : ¬ code < 0) (hk : code.toInt.toNat < known.length) :
    ofCode code = known[code.toInt.toNat] := by
  rw [ofCode, if_neg h, List.getElem?_eq_getElem hk, Option.getD_some]

theorem ofCode_of_ge {code : Int32} (h : ¬ code < 0) (hk : known.length ≤ code.toInt.toNat) :
    ofCode code = .unknown code := by
  rw [ofCode, if_neg h, List.getElem?_eq_none hk, Option.getD_none]

theorem ofNat_toNat_toInt {n : Int32} (h : ¬ n < 0) : Int32.ofNat n.toInt.toNat = n := by
  have h₀ : 0 ≤ n.toInt := by simpa [Int32.lt_iff_toInt_lt] using h
  have : Int32.ofInt n.toInt.toNat = n := by rw [Int.toNat_of_nonneg h₀, Int32.ofInt_toInt]
  exact this

theorem code_ofCode (n : Int32) : (ofCode n).code = n := by
  by_cases h : n < 0
  · rw [ofCode_of_lt h]; rfl
  by_cases hk : n.toInt.toNat < known.length
  · rw [ofCode_of_known h hk, code_known, ofNat_toNat_toInt h]
  · rw [ofCode_of_ge h (by omega)]; rfl

theorem ofCode_eq_ok_iff {n : Int32} : ofCode n = .ok ↔ n = 0 := by
  constructor
  · intro h
    rw [← code_ofCode n, h]
    rfl
  · rintro rfl
    rfl

def isOk (status : Status) : Bool := status = .ok

def label : Status → String
  | .ok => "Ok"
  | .outputPtrNull => "OutputPtrNull"
  | .outputTooShort => "OutputTooShort"
  | .outputTooLong => "OutputTooLong"
  | .pwdTooShort => "PwdTooShort"
  | .pwdTooLong => "PwdTooLong"
  | .saltTooShort => "SaltTooShort"
  | .saltTooLong => "SaltTooLong"
  | .adTooShort => "AdTooShort"
  | .adTooLong => "AdTooLong"
  | .secretTooShort => "SecretTooShort"
  | .secretTooLong => "SecretTooLong"
  | .timeTooSmall => "TimeTooSmall"
  | .timeTooLarge => "TimeTooLarge"
  | .memoryTooLittle => "MemoryTooLittle"
  | .memoryTooMuch => "MemoryTooMuch"
  | .lanesTooFew => "LanesTooFew"
  | .lanesTooMany => "LanesTooMany"
  | .pwdPtrMismatch => "PwdPtrMismatch"
  | .saltPtrMismatch => "SaltPtrMismatch"
  | .secretPtrMismatch => "SecretPtrMismatch"
  | .adPtrMismatch => "AdPtrMismatch"
  | .memoryAllocationError => "MemoryAllocationError"
  | .freeMemoryCbkNull => "FreeMemoryCbkNull"
  | .allocateMemoryCbkNull => "AllocateMemoryCbkNull"
  | .incorrectParameter => "IncorrectParameter"
  | .incorrectType => "IncorrectType"
  | .outPtrMismatch => "OutPtrMismatch"
  | .threadsTooFew => "ThreadsTooFew"
  | .threadsTooMany => "ThreadsTooMany"
  | .missingArgs => "MissingArgs"
  | .encodingFail => "EncodingFail"
  | .decodingFail => "DecodingFail"
  | .unknown code => "Unknown(" ++ toString code.toInt ++ ")"

def constant : Status → String
  | .ok => "ARGON2_OK"
  | .outputPtrNull => "ARGON2_OUTPUT_PTR_NULL"
  | .outputTooShort => "ARGON2_OUTPUT_TOO_SHORT"
  | .outputTooLong => "ARGON2_OUTPUT_TOO_LONG"
  | .pwdTooShort => "ARGON2_PWD_TOO_SHORT"
  | .pwdTooLong => "ARGON2_PWD_TOO_LONG"
  | .saltTooShort => "ARGON2_SALT_TOO_SHORT"
  | .saltTooLong => "ARGON2_SALT_TOO_LONG"
  | .adTooShort => "ARGON2_AD_TOO_SHORT"
  | .adTooLong => "ARGON2_AD_TOO_LONG"
  | .secretTooShort => "ARGON2_SECRET_TOO_SHORT"
  | .secretTooLong => "ARGON2_SECRET_TOO_LONG"
  | .timeTooSmall => "ARGON2_TIME_TOO_SMALL"
  | .timeTooLarge => "ARGON2_TIME_TOO_LARGE"
  | .memoryTooLittle => "ARGON2_MEMORY_TOO_LITTLE"
  | .memoryTooMuch => "ARGON2_MEMORY_TOO_MUCH"
  | .lanesTooFew => "ARGON2_LANES_TOO_FEW"
  | .lanesTooMany => "ARGON2_LANES_TOO_MANY"
  | .pwdPtrMismatch => "ARGON2_PWD_PTR_MISMATCH"
  | .saltPtrMismatch => "ARGON2_SALT_PTR_MISMATCH"
  | .secretPtrMismatch => "ARGON2_SECRET_PTR_MISMATCH"
  | .adPtrMismatch => "ARGON2_AD_PTR_MISMATCH"
  | .memoryAllocationError => "ARGON2_MEMORY_ALLOCATION_ERROR"
  | .freeMemoryCbkNull => "ARGON2_FREE_MEMORY_CBK_NULL"
  | .allocateMemoryCbkNull => "ARGON2_ALLOCATE_MEMORY_CBK_NULL"
  | .incorrectParameter => "ARGON2_INCORRECT_PARAMETER"
  | .incorrectType => "ARGON2_INCORRECT_TYPE"
  | .outPtrMismatch => "ARGON2_OUT_PTR_MISMATCH"
  | .threadsTooFew => "ARGON2_THREADS_TOO_FEW"
  | .threadsTooMany => "ARGON2_THREADS_TOO_MANY"
  | .missingArgs => "ARGON2_MISSING_ARGS"
  | .encodingFail => "ARGON2_ENCODING_FAIL"
  | .decodingFail => "ARGON2_DECODING_FAIL"
  | .unknown _ => "ARGON2_UNKNOWN_ERROR"

def description : Status → String
  | .ok => "OK"
  | .outputPtrNull => "Output pointer is NULL"
  | .outputTooShort => "Output is too short"
  | .outputTooLong => "Output is too long"
  | .pwdTooShort => "Password is too short"
  | .pwdTooLong => "Password is too long"
  | .saltTooShort => "Salt is too short"
  | .saltTooLong => "Salt is too long"
  | .adTooShort => "Associated data is too short"
  | .adTooLong => "Associated data is too long"
  | .secretTooShort => "Secret is too short"
  | .secretTooLong => "Secret is too long"
  | .timeTooSmall => "Time cost is too small"
  | .timeTooLarge => "Time cost is too large"
  | .memoryTooLittle => "Memory cost is too small"
  | .memoryTooMuch => "Memory cost is too large"
  | .lanesTooFew => "Too few lanes"
  | .lanesTooMany => "Too many lanes"
  | .pwdPtrMismatch => "Password pointer is NULL, but password length is not 0"
  | .saltPtrMismatch => "Salt pointer is NULL, but salt length is not 0"
  | .secretPtrMismatch => "Secret pointer is NULL, but secret length is not 0"
  | .adPtrMismatch => "Associated data pointer is NULL, but ad length is not 0"
  | .memoryAllocationError => "Memory allocation error"
  | .freeMemoryCbkNull => "The free memory callback is NULL"
  | .allocateMemoryCbkNull => "The allocate memory callback is NULL"
  | .incorrectParameter => "Argon2_Context context is NULL"
  | .incorrectType => "There is no such version of Argon2"
  | .outPtrMismatch => "Output pointer mismatch"
  | .threadsTooFew => "Not enough threads"
  | .threadsTooMany => "Too many threads"
  | .missingArgs => "Missing arguments"
  | .encodingFail => "Encoding failed"
  | .decodingFail => "Decoding failed"
  | .unknown _ => "Unknown error code"

def display (status : Status) : String := status.constant ++ " (" ++ status.description ++ ")"

end Status
end Argon2Native
