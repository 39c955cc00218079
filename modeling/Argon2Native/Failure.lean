import Argon2Native.Path
import Argon2Native.Status
/-!
Why a configuration is refused, and why hashing, verifying or finding the library fails.
-/
namespace Argon2Native.Config

inductive Fault where
  | belowOne
  | belowLeast (least given : Nat)
  | outsideRange (least most given : Nat)
  | overCeiling (ceiling : Nat)
  | noVariant (name : String)
  | noByteCount (text : String)
  | stated (reason : String)
  deriving DecidableEq

def Fault.message : Fault → String
  | .belowOne => "must be at least 1"
  | .belowLeast least given => "must be at least " ++ toString least ++ ", got " ++ toString given
  | .outsideRange least most given =>
    "must be between " ++ toString least ++ " and " ++ toString most ++ ", got " ++ toString given
  | .overCeiling ceiling => "exceeds limits.max_output_len (" ++ toString ceiling ++ ")"
  | .noVariant name => "must be 'argon2d', 'argon2i', or 'argon2id', got '" ++ name ++ "'"
  | .noByteCount text => "'" ++ text ++ "' is not a byte count"
  | .stated reason => reason

inductive Unreadable where
  | isDirectory
  | notDirectory
  | nameTooLong
  | zeroInName
  | notText
  deriving DecidableEq

def Unreadable.message : Unreadable → String
  | .isDirectory => "Is a directory (os error 21)"
  | .notDirectory => "Not a directory (os error 20)"
  | .nameTooLong => "File name too long (os error 36)"
  | .zeroInName => "file name contained an unexpected NUL byte"
  | .notText => "stream did not contain valid UTF-8"

inductive Failure where
  | missing (file : Path)
  | unreadable (why : Unreadable)
  | malformed (file : Path)
  | invalid (field : String) (fault : Fault)
  | noHome
  deriving DecidableEq

def Failure.message : Failure → String
  | .missing file => "Configuration file not found: " ++ file.display
  | .unreadable why => "Failed to read configuration file: " ++ why.message
  | .malformed file => "Invalid TOML syntax in " ++ file.display ++ ": "
  | .invalid field fault => "Invalid value for '" ++ field ++ "': " ++ fault.message
  | .noHome => "Home directory not found"

end Argon2Native.Config

namespace Argon2Native

inductive Fault where
  | belowOne
  | tooShort (least given : Nat)
  | tooLong (most given : Nat)
  | outsideRange (least most given : Nat)
  | noVariant (name : String)
  | otherVersion (found written : Option UInt32)
  | stated (reason : String)
  deriving DecidableEq

def describeVersion : Option UInt32 → String
  | some v => "version " ++ toString v.toNat
  | none => "no version"

def Fault.message : Fault → String
  | .belowOne => "must be at least 1"
  | .tooShort least given =>
    "must be at least " ++ toString least ++ " bytes, got " ++ toString given
  | .tooLong most given => "must be at most " ++ toString most ++ " bytes, got " ++ toString given
  | .outsideRange least most given =>
    "must be between " ++ toString least ++ " and " ++ toString most ++ ", got " ++ toString given
  | .noVariant name => "unknown variant '" ++ name ++ "'"
  | .otherVersion found written =>
    "encoded with " ++ describeVersion found ++ ", loaded library writes " ++
      describeVersion written
  | .stated reason => reason

inductive Misencoding where
  | notUnicode
  | stated (reason : String)
  deriving DecidableEq

def Misencoding.message : Misencoding → String
  | .notUnicode => "platform string is not valid Unicode"
  | .stated reason => reason

inductive Failure where
  | unsupportedPlatform (os : String)
  | libraryNotFound (library : String) (attempted : List Path)
  | symbolNotFound (library : Path) (symbol : String)
  | invalidEncoding (field : String) (why : Misencoding)
  | invalidParameter (field : String) (fault : Fault)
  | native (status : Status)
  | unknownNative (code : Int32)
  | config (failure : Config.Failure)
  deriving DecidableEq

inductive Failure.Kind where
  | resolution
  | input
  | native
  | unknown
  | config
  deriving DecidableEq

namespace Failure

def kind : Failure → Kind
  | .unsupportedPlatform _ | .libraryNotFound _ _ | .symbolNotFound _ _ => .resolution
  | .invalidEncoding _ _ | .invalidParameter _ _ => .input
  | .native _ => .native
  | .unknownNative _ => .unknown
  | .config _ => .config

def status? : Failure → Option Status
  | .native status => some status
  | .unknownNative code => some (.unknown code)
  | _ => none

def listPaths (paths : List Path) : String :=
  if paths = [] then "no candidate paths" else ", ".intercalate (paths.map Path.display)

def message : Failure → String
  | .unsupportedPlatform os => "Unsupported platform: " ++ os
  | .libraryNotFound library attempted =>
    "Library not found: " ++ library ++ " (tried: " ++ listPaths attempted ++ ")"
  | .symbolNotFound library symbol =>
    "Symbol '" ++ symbol ++ "' not found in library '" ++ library.display ++ "'"
  | .invalidEncoding field why => "Invalid encoding for " ++ field ++ ": " ++ why.message
  | .invalidParameter field fault => "Invalid parameter '" ++ field ++ "': " ++ fault.message
  | .native status => "Native hashing failed: " ++ status.display
  | .unknownNative code => "Native hashing failed with unknown code " ++ toString code.toInt
  | .config failure => failure.message

end Failure

def Status.check : Status → Except Failure Unit
  | .ok => .ok ()
  | .unknown code => .error (.unknownNative code)
  | status => .error (.native status)

end Argon2Native
