import Argon2Native.Config.Loader
import Argon2Native.Parameters.Json
import Argon2Native.Hasher.Bound
import Argon2Native.Native.StandIn
import Argon2Native.Version
import Argon2Native.Proofs.Base64
import Argon2Native.Proofs.EncodedHash
import Argon2Native.Proofs.Hashing
import Argon2Native.Proofs.Verification
import Argon2Native.Proofs.EncodedText
import Argon2Native.Proofs.Utf8
import Argon2Native.Proofs.Build
import Argon2Native.Proofs.RoundTrip
import Argon2Native.Proofs.Room
import Argon2Native.Proofs.Session
import Argon2Native.Proofs.Validation
import Argon2Native.Proofs.Merging
import Argon2Native.Proofs.Layering
import Argon2Native.Proofs.Configured
import Argon2Native.Proofs.Loaded
import Argon2Native.Proofs.FilledOnce
import Argon2Native.Proofs.Concealment
import Argon2Native.Proofs.Buffers
import Argon2Native.Proofs.Overrides
import Argon2Native.Proofs.Agreement
import Argon2Native.Proofs.Remembered
import Argon2Native.Proofs.Anchored
import Argon2Native.Proofs.Ancestors
import Argon2Native.Proofs.Nearest
import Argon2Native.Proofs.LayeredValidity
import Argon2Native.Proofs.Reconfigured
import Argon2Native.Proofs.Resolution
import Argon2Native.Proofs.Forms
import Argon2Native.Proofs.WordSize
import Argon2Native.Proofs.ByteCount
import Argon2Native.Proofs.Lowercase
import Argon2Native.Proofs.VariantNames
import Argon2Native.Proofs.Statuses
import Argon2Native.Proofs.DistinctKeys
import Argon2Native.Proofs.Schema
import Argon2Native.Proofs.JsonText
import Argon2Native.Proofs.JsonFields
