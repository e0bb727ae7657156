import Licensing.Bytes.Hex
import Licensing.Bytes.Base64
import Licensing.Hash.Sha256
import Licensing.Hash.Sha512
import Licensing.Hash.Blake2b
import Licensing.Hash.SipHash
import Licensing.Hash.Argon2
import Licensing.Cipher.Aead
import Licensing.Ed25519.Signature
import Licensing.Text.Utf8
import Licensing.Text.Blank
import Licensing.Text.Numeral
import Licensing.Text.Quoted
import Licensing.Time.Rfc3339
import Licensing.FrozenSet
import Licensing.License.Feature
import Licensing.License.Basic
import Licensing.License.Draft
import Licensing.License.Decoder
import Licensing.License.TextForm
import Licensing.License.FeatureSeal
import Licensing.License.BinaryForm
import Licensing.License.Validity
import Licensing.License.Restriction
import Licensing.Guard.Permission
import Licensing.Guard.Slot
import Licensing.Key.Der
import Licensing.Key.Basic
import Licensing.Key.Signing
import Licensing.Cipher.Password
import Licensing.Key.Loading
import Licensing.SignedLicense
import Licensing.Json.Token
import Licensing.Json.Value
import Licensing.Json.Quoted
import Licensing.Store.StoredLicense
import Licensing.Store.Directory
import Licensing.Store.Basic
import Licensing.Time.Duration
import Licensing.Config
import Licensing.Creator
import Licensing.Manager
import Licensing.Application
import Licensing.Proofs.Except
import Licensing.Proofs.Lists
import Licensing.Proofs.Bytes.Numbers
import Licensing.Proofs.Bytes.Text
import Licensing.Proofs.Bytes.Hex
import Licensing.Proofs.Bytes.Base64
import Licensing.Proofs.Json
import Licensing.Proofs.Time.Calendar
import Licensing.Proofs.Time.Rfc3339
import Licensing.Proofs.Time.Clock
import Licensing.Proofs.FrozenSet
import Licensing.Proofs.FrozenSet.Iteration
import Licensing.Proofs.FrozenSet.Recording
import Licensing.Proofs.FrozenSet.Interleaving
import Licensing.Proofs.FrozenSet.Asking
import Licensing.Proofs.FrozenSet.FailClosed
import Licensing.Proofs.FrozenSet.Trusted
import Licensing.Proofs.FrozenSet.Counting
import Licensing.Proofs.Context
import Licensing.Proofs.License.WellFormed
import Licensing.Proofs.License.Build
import Licensing.Proofs.License.Equality
import Licensing.Proofs.License.Hash
import Licensing.Proofs.License.FeatureDigest
import Licensing.Proofs.License.FeatureSeal
import Licensing.Proofs.License.BinaryForm
import Licensing.Proofs.License.BinaryBounds
import Licensing.Proofs.License.BinaryDelimited
import Licensing.Proofs.License.TextForm
import Licensing.Proofs.Text.Numeral
import Licensing.Proofs.License.TextGrammar
import Licensing.Proofs.License.TextSpelling
import Licensing.Proofs.Cipher.Password
import Licensing.Proofs.Edwards
import Licensing.Proofs.Ed25519.Prime
import Licensing.Proofs.Ed25519.Field
import Licensing.Proofs.Ed25519.Point
import Licensing.Proofs.Ed25519.Signature
import Licensing.Proofs.Key.Der
import Licensing.Proofs.Key.Basic
import Licensing.Proofs.Key.Loading
import Licensing.Proofs.SignedLicense
import Licensing.Proofs.SignedLicense.Stages
import Licensing.Proofs.License.Obtained
import Licensing.Proofs.License.Equivalence
import Licensing.Proofs.License.Coverage
import Licensing.Proofs.License.Access
import Licensing.Proofs.License.Restriction
import Licensing.Proofs.Store.Links
import Licensing.Proofs.Store.Directory
import Licensing.Proofs.Store.StoredLicense
import Licensing.Proofs.Store.Basic
import Licensing.Proofs.Store.Run
import Licensing.Proofs.Store.Failure
import Licensing.Proofs.Manager.Run
import Licensing.Proofs.Manager.Provenance
import Licensing.Proofs.Manager.Transparency
import Licensing.Proofs.Issue
import Licensing.Proofs.Manager.Freshness
import Licensing.Proofs.Manager.Restriction
import Licensing.Proofs.Guard.Slot
import Licensing.Proofs.Guard.Filling
import Licensing.Proofs.Guard.Composition
