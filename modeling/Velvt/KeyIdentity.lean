import Velvt.DigestRekeying
import Velvt.PrefixCodes
import Velvt.Sha256

/-!
# A key names one fact

A key is a salted digest, and a digest is the hash of a frame: the domain of the fact, then its
strings, each with its length in front.  No domain begins another, so a frame is read back, and
two facts share a key only where the hash or the salted hash collides.
-/

namespace Velvt.Rekeying

open PrefixCodes
open Velvt.Rules (utf8Bytes utf8Bytes_injective lengthPrefixed encodeHex hmacSha256 saltedKey
  saltedKeyDomain keyDomain appKeyDomain appBundleKeyDomain siteKeyDomain windowDigest appDigest
  bundleDigest siteDigest)

/-- A string of the size that Rust allows: no allocation exceeds `isize::MAX` bytes. -/
@[ext]
structure SizedString where
  text : String
  within : (utf8Bytes text).length < 2 ^ 63

section KeyFunctions

variable (sha256 : List UInt8 → List UInt8) (salt : StableKeySalt)

def stableKeyFor (appName stableContext : String) : String :=
  saltedKey sha256 salt.bytes (windowDigest sha256 appName stableContext)

def appStableKeyFor (appName : String) : String :=
  saltedKey sha256 salt.bytes (appDigest sha256 appName)

def appBundleKeyFor (bundleId : String) : String :=
  saltedKey sha256 salt.bytes (bundleDigest sha256 bundleId)

def siteStableKeyFor (site : String) : String :=
  saltedKey sha256 salt.bytes (siteDigest sha256 site)

/-- What a key is made from: one of the four functions and its inputs. -/
inductive KeyedFact
  | window (appName stableContext : SizedString)
  | application (appName : SizedString)
  | bundle (bundleId : SizedString)
  | site (host : SizedString)

def KeyedFact.key : KeyedFact → String
  | .window appName stableContext => stableKeyFor sha256 salt appName.text stableContext.text
  | .application appName => appStableKeyFor sha256 salt appName.text
  | .bundle bundleId => appBundleKeyFor sha256 salt bundleId.text
  | .site host => siteStableKeyFor sha256 salt host.text

end KeyFunctions

/-- One domain for each kind of fact. -/
inductive KeyDomain
  | window
  | application
  | bundle
  | site

def KeyDomain.bytes : KeyDomain → List UInt8
  | .window => keyDomain
  | .application => appKeyDomain
  | .bundle => appBundleKeyDomain
  | .site => siteKeyDomain

theorem prefixCode_domains : PrefixCode KeyDomain.bytes := by
  intro first second begins
  cases first <;> cases second <;> first | rfl | exact absurd begins (by decide)

theorem toBeBytes_length (count : Nat) : (Rules.toBeBytes count).length = 8 := rfl

theorem eq_of_places {width first second : Nat} (firstWithin : first < 256 ^ width)
    (secondWithin : second < 256 ^ width)
    (same : ∀ place < width, first / 256 ^ place % 256 = second / 256 ^ place % 256) :
    first = second := by
  induction width generalizing first second with
  | zero =>
    rw [pow_zero] at firstWithin secondWithin
    omega
  | succ width ih =>
    have low := same 0 (by omega)
    rw [pow_zero, Nat.div_one, Nat.div_one] at low
    rw [pow_succ] at firstWithin secondWithin
    have high : first / 256 = second / 256 := by
      refine ih (by omega) (by omega) fun place within => ?_
      have next := same (place + 1) (by omega)
      rwa [pow_succ', ← Nat.div_div_eq_div_mul, ← Nat.div_div_eq_div_mul] at next
    omega

theorem toBeBytes_injective {first second : Nat} (firstWithin : first < 2 ^ 64)
    (secondWithin : second < 2 ^ 64) (same : Rules.toBeBytes first = Rules.toBeBytes second) :
    first = second := by
  apply @eq_of_places 8 _ _ firstWithin secondWithin
  intro place within
  have every : ∀ place < 8, place ∈ [7, 6, 5, 4, 3, 2, 1, 0] := by decide
  have bytes := List.map_inj_left.mp same place (every place within)
  simpa using congrArg UInt8.toNat bytes

def SizedString.framed (string : SizedString) : List UInt8 := lengthPrefixed (utf8Bytes string.text)

theorem prefixCode_framed : PrefixCode SizedString.framed := by
  have prefixed : PrefixCode fun text : { text : List UInt8 // text.length < 2 ^ 63 } =>
      lengthPrefixed text.1 := by
    apply PrefixCode.with_length toBeBytes_length
    intro first firstWithin second secondWithin
    exact toBeBytes_injective (firstWithin.trans (by decide)) (secondWithin.trans (by decide))
  intro first second begins
  have same := @prefixed ⟨utf8Bytes first.text, first.within⟩
    ⟨utf8Bytes second.text, second.within⟩ begins
  ext1
  exact utf8Bytes_injective (Subtype.mk.inj same)

theorem framed_ne_nil (string : SizedString) : string.framed ≠ [] := by
  intro empty
  have none := congrArg List.length empty
  rw [SizedString.framed, lengthPrefixed, List.length_append, toBeBytes_length] at none
  simp at none

namespace KeyedFact

def domain : KeyedFact → KeyDomain
  | .window _ _ => .window
  | .application _ => .application
  | .bundle _ => .bundle
  | .site _ => .site

def inputs : KeyedFact → List SizedString
  | .window appName stableContext => [appName, stableContext]
  | .application appName => [appName]
  | .bundle bundleId => [bundleId]
  | .site host => [host]

def frame (fact : KeyedFact) : List UInt8 :=
  fact.domain.bytes ++ fact.inputs.flatMap SizedString.framed

theorem eq_of_inputs {first second : KeyedFact} (domains : first.domain = second.domain)
    (inputs : first.inputs = second.inputs) : first = second := by
  cases first <;> cases second <;> simp_all [domain, KeyedFact.inputs]

theorem frame_injective : Function.Injective frame := by
  intro first second same
  obtain ⟨domains, inputs⟩ := prefixCode_domains.append_inj same
  exact eq_of_inputs domains (prefixCode_framed.flatMap_injective framed_ne_nil inputs)

variable (sha256 : List UInt8 → List UInt8) (salt : StableKeySalt)

def saltedMessage (fact : KeyedFact) : List UInt8 := saltedKeyDomain ++ sha256 fact.frame

theorem key_eq (fact : KeyedFact) : fact.key sha256 salt =
      encodeHex (hmacSha256 sha256 salt.bytes (fact.saltedMessage sha256)) := by
  cases fact <;>
    simp [KeyedFact.key, stableKeyFor, appStableKeyFor, appBundleKeyFor, siteStableKeyFor,
      saltedKey, windowDigest, appDigest, bundleDigest, siteDigest, saltedMessage, frame, domain,
      inputs, KeyDomain.bytes, SizedString.framed]

end KeyedFact

section Identity

/-- The hash does not collide on two messages.  It has digests of 32 bytes, so it does collide on
some; what is assumed is that these are not among them. -/
def NoCollision (hash : List UInt8 → List UInt8) (first second : List UInt8) : Prop :=
  hash first = hash second → first = second
  deriving Decidable

variable {sha256 : List UInt8 → List UInt8} {salt : StableKeySalt} {first second : KeyedFact}

theorem key_inj (hashed : NoCollision sha256 first.frame second.frame)
    (salted : NoCollision (hmacSha256 sha256 salt.bytes) (first.saltedMessage sha256)
      (second.saltedMessage sha256))
    (same : first.key sha256 salt = second.key sha256 salt) : first = second := by
  rw [KeyedFact.key_eq, KeyedFact.key_eq] at same
  have messages := salted (encodeHex_injective same)
  have digests : sha256 first.frame = sha256 second.frame := List.append_cancel_left messages
  exact KeyedFact.frame_injective (hashed digests)

/-- Two keys agree exactly where they come from the same function with the same inputs, and the
decoder of digests accepts what the encoder writes of 32 bytes, and nothing else. -/
theorem stable_keys_tell_facts_apart (sha256 : List UInt8 → List UInt8) (salt : StableKeySalt) :
    (∀ first second : KeyedFact, NoCollision sha256 first.frame second.frame →
      NoCollision (hmacSha256 sha256 salt.bytes) (first.saltedMessage sha256)
        (second.saltedMessage sha256) →
      (first.key sha256 salt = second.key sha256 salt ↔ first = second)) ∧
    ∀ encoded digest, decodeDigest encoded = some digest ↔
      digest.length = 32 ∧ encoded = encodeHex digest := by
  constructor
  · intro first second hashed salted
    constructor
    · exact key_inj hashed salted
    · intro same
      rw [same]
  · intro encoded digest
    rw [decodeDigest_eq_some, and_comm]

def repeatedSalt (byte : UInt8) : StableKeySalt := ⟨List.replicate 32 byte, rfl⟩

/-- With SHA-256, letters that move from the name of an application to the title of its window
change the key, and so does a bundle identifier that is another application's name. -/
theorem moved_letters_change_the_key :
    (KeyedFact.window ⟨"a", by decide⟩ ⟨"bc", by decide⟩).key Sha256.sha256 (repeatedSalt 0x5a) ≠
      (KeyedFact.window ⟨"ab", by decide⟩ ⟨"c", by decide⟩).key Sha256.sha256
        (repeatedSalt 0x5a) ∧
    (KeyedFact.application ⟨"a", by decide⟩).key Sha256.sha256 (repeatedSalt 0x5a) ≠
      (KeyedFact.bundle ⟨"a", by decide⟩).key Sha256.sha256 (repeatedSalt 0x5a) := by
  have apart := (stable_keys_tell_facts_apart Sha256.sha256 (repeatedSalt 0x5a)).1
  constructor
  · rw [Ne, apart _ _ (by decide +kernel) (by decide +kernel)]
    simp
  · rw [Ne, apart _ _ (by decide +kernel) (by decide +kernel)]
    simp

end Identity

end Velvt.Rekeying
