import Mathlib.Data.Char
import Mathlib.Data.List.Infix
import Velvt.EgressChain
import Velvt.WorkBlockCopy

/-!
# The keys of a window

What the service keeps of a window's identity: the site a browser shows, and the salted
digests of the window, its application, its bundle identifier and its site.  `sha256` is the
hash of a list of bytes; every digest of this file is made from it.
-/

namespace Velvt.Rules

open List

def asciiLower (letters : List Char) : List Char := letters.map Char.toLower

def trimmedLetters (text : String) : List Char := (trimText text).toList

def splitOnce (separator : List Char) : List Char → Option (List Char × List Char)
  | [] => if separator.isEmpty then some ([], []) else none
  | letter :: letters =>
    if separator.isPrefixOf (letter :: letters) then
      some ([], (letter :: letters).drop separator.length)
    else
      (splitOnce separator letters).map fun (front, rest) => (letter :: front, rest)

def isHostLetter (letter : Char) : Bool :=
  letter.isAlphanum || letter == '.' || letter == '-' || letter == ':'

def focusedSiteContext (rawUrl : Option String) : Option String := do
  let url ← rawUrl
  let (_, remainder) ← splitOnce "://".toList (trimmedLetters url)
  let address := remainder.takeWhile fun letter =>
    letter != '/' && letter != '?' && letter != '#'
  let authority := (address.reverse.takeWhile (· != '@')).reverse
  let named ←
    match authority with
    | '[' :: address => (splitOnce [']'] address).map Prod.fst
    | _ => some (authority.takeWhile (· != ':'))
  let host := asciiLower (named.reverse.dropWhile (· == '.')).reverse
  if !host.isEmpty && host.length ≤ 253 && host.all isHostLetter then
    some (String.ofList host)
  else
    none

def privateNetworkNames : List String :=
  ["localhost", "local", "home.arpa", "internal", "lan", "localdomain"]

/-- A letter that `local_site_name.host` admits. -/
def isSiteLetter (letter : Char) : Bool :=
  letter.isLower || letter.isDigit || letter == '.' || letter == '-'

/-- Drops one leading `www.`. -/
def withoutWww (host : List Char) : List Char :=
  if "www.".toList.isPrefixOf host then host.drop 4 else host

/-- The site a name belongs to, or `none` for the name of a machine. -/
def siteIdentity (host : String) : Option String :=
  let site := withoutWww (asciiLower host.toList)
  let labels := site.splitOn '.'
  let wellFormed := !site.isEmpty && site.length ≤ 253 && site.all isSiteLetter &&
    labels.all fun label => !label.isEmpty
  let isPrivate := privateNetworkNames.any fun name =>
    site == name.toList || ('.' :: name.toList).isSuffixOf site
  let isAddress := (labels.getLastD []).all Char.isDigit
  if wellFormed && site.contains '.' && !isPrivate && !isAddress then
    some (String.ofList site)
  else
    none

def normalizeClassifierText (value : String) : List Char :=
  let spaced := (asciiLower (trimmedLetters value)).map fun letter =>
    if letter.isAlphanum || isWhiteSpace letter then letter else ' '
  [' '].intercalate ((spaced.splitOnP isWhiteSpace).filter fun word => !word.isEmpty)

def containsTokenPhrase (haystack : List Char) (phrase : String) : Bool :=
  let normalized := normalizeClassifierText phrase
  !normalized.isEmpty && decide ((' ' :: normalized ++ [' ']) <:+: (' ' :: haystack ++ [' ']))

def isBrowserApp (appName : String) : Bool :=
  let name := normalizeClassifierText appName
  ["safari", "google chrome", "chrome", "chromium", "arc", "firefox", "brave browser", "brave",
    "microsoft edge", "edge", "opera", "vivaldi", "orion", "dia"].any fun browser =>
    name == browser.toList || containsTokenPhrase name browser

section Keys

def utf8Bytes (text : String) : List UInt8 := text.toList.flatMap String.utf8EncodeChar

theorem utf8Bytes_eq (text : String) : utf8Bytes text = text.toByteArray.data.toList := by
  rw [utf8Bytes, ← String.utf8Encode_toList]
  simp [List.utf8Encode]

theorem utf8Bytes_injective : Function.Injective utf8Bytes := by
  intro first second same
  rw [utf8Bytes_eq, utf8Bytes_eq] at same
  exact String.toByteArray_inj.mp (ByteArray.ext (Array.toList_inj.mp same))

def keyDomain : List UInt8 := utf8Bytes "velvt:abstraction-key:v1"

def appKeyDomain : List UInt8 := utf8Bytes "velvt:abstraction-app-key:v1"

def appBundleKeyDomain : List UInt8 := utf8Bytes "velvt:abstraction-app-bundle-key:v1"

def siteKeyDomain : List UInt8 := utf8Bytes "velvt:abstraction-site-key:v1"

def saltedKeyDomain : List UInt8 := utf8Bytes "velvt:abstraction-salted-key:v1"

def toBeBytes (count : Nat) : List UInt8 :=
  [7, 6, 5, 4, 3, 2, 1, 0].map fun place => UInt8.ofNat (count / 256 ^ place)

def lengthPrefixed (value : List UInt8) : List UInt8 := toBeBytes value.length ++ value

def encodeHex (bytes : List UInt8) : String :=
  String.ofList (bytes.flatMap fun byte =>
    [Nat.digitChar (byte.toNat / 16), Nat.digitChar (byte.toNat % 16)])

/-- Accepts an application or site key only in the shape Velvt itself issues. -/
def normalizedAppStableId (value : String) : Option String :=
  if value.length = 64 ∧
      value.toList.all fun letter => letter.isDigit || ('a' ≤ letter && letter ≤ 'f') then
    some value
  else
    none

variable (sha256 : List UInt8 → List UInt8)

def hmacSha256 (key message : List UInt8) : List UInt8 :=
  let material := if 64 < key.length then sha256 key else key
  let blockKey := material ++ List.replicate (64 - material.length) 0
  sha256 (blockKey.map (· ^^^ 0x5c) ++ sha256 (blockKey.map (· ^^^ 0x36) ++ message))

/-- `StableKeySalt::key`: keys one digest to this install. -/
def saltedKey (salt digest : List UInt8) : String :=
  encodeHex (hmacSha256 sha256 salt (saltedKeyDomain ++ digest))

def windowDigest (appName stableContext : String) : List UInt8 :=
  sha256 (keyDomain ++ lengthPrefixed (utf8Bytes appName) ++
    lengthPrefixed (utf8Bytes stableContext))

def appDigest (appName : String) : List UInt8 :=
  sha256 (appKeyDomain ++ lengthPrefixed (utf8Bytes appName))

def bundleDigest (bundleId : String) : List UInt8 :=
  sha256 (appBundleKeyDomain ++ lengthPrefixed (utf8Bytes bundleId))

def siteDigest (site : String) : List UInt8 :=
  sha256 (siteKeyDomain ++ lengthPrefixed (utf8Bytes site))

theorem encodeHex_length (bytes : List UInt8) : (encodeHex bytes).length = 2 * bytes.length := by
  rw [encodeHex, String.length_ofList]
  induction bytes with
  | nil => rfl
  | cons byte bytes ih =>
    rw [flatMap_cons, length_append, ih]
    simp only [length_cons, length_nil]
    omega

theorem digitChar_lowerHex {value : Nat} (small : value < 16) :
    (Nat.digitChar value).isDigit = true ∨
      'a' ≤ Nat.digitChar value ∧ Nat.digitChar value ≤ 'f' := by
  decide +revert

theorem normalizedAppStableId_saltedKey
    (digestLength : ∀ message, (sha256 message).length = 32) (salt digest : List UInt8) :
    normalizedAppStableId (saltedKey sha256 salt digest) = some (saltedKey sha256 salt digest) := by
  rw [normalizedAppStableId, if_pos]
  constructor
  · rw [saltedKey, encodeHex_length, hmacSha256, digestLength]
  · rw [all_eq_true]
    intro letter member
    rw [saltedKey, encodeHex, String.toList_ofList] at member
    obtain ⟨byte, -, digit⟩ := mem_flatMap.mp member
    have small := byte.toNat_lt
    simp only [mem_cons, not_mem_nil, or_false] at digit
    simp only [Bool.or_eq_true, Bool.and_eq_true, decide_eq_true_eq]
    rcases digit with rfl | rfl
    · exact digitChar_lowerHex (by omega)
    · exact digitChar_lowerHex (by omega)

end Keys

end Velvt.Rules
