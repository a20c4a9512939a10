import Velvt.Sha256

/-!
# Redacted bodies

The ledger records a hash of every body that is sent.  A body with a password or a token in it is
hashed with the secret replaced; any other body as the bytes that were sent.  `sha256Hex` stands
for the digest of bytes, in hex, and `toVec` for the serializer of JSON values.
-/

namespace Velvt

open List

/-- A JSON value.  A number is kept as it is written, an object in the order of its map. -/
inductive JsonValue
  | null
  | bool (value : Bool)
  | number (digits : String)
  | string (text : String)
  | array (items : List JsonValue)
  | object (fields : List (String × JsonValue))

def redactedText : String := "[redacted]"

def secretFields : List String := ["password", "refresh_token", "access_token"]

def isSecret (key : String) : Bool := secretFields.contains key

mutual

/-- `walk`: the value with every secret replaced, and whether there was one. -/
def walk : JsonValue → Bool × JsonValue
  | .object fields => ((walkFields fields).1, .object (walkFields fields).2)
  | .array items => ((walkItems items).1, .array (walkItems items).2)
  | .null => (false, .null)
  | .bool value => (false, .bool value)
  | .number digits => (false, .number digits)
  | .string text => (false, .string text)

def walkFields : List (String × JsonValue) → Bool × List (String × JsonValue)
  | [] => (false, [])
  | (key, child) :: fields =>
    if isSecret key then
      (true, (key, .string redactedText) :: (walkFields fields).2)
    else
      ((walk child).1 || (walkFields fields).1, (key, (walk child).2) :: (walkFields fields).2)

def walkItems : List JsonValue → Bool × List JsonValue
  | [] => (false, [])
  | item :: items => ((walk item).1 || (walkItems items).1, (walk item).2 :: (walkItems items).2)

end

def redactSecrets (value : JsonValue) : Option JsonValue :=
  if (walk value).1 then some (walk value).2 else none

def EgressRecord.new (sha256Hex : List UInt8 → String) (toVec : JsonValue → List UInt8)
    (method url : String) (body : List UInt8) (json : Option JsonValue) (bearer : Bool) :
    EgressRecord :=
  let redacted := json.bind redactSecrets
  { method := method
    endpoint := ledgerEndpoint url
    bodyBytes := body.length
    bodySha256 :=
      match redacted with
      | some redacted => sha256Hex (toVec redacted)
      | none => sha256Hex body
    bodyRedacted := redacted.isSome
    bearer := bearer }

mutual

def JsonValue.withoutSecrets : JsonValue → JsonValue
  | .object fields => .object (fieldsWithoutSecrets fields)
  | .array items => .array (itemsWithoutSecrets items)
  | .null => .null
  | .bool value => .bool value
  | .number digits => .number digits
  | .string text => .string text

def fieldsWithoutSecrets : List (String × JsonValue) → List (String × JsonValue)
  | [] => []
  | (key, child) :: fields =>
    (key, if isSecret key then .null else child.withoutSecrets) :: fieldsWithoutSecrets fields

def itemsWithoutSecrets : List JsonValue → List JsonValue
  | [] => []
  | item :: items => item.withoutSecrets :: itemsWithoutSecrets items

end

/-- A field of the value, at any depth. -/
inductive JsonValue.Holds (field : String × JsonValue) : JsonValue → Prop
  | here {fields : List (String × JsonValue)} (member : field ∈ fields) :
      JsonValue.Holds field (.object fields)
  | inField {fields : List (String × JsonValue)} {key : String} {child : JsonValue}
      (member : (key, child) ∈ fields) (deeper : child.Holds field) :
      JsonValue.Holds field (.object fields)
  | inItem {items : List JsonValue} {item : JsonValue} (member : item ∈ items)
      (deeper : item.Holds field) : JsonValue.Holds field (.array items)

/-- The value has a secret key, at some depth. -/
def JsonValue.HasSecret (value : JsonValue) : Prop :=
  ∃ key child, value.Holds (key, child) ∧ isSecret key = true

mutual

theorem walk_withoutSecrets : (value : JsonValue) → walk value.withoutSecrets = walk value
  | .object fields => by
    simp only [JsonValue.withoutSecrets, walk, walkFields_withoutSecrets fields]
  | .array items => by
    simp only [JsonValue.withoutSecrets, walk, walkItems_withoutSecrets items]
  | .null | .bool _ | .number _ | .string _ => rfl

theorem walkFields_withoutSecrets : (fields : List (String × JsonValue)) →
    walkFields (fieldsWithoutSecrets fields) = walkFields fields
  | [] => rfl
  | (key, child) :: fields => by
    have rest := walkFields_withoutSecrets fields
    by_cases secret : isSecret key = true
    · simp only [fieldsWithoutSecrets, walkFields, secret, if_true, rest]
    · have first := walk_withoutSecrets child
      simp only [fieldsWithoutSecrets, walkFields, secret, if_false, first, rest,
        Bool.false_eq_true]

theorem walkItems_withoutSecrets : (items : List JsonValue) →
    walkItems (itemsWithoutSecrets items) = walkItems items
  | [] => rfl
  | item :: items => by
    simp only [itemsWithoutSecrets, walkItems, walk_withoutSecrets item,
      walkItems_withoutSecrets items]

end

mutual

theorem withoutSecrets_walk : (value : JsonValue) →
    (walk value).2.withoutSecrets = value.withoutSecrets
  | .object fields => by
    simp only [walk, JsonValue.withoutSecrets, withoutSecrets_walkFields fields]
  | .array items => by
    simp only [walk, JsonValue.withoutSecrets, withoutSecrets_walkItems items]
  | .null | .bool _ | .number _ | .string _ => rfl

theorem withoutSecrets_walkFields : (fields : List (String × JsonValue)) →
    fieldsWithoutSecrets (walkFields fields).2 = fieldsWithoutSecrets fields
  | [] => rfl
  | (key, child) :: fields => by
    have rest := withoutSecrets_walkFields fields
    by_cases secret : isSecret key = true
    · simp only [walkFields, secret, if_true, fieldsWithoutSecrets, rest]
    · have first := withoutSecrets_walk child
      simp only [walkFields, secret, if_false, fieldsWithoutSecrets, first, rest,
        Bool.false_eq_true]

theorem withoutSecrets_walkItems : (items : List JsonValue) →
    itemsWithoutSecrets (walkItems items).2 = itemsWithoutSecrets items
  | [] => rfl
  | item :: items => by
    simp only [walkItems, itemsWithoutSecrets, withoutSecrets_walk item,
      withoutSecrets_walkItems items]

end

section Secrets

variable {fields : List (String × JsonValue)} {items : List JsonValue}

theorem JsonValue.HasSecret.cons_field {field : String × JsonValue}
    (later : (JsonValue.object fields).HasSecret) : (JsonValue.object (field :: fields)).HasSecret := by
  obtain ⟨key, child, holds, secret⟩ := later
  refine ⟨key, child, ?_, secret⟩
  cases holds with
  | here member => exact .here (mem_cons_of_mem _ member)
  | inField member deeper => exact .inField (mem_cons_of_mem _ member) deeper

theorem JsonValue.HasSecret.cons_item {item : JsonValue}
    (later : (JsonValue.array items).HasSecret) : (JsonValue.array (item :: items)).HasSecret := by
  obtain ⟨key, child, holds, secret⟩ := later
  refine ⟨key, child, ?_, secret⟩
  cases holds with
  | inItem member deeper => exact .inItem (mem_cons_of_mem _ member) deeper

mutual

theorem hasSecret_of_walk : (value : JsonValue) → (walk value).1 = true → value.HasSecret
  | .object fields, found => hasSecret_of_walkFields fields found
  | .array items, found => hasSecret_of_walkItems items found

theorem hasSecret_of_walkFields : (fields : List (String × JsonValue)) →
    (walkFields fields).1 = true → (JsonValue.object fields).HasSecret
  | (key, child) :: fields, found => by
    by_cases secret : isSecret key = true
    · exact ⟨key, child, .here mem_cons_self, secret⟩
    · simp only [walkFields, secret, Bool.false_eq_true, if_false, Bool.or_eq_true] at found
      rcases found with inChild | later
      · obtain ⟨inner, value, holds, isInner⟩ := hasSecret_of_walk child inChild
        exact ⟨inner, value, .inField mem_cons_self holds, isInner⟩
      · exact (hasSecret_of_walkFields fields later).cons_field

theorem hasSecret_of_walkItems : (items : List JsonValue) →
    (walkItems items).1 = true → (JsonValue.array items).HasSecret
  | item :: items, found => by
    simp only [walkItems, Bool.or_eq_true] at found
    rcases found with inItem | later
    · obtain ⟨inner, value, holds, isInner⟩ := hasSecret_of_walk item inItem
      exact ⟨inner, value, .inItem mem_cons_self holds, isInner⟩
    · exact (hasSecret_of_walkItems items later).cons_item

end

theorem walkFields_found : (walkFields fields).1 = true ↔
    ∃ key child, (key, child) ∈ fields ∧ (isSecret key = true ∨ (walk child).1 = true) := by
  induction fields with
  | nil => simp [walkFields]
  | cons field fields ih =>
    obtain ⟨key, child⟩ := field
    by_cases secret : isSecret key = true
    · simp only [walkFields, secret, if_true, true_iff]
      exact ⟨key, child, mem_cons_self, Or.inl secret⟩
    · simp only [walkFields, secret, Bool.false_eq_true, if_false, Bool.or_eq_true, ih]
      constructor
      · rintro (inChild | ⟨other, value, member, found⟩)
        · exact ⟨key, child, mem_cons_self, Or.inr inChild⟩
        · exact ⟨other, value, mem_cons_of_mem _ member, found⟩
      · rintro ⟨other, value, member, found⟩
        rcases mem_cons.mp member with same | later
        · cases same
          exact Or.inl (found.resolve_left secret)
        · exact Or.inr ⟨other, value, later, found⟩

theorem walkItems_found : (walkItems items).1 = true ↔ ∃ item ∈ items, (walk item).1 = true := by
  induction items with
  | nil => simp [walkItems]
  | cons item items ih => simp [walkItems, ih]

theorem walk_of_hasSecret {value : JsonValue} (hasSecret : value.HasSecret) :
    (walk value).1 = true := by
  obtain ⟨key, child, holds, secret⟩ := hasSecret
  induction holds with
  | here member => exact walkFields_found.mpr ⟨key, child, member, Or.inl secret⟩
  | inField member deeper ih => exact walkFields_found.mpr ⟨_, _, member, Or.inr ih⟩
  | inItem member deeper ih => exact walkItems_found.mpr ⟨_, member, ih⟩

theorem walk_found (value : JsonValue) : (walk value).1 = true ↔ value.HasSecret :=
  ⟨hasSecret_of_walk value, walk_of_hasSecret⟩

theorem mem_walkFields {key : String} {child : JsonValue}
    (member : (key, child) ∈ (walkFields fields).2) :
    (isSecret key = true ∧ child = .string redactedText) ∨
      (isSecret key = false ∧ ∃ before, (key, before) ∈ fields ∧ child = (walk before).2) := by
  induction fields with
  | nil => cases member
  | cons field fields ih =>
    obtain ⟨other, before⟩ := field
    have lift (later : (key, child) ∈ (walkFields fields).2) :
        (isSecret key = true ∧ child = .string redactedText) ∨
          (isSecret key = false ∧ ∃ value, (key, value) ∈ (other, before) :: fields ∧
            child = (walk value).2) := by
      rcases ih later with isRedacted | ⟨plain, value, found, same⟩
      · exact Or.inl isRedacted
      · exact Or.inr ⟨plain, value, mem_cons_of_mem _ found, same⟩
    by_cases secret : isSecret other = true
    · simp only [walkFields, secret, if_true, mem_cons, Prod.mk.injEq] at member
      rcases member with ⟨rfl, rfl⟩ | later
      · exact Or.inl ⟨secret, rfl⟩
      · exact lift later
    · simp only [walkFields, secret, Bool.false_eq_true, if_false, mem_cons,
        Prod.mk.injEq] at member
      rcases member with ⟨rfl, rfl⟩ | later
      · exact Or.inr ⟨by simpa using secret, before, mem_cons_self, rfl⟩
      · exact lift later

theorem mem_walkItems {item : JsonValue} (member : item ∈ (walkItems items).2) :
    ∃ before ∈ items, item = (walk before).2 := by
  induction items with
  | nil => cases member
  | cons first items ih =>
    simp only [walkItems, mem_cons] at member
    rcases member with rfl | later
    · exact ⟨first, mem_cons_self, rfl⟩
    · obtain ⟨before, found, same⟩ := ih later
      exact ⟨before, mem_cons_of_mem _ found, same⟩

theorem holds_walk {redacted : JsonValue} {key : String} {child : JsonValue}
    (holds : redacted.Holds (key, child)) (secret : isSecret key = true) {value : JsonValue}
    (isWalk : redacted = (walk value).2) : child = .string redactedText := by
  induction holds generalizing value with
  | here member =>
    cases value with
    | object fields =>
      cases isWalk
      rcases mem_walkFields member with ⟨-, same⟩ | ⟨plain, -⟩
      · exact same
      · rw [secret] at plain
        cases plain
    | _ => cases isWalk
  | inField member deeper ih =>
    cases value with
    | object fields =>
      cases isWalk
      rcases mem_walkFields member with ⟨-, rfl⟩ | ⟨-, before, -, same⟩
      · cases deeper
      · exact ih same
    | _ => cases isWalk
  | inItem member deeper ih =>
    cases value with
    | array items =>
      cases isWalk
      obtain ⟨before, -, same⟩ := mem_walkItems member
      exact ih same
    | _ => cases isWalk

end Secrets

section Records

variable (sha256Hex : List UInt8 → String) (toVec : JsonValue → List UInt8)

theorem redactSecrets_congr {first second : JsonValue}
    (same : first.withoutSecrets = second.withoutSecrets) :
    redactSecrets first = redactSecrets second := by
  have walks : walk first = walk second := by
    rw [← walk_withoutSecrets first, same, walk_withoutSecrets second]
  simp only [redactSecrets, walks]

theorem redactSecrets_eq_none {value : JsonValue} (plain : ¬ value.HasSecret) :
    redactSecrets value = none := by
  rw [redactSecrets, if_neg (plain ∘ (walk_found value).mp)]

theorem redactSecrets_eq_some {value : JsonValue} (hasSecret : value.HasSecret) :
    redactSecrets value = some (walk value).2 := by
  rw [redactSecrets, if_pos (walk_of_hasSecret hasSecret)]

/-- The recorded hash of a body with a secret is the same for all its secrets; any other body is
recorded by the hash of its bytes; and redaction leaves every other key and value where it is. -/
theorem recorded_hash_hides_secrets :
    (∀ first second : JsonValue, first.withoutSecrets = second.withoutSecrets →
      first.HasSecret → second.HasSecret →
      ∀ (method url method' url' : String) (body body' : List UInt8) (bearer bearer' : Bool),
        let record := EgressRecord.new sha256Hex toVec method url body (some first) bearer
        let other := EgressRecord.new sha256Hex toVec method' url' body' (some second) bearer'
        record.bodySha256 = other.bodySha256 ∧ record.bodyRedacted = true ∧
          other.bodyRedacted = true) ∧
    (∀ value : JsonValue, ¬ value.HasSecret →
      ∀ (method url : String) (body : List UInt8) (bearer : Bool),
        let record := EgressRecord.new sha256Hex toVec method url body (some value) bearer
        record.bodySha256 = sha256Hex body ∧ record.bodyRedacted = false) ∧
    (∀ value redacted : JsonValue, redactSecrets value = some redacted →
      redacted.withoutSecrets = value.withoutSecrets ∧
      ∀ key child, redacted.Holds (key, child) → isSecret key = true →
        child = .string redactedText) := by
  refine ⟨?_, ?_, ?_⟩
  · intro first second same firstHas secondHas method url method' url' body body' bearer bearer'
    have redacts := redactSecrets_eq_some firstHas
    have redactsToo : redactSecrets second = some (walk first).2 := by
      rw [← redactSecrets_congr same, redacts]
    simp only [EgressRecord.new, Option.bind_some, redacts, redactsToo, Option.isSome_some,
      and_self]
  · intro value plain method url body bearer
    simp only [EgressRecord.new, Option.bind_some, redactSecrets_eq_none plain,
      Option.isSome_none, and_self]
  · intro value redacted redacts
    rw [redactSecrets] at redacts
    split at redacts
    · cases redacts
      refine ⟨withoutSecrets_walk value, ?_⟩
      intro key child holds secret
      exact holds_walk holds secret rfl
    · cases redacts

end Records

def loginBody (password : String) : JsonValue :=
  .object [("email", .string "me@mail.com"), ("password", .string password)]

/-- `serde_json::to_vec` on the bodies of logins. -/
def loginBytes : JsonValue → List UInt8
  | .object [(_, .string email), (_, .string password)] => Rules.utf8Bytes
    ("\x7b\"email\":\"" ++ email ++ "\",\"password\":\"" ++ password ++ "\"\x7d")
  | _ => []

/-- What is recorded of a login with this password. -/
def loginRecord (password : String) : EgressRecord :=
  .new (fun bytes => Rules.encodeHex (Sha256.sha256 bytes)) loginBytes "POST" "/v1/auth/login"
    (loginBytes (loginBody password)) (some (loginBody password)) false

/-- Two logins that differ in the password alone are recorded alike. -/
theorem password_leaves_no_trace :
    (loginRecord "swordfish").bodySha256 = (loginRecord "open sesame").bodySha256 ∧
      (loginRecord "swordfish").bodyRedacted = true ∧
      (loginRecord "open sesame").bodyRedacted = true := by
  have hasSecret (password : String) : (loginBody password).HasSecret :=
    ⟨"password", .string password, .here (by simp), by decide⟩
  have same : (loginBody "swordfish").withoutSecrets =
      (loginBody "open sesame").withoutSecrets := by
    simp [loginBody, JsonValue.withoutSecrets, fieldsWithoutSecrets, isSecret, secretFields]
  exact (recorded_hash_hides_secrets _ _).1 _ _ same (hasSecret _) (hasSecret _) _ _ _ _ _ _ _ _

end Velvt
