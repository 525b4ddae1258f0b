import Mathlib.Algebra.Ring.Int.Defs
import Mathlib.Algebra.Ring.Nat
import Mathlib.Data.List.Basic

/-!
This module contains JSON values and the shape that derived serializers give to records and to
externally tagged enums. Every serializer comes with a proof that reading inverts writing.
-/

inductive JsonValue where
  | null
  | bool (b : Bool)
  | number (n : Int)
  | float (bits : BitVec 64)
  | string (s : String)
  | array (items : List JsonValue)
  | object (fields : List (String × JsonValue))

-- The text between braces
def String.braced (self : String) : String :=
  "\x7b" ++ (self ++ "\x7d")

class Serde (α : Type) where
  toValue : α → Except String JsonValue
  fromValue : JsonValue → Except String α
  fromValue_toValue : ∀ {a : α} {j : JsonValue}, toValue a = .ok j → fromValue j = .ok a

class Codec (α : Type) where
  enc : α → JsonValue
  dec : JsonValue → Except String α
  dec_enc : ∀ a : α, dec (enc a) = .ok a

-- A type that is printed as a text and parsed back from it.
class TextFormat (α : Type) where
  print : α → String
  parse : String → Option α
  parse_print : ∀ a : α, parse (print a) = some a

attribute [simp] Codec.dec_enc TextFormat.parse_print

instance {α : Type} [Codec α] : Serde α where
  toValue a := .ok (Codec.enc a)
  fromValue := Codec.dec
  fromValue_toValue := by
    intro a j h
    cases h
    simp

namespace Codec

variable {α : Type}

@[reducible]
def ofText [TextFormat α] (expected : String) : Codec α where
  enc a := .string (TextFormat.print a)
  dec
    | .string s =>
      match TextFormat.parse s with
      | some a => .ok a
      | none => .error s!"invalid value, expected {expected}"
    | _ => .error s!"invalid type, expected {expected}"
  dec_enc := by simp

@[reducible]
def transparent {β : Type} [Codec β] (out : α → β) (mk : β → α) (h : ∀ a, mk (out a) = a)
    : Codec α where
  enc a := enc (out a)
  dec j := mk <$> dec j
  dec_enc a := by
    rw [dec_enc]
    apply congrArg Except.ok (h a)

instance : Codec String where
  enc := .string
  dec
    | .string s => .ok s
    | _ => .error "invalid type, expected a string"
  dec_enc _ := rfl

instance : Codec Bool where
  enc := .bool
  dec
    | .bool b => .ok b
    | _ => .error "invalid type, expected a boolean"
  dec_enc _ := rfl

instance : Codec Int64 where
  enc i := .number i.toInt
  dec
    | .number n =>
      if -(2 ^ 63) ≤ n ∧ n < 2 ^ 63 then
        .ok (Int64.ofInt n)
      else
        .error "invalid value, expected i64"
    | _ => .error "invalid type, expected i64"
  dec_enc i := by
    dsimp only
    rw [if_pos ⟨i.le_toInt, i.toInt_lt⟩, Int64.ofInt_toInt]

instance : Codec UInt64 where
  enc n := .number n.toNat
  dec
    | .number n =>
      if 0 ≤ n ∧ n < 2 ^ 64 then
        .ok (UInt64.ofNat n.toNat)
      else
        .error "invalid value, expected u64"
    | _ => .error "invalid type, expected u64"
  dec_enc n := by
    have h : (n.toNat : Int) < 2 ^ 64 := by exact_mod_cast n.toNat_lt
    dsimp only
    rw [if_pos ⟨by omega, h⟩]
    simp

instance : Codec UInt32 where
  enc n := .number n.toNat
  dec
    | .number n =>
      if 0 ≤ n ∧ n < 2 ^ 32 then
        .ok (UInt32.ofNat n.toNat)
      else
        .error "invalid value, expected u32"
    | _ => .error "invalid type, expected u32"
  dec_enc n := by
    have h : (n.toNat : Int) < 2 ^ 32 := by exact_mod_cast n.toNat_lt
    dsimp only
    rw [if_pos ⟨by omega, h⟩]
    simp

-- `None` is written as `null`.
instance : Codec (Option String) where
  enc
    | none => .null
    | some s => .string s
  dec
    | .null => .ok none
    | .string s => .ok (some s)
    | _ => .error "invalid type, expected an optional string"
  dec_enc o := by cases o <;> rfl

theorem mapM_dec_enc [Codec α] (xs : List α)
    : (xs.map enc).mapM dec = (.ok xs : Except String (List α)) := by
  induction xs with
  | nil => rfl
  | cons x xs ih =>
    rw [List.map_cons, List.mapM_cons, dec_enc, ih]
    rfl

instance [Codec α] : Codec (List α) where
  enc xs := .array (xs.map enc)
  dec
    | .array items => items.mapM dec
    | _ => .error "invalid type, expected a sequence"
  dec_enc xs := mapM_dec_enc xs

@[simp]
theorem ok_bind {β : Type} (a : α) (f : α → Except String β) : (Except.ok a >>= f) = f a := by
  -- not by `rfl`: the simplifier would leave the comparison of field names to the kernel
  cases h : f a <;> simpa [bind, Except.bind] using h

@[simp]
theorem lookup_cons_ne {name name' : String} {a : α} {l : List (String × α)} (h : name ≠ name')
    : List.lookup name ((name', a) :: l) = List.lookup name l := by
  have : (name == name') = false := by simpa using h
  rw [List.lookup_cons, this]

-- The fields of a record; a sequence of the right length is read by position.
def record (names : List String) (j : JsonValue) : Except String (List (String × JsonValue)) :=
  match j with
  | .object fields => .ok fields
  | .array items =>
    if items.length = names.length then
      .ok (names.zip items)
    else
      .error "invalid length"
  | _ => .error "invalid type, expected a record"

-- Unknown fields are ignored.
def field [Codec α] (fields : List (String × JsonValue)) (name : String) : Except String α :=
  match fields.lookup name with
  | some value => dec value
  | none => .error s!"missing field {name}"

-- A missing optional field reads as `None`.
def optField (fields : List (String × JsonValue)) (name : String) : Except String (Option String) :=
  match fields.lookup name with
  | some value => dec value
  | none => .ok none

-- An externally tagged enum whose variants carry data.
def variant (cases : List (String × (JsonValue → Except String α))) (j : JsonValue)
    : Except String α :=
  match j with
  | .object [(tag, body)] =>
    match cases.lookup tag with
    | some read => read body
    | none => .error s!"unknown variant {tag}"
  | _ => .error "invalid type, expected an externally tagged enum"

theorem variant_eq_ok {cases : List (String × (JsonValue → Except String α))}
    {j : JsonValue} {a : α}
    (h : variant cases j = .ok a)
    : ∃ tag body, j = .object [(tag, body)] ∧ tag ∈ cases.map Prod.fst := by
  unfold variant at h
  split at h
  . next tag body =>
    split at h
    . next read hread =>
      refine ⟨tag, body, rfl, ?_⟩
      rw [List.lookup_eq_some_iff] at hread
      rcases hread with ⟨before, after, hcases, -⟩
      simp [hcases]
    . cases h
  . cases h

-- The content of a variant without fields in an internally tagged enum; fields are ignored.
def unit (content : JsonValue) : Except String Unit :=
  match content with
  | .object _ => .ok ()
  | .array [] => .ok ()
  | _ => .error "invalid type, expected a unit variant"

-- An internally tagged enum; a sequence starts with the tag.
def tagged (tag : String) (cases : List (String × (JsonValue → Except String α))) (j : JsonValue)
    : Except String α :=
  match j with
  | .object fields =>
    match fields.lookup tag with
    | some (.string name) => go name (.object (fields.filter (fun field => field.1 != tag)))
    | some _ => .error "invalid type, expected a variant identifier"
    | none => .error s!"missing field {tag}"
  | .array (.string name :: items) => go name (.array items)
  | _ => .error "invalid type, expected an internally tagged enum"
where
  go (name : String) (content : JsonValue) : Except String α :=
    match cases.lookup name with
    | some read => read content
    | none => .error s!"unknown variant {name}"

def unitVariant (cases : List (String × α)) (j : JsonValue) : Except String α :=
  match j with
  | .string tag =>
    match cases.lookup tag with
    | some a => .ok a
    | none => .error s!"unknown variant {tag}"
  | _ => .error "invalid type, expected an enum"

end Codec
