import ForgeErp.Library.Json

/-!
This module contains the compact text of JSON values. Only what has to be escaped in a string is.
-/

-- The shortest decimal that reads back as the same double.
class FloatJson where
  print : BitVec 64 → String

namespace JsonValue

-- The letter behind the backslash, for the characters that have one.
def escapeLetter (c : Char) : Option String :=
  match c.toNat with
  | 0x08 => some "b"
  | 0x09 => some "t"
  | 0x0a => some "n"
  | 0x0c => some "f"
  | 0x0d => some "r"
  | 0x22 => some "\""
  | 0x5c => some "\\"
  | _ => none

def escape (c : Char) : String :=
  match escapeLetter c with
  | some letter => "\\" ++ letter
  | none =>
    if c.toNat < 0x20 then
      "\\u00" ++ (String.singleton (c.toNat / 16).digitChar
        ++ String.singleton (c.toNat % 16).digitChar)
    else
      String.singleton c

def quote (s : String) : String :=
  "\"" ++ (s.toList.foldr (fun c rest => escape c ++ rest) "" ++ "\"")

-- What needs no escapes is only put between quotes.
theorem quote_of_plain {s : String} (h : ∀ c ∈ s.toList, escape c = String.singleton c)
    : quote s = "\"" ++ (s ++ "\"") := by
  have hplain : ∀ l : List Char, (∀ c ∈ l, escape c = String.singleton c) →
      l.foldr (fun c rest => escape c ++ rest) "" = String.ofList l := by
    intro l hl
    induction l with
    | nil => rfl
    | cons c l ih =>
      rw [List.foldr_cons, hl c List.mem_cons_self,
        ih fun c' hc' => hl c' (List.mem_cons_of_mem c hc'),
        String.singleton_eq_ofList, ← String.ofList_append, List.singleton_append]
  unfold quote
  rw [hplain s.toList h, String.ofList_toList]

variable [FloatJson]

mutual

def text (value : JsonValue) : String :=
  match value with
  | .null => "null"
  | .bool b => if b then "true" else "false"
  | .number n => toString n
  | .float bits => FloatJson.print bits
  | .string s => quote s
  | .array items => "[" ++ (",".intercalate (itemTexts items) ++ "]")
  | .object fields => (",".intercalate (fieldTexts fields)).braced

def itemTexts (items : List JsonValue) : List String :=
  match items with
  | [] => []
  | item :: items => item.text :: itemTexts items

def fieldTexts (fields : List (String × JsonValue)) : List String :=
  match fields with
  | [] => []
  | (name, value) :: fields => (quote name ++ (":" ++ value.text)) :: fieldTexts fields

end

-- The fields of a map that is kept in the order of its keys.
def insertField (fields : List (String × JsonValue)) (name : String) (value : JsonValue)
    : List (String × JsonValue) :=
  match fields with
  | [] => [(name, value)]
  | (name', value') :: fields =>
    if name < name' then
      (name, value) :: (name', value') :: fields
    else if name = name' then
      (name, value) :: fields
    else
      (name', value') :: insertField fields name value

def ofFields (fields : List (String × JsonValue)) : List (String × JsonValue) :=
  fields.foldl (fun acc field => insertField acc field.1 field.2) []

end JsonValue
