import RotatorProxy.Proxy.Node
import RotatorProxy.Text.Pieces

/-! Reading and writing the YAML mapping of a complex node. Keys are only ever looked up as strings. -/
namespace RotatorProxy.Mihomo
open Text Proxy

/-- `serde_yaml::Mapping` in its order -/
abbrev Mapping := List (YamlValue × YamlValue)

def isKey (key : Str) : YamlValue → Bool
  | .string s => decide (s=key)
  | _ => false

namespace Mapping

def get (mapping : Mapping) (key : Str) : Option YamlValue :=
  (mapping.find? (fun entry => isKey key entry.1)).map Prod.snd

/-- An insertion replaces the value of a key that is there, in its place. -/
def insert (key : Str) (value : YamlValue) : Mapping → Mapping
  | [] => [(.string key,value)]
  | (k,v)::rest => if isKey key k then (k,value)::rest else (k,v)::insert key value rest

@[simp] theorem get_insert_self (key : Str) (value : YamlValue) (mapping : Mapping) :
    get (insert key value mapping) key=some value := by
  induction mapping with
  | nil => simp [insert,get,isKey]
  | cons entry rest ih =>
    rw [insert]
    split_ifs with h
    · simp [get,h]
    · rw [get,List.find?_cons_of_neg (by simpa using h)]
      exact ih

@[simp] theorem get_insert_ne {key key' : Str} (hne : key' ≠ key) (value : YamlValue) (mapping : Mapping) :
    get (insert key value mapping) key'=get mapping key' := by
  have hkey : ∀ k, isKey key k = true → isKey key' k = false := by
    intro k hk
    cases k <;> simp_all [isKey,Ne.symm hne]
  induction mapping with
  | nil => simp [insert,get,isKey,Ne.symm hne]
  | cons entry rest ih =>
    rw [insert]
    split_ifs with h
    · simp only [get,List.find?_cons,hkey _ h]
    · cases h' : isKey key' entry.1 with
      | true => simp only [get,List.find?_cons,h']
      | false =>
        simp only [get,List.find?_cons,h'] at ih ⊢
        exact ih

end Mapping

def numberToText : YamlNumber → Str
  | .posInt n => decimal n
  | .negInt n => '-'::decimal n.natAbs
  | .float text => text

/-- `Number::as_u64` -/
def asU64 : YamlNumber → Option ℕ
  | .posInt n => some n
  | _ => none

/-- `str::parse::<u64>` -/
def parseU64 (s : Str) : Option ℕ :=
  let digits := (stripPrefix '+' s).getD s
  if digits ≠ [] ∧ digits.all Char.isDigit ∧ Nat.ofDigitChars 10 digits 0 < 2^64 then
    some (Nat.ofDigitChars 10 digits 0)
  else none

def valueToString : YamlValue → Option Str
  | .string value => some value
  | .number value => some (numberToText value)
  | .bool value => some (boolText value)
  | _ => none

/-- `split(',')`, each part trimmed and none empty -/
def commaList (value : Str) : List Str := ((splitAny [','] value).map trim).filter (fun part => part ≠ [])

def valueToStringList : YamlValue → Option (List Str)
  | .sequence values => some (values.filterMap valueToString)
  | value => (valueToString value).map commaList

def valueToBool : YamlValue → Option Bool
  | .bool value => some value
  | .number value => (asU64 value).map (fun n => decide (n ≠ 0))
  | .string value =>
    some (decide (toAsciiLowercase value ∈ ["1".toList,"true".toList,"yes".toList,"on".toList]))
  | _ => none

def valueToU64 : YamlValue → Option ℕ
  | .number value => asU64 value
  | .string value => parseU64 value
  | _ => none

/-- `Value::as_mapping`, which looks through tags -/
def asMapping : YamlValue → Option Mapping
  | .mapping entries => some entries
  | .tagged _ value => asMapping value
  | _ => none

/-! Fields: the first of the keys whose value can be read -/

def mappingField (mapping : Mapping) (key : Str) : Option Mapping := (mapping.get key).bind asMapping

def findField {α : Type} (read : YamlValue → Option α) (mapping : Mapping) (keys : List Str) : Option α :=
  keys.findSome? (fun key => (mapping.get key).bind read)

def stringField (mapping : Mapping) (keys : List Str) : Option Str := findField valueToString mapping keys

def stringFieldIn (mapping : Option Mapping) (keys : List Str) : Option Str :=
  mapping.bind (fun mapping => stringField mapping keys)

def stringListField (mapping : Mapping) (keys : List Str) : Option (List Str) :=
  findField valueToStringList mapping keys

def stringListFieldIn (mapping : Option Mapping) (keys : List Str) : Option (List Str) :=
  mapping.bind (fun mapping => stringListField mapping keys)

def boolField (mapping : Mapping) (keys : List Str) : Option Bool := findField valueToBool mapping keys

/-- A number that does not fit is as good as none. -/
def boundedField (bound : ℕ) (mapping : Mapping) (keys : List Str) : Option ℕ :=
  findField (fun value => (valueToU64 value).filter (fun n => n < bound)) mapping keys

def u16Field (mapping : Mapping) (keys : List Str) : Option UInt16 :=
  (boundedField (2^16) mapping keys).map UInt16.ofNat

def usizeFieldIn (mapping : Option Mapping) (keys : List Str) : Option ℕ :=
  mapping.bind (fun mapping => boundedField (2^64) mapping keys)

def headerField (mapping : Option Mapping) (key : Str) : Option Str :=
  (mapping.bind (fun mapping => mappingField mapping "headers".toList)).bind
    (fun headers => stringField headers [key])

def headersFromMappingWithout (mapping : Option Mapping) (excludedKeys : List Str) : List (Str × Str) :=
  ((mapping.bind (fun mapping => mappingField mapping "headers".toList)).getD []).filterMap (fun entry =>
    match valueToString entry.1 with
    | none => none
    | some key =>
      if excludedKeys.any (eqIgnoreAsciiCase key) then none
      else (valueToString entry.2).map (fun value => (key,value)))

lemma findField_eq {α : Type} {read : YamlValue → Option α} {mapping : Mapping} {key : Str}
    {value : YamlValue} {x : α} (hget : mapping.get key=some value) (hread : read value=some x)
    (keys : List Str) : findField read mapping (key::keys)=some x := by
  simp [findField,hget,hread]

lemma findField_skip {α : Type} {read : YamlValue → Option α} {mapping : Mapping} {key : Str}
    (hget : mapping.get key=none) (keys : List Str) :
    findField read mapping (key::keys)=findField read mapping keys := by
  simp [findField,hget]

end RotatorProxy.Mihomo
