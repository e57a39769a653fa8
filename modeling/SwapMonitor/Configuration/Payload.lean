import SwapMonitor.Domain.Readings

namespace SwapMonitor.Configuration

-- What no configuration value may be; every such object is refused by its type.
inductive Foreign where
  | float
  | bytes (typeName : String)
  | nonFiniteDecimal
  | naiveDatetime
  | other (typeName : String)

def Foreign.typeName : Foreign → String
  | .float => "float"
  | .bytes typeName => typeName
  | .nonFiniteDecimal => "Decimal"
  | .naiveDatetime => "datetime"
  | .other typeName => typeName

-- What an Enum member stands for: it is a string itself, has one as its value, or has neither.
inductive EnumValue where
  | mixin (value : String)
  | plain (value : String)
  | other

def EnumValue.string : EnumValue → Option String
  | .mixin value => some value
  | .plain value => some value
  | .other => none

-- The object trees a configuration is made of; an inductive value has no cycles.
inductive Payload where
  | null
  | bool (value : Bool)
  | int (value : Int)
  | str (value : String)
  | enumMember (typeName : String) (value : EnumValue)
  | decimal (value : Decimal)
  | uuid (value : UUID)
  | datetime (value : ZonedTimestamp)
  | date (value : CivilDate)
  | list (items : List Payload)
  | tuple (items : List Payload)
  | map (entries : List (String × Payload))
  | foreign (refused : Foreign)

-- type(value).__name__
def Payload.typeName : Payload → String
  | .null => "NoneType"
  | .bool _ => "bool"
  | .int _ => "int"
  | .str _ => "str"
  | .enumMember typeName _ => typeName
  | .decimal _ => "Decimal"
  | .uuid _ => "UUID"
  | .datetime _ => "datetime"
  | .date _ => "date"
  | .list _ => "list"
  | .tuple _ => "tuple"
  | .map _ => "dict"
  | .foreign refused => refused.typeName

-- The text of a value that is a string.
def Payload.text : Payload → Option String
  | .str value => some value
  | .enumMember _ (.mixin value) => some value
  | _ => none

-- Mapping.get
def Payload.get (value : Payload) (key : String) : Option Payload :=
  match value with
  | .map entries => entries.lookup key
  | _ => none

-- _kind
inductive Kind where
  | map
  | list
  | scalar
  deriving DecidableEq

def Kind.name : Kind → String
  | .map => "map"
  | .list => "list"
  | .scalar => "scalar"

def Payload.kind : Payload → Kind
  | .map _ => .map
  | .list _ => .list
  | .tuple _ => .list
  | _ => .scalar

mutual
-- _freeze_value
def Payload.freeze : Payload → Payload
  | .list items => .tuple (freezeItems items)
  | .tuple items => .tuple (freezeItems items)
  | .map entries => .map (freezeEntries entries)
  | value => value

def freezeItems : List Payload → List Payload
  | [] => []
  | item :: rest => item.freeze :: freezeItems rest

def freezeEntries : List (String × Payload) → List (String × Payload)
  | [] => []
  | (key,value) :: rest => (key,value.freeze) :: freezeEntries rest
end

mutual
-- _thaw_value
def Payload.thaw : Payload → Payload
  | .list items => .list (thawItems items)
  | .tuple items => .list (thawItems items)
  | .map entries => .map (thawEntries entries)
  | value => value

def thawItems : List Payload → List Payload
  | [] => []
  | item :: rest => item.thaw :: thawItems rest

def thawEntries : List (String × Payload) → List (String × Payload)
  | [] => []
  | (key,value) :: rest => (key,value.thaw) :: thawEntries rest
end

mutual
-- Mappings have one value for each key, and identifiers 128 bits.
def Payload.Genuine : Payload → Prop
  | .uuid value => value < 2 ^ 128
  | .list items => GenuineItems items
  | .tuple items => GenuineItems items
  | .map entries => (entries.map Prod.fst).Nodup ∧ GenuineEntries entries
  | _ => True

def GenuineItems : List Payload → Prop
  | [] => True
  | item :: rest => item.Genuine ∧ GenuineItems rest

def GenuineEntries : List (String × Payload) → Prop
  | [] => True
  | (_,value) :: rest => value.Genuine ∧ GenuineEntries rest
end

-- Booleans, integers and Decimals are compared as numbers.
def Payload.number : Payload → Option ℚ
  | .bool value => some (if value then 1 else 0)
  | .int value => some value
  | .decimal value => some value.toRat
  | _ => none

-- == of values that hold no others.
def Payload.equalScalars (a b : Payload) : Bool :=
  match a,b with
  | .null,.null => true
  | .uuid value,.uuid other => value == other
  | .datetime value,.datetime other => value.aware.same other.aware
  | .date value,.date other => decide (value = other)
  | .enumMember typeName (.plain value),.enumMember typeName' (.plain other) => typeName == typeName' && value == other
  | _,_ => match a.number,b.number with
    | some value,some other => decide (value = other)
    | _,_ => match a.text,b.text with
      | some value,some other => value == other
      | _,_ => false

mutual
-- == of a frozen payload; mappings are compared without their order.
def Payload.equals : Payload → Payload → Bool
  | .list items,.list others => equalItems items others
  | .tuple items,.tuple others => equalItems items others
  | .map entries,.map others => entries.length == others.length && equalEntries entries others
  | a,b => a.equalScalars b

def equalItems : List Payload → List Payload → Bool
  | [],[] => true
  | item :: rest,other :: others => item.equals other && equalItems rest others
  | _,_ => false

def equalEntries : List (String × Payload) → List (String × Payload) → Bool
  | [],_ => true
  | (key,value) :: rest,others => (match others.lookup key with
    | some other => value.equals other
    | none => false) && equalEntries rest others
end

end SwapMonitor.Configuration
