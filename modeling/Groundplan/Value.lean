import Groundplan.Number

/-!
# Canonical values

A document's canonical form is a `Value`: null, booleans, numbers, strings, arrays and objects.  An
object is a list of entries kept in the order of its keys (by code point) with each key once; it is
built only by `Entries.insert`, which replaces the value of a key that is there.
-/

namespace Groundplan

/-- Key-value pairs in the order of their keys. -/
abbrev Entries (α : Type) := List (String × α)

namespace Entries

variable {α : Type}

/-- The value of a key. -/
def find? : Entries α → String → Option α
  | [], _ => none
  | (k, v) :: rest, key => if k = key then some v else find? rest key

/-- Puts a value under a key, in the place of the key's order or of its old value. -/
def insert : Entries α → String → α → Entries α
  | [], key, value => [(key, value)]
  | (k, v) :: rest, key, value =>
    if key < k then (key, value) :: (k, v) :: rest
    else if k = key then (key, value) :: rest
    else (k, v) :: insert rest key value

/-- The keys, in order. -/
def keys (entries : Entries α) : List String := entries.map (·.1)

/-- The entries of a list of pairs; of equal keys the last one counts. -/
def ofPairs (pairs : List (String × α)) : Entries α :=
  pairs.foldl (fun entries p => entries.insert p.1 p.2) []

end Entries

/-- A canonical value. -/
inductive Value where
  | null
  | bool (value : Bool)
  | number (value : Number)
  | string (value : String)
  | array (items : List Value)
  | object (entries : List (String × Value))
  deriving Repr

/-- The kinds of canonical values. -/
inductive ValueKind where
  | null
  | bool
  | number
  | string
  | array
  | object
  deriving DecidableEq, Repr

namespace Value

/-- The kind of a value. -/
def kind : Value → ValueKind
  | null => .null
  | bool _ => .bool
  | number _ => .number
  | string _ => .string
  | array _ => .array
  | object _ => .object

mutual

/-- The value with the entries of every object in the order of their keys; of equal keys the last one
counts. -/
def sorted (v : Value) : Value :=
  match v with
  | null => null
  | bool b => bool b
  | number n => number n
  | string s => string s
  | array items => array (sortedItems items)
  | object entries => object (Entries.ofPairs (sortedEntries entries))
termination_by structural v

/-- The elements of an array, each sorted. -/
def sortedItems (items : List Value) : List Value :=
  match items with
  | [] => []
  | item :: rest => sorted item :: sortedItems rest
termination_by structural items

/-- The pairs of an object, each value sorted. -/
def sortedEntries (entries : List (String × Value)) : List (String × Value) :=
  match entries with
  | [] => []
  | (key, item) :: rest => (key, sorted item) :: sortedEntries rest
termination_by structural entries

end

end Value

/-- How a sentence names a value of this kind. -/
def ValueKind.phrase : ValueKind → String
  | null => "null"
  | bool => "a boolean"
  | number => "a number"
  | string => "a string"
  | array => "an array"
  | object => "an object"

end Groundplan
