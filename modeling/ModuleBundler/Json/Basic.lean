import ModuleBundler.Decimal.Shortest
import ModuleBundler.Text.Quoted

/-!
JSON documents and their text. Members keep the order in which they were written; `Json.settled`
sorts them and keeps the last of those with one key.
-/
namespace ModuleBundler

/-- The numbers that a document can hold: integers of 64 bits, and floating-point numbers. -/
inductive JsonNumber where
  | natural (n : Nat)
  | negative (n : Nat)
  | float (x : Decimal.Binary)
deriving DecidableEq

inductive Json where
  | null
  | bool (b : Bool)
  | number (n : JsonNumber)
  | string (s : String)
  | array (items : List Json)
  | object (members : List (String × Json))

namespace JsonNumber

def layout : Decimal.Layout := ⟨-5, 15⟩

def text : JsonNumber → List Char
  | natural n => Nat.toDigits 10 n
  | negative n => '-' :: Nat.toDigits 10 n
  | float x => layout.text x

end JsonNumber

namespace Json

/-- Puts a member in its place among members in the order of their keys; a member with the same
key gives way. -/
def insertMember (key : String) (value : Json) : List (String × Json) → List (String × Json)
  | [] => [(key, value)]
  | (k, v) :: more =>
    if key < k then (key, value) :: (k, v) :: more
    else if key = k then (key, value) :: more
    else (k, v) :: insertMember key value more

mutual

def settled : Json → Json
  | array items => array (settledItems items)
  | object members => object (settledMembers members [])
  | v => v

def settledItems : List Json → List Json
  | [] => []
  | v :: more => settled v :: settledItems more

def settledMembers : List (String × Json) → List (String × Json) → List (String × Json)
  | [], done => done
  | (k, v) :: more, done => settledMembers more (insertMember k (settled v) done)

end

mutual

def compact : Json → List Char
  | null => "null".toList
  | bool true => "true".toList
  | bool false => "false".toList
  | number n => n.text
  | string s => Text.quoteChars s.toList
  | array items => '[' :: (compactItems items ++ [']'])
  | object members => '\x7b' :: (compactMembers members ++ ['\x7d'])

def compactItems : List Json → List Char
  | [] => []
  | [v] => compact v
  | v :: more => compact v ++ ',' :: compactItems more

def compactMembers : List (String × Json) → List Char
  | [] => []
  | [(k, v)] => Text.quoteChars k.toList ++ ':' :: compact v
  | (k, v) :: more => Text.quoteChars k.toList ++ ':' :: compact v ++ ',' :: compactMembers more

end

def indent (level : Nat) : List Char := '\n' :: List.replicate (2 * level) ' '

mutual

/-- The text of a document with each item and member on a line of its own. -/
def pretty (level : Nat) : Json → List Char
  | array [] => ['[', ']']
  | array items => '[' :: (prettyItems (level + 1) items ++ indent level ++ [']'])
  | object [] => ['\x7b', '\x7d']
  | object members => '\x7b' :: (prettyMembers (level + 1) members ++ indent level ++ ['\x7d'])
  | null => "null".toList
  | bool true => "true".toList
  | bool false => "false".toList
  | number n => n.text
  | string s => Text.quoteChars s.toList

def prettyItems (level : Nat) : List Json → List Char
  | [] => []
  | [v] => indent level ++ pretty level v
  | v :: more => indent level ++ pretty level v ++ ',' :: prettyItems level more

def prettyMembers (level : Nat) : List (String × Json) → List Char
  | [] => []
  | [(k, v)] => indent level ++ Text.quoteChars k.toList ++ ':' :: ' ' :: pretty level v
  | (k, v) :: more =>
    indent level ++ Text.quoteChars k.toList ++ ':' :: ' ' :: pretty level v ++
      ',' :: prettyMembers level more

end

def compactText (v : Json) : String := String.ofList v.compact

def prettyText (v : Json) : String := String.ofList (v.pretty 0)

end Json

end ModuleBundler
