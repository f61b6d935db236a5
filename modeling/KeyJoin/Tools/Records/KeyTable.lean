import KeyJoin.Host.RawText
import Std.Data.HashMap

/-!
# Tables by keys

A table holds a value for each key.  The order in which its keys are visited is
that of its buckets: a key goes to the front of the bucket that its hash
chooses, and comes to the front again when it is looked for.  Keys that are
whole numbers are kept in buckets of their own until a text is looked for or
the keys are visited.  The buckets are doubled when they hold twelve keys each
on average.
-/

namespace KeyJoin.Tools.Records

/-- The hash of a key: each byte is mixed in and the result is multiplied by a prime. -/
def keyHash (key : RawText) : UInt32 :=
  key.foldl (fun hash c => (hash ^^^ UInt32.ofNat c.toNat) * 16777619) 2166136261

/-- How many keys a bucket may hold on average. -/
def averageSize : Nat := 12

structure KeyTable (α : Type) where
  values : Std.HashMap String α := {}
  texts : Array (List RawText) := Array.replicate 64 []
  numbers : Array (List Int) := Array.replicate 64 []
  hasTexts : Bool := false
  isSequence : Bool := false

/-- The whole number that a key is the text of. -/
def keyNumber? (key : RawText) : Option Int :=
  (integer? key).filter fun n => integerText n == key

namespace KeyTable

variable {α : Type}

def size (table : KeyTable α) : Nat :=
  table.values.size

def get? (table : KeyTable α) (key : RawText) : Option α :=
  table.values[String.ofList key]?

def contains (table : KeyTable α) (key : RawText) : Bool :=
  table.values.contains (String.ofList key)

/-- Gives a key a value, wherever its place is. -/
def put (table : KeyTable α) (key : RawText) (value : α) : KeyTable α :=
  { table with values := table.values.insert (String.ofList key) value }

def textBucket (table : KeyTable α) (key : RawText) : Nat :=
  (keyHash key).toNat % table.texts.size

def numberBucket (table : KeyTable α) (n : Int) : Nat :=
  (n % table.numbers.size).toNat

/-- Puts a text in front of its bucket. -/
def frontText (table : KeyTable α) (key : RawText) : KeyTable α :=
  { table with
    texts := table.texts.modify (table.textBucket key) fun keys =>
      key :: keys.filter (· != key) }

def frontNumber (table : KeyTable α) (n : Int) : KeyTable α :=
  { table with
    numbers := table.numbers.modify (table.numberBucket n) fun keys =>
      n :: keys.filter (· != n) }

/-- Splits each bucket in two.  What moves to the new one is turned around. -/
def doubled (table : KeyTable α) : KeyTable α :=
  let size := table.texts.size
  let spread := fun {β : Type} (buckets : Array (List β)) (place : β → Nat) =>
    buckets.mapIdx (fun i keys => keys.filter fun key => place key % (2 * size) == i) ++
      buckets.mapIdx fun i keys =>
        (keys.filter fun key => place key % (2 * size) == i + size).reverse
  { table with
    texts := spread table.texts fun key => (keyHash key).toNat
    numbers := spread table.numbers fun n => (n % (2 * size : Nat)).toNat }

def grown (table : KeyTable α) : KeyTable α :=
  if averageSize * table.texts.size < table.size then table.doubled else table

/-- Puts the keys of a sequence into buckets: each behind the place of the one before. -/
def ofSequence (values : List α) : KeyTable α :=
  let count := values.length
  let rec room : Nat → Nat → Nat
    | 0, size => size
    | fuel + 1, size => if averageSize * size < count then room fuel (2 * size) else size
  let size := room count 64
  let keyed := (values.zipIdx 1).map fun (value, i) => (toString i, value)
  let numbers := (List.range' 1 count).foldl
    (fun (buckets : Array (List Int)) i => buckets.modify (i % size) ((i : Int) :: ·))
    (Array.replicate size [])
  { values := Std.HashMap.ofList keyed
    texts := Array.replicate size []
    numbers := numbers
    isSequence := true }

/-- Puts the keys that are numbers into the buckets of texts as well. -/
def withTexts (table : KeyTable α) : KeyTable α :=
  if table.hasTexts then table
  else
    let keys := table.numbers.toList.flatten
    keys.foldl (fun table n => table.frontText (integerText n)) { table with hasTexts := true }

/-- Notes that a number was looked for; it comes to the front of its bucket if it is a key. -/
def seekNumber (table : KeyTable α) (n : Int) : KeyTable α :=
  if table.isSequence && decide (1 ≤ n ∧ n ≤ table.size) && !table.hasTexts then table
  else
    let bucket := table.numbers.getD (table.numberBucket n) []
    if bucket.contains n then table.frontNumber n
    else if table.hasTexts && table.contains (integerText n) then
      (table.frontText (integerText n)).frontNumber n
    else table

def seekText (table : KeyTable α) (key : RawText) : KeyTable α :=
  let table := table.withTexts
  if table.contains key then table.frontText key else table

/-- Looks for a key; a number that was not written as a text is looked for as a number. -/
def seek (table : KeyTable α) (isNumber : Bool) (key : RawText) : KeyTable α :=
  if table.values.isEmpty then table
  else
    match if isNumber then keyNumber? key else none with
    | some n => table.seekNumber n
    | none => table.seekText key

def insert (table : KeyTable α) (isNumber : Bool) (key : RawText) (value : α) : KeyTable α :=
  if table.contains key then table.put key value
  else
    match if isNumber then keyNumber? key else none with
    | some n =>
      let table := ({ table with isSequence := false }.put key value).grown
      (if table.hasTexts then table.frontText key else table).frontNumber n
    | none =>
      let table := { table.withTexts with isSequence := false }
      (table.put key value).grown.frontText key

def erase (table : KeyTable α) (key : RawText) : KeyTable α :=
  let texts := table.texts.modify (table.textBucket key) (·.filter (· != key))
  let numbers :=
    match keyNumber? key with
    | some n => table.numbers.modify (table.numberBucket n) (·.filter (· != n))
    | none => table.numbers
  let table := { table with
    values := table.values.erase (String.ofList key), texts := texts, numbers := numbers, isSequence := false }
  if table.values.isEmpty then {} else table

/-- The keys in the order in which they are visited, and the table after that. -/
def visit (table : KeyTable α) : List RawText × KeyTable α :=
  if table.values.isEmpty then ([], table)
  else
    let table := table.withTexts
    (table.texts.toList.flatten, table)

end KeyTable

end KeyJoin.Tools.Records
