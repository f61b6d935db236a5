import KeyJoin.Tools.Options

/-!
# Ordering by pairs

A tool that reads pairs of names, each of which puts one name before another,
and prints all names in an order that keeps to the pairs.  Names that have none
before them are printed first, and then those that wait only for printed ones.
If the pairs run in a circle, the circle is told of and one of its pairs is
forgotten.
-/

namespace KeyJoin.Tools

open Tool

/-- A name with the number of names that it waits for and those that wait for it, the latest in
front; `link` leads along the path that is followed when a circle is looked for. -/
structure OrderedItem where
  name : RawText
  waits : Nat := 0
  followers : List Nat := []
  isPrinted : Bool := false
  link : Option Nat := none

abbrev OrderedItems := Array OrderedItem

namespace OrderedItems

def item (items : OrderedItems) (i : Nat) : OrderedItem :=
  items.getD i ⟨[], 0, [], true, none⟩

/-- Takes in a pair. -/
def addPair (items : OrderedItems) (first second : Nat) : OrderedItems :=
  if first = second then items
  else
    (items.modify second fun item => { item with waits := item.waits + 1 }).modify first fun item =>
      { item with followers := second :: item.followers }

def ofWords (words : List RawText) : OrderedItems :=
  let names := sortTexts words.eraseDups
  let items : OrderedItems := (names.map fun name => { name := name }).toArray
  let place := fun (name : RawText) => (names.idxOf? name).getD 0
  let rec pairs : List RawText → OrderedItems → OrderedItems
    | first :: second :: rest, items => pairs rest (addPair items (place first) (place second))
    | _, items => items
  pairs words items

/-- The names that wait for none and have not been printed. -/
def ready (items : OrderedItems) : List Nat :=
  (List.range items.size).filter fun i => (item items i).waits = 0 && !(item items i).isPrinted

/-- Lets the followers of a printed name wait for one name less; gives those that are ready now. -/
def release (items : OrderedItems) : List Nat → OrderedItems × List Nat
  | [] => (items, [])
  | i :: rest =>
    let items := items.modify i fun item => { item with waits := item.waits - 1 }
    let (after, more) := release items rest
    (after, if (item items i).waits = 0 then i :: more else more)

/-- Prints names as they get ready. -/
def printReady : Nat → List Nat → OrderedItems → Tool OrderedItems
  | 0, _, items => return items
  | _, [], items => return items
  | fuel + 1, i :: queue, items => do
    let item := item items i
    putLine item.name
    let items := items.modify i fun item => { item with isPrinted := true }
    let (items, more) := release items item.followers
    printReady fuel (queue ++ more) items

/-- Clears the links from an item on. -/
def clearLinks : Nat → Option Nat → OrderedItems → OrderedItems
  | 0, _, items => items
  | _, none, items => items
  | fuel + 1, some i, items =>
    clearLinks fuel (item items i).link (items.modify i fun item => { item with link := none })

/-- Tells of the items of a circle, from one to the item that closes it. -/
def tellCircle (last : Nat) : Nat → Option Nat → OrderedItems → Tool OrderedItems
  | 0, _, items => return items
  | _, none, items => return items
  | fuel + 1, some i, items => do
    say (item items i).name
    if i = last then return clearLinks (items.size + 1) (some i) items
    let items' := items.modify i fun item => { item with link := none }
    tellCircle last fuel (item items i).link items'

/-- Goes through the items to follow the pairs backwards; the answer tells whether a circle was
closed. -/
def followPairs : List Nat → Option Nat → OrderedItems → Tool (Option Nat × OrderedItems × Bool)
  | [], path, items => return (path, items, false)
  | k :: rest, path, items => do
    let item := item items k
    if item.waits = 0 then followPairs rest path items
    else
      match path with
      | none => followPairs rest (some k) items
      | some head =>
        if !item.followers.contains head then followPairs rest path items
        else if item.link.isSome then
          let items ← tellCircle k (items.size + 1) path items
          let items := items.modify head fun item => { item with waits := item.waits - 1 }
          let items := items.modify k fun item =>
            { item with followers := item.followers.erase head }
          return (none, items, true)
        else
          followPairs rest (some k) (items.modify k fun item => { item with link := some head })

/-- Finds a circle and forgets one of its pairs. -/
def breakCircle : Nat → Option Nat → OrderedItems → Tool OrderedItems
  | 0, _, items => return items
  | fuel + 1, path, items => do
    let (path, items, isFound) ← followPairs (List.range items.size) path items
    if isFound || path.isNone then return items else breakCircle fuel path items

/-- Prints all items. -/
def print (name : RawText) : Nat → OrderedItems → Tool Unit
  | 0, _ => return
  | fuel + 1, items => do
    let items ← printReady (items.size + 1) (ready items) items
    if items.any fun item => !item.isPrinted then
      say (shownName name ++ raw ": input contains a loop:")
      setStatus 1
      print name fuel (← breakCircle (items.size + 1) none items)

end OrderedItems

def runOrder (arguments : List RawText) : Tool Unit := do
  let options ← readOptions 1 [{ key := "w", letters := "w" }] arguments
  let name ←
    match options.operands with
    | [] => pure standardInput
    | [name] => pure name
    | _ :: operand :: _ => extraOperand 1 operand
  match ← readFile name with
  | .error fault =>
    sayFault name fault
    exit 1
  | .ok text =>
    let words := (text.splitOnP fun c => c == ' ' || c == '\t' || c == '\n').filter (!·.isEmpty)
    if words.length % 2 = 1 then
      fail 1 (shownName name ++ raw ": input contains an odd number of tokens")
    let items := OrderedItems.ofWords words
    OrderedItems.print name (words.length + 1) items

end KeyJoin.Tools
