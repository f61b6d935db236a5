import KeyJoin.Host.RawText

/-!
# Permissions written by letters

Permissions are changed by clauses: whose they are, whether they are added,
taken away or set, and which.  They are also given as an octal number.
-/

namespace KeyJoin

/-- The bits of an owner for a group of three. -/
def ownerShift? : Char → Option (List Nat)
  | 'u' => some [6]
  | 'g' => some [3]
  | 'o' => some [0]
  | 'a' => some [6, 3, 0]
  | _ => none

structure PermissionClause where
  shifts : List Nat
  isForAll : Bool
  operator : Char
  letters : RawText

def isPermissionLetter (c : Char) : Bool :=
  ['r', 'w', 'x', 'X', 's', 't', 'u', 'g', 'o'].contains c

/-- The clauses of one part between commas; an operator may follow an operator. -/
def clausesOfPart? : Nat → List Nat → Bool → RawText → Option (List PermissionClause)
  | 0, _, _, _ => none
  | _, _, _, [] => some []
  | fuel + 1, shifts, isForAll, c :: rest =>
    if c == '+' || c == '-' || c == '=' then
      let letters := rest.takeWhile isPermissionLetter
      (clausesOfPart? fuel shifts isForAll (rest.drop letters.length)).map
        (⟨shifts, isForAll, c, letters⟩ :: ·)
    else none

def permissionClauses? (text : RawText) : Option (List PermissionClause) :=
  ((splitAtAll ',' text).mapM fun (part : RawText) =>
    let owners := part.takeWhile fun c => (ownerShift? c).isSome
    let rest := part.drop owners.length
    if rest.isEmpty then none
    else
      let shifts := (owners.filterMap ownerShift?).flatten
      clausesOfPart? (part.length + 1) (if owners.isEmpty then [6, 3, 0] else shifts)
        owners.isEmpty rest).map List.flatten

/-- The three bits of a letter; `mayRun` tells whether a capital letter gives the right to run. -/
def letterBits (mode : Nat) (mayRun : Bool) : Char → Nat
  | 'r' => 4
  | 'w' => 2
  | 'x' => 1
  | 'X' => if mayRun then 1 else 0
  | 'u' => mode / 64 % 8
  | 'g' => mode / 8 % 8
  | 'o' => mode % 8
  | _ => 0

def specialBits (clause : PermissionClause) : Nat :=
  (if clause.letters.contains 's' then
    (if clause.shifts.contains 6 then 0o4000 else 0) +
      (if clause.shifts.contains 3 then 0o2000 else 0)
  else 0) + (if clause.letters.contains 't' then 0o1000 else 0)

def applyClause (mask : Nat) (isDirectory : Bool) (mode : Nat) (clause : PermissionClause) : Nat :=
  let mayRun := isDirectory || mode &&& 0o111 != 0
  let three := clause.letters.foldl (fun bits c => bits ||| letterBits mode mayRun c) 0
  let spread := clause.shifts.foldl (fun bits shift => bits ||| three <<< shift) 0
  let allowed := if clause.isForAll then 0o7777 ^^^ (mask &&& 0o777) else 0o7777
  let bits := (spread ||| specialBits clause) &&& allowed
  match clause.operator with
  | '+' => mode ||| bits
  | '-' => mode &&& (0o7777 ^^^ bits)
  | _ =>
    let cleared := clause.shifts.foldl (fun bits shift => bits ||| 7 <<< shift) 0
    let cleared := if clause.isForAll then 0o777 &&& allowed else cleared
    (mode &&& (0o7777 ^^^ cleared)) ||| bits

/-- The permissions that a text makes of others, or nothing if it is no such text. -/
def changedPermissions? (mask : Nat) (isDirectory : Bool) (mode : Nat) (text : RawText) :
    Option Nat :=
  if !text.isEmpty && text.all isOctalDigit then
    let value := readInBase 8 text
    if value ≤ 0o7777 then some value else none
  else if text.isEmpty then none
  else (permissionClauses? text).map (·.foldl (applyClause mask isDirectory) mode)

/-- The letters of three bits. -/
def threeLetters (bits : Nat) : RawText :=
  (if bits &&& 4 != 0 then ['r'] else []) ++ (if bits &&& 2 != 0 then ['w'] else []) ++
    (if bits &&& 1 != 0 then ['x'] else [])

end KeyJoin
