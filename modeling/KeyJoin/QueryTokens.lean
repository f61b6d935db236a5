import KeyJoin.BlankText
import KeyJoin.TextLines
import KeyJoin.WordCharacters

/-!
# Tokens of a statement

A statement falls into words, five marks and single other characters; white
space separates and is dropped.  Every token keeps the byte positions at which
it starts and stops, so that a run of tokens can be cut out of the statement
as it was written.
-/

namespace KeyJoin

inductive TokenKind
  | word (text : List Char)
  | dot
  | comma
  | star
  | equals
  | semicolon
  | symbol (c : Char)
  deriving DecidableEq, Repr

def TokenKind.text : TokenKind → List Char
  | word text => text
  | dot => ['.']
  | comma => [',']
  | star => ['*']
  | equals => ['=']
  | semicolon => [';']
  | symbol c => [c]

def TokenKind.ofMark (c : Char) : TokenKind :=
  match c with
  | '.' => dot
  | ',' => comma
  | '*' => star
  | '=' => equals
  | ';' => semicolon
  | _ => symbol c

structure Token where
  kind : TokenKind
  start : Nat
  stop : Nat
  deriving DecidableEq, Repr

def Token.word? (token : Token) : Option (List Char) :=
  match token.kind with
  | .word text => some text
  | _ => none

inductive Keyword
  | select
  | fromClause
  | inner
  | join
  | on
  deriving DecidableEq, Repr

def Keyword.letters : Keyword → List Char
  | select => ['S', 'E', 'L', 'E', 'C', 'T']
  | fromClause => ['F', 'R', 'O', 'M']
  | inner => ['I', 'N', 'N', 'E', 'R']
  | join => ['J', 'O', 'I', 'N']
  | on => ['O', 'N']

/-- Whether a token is a keyword, written in letters of either case. -/
def TokenKind.isKeyword (keyword : Keyword) : TokenKind → Bool
  | word text => text.map Char.toUpper == keyword.letters
  | _ => false

def Token.isKeyword (keyword : Keyword) (token : Token) : Bool :=
  token.kind.isKeyword keyword

/-- Puts a word character that ends at `stop` in front of the tokens that follow it: it extends a
word that starts there, and is a word of its own otherwise. -/
def Token.consCharacter (c : Char) (start stop : Nat) : List Token → List Token
  | ⟨.word text, next, last⟩ :: tokens =>
    if next = stop then ⟨.word (c :: text), start, last⟩ :: tokens
    else ⟨.word [c], start, stop⟩ :: ⟨.word text, next, last⟩ :: tokens
  | tokens => ⟨.word [c], start, stop⟩ :: tokens

/-- The tokens of a text that begins at byte `position` of the statement. -/
def tokensFrom (position : Nat) : List Char → List Token
  | [] => []
  | c :: text =>
    let stop := position + c.utf8Size
    if isBlank c then tokensFrom stop text
    else if isWordCharacter c then Token.consCharacter c position stop (tokensFrom stop text)
    else ⟨.ofMark c, position, stop⟩ :: tokensFrom stop text

def tokenize (statement : List Char) : List Token :=
  tokensFrom 0 statement

def dropBytes (count : Nat) : List Char → List Char
  | [] => []
  | c :: text => if count = 0 then c :: text else dropBytes (count - c.utf8Size) text

def takeBytes (count : Nat) : List Char → List Char
  | [] => []
  | c :: text => if count = 0 then [] else c :: takeBytes (count - c.utf8Size) text

/-- The part of the statement from the start of the first token to the stop of the last one. -/
def spanText (statement : List Char) (tokens : List Token) : List Char :=
  match tokens.head?, tokens.getLast? with
  | some first, some last => takeBytes (last.stop - first.start) (dropBytes first.start statement)
  | _, _ => []

end KeyJoin
