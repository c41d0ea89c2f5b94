/-
Module: PaperTrading.Text.Pattern
Purpose: Patterns of text, and the place where one is found first.
Main exports: Pattern, Pattern.run, Pattern.matchAt?, Pattern.find?, Pattern.findAll

A pattern can often match at a place in several ways, and which way is taken decides what is read from the text.
The ways are ordered: the first alternative goes before the second, and a repetition takes as much as it can, or
as little if it is reluctant.  `run` tries them in this order until one is accepted.
-/

namespace PaperTrading.Text

/-- A pattern of text. -/
inductive Pattern where
  /-- Nothing. -/
  | nothing
  /-- The edge of a word: a word character on one side only. -/
  | wordEdge (isWord : Char → Bool)
  /-- These characters. -/
  | literal (word : List Char)
  /-- Characters of a class: `least` of them or more, and no more than `most`. -/
  | repeated (accepts : Char → Bool) (least : Nat) (most : Option Nat) (reluctant : Bool)
  /-- One pattern, then the other. -/
  | sequence (first second : Pattern)
  /-- One pattern, else the other. -/
  | either (first second : Pattern)
  /-- A pattern whose text is kept. -/
  | kept (inner : Pattern)

/-- A part of a text: where it starts, and its characters. -/
structure Excerpt where
  start : Nat
  chars : List Char
deriving DecidableEq, Repr

/-- A place in a text: the character before it, how many characters precede it, and what follows.  `excerpt` is the
part that was kept on the way there. -/
structure Place where
  before : Option Char
  offset : Nat
  rest : List Char
  excerpt : Option Excerpt

namespace Place

/-- The start of a text. -/
def start (text : List Char) : Place :=
  ⟨none, 0, text, none⟩

/-- The place after one character. -/
def after (place : Place) (c : Char) (rest : List Char) : Place :=
  ⟨some c, place.offset + 1, rest, place.excerpt⟩

/-- The place after a word, if the word is next. -/
def afterWord? (place : Place) : List Char → Option Place
  | [] => some place
  | expected :: word =>
    match place.rest with
    | [] => none
    | c :: rest => if c = expected then (place.after c rest).afterWord? word else none

/-- Whether a word begins or ends here. -/
def atWordEdge (isWord : Char → Bool) (place : Place) : Bool :=
  place.before.any isWord != place.rest.head?.any isWord

end Place

/-- Repeats a class of characters from a place on, and passes each place where the repetition may end to
`accept`, in order. -/
def runRepeated {β : Type} (accepts : Char → Bool) (reluctant : Bool) (accept : Place → Option β)
    (excerpt : Option Excerpt) :
    (least : Nat) → (most : Option Nat) → (before : Option Char) → (offset : Nat) → List Char → Option β
  | least, _, before, offset, [] =>
    if least = 0 then accept ⟨before, offset, [], excerpt⟩ else none
  | least, most, before, offset, c :: rest =>
    let here := fun (_ : Unit) =>
      if least = 0 then accept ⟨before, offset, c :: rest, excerpt⟩ else none
    let further := fun (_ : Unit) =>
      if accepts c && most != some 0 then
        runRepeated accepts reluctant accept excerpt (least - 1) (most.map (· - 1)) (some c) (offset + 1) rest
      else
        none
    if reluctant then (here ()).orElse further else (further ()).orElse here

namespace Pattern

/-- Matches a pattern at a place, and passes the place after each match to `accept`, in order, until one is
accepted. -/
def run {β : Type} : Pattern → Place → (Place → Option β) → Option β
  | nothing, place, accept => accept place
  | wordEdge isWord, place, accept => if place.atWordEdge isWord then accept place else none
  | literal word, place, accept => (place.afterWord? word).bind accept
  | repeated accepts least most reluctant, place, accept =>
    runRepeated accepts reluctant accept place.excerpt least most place.before place.offset place.rest
  | sequence first second, place, accept => first.run place fun between => second.run between accept
  | either first second, place, accept =>
    (first.run place accept).orElse fun _ => second.run place accept
  | kept inner, place, accept =>
    inner.run place fun last =>
      accept { last with excerpt := some ⟨place.offset, place.rest.take (last.offset - place.offset)⟩ }

/-- Patterns one after the other. -/
def inOrder : List Pattern → Pattern
  | [] => nothing
  | [last] => last
  | first :: rest => sequence first (inOrder rest)

/-- The first of the patterns that matches. -/
def anyOf (first : Pattern) : List Pattern → Pattern
  | [] => first
  | second :: rest => either first (anyOf second rest)

/-- The pattern if it is there. -/
def optional (inner : Pattern) : Pattern :=
  either inner nothing

/-- A word. -/
def word (text : String) : Pattern :=
  literal text.toList

/-- A match: where it starts and ends, and what was kept of it. -/
structure Found where
  start : Nat
  stop : Nat
  excerpt : Option Excerpt

/-- The first way in which the pattern matches at a place. -/
def matchAt? (pattern : Pattern) (place : Place) : Option Found :=
  pattern.run { place with excerpt := none } fun last => some ⟨place.offset, last.offset, last.excerpt⟩

/-- The first match at or after a place. -/
def findFrom? (pattern : Pattern) (before : Option Char) (offset : Nat) : List Char → Option Found
  | [] => pattern.matchAt? ⟨before, offset, [], none⟩
  | c :: rest =>
    match pattern.matchAt? ⟨before, offset, c :: rest, none⟩ with
    | some found => some found
    | none => pattern.findFrom? (some c) (offset + 1) rest

/-- The first match in a text. -/
def find? (pattern : Pattern) (text : List Char) : Option Found :=
  pattern.findFrom? none 0 text

/-- Whether the pattern matches somewhere in a text. -/
def occursIn (pattern : Pattern) (text : List Char) : Bool :=
  (pattern.find? text).isSome

/-- The matches from a place on, none overlapping the one before it; the first starts after `skipped` characters at
least. -/
def findAllFrom (pattern : Pattern) (before : Option Char) (offset skipped : Nat) : List Char → List Found
  | [] => []
  | c :: rest =>
    if 0 < skipped then
      pattern.findAllFrom (some c) (offset + 1) (skipped - 1) rest
    else
      match pattern.matchAt? ⟨before, offset, c :: rest, none⟩ with
      | some found =>
        found :: pattern.findAllFrom (some c) (offset + 1) (found.stop - found.start - 1) rest
      | none => pattern.findAllFrom (some c) (offset + 1) 0 rest

/-- The matches of a pattern in a text, from left to right, for a pattern that matches no empty text. -/
def findAll (pattern : Pattern) (text : List Char) : List Found :=
  pattern.findAllFrom none 0 0 text

end Pattern

end PaperTrading.Text
