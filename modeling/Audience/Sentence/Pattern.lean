import Audience.Text.Blank
import Audience.Text.Word

set_option autoImplicit false

/-! # Patterns

Patterns say what a phrase looks like. A pattern may match at a place in several ways; they come in
an order of preference, where the first alternative comes before the second and more comes before
less. A search takes the first place where a pattern matches at all, and there the match that is
preferred. -/

namespace Audience.Sentence

/-- What a phrase looks like. Only runs of single characters repeat. -/
inductive Pattern where
  | char (ok : Char → Bool)
  | literal (cs : List Char)
  | boundary
  | seq (p q : Pattern)
  | alt (p q : Pattern)
  | opt (p : Pattern)
  | run (ok : Char → Bool) (least : Nat) (most : Option Nat)
  | group (n : Nat) (p : Pattern)

/-- A place in a text: the character before it, if there is one, the text after it, and the groups
matched so far. -/
structure Place where
  before : Option Char
  rest : List Char
  groups : List (Nat × List Char)

/-- Whether a place lies between a word character and something else. -/
def isBoundary (before after : Option Char) : Bool :=
  before.any Text.isWord != after.any Text.isWord

namespace Place

/-- The start of a text. -/
def start (cs : List Char) : Place :=
  ⟨none, cs, []⟩

/-- The place after a literal, if the text goes on with it. -/
def pass : List Char → Place → Option Place
  | [], p => some p
  | _ :: _, ⟨_, [], _⟩ => none
  | c :: cs, ⟨_, d :: rest, groups⟩ => if c = d then pass cs ⟨some d, rest, groups⟩ else none

/-- The places after a run of characters, the longest run first. `least` more are needed, and `most`
more allowed. -/
def runs (ok : Char → Bool) (least : Nat) (most : Option Nat) (before : Option Char)
    (groups : List (Nat × List Char)) : List Char → List Place
  | [] => if least = 0 then [⟨before, [], groups⟩] else []
  | c :: rest =>
    let here := if least = 0 then [⟨before, c :: rest, groups⟩] else []
    if ok c && most != some 0 then
      runs ok (least - 1) (most.map (· - 1)) (some c) groups rest ++ here
    else here

/-- The text between two places. -/
def textTo (p q : Place) : List Char :=
  p.rest.take (p.rest.length - q.rest.length)

end Place

/-- The places where a match that starts at a place may end, the preferred one first. -/
def Pattern.ends : Pattern → Place → List Place
  | .char ok, p =>
    match p.rest with
    | c :: rest => if ok c then [⟨some c, rest, p.groups⟩] else []
    | [] => []
  | .literal cs, p => (p.pass cs).toList
  | .boundary, p => if isBoundary p.before p.rest.head? then [p] else []
  | .seq a b, p => (a.ends p).flatMap b.ends
  | .alt a b, p => a.ends p ++ b.ends p
  | .opt a, p => a.ends p ++ [p]
  | .run ok least most, p => Place.runs ok least most p.before p.groups p.rest
  | .group n a, p => (a.ends p).map fun q => { q with groups := (n, p.textTo q) :: q.groups }

/-- A match: its text, its groups, and the text after it. -/
structure Match where
  text : List Char
  groups : List (Nat × List Char)
  rest : List Char

/-- The text of a group, if it took part in the match. -/
def Match.group? (m : Match) (n : Nat) : Option (List Char) :=
  m.groups.lookup n

/-- The preferred match at a place. -/
def Pattern.matchAt? (pattern : Pattern) (before : Option Char) (cs : List Char) : Option Match :=
  (pattern.ends ⟨before, cs, []⟩).head?.map fun q =>
    ⟨cs.take (cs.length - q.rest.length), q.groups, q.rest⟩

/-- The first match of a pattern, with the text before it. -/
def Pattern.searchFrom? (pattern : Pattern) (before : Option Char) :
    List Char → Option (List Char × Match)
  | [] => (pattern.matchAt? before []).map fun m => ([], m)
  | c :: rest =>
    match pattern.matchAt? before (c :: rest) with
    | some m => some ([], m)
    | none => (pattern.searchFrom? (some c) rest).map fun (skipped, m) => (c :: skipped, m)

/-- The first match of a pattern in a text. -/
def Pattern.search? (pattern : Pattern) (cs : List Char) : Option Match :=
  (pattern.searchFrom? none cs).map Prod.snd

/-- The text before the first match of a pattern; the whole text if there is none. -/
def Pattern.before (pattern : Pattern) (cs : List Char) : List Char :=
  match pattern.searchFrom? none cs with
  | some (skipped, _) => skipped
  | none => cs

/-- All matches of a pattern, each after the one before it; `skip` characters belong to a match
already. -/
def Pattern.matchesFrom (pattern : Pattern) (skip : Nat) (before : Option Char) :
    List Char → List Match
  | [] => []
  | c :: rest =>
    match skip with
    | skip + 1 => pattern.matchesFrom skip (some c) rest
    | 0 =>
      match pattern.matchAt? before (c :: rest) with
      | some m => m :: pattern.matchesFrom (m.text.length - 1) (some c) rest
      | none => pattern.matchesFrom 0 (some c) rest

/-- All matches of a pattern in a text. -/
def Pattern.matches (pattern : Pattern) (cs : List Char) : List Match :=
  pattern.matchesFrom 0 none cs

/-! ## Building patterns -/

/-- The pattern of a fixed text. -/
def lit (s : String) : Pattern :=
  .literal s.toList

/-- One pattern after another. -/
def seqs : List Pattern → Pattern
  | [] => .literal []
  | [p] => p
  | p :: ps => .seq p (seqs ps)

/-- The first of several patterns that leads to a match. -/
def firstOf : List Pattern → Pattern
  | [] => .char fun _ => false
  | [p] => p
  | p :: ps => .alt p (firstOf ps)

/-- Any of several fixed texts. -/
def anyOf (texts : List String) : Pattern :=
  firstOf (texts.map lit)

/-- A fixed text that may have a plural ending. -/
def plural (s : String) : Pattern :=
  .seq (lit s) (.opt (lit "s"))

/-- Blanks, at least one. -/
def blanks : Pattern :=
  .run Text.isBlank 1 none

/-- Blanks, or none. -/
def gap : Pattern :=
  .run Text.isBlank 0 none

/-- Digits of any script, at least one. -/
def digits : Pattern :=
  .run Text.isDigit 1 none

end Audience.Sentence
