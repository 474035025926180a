import Outbox.Log.Line

/-!
# Log filters

A filter says up to which level lines are written, for the whole program or for the parts whose
path starts with some text. The directive with the longest such start decides, and a part without a
directive writes nothing. A filter that does not parse, and no filter, let everything up to `INFO`
through; an empty one lets only errors through.
-/

namespace Outbox.Log

/-- Up to which level the lines of some parts are written: up to the level of a rank, and none at
    all for rank zero. -/
structure Directive where
  /-- The start of the path; the empty one fits every part. -/
  target : String
  rank : Nat
  deriving DecidableEq, Repr

/-- The words for levels. -/
def levelWords : List (String × Nat) :=
  [("off", 0), ("error", 1), ("warn", 2), ("info", 3), ("debug", 4), ("trace", 5),
    ("0", 0), ("1", 1), ("2", 2), ("3", 3), ("4", 4), ("5", 5)]

/-- The rank that a word in letters of any case stands for. -/
def levelRank? (word : String) : Option Nat :=
  lookUp? (Text.lowercase word) levelWords

/-- Whether a character may occur in the path of a part. -/
def isPathChar (char : Char) : Bool :=
  char.isAlphanum || char = '_' || char = ':' || char = '-' || 0x7F < char.toNat

/-- Whether a text can be the path of a part. -/
def isPath (text : List Char) : Bool :=
  !text.isEmpty && text.all isPathChar

/-- Reads a directive: a level, a path, or a path and a level. A path without a level lets
    everything through. -/
def Directive.parse? (text : String) : Option Directive :=
  match levelRank? text with
  | some rank => some ⟨"", rank⟩
  | none =>
    let path := text.toList.takeWhile (· != '=')
    let target := String.ofList path
    if !isPath path then none
    else
      match text.toList.drop path.length with
      | [] => some ⟨target, Level.trace.rank⟩
      | ['='] => some ⟨target, Level.trace.rank⟩
      | _ :: level => (levelRank? (String.ofList level)).map fun rank => ⟨target, rank⟩

/-- The texts between commas, without the empty ones. -/
def directiveTexts (text : String) : List String :=
  (text.splitOn ",").filter (!·.isEmpty)

/-- Reads a filter. -/
def directivesOf? (text : String) : Option (List Directive) :=
  match directiveTexts text with
  | [] => some [⟨"", Level.error.rank⟩]
  | texts => texts.mapM Directive.parse?

/-- The filter for a text that may not be given. -/
def filterOf (text : Option String) : List Directive :=
  (text.bind directivesOf?).getD [⟨"", Level.info.rank⟩]

/-- Whether a text starts with another one. -/
def startsWith (text start : String) : Bool :=
  start.toList.isPrefixOf text.toList

/-- The better of two directives that fit: the one with the longer path, and of two equal ones the
    later one. -/
def moreSpecific (best : Option Directive) (directive : Directive) : Option Directive :=
  match best with
  | some held =>
    if held.target.length ≤ directive.target.length then some directive else some held
  | none => some directive

/-- Whether a filter lets a line through. -/
def passes (directives : List Directive) (line : Line) : Bool :=
  let fitting := directives.filter fun directive => startsWith line.target directive.target
  match fitting.foldl moreSpecific none with
  | some directive => line.level.rank ≤ directive.rank
  | none => false

end Outbox.Log
