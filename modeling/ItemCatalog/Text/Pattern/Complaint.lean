import ItemCatalog.Text.Quoted

/-! # Complaints: why a text is no pattern

A complaint says what is wrong; most name the place in the text where it was found, by the count of
characters before it, and in a text of several lines also by its line and column. -/

namespace ItemCatalog.Text

/-- What is wrong with the text of a pattern. -/
inductive Complaint where
  | badEnd
  | badEscape (escape : String)
  | shortEscape (escape : String)
  | largeOctal (escape : String)
  | openBrace
  | unknownCharacter (name : String)
  | unclosedSet
  | badRange (first last : String)
  | nothingToRepeat
  | repeatedTwice
  | wrongBounds
  | tooManyRounds
  | unclosedGroup
  | unclosedComment
  | unopenedGroup
  | unexpectedEnd
  | unknownExtension (start : String)
  | noName (what : String)
  | unclosedName (closer : String)
  | badName (name : String)
  | unknownName (name : String)
  | takenName (name : String) (new old : Nat)
  | badNumber
  | noGroup (n : Nat)
  | openGroup
  | groupOfLook
  | moreBranches
  | lateModes
  | oddModes
  | fixedModes
  | localeMode
  | bothWays
  | unknownMode
  | noMode (expected : String)
  | openWidth
deriving DecidableEq, Repr

namespace Complaint

/-- **The wording** of a complaint, without its place. -/
def wording : Complaint → String
  | .badEnd => "bad escape (end of pattern)"
  | .badEscape e => "bad escape " ++ e
  | .shortEscape e => "incomplete escape " ++ e
  | .largeOctal e => "octal escape value " ++ e ++ " outside of range 0-0o377"
  | .openBrace => "missing \x7b"
  | .unknownCharacter n => "undefined character name " ++ quote n
  | .unclosedSet => "unterminated character set"
  | .badRange a b => "bad character range " ++ a ++ "-" ++ b
  | .nothingToRepeat => "nothing to repeat"
  | .repeatedTwice => "multiple repeat"
  | .wrongBounds => "min repeat greater than max repeat"
  | .tooManyRounds => "the repetition number is too large"
  | .unclosedGroup => "missing ), unterminated subpattern"
  | .unclosedComment => "missing ), unterminated comment"
  | .unopenedGroup => "unbalanced parenthesis"
  | .unexpectedEnd => "unexpected end of pattern"
  | .unknownExtension s => "unknown extension ?" ++ s
  | .noName what => "missing " ++ what
  | .unclosedName closer => "missing " ++ closer ++ ", unterminated name"
  | .badName n => "bad character in group name " ++ quote n
  | .unknownName n => "unknown group name " ++ quote n
  | .takenName n new old =>
    "redefinition of group name " ++ quote n ++ s!" as group {new}; was group {old}"
  | .badNumber => "bad group number"
  | .noGroup n => s!"invalid group reference {n}"
  | .openGroup => "cannot refer to an open group"
  | .groupOfLook => "cannot refer to group defined in the same lookbehind subpattern"
  | .moreBranches => "conditional backref with more than two branches"
  | .lateModes => "global flags not at the start of the expression"
  | .oddModes => "bad inline flags: flags 'a', 'u' and 'L' are incompatible"
  | .fixedModes => "bad inline flags: cannot turn off flags 'a', 'u' and 'L'"
  | .localeMode => "bad inline flags: cannot use 'L' flag with a str pattern"
  | .bothWays => "bad inline flags: flag turned on and off"
  | .unknownMode => "unknown flag"
  | .noMode expected => "missing " ++ expected
  | .openWidth => "look-behind requires fixed-width pattern"

/-- The line and the column of a place, if the text has several lines. -/
def lineText (text : List Char) (place : Nat) : String :=
  if text.contains '\n' then
    let before := text.take place
    let column := (before.reverse.takeWhile (· != '\n')).length + 1
    let line := (before.filter (· == '\n')).length + 1
    s!" (line {line}, column {column})"
  else ""

/-- The wording of a complaint about a place of a text, if it has one. -/
def message (c : Complaint) (text : String) (place : Option Nat) : String :=
  match place with
  | some n => c.wording ++ s!" at position {n}" ++ lineText text.toList n
  | none => c.wording

end Complaint

end ItemCatalog.Text
