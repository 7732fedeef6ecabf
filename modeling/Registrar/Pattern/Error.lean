import Registrar.Text.Notation

namespace Registrar.Pattern

inductive Reason
  | danglingBackslash
  | badEscape (text : String)
  | incompleteEscape (text : String)
  | octalTooLarge (text : String)
  | missingBrace
  | unknownCharacter (name : String)
  | openGroup
  | groupOfLookbehind
  | noSuchGroup (index : Nat)
  | unknownGroupName (name : String)
  | badGroupName (name : String)
  | groupZero
  | missingName (what : String)
  | unterminatedName (terminator : Char)
  | redefinedName (name : String) (index earlier : Nat)
  | unterminatedSet
  | badRange (least most : String)
  | reversedCounts
  | nothingToRepeat
  | multipleRepeat
  | unexpectedEnd
  | unknownExtension (text : String)
  | unterminatedComment
  | unterminatedGroup
  | thirdBranch
  | lateFlags
  | localeFlag
  | clashingFlags
  | missingFlagsEnd
  | unknownFlag
  | globalFlagOn
  | globalFlagOff
  | missingFlag
  | typeFlagOff
  | missingColon
  | flagOnAndOff
  | unbalanced
  | variableLookbehind
  | wideLookbehind
  | repeatInTemplate (greed : String)
  deriving DecidableEq, Repr

def Reason.message : Reason → String
  | danglingBackslash => "bad escape (end of pattern)"
  | badEscape text => s!"bad escape {text}"
  | incompleteEscape text => s!"incomplete escape {text}"
  | octalTooLarge text => s!"octal escape value {text} outside of range 0-0o377"
  | missingBrace => "missing \x7b"
  | unknownCharacter name => s!"undefined character name {Text.quoted name}"
  | openGroup => "cannot refer to an open group"
  | groupOfLookbehind => "cannot refer to group defined in the same lookbehind subpattern"
  | noSuchGroup index => s!"invalid group reference {index}"
  | unknownGroupName name => s!"unknown group name {Text.quoted name}"
  | badGroupName name => s!"bad character in group name {Text.quoted name}"
  | groupZero => "bad group number"
  | missingName what => s!"missing {what}"
  | unterminatedName terminator => s!"missing {terminator}, unterminated name"
  | redefinedName name index earlier =>
    s!"redefinition of group name {Text.quoted name} as group {index}; was group {earlier}"
  | unterminatedSet => "unterminated character set"
  | badRange least most => s!"bad character range {least}-{most}"
  | reversedCounts => "min repeat greater than max repeat"
  | nothingToRepeat => "nothing to repeat"
  | multipleRepeat => "multiple repeat"
  | unexpectedEnd => "unexpected end of pattern"
  | unknownExtension text => s!"unknown extension ?{text}"
  | unterminatedComment => "missing ), unterminated comment"
  | unterminatedGroup => "missing ), unterminated subpattern"
  | thirdBranch => "conditional backref with more than two branches"
  | lateFlags => "global flags not at the start of the expression"
  | localeFlag => "bad inline flags: cannot use 'L' flag with a str pattern"
  | clashingFlags => "bad inline flags: flags 'a', 'u' and 'L' are incompatible"
  | missingFlagsEnd => "missing -, : or )"
  | unknownFlag => "unknown flag"
  | globalFlagOn => "bad inline flags: cannot turn on global flag"
  | globalFlagOff => "bad inline flags: cannot turn off global flag"
  | missingFlag => "missing flag"
  | typeFlagOff => "bad inline flags: cannot turn off flags 'a', 'u' and 'L'"
  | missingColon => "missing :"
  | flagOnAndOff => "bad inline flags: flag turned on and off"
  | unbalanced => "unbalanced parenthesis"
  | variableLookbehind => "look-behind requires fixed-width pattern"
  | wideLookbehind => "looks too much behind"
  | repeatInTemplate greed => s!"internal: unsupported template operator {greed}"

inductive Error
  /-- A rule is broken, at a position of the source if there is one to name. -/
  | malformed (source : String) (reason : Reason) (position : Option Nat)
  | countTooLarge
  | countTooLong (digits : Nat)
  | codeTooLarge
  | asciiAndUnicode
  | nestedTooDeep
  deriving DecidableEq, Repr

def malformedMessage (source : String) (reason : Reason) : Option Nat → String
  | none => reason.message
  | some position =>
    let chars := source.toList
    let place := s!"{reason.message} at position {position}"
    if chars.contains '\n' then
      s!"{place} (line {Text.lineAt chars position}, column {Text.columnAt chars position})"
    else place

def Error.message : Error → String
  | malformed source reason position => malformedMessage source reason position
  | countTooLarge => "the repetition number is too large"
  | countTooLong digits => Text.tooManyDigits digits
  | codeTooLarge => "Python int too large to convert to C int"
  | asciiAndUnicode => "ASCII and UNICODE flags are incompatible"
  | nestedTooDeep => "maximum recursion depth exceeded"

inductive Lexeme
  | plain (c : Char)
  | escape (c : Char)
  deriving DecidableEq, Repr

def Lexeme.chars : Lexeme → List Char
  | plain c => [c]
  | escape c => ['\\', c]

def Lexeme.text (lexeme : Lexeme) : String := String.ofList lexeme.chars

structure Token where
  lexeme : Lexeme
  position : Nat
  deriving Repr

/-- Cuts characters into tokens, counting positions from `position`. A backslash that ends the
text belongs to no token and is reported by the flag. -/
def tokens (position : Nat) : List Char → List Token × Bool
  | [] => ([], false)
  | ['\\'] => ([], true)
  | '\\' :: c :: rest =>
    let (more, dangling) := tokens (position + 2) rest
    (⟨.escape c, position⟩ :: more, dangling)
  | c :: rest =>
    let (more, dangling) := tokens (position + 1) rest
    (⟨.plain c, position⟩ :: more, dangling)

end Registrar.Pattern
