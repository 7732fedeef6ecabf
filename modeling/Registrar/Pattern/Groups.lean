import Registrar.Pattern.Escapes

namespace Registrar.Pattern

open Registrar.Character

section Groups

def readFlagsOn (on : List Flag) (flag : Flag) : Nat → Reading (List Flag × Char)
  | 0 => failBack .missingFlagsEnd 0
  | n + 1 => do
    if flag = .locale then failBack .localeFlag 0
    let on := on ++ [flag]
    if flag.isType && on.any (fun other ↦ other.isType && other ≠ flag) then
      failBack .clashingFlags 0
    match ← next with
    | none => failBack .missingFlagsEnd 0
    | some (.plain c) =>
      if c = ')' || c = '-' || c = ':' then return (on, c)
      match Flag.ofChar? c with
      | some flag => readFlagsOn on flag n
      | none => failBack (if isLetter c then .unknownFlag else .missingFlagsEnd) 1
    | some (.escape _) => failBack .missingFlagsEnd 2

def readFlagsOff (off : List Flag) (flag : Flag) : Nat → Reading (List Flag)
  | 0 => failBack .missingColon 0
  | n + 1 => do
    if flag.isType then failBack .typeFlagOff 0
    let off := off ++ [flag]
    match ← next with
    | none => failBack .missingColon 0
    | some (.plain c) =>
      if c = ':' then return off
      match Flag.ofChar? c with
      | some flag => readFlagsOff off flag n
      | none => failBack (if isLetter c then .unknownFlag else .missingColon) 1
    | some (.escape _) => failBack .missingColon 2

def readFlags (c : Char) : Reading (List Flag ⊕ List Flag × List Flag) := do
  let bound := (← get).rest.length + 1
  let (on, stop) ← match Flag.ofChar? c with
    | some flag => readFlagsOn [] flag bound
    | none => pure ([], '-')
  if stop = ')' then return .inl on
  if on.contains .template then failBack .globalFlagOn 1
  let off ← if stop = '-' then
      match ← next with
      | none => failBack .missingFlag 0
      | some (.plain c) =>
        match Flag.ofChar? c with
        | some flag => readFlagsOff [] flag bound
        | none => failBack (if isLetter c then .unknownFlag else .missingFlag) 1
      | some (.escape _) => failBack .missingFlag 2
    else pure []
  if off.contains .template then failBack .globalFlagOff 1
  if on.any off.contains then failBack .flagOnAndOff 1
  return .inr (on, off)

def checkGroupName (name : String) : Reading Unit := do
  unless isGroupName name do failBack (.badGroupName name) (name.length + 1)

/-- The group with a name that stands before the token in view and one more character. -/
def namedGroup (name : String) : Reading Nat := do
  match (← get).names.index? name with
  | some index => return index
  | none => failBack (.unknownGroupName name) (name.length + 1)

def closeGroup (start : Nat) : Reading Unit := do
  unless ← skip ')' do failAt .unterminatedGroup start

def openGroup (name : Option String) : Reading Nat := do
  let progress ← get
  let index := progress.nextGroup
  let names ← match name with
    | none => pure progress.names
    | some name =>
      match progress.names.add? name index with
      | some names => pure names
      | none =>
        let earlier := (progress.names.index? name).getD 0
        failBack (.redefinedName name index earlier) (name.length + 1)
  set { progress with groups := progress.groups ++ [none], names }
  return index

def readNamedReference (flags : Flags) : Reading Node := do
  let name ← readUntil ')' "group name"
  checkGroupName name
  let index ← namedGroup name
  if ((← get).closedWidth? index).isNone then failBack .openGroup (name.length + 1)
  checkLookbehind index
  return .reference flags.charMode index

def groupLimit : Nat := Nat.pow 2 30 - 1

def readCondition : Reading Nat := do
  let name ← readUntil ')' "group name"
  let back := name.length + 1
  let index ← if isGroupName name then namedGroup name
    else
      match Text.integer? name.toList with
      | some (.ofNat index) =>
        if index = 0 then failBack .groupZero back
        if groupLimit ≤ index then failBack (.noSuchGroup index) back
        modify fun progress ↦
          if (progress.conditions.lookup index).isSome then progress
          else { progress with
            conditions := progress.conditions ++ [(index, progress.position - back)] }
        pure index
      | _ => failBack (.badGroupName name) back
  checkLookbehind index
  return index

def readComment (start : Nat) : Nat → Reading Unit
  | 0 => return
  | n + 1 => do
    match ← peek with
    | none => failAt .unterminatedComment start
    | some lexeme =>
      advance
      if lexeme = .plain ')' then return else readComment start n

/-- What a parenthesis opens, as far as it can be told before the content is read. -/
inductive GroupHead
  | capturing (name : Option String)
  | noncapturing (flags : Flags)
  | atomic
  | lookahead (negated : Bool)
  | lookbehind (negated : Bool)
  | conditional (index : Nat)
  | reference (node : Node)
  | comment
  | flags (on : List Flag)

def readGroupHead (flags : Flags) (start : Nat) : Reading GroupHead := do
  unless ← skip '?' do return .capturing none
  match ← next with
  | none => failBack .unexpectedEnd 0
  | some (.escape c) => failBack (.unknownExtension (String.ofList ['\\', c])) 3
  | some (.plain 'P') =>
    if ← skip '<' then
      let name ← readUntil '>' "group name"
      checkGroupName name
      return .capturing (some name)
    if ← skip '=' then return .reference (← readNamedReference flags)
    match ← next with
    | none => failBack .unexpectedEnd 0
    | some lexeme =>
      failBack (.unknownExtension (String.ofList ('P' :: lexeme.chars))) (lexeme.chars.length + 2)
  | some (.plain ':') => return .noncapturing flags
  | some (.plain '#') =>
    readComment start ((← get).rest.length + 1)
    return .comment
  | some (.plain '=') => return .lookahead false
  | some (.plain '!') => return .lookahead true
  | some (.plain '<') =>
    match ← next with
    | none => failBack .unexpectedEnd 0
    | some (.plain '=') => return .lookbehind false
    | some (.plain '!') => return .lookbehind true
    | some lexeme =>
      failBack (.unknownExtension (String.ofList ('<' :: lexeme.chars))) (lexeme.chars.length + 2)
  | some (.plain '(') => return .conditional (← readCondition)
  | some (.plain '>') => return .atomic
  | some (.plain c) =>
    if (Flag.ofChar? c).isSome || c = '-' then
      match ← readFlags c with
      | .inl on => return .flags on
      | .inr (on, off) => return .noncapturing (flags.within on off)
    else
      failBack (.unknownExtension (String.ofList [c])) 2

end Groups

end Registrar.Pattern
