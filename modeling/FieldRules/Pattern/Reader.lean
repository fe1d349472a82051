import FieldRules.Pattern.Expression
import FieldRules.Text.Blank
import FieldRules.Unicode.Additions

/-!
# Reading patterns

A cursor stands before the rest of the pattern. Under the flag for blanks, white space and comments
between the parts of a pattern are skipped. `Expression.read` reads a whole pattern; parts may nest
to a depth of `nestingLimit`.
-/

namespace FieldRules.Pattern

/-- The rest of a pattern, the group names used so far, and whether blanks are skipped. -/
structure Cursor where
  rest : List Char
  names : List (List Char)
  skipBlanks : Bool

namespace Cursor

def moveTo (cur : Cursor) (rest : List Char) : Cursor := { cur with rest }

/-- Skips white space and comments, which go from a hash to the end of the line. -/
def blanksFrom : (inComment : Bool) → List Char → List Char
  | _, [] => []
  | true, c :: cs => blanksFrom (c ≠ '\n') cs
  | false, c :: cs =>
    if Text.isBlank c then blanksFrom false cs
    else if c = '#' then blanksFrom true cs
    else c :: cs

def afterBlanks (cur : Cursor) : Cursor :=
  if cur.skipBlanks then cur.moveTo (blanksFrom false cur.rest) else cur

def next (cur : Cursor) : Cursor := (cur.moveTo (cur.rest.drop 1)).afterBlanks

/-- The character after the present one, over blanks and a hash where blanks are skipped. -/
def peek (cur : Cursor) : Option Char :=
  let after := cur.rest.drop 1
  if cur.skipBlanks then
    let after := after.dropWhile Text.isBlank
    let after := if after.head? = some '#' then after.drop 1 else after
    (after.dropWhile Text.isBlank).head?
  else after.head?

end Cursor

def hexDigit? (c : Char) : Option Nat :=
  if c.isDigit then some (c.toNat - 48)
  else if 'a' ≤ c ∧ c ≤ 'f' then some (c.toNat - 87)
  else if 'A' ≤ c ∧ c ≤ 'F' then some (c.toNat - 55)
  else none

def charOfNumber? (n : Nat) : Option Char := if n.isValidChar then some (Char.ofNat n) else none

def readHexDigits : (count value : Nat) → Cursor → Except Fault (Nat × Cursor)
  | 0, value, cur => .ok (value, cur)
  | count + 1, value, cur =>
    match cur.rest.head?.bind hexDigit? with
    | some d => readHexDigits count (value * 16 + d) cur.next
    | none => .error .escape

def readHexBraced : (fuel : Nat) → List Nat → Cursor → Except Fault (List Nat × Cursor)
  | 0, _, _ => .error .escape
  | fuel + 1, done, cur =>
    match cur.rest with
    | '\x7d' :: _ => .ok (done.reverse, cur.next)
    | c :: _ =>
      match hexDigit? c with
      | some d => readHexBraced fuel (d :: done) cur.next
      | none => .error .escape
    | [] => .error .escape

/-- Reads the number of an escaped character; the cursor stands after the letter of the escape. -/
def readHexEscape (digits : Nat) (cur : Cursor) : Except Fault (Expression × Cursor) := do
  match cur.rest with
  | '\x7b' :: _ =>
    let (ds, cur) ← readHexBraced (cur.rest.length + 1) [] cur.next
    match ds, charOfNumber? (ds.foldl (fun n d => n * 16 + d) 0) with
    | _ :: _, some c => .ok (.literal c false, cur)
    | _, _ => .error .escape
  | _ =>
    let (n, cur) ← readHexDigits digits 0 cur
    match charOfNumber? n with
    | some c => .ok (.literal c (digits = 2), cur)
    | none => .error .escape

/-- Splits a property name in braces at its first operator. -/
def propertyOf (negated : Bool) (name : List Char) : Expression :=
  let before (p : List Char → Bool) : Option (List Char × List Char) :=
    (List.range name.length).findSome? fun i =>
      if p (name.drop i) then some (name.take i, name.drop i) else none
  let text := String.ofList
  match before fun cs => cs.take 2 = ['!', '='] with
  | some (property, rest) => .property (!negated) (.valued (text property) (text (rest.drop 2)))
  | none =>
    match before (fun cs => cs.head? = some ':') <|> before (fun cs => cs.head? = some '=') with
    | some (property, rest) => .property negated (.valued (text property) (text (rest.drop 1)))
    | none => .property negated (.named (text name))

def readPropertyName : (fuel : Nat) → List Char → Cursor → Except Fault (List Char × Cursor)
  | 0, _, _ => .error .escape
  | fuel + 1, done, cur =>
    match cur.rest with
    | '\x7d' :: rest => .ok (done.reverse, cur.moveTo rest)
    | c :: _ => readPropertyName fuel (c :: done) cur.next
    | [] => .error .escape

def readProperty (negated : Bool) (cur : Cursor) : Except Fault (Expression × Cursor) := do
  match cur.rest with
  | [] => .error .escape
  | '\x7b' :: _ =>
    let (name, cur) ← readPropertyName (cur.rest.length + 1) [] cur.next
    .ok (propertyOf negated name, cur)
  | '\\' :: _ => .error .escape
  | c :: _ => .ok (.property negated (.named (String.ofList [c])), cur.next)

def isWordAssertionChar (c : Char) : Bool := c.isAlpha || c = '-'

def readAssertionName : (fuel : Nat) → List Char → Cursor → List Char × Cursor
  | 0, done, cur => (done.reverse, cur)
  | fuel + 1, done, cur =>
    match cur.rest with
    | c :: _ =>
      if isWordAssertionChar c then readAssertionName fuel (c :: done) cur.next
      else (done.reverse, cur)
    | [] => (done.reverse, cur)

def wordAssertion? : String → Option Assertion
  | "start" => some .wordStart
  | "end" => some .wordEnd
  | "start-half" => some .wordStartHalf
  | "end-half" => some .wordEndHalf
  | _ => none

/-- Reads what follows the escape of a word boundary: a name in braces, or else nothing. -/
def readWordBoundary (cur : Cursor) : Except Fault (Expression × Cursor) :=
  match cur.rest with
  | '\x7b' :: _ =>
    let inside := cur.next
    match inside.rest with
    | [] => .error .escape
    | c :: _ =>
      if isWordAssertionChar c then
        let (name, after) := readAssertionName inside.rest.length [] inside
        match after.rest, wordAssertion? (String.ofList name) with
        | '\x7d' :: rest, some kind => .ok (.assertion kind, after.moveTo rest)
        | _, _ => .error .escape
      else .ok (.assertion .wordBoundary, cur)
  | _ => .ok (.assertion .wordBoundary, cur)

/-- The punctuation and controls of ASCII stand for themselves after a backslash, except angle
brackets. -/
def isEscapable (c : Char) : Bool := c.toNat < 128 && !c.isAlphanum && c ≠ '<' && c ≠ '>'

def readEscape (cur : Cursor) : Except Fault (Expression × Cursor) :=
  match cur.rest with
  | [] => .error .escape
  | c :: rest =>
    let after := cur.moveTo rest
    if isEscapable c then .ok (.literal c false, after)
    else match c with
    | 'x' => readHexEscape 2 cur.next
    | 'u' => readHexEscape 4 cur.next
    | 'U' => readHexEscape 8 cur.next
    | 'p' => readProperty false cur.next
    | 'P' => readProperty true cur.next
    | 'd' => .ok (.shorthand false .digit, after)
    | 'D' => .ok (.shorthand true .digit, after)
    | 's' => .ok (.shorthand false .space, after)
    | 'S' => .ok (.shorthand true .space, after)
    | 'w' => .ok (.shorthand false .word, after)
    | 'W' => .ok (.shorthand true .word, after)
    | 'a' => .ok (.literal (Char.ofNat 7) false, after)
    | 'f' => .ok (.literal (Char.ofNat 12) false, after)
    | 't' => .ok (.literal '\t' false, after)
    | 'n' => .ok (.literal '\n' false, after)
    | 'r' => .ok (.literal '\r' false, after)
    | 'v' => .ok (.literal (Char.ofNat 11) false, after)
    | 'A' => .ok (.assertion .textStart, after)
    | 'z' => .ok (.assertion .textEnd, after)
    | 'b' => readWordBoundary after
    | 'B' => .ok (.assertion .notWordBoundary, after)
    | '<' => .ok (.assertion .wordStart, after)
    | '>' => .ok (.assertion .wordEnd, after)
    | _ => .error .escape

def posixRanges? : String → Option (List (Nat × Nat))
  | "alnum" => some [(48, 57), (65, 90), (97, 122)]
  | "alpha" => some [(65, 90), (97, 122)]
  | "ascii" => some [(0, 127)]
  | "blank" => some [(9, 9), (32, 32)]
  | "cntrl" => some [(0, 31), (127, 127)]
  | "digit" => some [(48, 57)]
  | "graph" => some [(33, 126)]
  | "lower" => some [(97, 122)]
  | "print" => some [(32, 126)]
  | "punct" => some [(33, 47), (58, 64), (91, 96), (123, 126)]
  | "space" => some [(9, 13), (32, 32)]
  | "upper" => some [(65, 90)]
  | "word" => some [(48, 57), (65, 90), (95, 95), (97, 122)]
  | "xdigit" => some [(48, 57), (65, 70), (97, 102)]
  | _ => none

def posixClass? : List Char → Option (ClassItem × List Char)
  | ':' :: cs =>
    let negated := cs.head? = some '^'
    let cs := if negated then cs.drop 1 else cs
    match cs.span (· ≠ ':') with
    | (name, ':' :: ']' :: rest) =>
      (posixRanges? (String.ofList name)).map fun ranges => (.posix negated ranges, rest)
    | _ => none
  | _ => none

def classItem? : Expression → Option ClassItem
  | .literal c _ => some (.literal c)
  | .shorthand negated kind => some (.shorthand negated kind)
  | .property negated name => some (.property negated name)
  | _ => none

def readClassElement (cur : Cursor) : Except Fault (Expression × Cursor) :=
  match cur.rest with
  | [] => .error .unclosedClass
  | '\\' :: rest => readEscape (cur.moveTo rest)
  | c :: rest => .ok (.literal c false, cur.moveTo rest)

def readClassRange (cur : Cursor) : Except Fault (ClassItem × Cursor) := do
  let (first, cur) ← readClassElement cur
  let cur := cur.afterBlanks
  let single : Except Fault (ClassItem × Cursor) :=
    match classItem? first with
    | some item => .ok (item, cur)
    | none => .error .escape
  match cur.rest with
  | [] => .error .unclosedClass
  | '-' :: _ =>
    if cur.peek = some ']' ∨ cur.peek = some '-' then single
    else
      let (last, cur) ← readClassElement cur.next
      match first, last with
      | .literal a _, .literal b _ =>
        if a ≤ b then .ok (.range a b, cur) else .error .classRange
      | _, _ => .error .classRange
  | _ => single

def readHyphens : (fuel : Nat) → List ClassItem → Cursor → List ClassItem × Cursor
  | 0, items, cur => (items, cur)
  | fuel + 1, items, cur =>
    match cur.rest with
    | '-' :: _ => readHyphens fuel (.literal '-' :: items) cur.next
    | _ => (items, cur)

/-- Reads the opening of a class after its bracket: a negation, hyphens, and a closing bracket that
comes first and stands for itself. The items come last first. -/
def readClassOpening (cur : Cursor) : Except Fault ((Bool × List ClassItem) × Cursor) :=
  let cur := cur.afterBlanks
  let negated := cur.rest.head? = some '^'
  let cur := if negated then cur.next else cur
  let (items, cur) := readHyphens cur.rest.length [] cur
  match items, cur.rest with
  | _, [] => .error .unclosedClass
  | [], ']' :: _ =>
    let cur := cur.next
    if cur.rest.isEmpty then .error .unclosedClass
    else .ok ((negated, [.literal ']']), cur)
  | items, _ => .ok ((negated, items), cur)

/-- The left side of a set operation that waits for its right side. -/
abbrev Pending := Option (SetOperator × ClassItem)

def Pending.close (pending : Pending) (items : List ClassItem) : ClassItem :=
  let right := ClassItem.ofList items.reverse
  match pending with
  | some (operator, left) => .binary operator left right
  | none => right

def readClass :
    (fuel : Nat) → Pending → List ClassItem → Cursor → Except Fault (ClassItem × Cursor)
  | 0, _, _, _ => .error .unclosedClass
  | fuel + 1, pending, items, cur =>
    let cur := cur.afterBlanks
    match cur.rest with
    | [] => .error .unclosedClass
    | ']' :: rest => .ok (pending.close items, cur.moveTo rest)
    | '[' :: rest =>
      match posixClass? rest with
      | some (item, rest) => readClass fuel pending (item :: items) (cur.moveTo rest)
      | none => do
        let ((negated, first), cur) ← readClassOpening (cur.moveTo rest)
        let (item, cur) ← readClass fuel none first cur
        readClass fuel pending (.bracketed negated item :: items) cur
    | '&' :: '&' :: rest =>
      readClass fuel (some (.intersection, pending.close items)) [] (cur.moveTo rest)
    | '-' :: '-' :: rest =>
      readClass fuel (some (.difference, pending.close items)) [] (cur.moveTo rest)
    | '~' :: '~' :: rest =>
      readClass fuel (some (.symmetricDifference, pending.close items)) [] (cur.moveTo rest)
    | _ => do
      let (item, cur) ← readClassRange cur
      readClass fuel pending (item :: items) cur

def dropBlanks (cur : Cursor) : Cursor := cur.moveTo (cur.rest.dropWhile Text.isBlank)

def readDigits : (fuel : Nat) → List Char → Cursor → List Char × Cursor
  | 0, done, cur => (done.reverse, cur)
  | fuel + 1, done, cur =>
    match cur.rest with
    | c :: _ => if c.isDigit then readDigits fuel (c :: done) cur.next else (done.reverse, cur)
    | [] => (done.reverse, cur)

def maxCount : Nat := 0xFFFFFFFF

def readCount (cur : Cursor) : Except Fault (Nat × Cursor) :=
  let (digits, cur) := readDigits cur.rest.length [] (dropBlanks cur)
  let n := digits.foldl (fun n c => n * 10 + (c.toNat - 48)) 0
  if digits.isEmpty || maxCount < n then .error .repetitionCount else .ok (n, dropBlanks cur)

def readBounds (cur : Cursor) : Except Fault ((Nat × Option Nat) × Cursor) := do
  let (least, cur) ← readCount cur
  let (most, cur) ←
    match cur.rest with
    | ',' :: _ =>
      let cur := cur.next
      match cur.rest with
      | '\x7d' :: _ => .ok (none, cur)
      | _ => do
        let (most, cur) ← readCount cur
        pure (some most, cur)
    | _ => .ok (some least, cur)
  match cur.rest with
  | '\x7d' :: _ =>
    if most.all (least ≤ ·) then .ok ((least, most), cur.next) else .error .repetitionCount
  | _ => .error .repetitionCount

/-- Repeats the last of the parts read so far, which come last first. A question mark after the
operator makes the repetition lazy. -/
def repeatLast (parts : List Expression) (least : Nat) (most : Option Nat) (cur : Cursor) :
    Except Fault (List Expression × Cursor) :=
  let isLazy := cur.rest.head? == some '?'
  let cur := if isLazy then cur.moveTo (cur.rest.drop 1) else cur
  match parts with
  | [] => .error .nothingToRepeat
  | .flags _ :: _ => .error .nothingToRepeat
  | .empty :: _ => .error .nothingToRepeat
  | part :: parts => .ok (.repetition part least most isLazy :: parts, cur)

def flag? : Char → Option Flag
  | 'i' => some .ignoreCase
  | 'm' => some .multiLine
  | 's' => some .dotMatchesNewline
  | 'U' => some .swapGreed
  | 'u' => some .unicode
  | 'x' => some .skipBlanks
  | 'R' => some .crlf
  | _ => none

/-- Reads flags up to a colon or a closing parenthesis. A flag is given once, and a minus sign once
and not at the end. -/
def readFlags :
    (fuel : Nat) → (negated : Bool) → FlagChange → Cursor → Except Fault (FlagChange × Cursor)
  | 0, _, _, _ => .error .flags
  | fuel + 1, negated, change, cur =>
    match cur.rest with
    | [] => .error .unclosedGroup
    | c :: rest =>
      if c = ':' ∨ c = ')' then .ok (change, cur)
      else if c = '-' then
        if negated ∨ rest.head? = some ':' ∨ rest.head? = some ')' then .error .flags
        else readFlags fuel true change (cur.moveTo rest)
      else
        match flag? c with
        | none => .error .flags
        | some flag =>
          if change.any fun f => f.1 = flag then .error .flags
          else readFlags fuel negated (change ++ [(flag, !negated)]) (cur.moveTo rest)

def isGroupNameChar (first : Bool) (c : Char) : Bool :=
  if first then c = '_' || Unicode.nameLetters.contains c
  else c = '_' || c = '.' || c = '[' || c = ']' || Unicode.nameCharacters.contains c

/-- Reads the name of a group up to its closing angle bracket. No two groups share a name. -/
def readGroupName (cur : Cursor) : Except Fault Cursor :=
  match cur.rest.span (· ≠ '>') with
  | (c :: cs, '>' :: rest) =>
    let name := c :: cs
    if isGroupNameChar true c && cs.all (isGroupNameChar false) && !cur.names.contains name then
      .ok ⟨rest, name :: cur.names, cur.skipBlanks⟩
    else .error .groupName
  | _ => .error .groupName

inductive GroupOpening
  | flagsOnly (change : FlagChange)
  | group (captures : Bool) (change : FlagChange)

def FlagChange.skipsBlanks (change : FlagChange) (now : Bool) : Bool :=
  match change.find? fun f => f.1 = .skipBlanks with
  | some f => f.2
  | none => now

def readGroupOpening (cur : Cursor) : Except Fault (GroupOpening × Cursor) := do
  let cur := cur.afterBlanks
  match cur.rest with
  | '?' :: '=' :: _ => .error .lookAround
  | '?' :: '!' :: _ => .error .lookAround
  | '?' :: '<' :: '=' :: _ => .error .lookAround
  | '?' :: '<' :: '!' :: _ => .error .lookAround
  | '?' :: 'P' :: '<' :: rest => .ok (.group true [], ← readGroupName (cur.moveTo rest))
  | '?' :: '<' :: rest => .ok (.group true [], ← readGroupName (cur.moveTo rest))
  | '?' :: rest =>
    let (change, cur) ← readFlags (rest.length + 1) false [] (cur.moveTo rest)
    match cur.rest with
    | ')' :: rest =>
      if change.isEmpty then .error .nothingToRepeat else .ok (.flagsOnly change, cur.moveTo rest)
    | _ => .ok (.group false change, cur.moveTo (cur.rest.drop 1))
  | _ => .ok (.group true [], cur)

def branchOf (parts : List Expression) : Expression := .ofParts parts.reverse

/-- Reads alternatives up to a closing parenthesis or the end. Branches, and the parts of the
present branch, come last first. -/
def readBranches :
    (fuel : Nat) → (branches parts : List Expression) → Cursor → Except Fault (Expression × Cursor)
  | 0, _, _, _ => .error .unclosedGroup
  | fuel + 1, branches, parts, cur =>
    let cur := cur.afterBlanks
    match cur.rest with
    | [] => .ok (.ofBranches (branchOf parts :: branches).reverse, cur)
    | ')' :: _ => .ok (.ofBranches (branchOf parts :: branches).reverse, cur)
    | '|' :: rest => readBranches fuel (branchOf parts :: branches) [] (cur.moveTo rest)
    | '(' :: rest => do
      let (opening, cur) ← readGroupOpening (cur.moveTo rest)
      match opening with
      | .flagsOnly change =>
        readBranches fuel branches (.flags change :: parts)
          { cur with skipBlanks := change.skipsBlanks cur.skipBlanks }
      | .group captures change =>
        let inside := { cur with skipBlanks := change.skipsBlanks cur.skipBlanks }
        let (body, after) ← readBranches fuel [] [] inside
        match after.rest with
        | ')' :: rest =>
          readBranches fuel branches (.group captures change body :: parts)
            ⟨rest, after.names, cur.skipBlanks⟩
        | _ => .error .unclosedGroup
    | '[' :: rest => do
      let ((negated, first), cur) ← readClassOpening (cur.moveTo rest)
      let (item, cur) ← readClass (cur.rest.length + 1) none first cur
      readBranches fuel branches (.characterClass negated item :: parts) cur
    | '?' :: rest => do
      let (parts, cur) ← repeatLast parts 0 (some 1) (cur.moveTo rest)
      readBranches fuel branches parts cur
    | '*' :: rest => do
      let (parts, cur) ← repeatLast parts 0 none (cur.moveTo rest)
      readBranches fuel branches parts cur
    | '+' :: rest => do
      let (parts, cur) ← repeatLast parts 1 none (cur.moveTo rest)
      readBranches fuel branches parts cur
    | '\x7b' :: _ => do
      let ((least, most), cur) ← readBounds cur.next
      let (parts, cur) ← repeatLast parts least most cur
      readBranches fuel branches parts cur
    | '\\' :: rest => do
      let (part, cur) ← readEscape (cur.moveTo rest)
      readBranches fuel branches (part :: parts) cur
    | '.' :: rest => readBranches fuel branches (.anyChar :: parts) (cur.moveTo rest)
    | '^' :: rest => readBranches fuel branches (.assertion .lineStart :: parts) (cur.moveTo rest)
    | '$' :: rest => readBranches fuel branches (.assertion .lineEnd :: parts) (cur.moveTo rest)
    | c :: rest => readBranches fuel branches (.literal c false :: parts) (cur.moveTo rest)

def nestingLimit : Nat := 250

/-- Reads a whole pattern. Every call reads a character, so the length of the pattern bounds the
depth of calls. -/
def Expression.read (source : String) : Except Fault Expression := do
  let cs := source.toList
  let (e, cur) ← readBranches (cs.length + 1) [] [] ⟨cs, [], false⟩
  if !cur.rest.isEmpty then .error .unopenedGroup
  else if nestingLimit < e.depth then .error .nestedTooDeep
  else .ok e

end FieldRules.Pattern
