import CompactSchema.Power
import CompactSchema.Regex.Syntax
import CompactSchema.Unicode.Additions

/-
Reading regular expressions.

`SyntaxTree.read?` is `none` for a text that is no expression; why it is none is not
told.  Groups that are still open stand on a stack, so reading needs one pass.  Every
round of a loop consumes a character, and each loop is given as many rounds as there
are characters.
-/

namespace CompactSchema
namespace Regex

/-! ### Blanks and comments -/

def dropIgnored : Bool → List Char → List Char
  | _, [] => []
  | true, c :: rest => dropIgnored (c != '\n') rest
  | false, c :: rest =>
      if Unicode.WhiteSpace.isSpace c then dropIgnored false rest
      else if c = '#' then dropIgnored true rest
      else c :: rest

def skipBlanks (ignoring : Bool) (text : List Char) : List Char :=
  if ignoring then dropIgnored false text else text

/-- The character that decides whether a hyphen in a class is literal.  In a comment
it is the first character that is not white space. -/
def peekPast : Bool → List Char → Option Char
  | _, [] => none
  | inComment, c :: rest =>
      if Unicode.WhiteSpace.isSpace c then peekPast inComment rest
      else if !inComment && c == '#' then peekPast true rest
      else some c

def peekNext (ignoring : Bool) (text : List Char) : Option Char :=
  if ignoring then peekPast false text else text.head?

def dropText? : List Char → List Char → Option (List Char)
  | [], text => some text
  | c :: expected, d :: text => if c = d then dropText? expected text else none
  | _ :: _, [] => none

/-! ### Escapes -/

inductive Escape where
  | literal (char : Literal)
  | assertion (place : Assertion)
  | letter (negated : Bool) (kind : LetterClass)
  | property (negated : Bool) (query : CharSet.PropertyQuery)

def hexValue? (c : Char) : Option Nat :=
  if '0' ≤ c ∧ c ≤ '9' then some (c.toNat - '0'.toNat)
  else if 'a' ≤ c ∧ c ≤ 'f' then some (c.toNat - 'a'.toNat + 10)
  else if 'A' ≤ c ∧ c ≤ 'F' then some (c.toNat - 'A'.toNat + 10)
  else none

def charOfCode? (code : Nat) : Option Char :=
  if valid : code.isValidChar then some (Char.ofNatAux code valid) else none

def readHexDigits (ignoring : Bool) : Nat → Nat → List Char → Option (Nat × List Char)
  | 0, value, text => some (value, text)
  | _ + 1, _, [] => none
  | digits + 1, value, c :: rest =>
      match hexValue? c with
      | some digit => readHexDigits ignoring digits (value * 16 + digit) (skipBlanks ignoring rest)
      | none => none

def readHexBraced (ignoring : Bool) : Nat → Bool → Nat → List Char → Option (Nat × List Char)
  | 0, _, _, _ => none
  | rounds + 1, started, value, text =>
      match text with
      | [] => none
      | c :: rest =>
          if c = '\x7d' then
            if started then some (value, skipBlanks ignoring rest) else none
          else
            match hexValue? c with
            | some digit =>
                readHexBraced ignoring rounds true (value * 16 + digit) (skipBlanks ignoring rest)
            | none => none

def readHex (ignoring : Bool) (digits : Nat) (text : List Char) : Option (Escape × List Char) :=
  match skipBlanks ignoring text with
  | [] => none
  | c :: rest =>
      if c = '\x7b' then do
        let (value, rest) ←
          readHexBraced ignoring (rest.length + 1) false 0 (skipBlanks ignoring rest)
        let char ← charOfCode? value
        return (.literal ⟨char, false⟩, rest)
      else do
        let (value, rest) ← readHexDigits ignoring digits 0 (c :: rest)
        let char ← charOfCode? value
        return (.literal ⟨char, digits == 2⟩, rest)

def readPropertyName (ignoring : Bool) : Nat → List Char → List Char → Option (List Char × List Char)
  | 0, _, _ => none
  | rounds + 1, name, text =>
      match text with
      | [] => none
      | c :: rest =>
          if c = '\x7d' then some (name.reverse, rest)
          else readPropertyName ignoring rounds (c :: name) (skipBlanks ignoring rest)

def splitAt? (separator : List Char) : List Char → Option (List Char × List Char)
  | [] => none
  | c :: rest =>
      match dropText? separator (c :: rest) with
      | some behind => some ([], behind)
      | none => (splitAt? separator rest).map fun (front, behind) => (c :: front, behind)

/-- The query that a property name asks, and whether it is negated by itself. -/
def propertyQuery (name : List Char) : Bool × CharSet.PropertyQuery :=
  match splitAt? ['!', '='] name, splitAt? [':'] name, splitAt? ['='] name with
  | some (property, value), _, _ => (true, .value (.ofList property) (.ofList value))
  | none, some (property, value), _ => (false, .value (.ofList property) (.ofList value))
  | none, none, some (property, value) => (false, .value (.ofList property) (.ofList value))
  | none, none, none => (false, .name (.ofList name))

def readProperty (ignoring negated : Bool) (text : List Char) : Option (Escape × List Char) :=
  match skipBlanks ignoring text with
  | [] => none
  | c :: rest =>
      if c = '\x7b' then do
        let (name, rest) ←
          readPropertyName ignoring (rest.length + 1) [] (skipBlanks ignoring rest)
        let (inverse, query) := propertyQuery name
        return (.property (negated != inverse) query, rest)
      else if c = '\\' then
        none
      else
        some (.property negated (.name (.singleton c)), skipBlanks ignoring rest)

def isConditionChar (c : Char) : Bool := c.isAlpha || c == '-'

def readConditionName (ignoring : Bool) : Nat → List Char → List Char → List Char × List Char
  | 0, name, text => (name.reverse, text)
  | rounds + 1, name, text =>
      match text with
      | [] => (name.reverse, [])
      | c :: rest =>
          if isConditionChar c then
            readConditionName ignoring rounds (c :: name) (skipBlanks ignoring rest)
          else
            (name.reverse, c :: rest)

def wordCondition? (name : List Char) : Option Assertion :=
  match String.ofList name with
  | "start" => some .wordStart
  | "end" => some .wordEnd
  | "start-half" => some .wordStartHalf
  | "end-half" => some .wordEndHalf
  | _ => none

/-- Reads what follows the escape of a word boundary: perhaps the name of a
condition in braces, perhaps a counted repetition, which is left alone. -/
def readWordBoundary (ignoring : Bool) (text : List Char) : Option (Escape × List Char) :=
  match text with
  | '\x7b' :: rest =>
      match skipBlanks ignoring rest with
      | [] => none
      | c :: inner =>
          if isConditionChar c then
            let (name, behind) := readConditionName ignoring (inner.length + 1) [] (c :: inner)
            match behind with
            | '\x7d' :: behind => (wordCondition? name).map fun found => (.assertion found, behind)
            | _ => none
          else
            some (.assertion .wordBoundary, text)
  | _ => some (.assertion .wordBoundary, text)

/-- An ASCII character that is neither a letter nor a digit nor an angle bracket may
be escaped to stand for itself. -/
def isEscapable (c : Char) : Bool :=
  c.toNat < 128 && !c.isAlphanum && c != '<' && c != '>'

def readEscape (ignoring : Bool) : List Char → Option (Escape × List Char)
  | [] => none
  | c :: rest =>
      let char (c : Char) : Option (Escape × List Char) := some (.literal ⟨c, false⟩, rest)
      let place (assertion : Assertion) : Option (Escape × List Char) :=
        some (.assertion assertion, rest)
      if isEscapable c then char c
      else
        match c with
        | 'x' => readHex ignoring 2 rest
        | 'u' => readHex ignoring 4 rest
        | 'U' => readHex ignoring 8 rest
        | 'p' => readProperty ignoring false rest
        | 'P' => readProperty ignoring true rest
        | 'd' => some (.letter false .digit, rest)
        | 'D' => some (.letter true .digit, rest)
        | 's' => some (.letter false .space, rest)
        | 'S' => some (.letter true .space, rest)
        | 'w' => some (.letter false .word, rest)
        | 'W' => some (.letter true .word, rest)
        | 'a' => char '\x07'
        | 'f' => char '\x0c'
        | 't' => char '\t'
        | 'n' => char '\n'
        | 'r' => char '\r'
        | 'v' => char '\x0b'
        | 'A' => place .textStart
        | 'z' => place .textEnd
        | 'B' => place .noWordBoundary
        | '<' => place .wordStart
        | '>' => place .wordEnd
        | 'b' => readWordBoundary ignoring rest
        | _ => none

/-! ### Classes -/

def asciiClass? (name : List Char) : Option (List (Nat × Nat)) :=
  match String.ofList name with
  | "alnum" => some [(0x30, 0x39), (0x41, 0x5A), (0x61, 0x7A)]
  | "alpha" => some [(0x41, 0x5A), (0x61, 0x7A)]
  | "ascii" => some [(0x00, 0x7F)]
  | "blank" => some [(0x09, 0x09), (0x20, 0x20)]
  | "cntrl" => some [(0x00, 0x1F), (0x7F, 0x7F)]
  | "digit" => some [(0x30, 0x39)]
  | "graph" => some [(0x21, 0x7E)]
  | "lower" => some [(0x61, 0x7A)]
  | "print" => some [(0x20, 0x7E)]
  | "punct" => some [(0x21, 0x2F), (0x3A, 0x40), (0x5B, 0x60), (0x7B, 0x7E)]
  | "space" => some [(0x09, 0x0D), (0x20, 0x20)]
  | "upper" => some [(0x41, 0x5A)]
  | "word" => some [(0x30, 0x39), (0x41, 0x5A), (0x5F, 0x5F), (0x61, 0x7A)]
  | "xdigit" => some [(0x30, 0x39), (0x41, 0x46), (0x61, 0x66)]
  | _ => none

def readAsciiClass? (text : List Char) : Option (ClassTree × List Char) :=
  match text with
  | ':' :: rest => do
      let (negated, rest) :=
        match rest with
        | '^' :: rest => (true, rest)
        | rest => (false, rest)
      let found ← asciiClass? (rest.takeWhile (· ≠ ':'))
      let behind ← dropText? [':', ']'] (rest.dropWhile (· ≠ ':'))
      return (.ascii negated found, behind)
  | _ => none

/-- An open class or a class operation that waits for its right side.  Items stand
last first. -/
inductive ClassFrame where
  | opened (outer : List ClassTree) (negated : Bool)
  | operation (kind : ClassOperation) (left : ClassTree)

def readHyphens (ignoring : Bool) : Nat → List ClassTree → List Char →
    Option (List ClassTree × List Char)
  | 0, _, _ => none
  | rounds + 1, items, text =>
      match text with
      | [] => none
      | c :: rest =>
          if c = '-' then
            readHyphens ignoring rounds (.literal ⟨'-', false⟩ :: items) (skipBlanks ignoring rest)
          else
            some (items, c :: rest)

/-- Reads the beginning of a class behind its bracket: whether it is negated, and
the hyphens or the closing bracket that are literal there. -/
def openClass (ignoring : Bool) (text : List Char) : Option (Bool × List ClassTree × List Char) := do
  let (negated, text) :=
    match skipBlanks ignoring text with
    | '^' :: rest => (true, skipBlanks ignoring rest)
    | text => (false, text)
  let (items, text) ← readHyphens ignoring (text.length + 1) [] text
  match items, text with
  | [], ']' :: rest =>
      match skipBlanks ignoring rest with
      | [] => none
      | text => return (negated, [.literal ⟨']', false⟩], text)
  | items, text => return (negated, items, text)

def completeOperation (right : ClassTree) : List ClassFrame → ClassTree × List ClassFrame
  | .operation kind left :: outer => (.combined kind left right, outer)
  | stack => (right, stack)

def readClassItem (ignoring : Bool) : List Char → Option (Escape × List Char)
  | [] => none
  | '\\' :: rest => readEscape ignoring rest
  | c :: rest => some (.literal ⟨c, false⟩, rest)

def Escape.toItem? : Escape → Option ClassTree
  | .literal char => some (.literal char)
  | .letter negated kind => some (.letter negated kind)
  | .property negated query => some (.property negated query)
  | .assertion _ => none

def Escape.toLiteral? : Escape → Option Literal
  | .literal char => some char
  | _ => none

def readClassRange (ignoring : Bool) (text : List Char) : Option (ClassTree × List Char) := do
  let (low, rest) ← readClassItem ignoring text
  match skipBlanks ignoring rest with
  | [] => none
  | '-' :: behind =>
      let next := peekNext ignoring behind
      if next = some ']' ∨ next = some '-' then
        let item ← low.toItem?
        return (item, '-' :: behind)
      else
        let (high, rest) ← readClassItem ignoring (skipBlanks ignoring behind)
        let low ← low.toLiteral?
        let high ← high.toLiteral?
        if low.char ≤ high.char then return (.span low high, rest) else none
  | rest =>
      let item ← low.toItem?
      return (item, rest)

/-- Reads a class to its end.  The stack holds the classes and operations around the
items read so far. -/
def readClassLoop (ignoring : Bool) : Nat → List ClassFrame → List ClassTree → List Char →
    Option (Bool × ClassTree × List Char)
  | 0, _, _, _ => none
  | rounds + 1, stack, items, text =>
      let operate (kind : ClassOperation) (rest : List Char) :=
        let (left, stack) := completeOperation (.ofItems items.reverse) stack
        readClassLoop ignoring rounds (.operation kind left :: stack) [] rest
      match skipBlanks ignoring text with
      | [] => none
      | '[' :: rest =>
          match readAsciiClass? rest with
          | some (named, rest) => readClassLoop ignoring rounds stack (named :: items) rest
          | none => do
              let (negated, inner, rest) ← openClass ignoring rest
              readClassLoop ignoring rounds (.opened items negated :: stack) inner rest
      | ']' :: rest =>
          match completeOperation (.ofItems items.reverse) stack with
          | (contents, [.opened _ negated]) => some (negated, contents, rest)
          | (contents, .opened outer negated :: stack) =>
              readClassLoop ignoring rounds stack (.bracketed negated contents :: outer) rest
          | _ => none
      | '&' :: '&' :: rest => operate .intersection rest
      | '-' :: '-' :: rest => operate .difference rest
      | '~' :: '~' :: rest => operate .symmetricDifference rest
      | text => do
          let (item, rest) ← readClassRange ignoring text
          readClassLoop ignoring rounds stack (item :: items) rest

def readClass (ignoring : Bool) (text : List Char) : Option (SyntaxTree × List Char) := do
  let (negated, items, rest) ← openClass ignoring text
  let (negated, contents, rest) ←
    readClassLoop ignoring (rest.length + 1) [.opened [] negated] items rest
  return (.bracketed negated contents, rest)

/-! ### Repetitions -/

def readDigits (ignoring : Bool) : Nat → List Nat → List Char → List Nat × List Char
  | 0, digits, text => (digits.reverse, text)
  | rounds + 1, digits, text =>
      match text with
      | [] => (digits.reverse, [])
      | c :: rest =>
          if c.isDigit then
            readDigits ignoring rounds ((c.toNat - '0'.toNat) :: digits) (skipBlanks ignoring rest)
          else
            (digits.reverse, c :: rest)

def dropSpaces (ignoring : Bool) : Nat → List Char → List Char
  | 0, text => text
  | rounds + 1, text =>
      match text with
      | [] => []
      | c :: rest =>
          if Unicode.WhiteSpace.isSpace c then dropSpaces ignoring rounds (skipBlanks ignoring rest)
          else c :: rest

/-- Reads a count that may stand between blanks.  No digits, and a number of more
than 32 bits, are no count. -/
def readCount (ignoring : Bool) (text : List Char) : Option Nat × List Char :=
  let text := text.dropWhile Unicode.WhiteSpace.isSpace
  let (digits, rest) := readDigits ignoring text.length [] text
  let value := digits.foldl (fun value digit => value * 10 + digit) 0
  let count := if digits.isEmpty ∨ 2 ^ 32 ≤ value then none else some value
  (count, dropSpaces ignoring rest.length rest)

def readGreed : List Char → Bool × List Char
  | '?' :: rest => (false, rest)
  | text => (true, text)

def readCounts (ignoring : Bool) (text : List Char) : Option ((Nat × Option Nat) × List Char) := do
  let (least, rest) := readCount ignoring (skipBlanks ignoring text)
  let least ← least
  let (most, rest) ←
    match rest with
    | ',' :: rest =>
        match skipBlanks ignoring rest with
        | '\x7d' :: rest => some (none, '\x7d' :: rest)
        | rest =>
            let (most, rest) := readCount ignoring rest
            most.map fun most => (some most, rest)
    | rest => some (some least, rest)
  match rest with
  | '\x7d' :: rest =>
      if most.all (least ≤ ·) then return ((least, most), skipBlanks ignoring rest) else none
  | _ => none

/-! ### Groups -/

def readFlags : List Char → Bool → Bool → FlagChanges → Option (FlagChanges × Char × List Char)
  | [], _, _, _ => none
  | c :: rest, negated, dangling, changes =>
      if c = ':' ∨ c = ')' then
        if dangling then none else some (changes.reverse, c, rest)
      else if c = '-' then
        if negated then none else readFlags rest true true changes
      else
        match Flag.ofLetter? c with
        | some flag =>
            if changes.any (·.1 == flag) then none
            else readFlags rest negated false ((flag, !negated) :: changes)
        | none => none

def isLetter (c : Char) : Bool :=
  Unicode.inRanges c.toNat Unicode.BinaryProperty.alphabetic ||
    Unicode.inRanges c.toNat Unicode.Additions.alphabetic

def isNumeral (c : Char) : Bool :=
  Unicode.inRanges c.toNat Unicode.Additions.numeric ||
    (Unicode.GeneralCategory.ofCode c.toNat matches .decimalNumber | .letterNumber | .otherNumber)

def isNameChar (first : Bool) (c : Char) : Bool :=
  if first then c == '_' || isLetter c
  else c == '_' || c == '.' || c == '[' || c == ']' || isLetter c || isNumeral c

def readGroupName : List Char → List Char → Option (List Char × List Char)
  | [], _ => none
  | c :: rest, name =>
      if c = '>' then (if name.isEmpty then none else some (name.reverse, rest))
      else if isNameChar name.isEmpty c then readGroupName rest (c :: name)
      else none

inductive Opening where
  | capturing (name : Option (List Char)) (rest : List Char)
  | grouping (changes : FlagChanges) (rest : List Char)
  | directive (changes : FlagChanges) (rest : List Char)

/-- Reads what follows an opening parenthesis.  Conditions on the text around a
match are not expressions here. -/
def readOpening (ignoring : Bool) (text : List Char) : Option Opening :=
  match skipBlanks ignoring text with
  | '?' :: '=' :: _ | '?' :: '!' :: _ | '?' :: '<' :: '=' :: _ | '?' :: '<' :: '!' :: _ => none
  | '?' :: 'P' :: '<' :: rest | '?' :: '<' :: rest =>
      (readGroupName rest []).map fun (name, rest) => .capturing (some name) rest
  | '?' :: rest => do
      let (changes, last, behind) ← readFlags rest false false []
      if last = ':' then return .grouping changes behind
      else if rest.head? = some ')' then none
      else return .directive changes behind
  | text => some (.capturing none text)

/-- An open group, or an alternation with its branches so far.  Parts and branches
stand last first. -/
inductive Frame where
  | group (before : List SyntaxTree) (capturing : Bool) (changes : FlagChanges) (ignoring : Bool)
  | alternation (branches : List SyntaxTree)

structure Reading where
  ignoring : Bool
  parts : List SyntaxTree
  stack : List Frame
  names : List (List Char)

/-- The last setting of a flag among changes; the first change of it counts. -/
def setting? (flag : Flag) (changes : FlagChanges) : Option Bool := changes.lookup flag

namespace Reading

def push (reading : Reading) (part : SyntaxTree) : Reading :=
  { reading with parts := part :: reading.parts }

def body (reading : Reading) : SyntaxTree := .ofParts reading.parts.reverse

def openGroup (reading : Reading) (text : List Char) : Option (Reading × List Char) := do
  match ← readOpening reading.ignoring text with
  | .directive changes rest =>
      let ignoring := (setting? .ignoreBlanks changes).getD reading.ignoring
      return ({ reading with ignoring, parts := .flags changes :: reading.parts }, rest)
  | .grouping changes rest =>
      let ignoring := (setting? .ignoreBlanks changes).getD reading.ignoring
      let frame := Frame.group reading.parts false changes reading.ignoring
      return ({ reading with ignoring, parts := [], stack := frame :: reading.stack }, rest)
  | .capturing name rest =>
      let names ←
        match name with
        | none => some reading.names
        | some name => if reading.names.contains name then none else some (name :: reading.names)
      let frame := Frame.group reading.parts true [] reading.ignoring
      return ({ reading with parts := [], stack := frame :: reading.stack, names }, rest)

def alternate (reading : Reading) : Reading :=
  match reading.stack with
  | .alternation branches :: outer =>
      { reading with parts := [], stack := .alternation (reading.body :: branches) :: outer }
  | stack => { reading with parts := [], stack := .alternation [reading.body] :: stack }

/-- The branches or the single body read since the innermost group began, and the
frames around it. -/
def close (reading : Reading) : SyntaxTree × List Frame :=
  match reading.stack with
  | .alternation branches :: outer => (.ofBranches (reading.body :: branches).reverse, outer)
  | stack => (reading.body, stack)

def closeGroup (reading : Reading) : Option Reading :=
  match reading.close with
  | (body, .group before capturing changes ignoring :: outer) =>
      some { reading with ignoring, parts := .group capturing changes body :: before, stack := outer }
  | _ => none

def repeatLast (reading : Reading) (least : Nat) (most : Option Nat) (greedy : Bool) : Option Reading :=
  match reading.parts with
  | last :: before =>
      if last.repeatable then
        some { reading with parts := .repetition last least most greedy :: before }
      else
        none
  | [] => none

end Reading

def Escape.toTree : Escape → SyntaxTree
  | .literal char => .literal char
  | .assertion place => .assertion place
  | .letter negated kind => .letter negated kind
  | .property negated query => .property negated query

def readLoop : Nat → Reading → List Char → Option SyntaxTree
  | 0, _, _ => none
  | rounds + 1, reading, text =>
      let again (least : Nat) (most : Option Nat) (rest : List Char) : Option SyntaxTree := do
        let (greedy, rest) := readGreed rest
        let reading ← reading.repeatLast least most greedy
        readLoop rounds reading rest
      match skipBlanks reading.ignoring text with
      | [] =>
          match reading.close with
          | (tree, []) => some tree
          | _ => none
      | '(' :: rest => do
          let (reading, rest) ← reading.openGroup rest
          readLoop rounds reading rest
      | ')' :: rest => do
          let reading ← reading.closeGroup
          readLoop rounds reading rest
      | '|' :: rest => readLoop rounds reading.alternate rest
      | '[' :: rest => do
          let (tree, rest) ← readClass reading.ignoring rest
          readLoop rounds (reading.push tree) rest
      | '?' :: rest => again 0 (some 1) rest
      | '*' :: rest => again 0 none rest
      | '+' :: rest => again 1 none rest
      | '\x7b' :: rest => do
          let ((least, most), rest) ← readCounts reading.ignoring rest
          again least most rest
      | '\\' :: rest => do
          let (escape, rest) ← readEscape reading.ignoring rest
          readLoop rounds (reading.push escape.toTree) rest
      | '.' :: rest => readLoop rounds (reading.push .dot) rest
      | '^' :: rest => readLoop rounds (reading.push (.assertion .lineStart)) rest
      | '$' :: rest => readLoop rounds (reading.push (.assertion .lineEnd)) rest
      | c :: rest => readLoop rounds (reading.push (.literal ⟨c, false⟩)) rest

def SyntaxTree.read? (text : String) : Option SyntaxTree := do
  let chars := text.toList
  let tree ← readLoop (chars.length + 1) ⟨false, [], [], []⟩ chars
  if tree.depth ≤ SyntaxTree.depthLimit then some tree else none

end Regex
end CompactSchema
