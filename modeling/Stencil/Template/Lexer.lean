import Stencil.Engine
import Stencil.Template.Token
import Stencil.Text.Blank

namespace Stencil.Template

open Text

/-- What a tag does to the white space beside it: a minus sign removes all of it, a plus sign keeps
all of it, and otherwise the configuration decides. -/
inductive Control where
  | configured
  | remove
  | keep
deriving DecidableEq, Repr

namespace Control

def ofHead : List Char → Control
  | '-' :: _ => remove
  | '+' :: _ => keep
  | _ => configured

def width : Control → Nat
  | configured => 0
  | _ => 1

end Control

inductive TagKind where
  | output
  | block
  | comment
deriving DecidableEq, Repr

/-- A place in a source, with the text before it in reverse. -/
structure Cursor where
  rest : List Char
  seen : List Char := []
  line : Nat := 1

namespace Cursor

def advance (cursor : Cursor) (n : Nat) : Cursor :=
  let passed := cursor.rest.take n
  ⟨cursor.rest.drop n, passed.reverseAux cursor.seen, cursor.line + passed.count '\n'⟩

def skipBlanks (cursor : Cursor) : Cursor :=
  cursor.advance (cursor.rest.takeWhile isBlank).length

/-- Passes one line break, written as one character or as two. -/
def skipLineBreak (cursor : Cursor) : Cursor :=
  match cursor.rest with
  | '\r' :: '\n' :: _ => cursor.advance 2
  | '\r' :: _ | '\n' :: _ => cursor.advance 1
  | _ => cursor

/-- The place from which text goes on behind the end of a block or comment. -/
def skipAfter (whitespace : Whitespace) (control : Control) (cursor : Cursor) : Cursor :=
  match control with
  | .keep => cursor
  | .remove => cursor.skipBlanks
  | .configured => if whitespace.trimBlocks then cursor.skipLineBreak else cursor

end Cursor

/-- The next opening of a tag: how much text stands before it, and what it opens. -/
def findOpening (passed : Nat) : List Char → Option (Nat × TagKind)
  | '{' :: '{' :: _ => some (passed, .output)
  | '{' :: '%' :: _ => some (passed, .block)
  | '{' :: '#' :: _ => some (passed, .comment)
  | _ :: rest => findOpening (passed + 1) rest
  | [] => none

def findText (sought : List Char) (passed : Nat) : List Char → Option Nat
  | [] => none
  | c :: rest => if sought.isPrefixOf (c :: rest) then some passed else findText sought (passed + 1) rest

/-- Whether only blanks stand between the start of a line and a place, whose text before it is
given in reverse. A carriage return alone starts no line. -/
def onlyBlanksBefore : List Char → Bool
  | [] => true
  | c :: seen => c == '\n' || (isBlank c && !isLineBreak c && onlyBlanksBefore seen)

/-- Text without the blanks at its end, if they are the start of a line. -/
def stripLineStart (text : List Char) : List Char :=
  let stripped := trimEndBy (fun c => isBlank c && !isLineBreak c) text
  match stripped.getLast? with
  | none | some '\n' => stripped
  | some _ => text

/-- Text before the opening of a tag, as the tag leaves it. -/
def textBefore (whitespace : Whitespace) (kind : TagKind) (control : Control) (lead seen : List Char) :
    List Char :=
  match control with
  | .remove => trimEnd lead
  | .keep => lead
  | .configured =>
    if whitespace.lstripBlocks && kind != .output && onlyBlanksBefore (lead.reverse ++ seen) then
      stripLineStart lead
    else lead

/-- Reads the inside of a block tag of a single word, up to its end. The answer is the length and
what the end does to the white space behind it. -/
def readWordTag (word : List Char) (cs : List Char) : Option (Nat × Control) :=
  let lead := cs.takeWhile isTagBlank
  let inner := cs.drop lead.length
  if word.isPrefixOf inner then
    let behind := inner.drop word.length
    let tail := behind.takeWhile isTagBlank
    let after := behind.drop tail.length
    let control := Control.ofHead after
    if ['%', '}'].isPrefixOf (after.drop control.width) then
      some (lead.length + word.length + tail.length + control.width + 2, control)
    else none
  else none

/-- The end of a raw block: its content, what its end tag does before and behind it, and how far
the text behind the end tag is away. -/
def findRawEnd (passed : Nat) : List Char → Option (Nat × Control × Control × Nat)
  | [] => none
  | c :: rest =>
    if ['{', '%'].isPrefixOf (c :: rest) then
      let inner := rest.drop 1
      let before := Control.ofHead inner
      match readWordTag "endraw".toList (inner.drop before.width) with
      | some (length, behind) => some (passed, before, behind, passed + 2 + before.width + length)
      | none => findRawEnd (passed + 1) rest
    else findRawEnd (passed + 1) rest

def rawText (whitespace : Whitespace) (opening closing : Control) (content : List Char) : List Char :=
  let content :=
    match opening with
    | .keep => content
    | .remove => trimStart content
    | .configured => if whitespace.trimBlocks then (Cursor.skipLineBreak ⟨content, [], 1⟩).rest else content
  match closing with
  | .keep => content
  | .remove => trimEnd content
  | .configured => if whitespace.lstripBlocks then stripLineStart content else content

def isNameStart (c : Char) : Bool :=
  c.isAlpha || c == '_'

def isNamePart (c : Char) : Bool :=
  c.isAlphanum || c == '_'

/-- The text of a string up to its closing quote, escapes as they are written, and its length. -/
def stringBody (quote : Char) : List Char → Option (List Char)
  | [] => none
  | ['\\'] => none
  | '\\' :: c :: rest => (stringBody quote rest).map fun body => '\\' :: c :: body
  | c :: rest => if c = quote then some [] else (stringBody quote rest).map (c :: ·)

def hexValue? (c : Char) : Option Nat :=
  if c.isDigit then some (c.toNat - '0'.toNat)
  else if 'a' ≤ c && c ≤ 'f' then some (c.toNat - 'a'.toNat + 10)
  else if 'A' ≤ c && c ≤ 'F' then some (c.toNat - 'A'.toNat + 10)
  else none

def hexNumber? (digits : List Char) : Option Nat :=
  digits.foldlM (fun n c => (hexValue? c).map (16 * n + ·)) 0

/-- A number of fixed width as it is written behind an escape, perhaps with a plus sign. -/
def escapedNumber? : List Char → Option Nat
  | [] | ['+'] => none
  | '+' :: digits | digits => hexNumber? digits

def isHighSurrogate (n : Nat) : Bool :=
  0xd800 ≤ n && n < 0xdc00

def isLowSurrogate (n : Nat) : Bool :=
  0xdc00 ≤ n && n < 0xe000

def simpleEscape? : Char → Option Char
  | '"' => some '"'
  | '\\' => some '\\'
  | '/' => some '/'
  | '\'' => some '\''
  | 'b' => some '\x08'
  | 'f' => some '\x0c'
  | 'n' => some '\n'
  | 'r' => some '\r'
  | 't' => some '\t'
  | _ => none

/-- What an escape stands for. -/
inductive Escaped where
  | chars (content : List Char)
  /-- A unit of sixteen bits, which may be one half of a character outside the first plane. -/
  | unit (value : Nat)
deriving DecidableEq, Repr

def isOctalDigit (c : Char) : Bool :=
  '0' ≤ c && c ≤ '7'

def octalNumber (digits : List Char) : Nat :=
  digits.foldl (fun n c => 8 * n + (c.toNat - '0'.toNat)) 0

/-- Reads an escape behind its backslash, which starts with the given character, and how much of
the rest belongs to it. An escape without a meaning stands for itself. -/
def readEscape (c : Char) (rest : List Char) : Option (Escaped × Nat) :=
  if c == 'u' then
    if rest.length < 4 then none else (escapedNumber? (rest.take 4)).map fun n => (.unit n, 4)
  else if c == 'x' then
    if rest.length < 2 then none
    else (escapedNumber? (rest.take 2)).map fun n => (.chars [Char.ofNat n], 2)
  else if isOctalDigit c then
    let digits := (rest.take 2).takeWhile isOctalDigit
    let n := octalNumber (c :: digits)
    if n < 256 then some (.chars [Char.ofNat n], digits.length) else none
  else
    match simpleEscape? c with
    | some meant => some (.chars [meant], 0)
    | none => some (.chars ['\\', c], 0)

/-- Puts a unit behind one that is still open, or leaves it open if it is the first half of a
character. The halves of a character do not stand alone. -/
def joinUnits (opened : Option Nat) (n : Nat) : Option (List Char × Option Nat) :=
  match opened with
  | none =>
    if isHighSurrogate n || isLowSurrogate n then some ([], some n) else some ([Char.ofNat n], none)
  | some high =>
    if isHighSurrogate high && isLowSurrogate n then
      some ([Char.ofNat (0x10000 + (high - 0xd800) * 0x400 + (n - 0xdc00))], none)
    else none

/-- Replaces the escapes of a string, where a first half of a character may be open. -/
def unescapeFrom (opened : Option Nat) : List Char → Option (List Char)
  | [] => if opened.isNone then some [] else none
  | ['\\'] => none
  | '\\' :: c :: rest =>
    match readEscape c rest with
    | none => none
    | some (.chars content, length) =>
      if opened.isNone then (unescapeFrom none (rest.drop length)).map (content ++ ·) else none
    | some (.unit n, length) =>
      match joinUnits opened n with
      | none => none
      | some (content, opened) => (unescapeFrom opened (rest.drop length)).map (content ++ ·)
  | c :: rest => if opened.isNone then (unescapeFrom none rest).map (c :: ·) else none
termination_by cs => cs.length

def unescape (body : List Char) : Option (List Char) :=
  unescapeFrom none body

def digitValue? (radix : Nat) (c : Char) : Option Nat :=
  match hexValue? c with
  | some n => if n < radix then some n else none
  | none => none

/-- The longest numbers hold 128 bits. -/
def integer? (radix : Nat) (digits : List Char) : Option Nat :=
  if digits.getLast? == some '_' then none
  else
    let digits := digits.filter (· != '_')
    if digits.isEmpty then none
    else
      match digits.foldlM (fun n c => (digitValue? radix c).map (radix * n + ·)) 0 with
      | some n => if n < Nat.pow 2 128 then some n else none
      | none => none

/-- A number at the start of a text, with its length. Fractions and exponents are refused; behind a
point there are none. -/
def readInteger (behindPoint : Bool) (cs : List Char) : Option (Nat × Nat) :=
  let (radix, skipped) : Nat × Nat :=
    match cs with
    | '0' :: c :: _ =>
      if c == 'b' || c == 'B' then (2, 2)
      else if c == 'o' || c == 'O' then (8, 2)
      else if c == 'x' || c == 'X' then (16, 2)
      else (10, 0)
    | _ => (10, 0)
  let body := cs.drop skipped
  let isDigit (c : Char) : Bool := c.isDigit || c == '_' || (radix == 16 && (hexValue? c).isSome)
  let digits := body.takeWhile isDigit
  match body.drop digits.length with
  | c :: _ =>
    if radix == 10 && !behindPoint && (c == '.' || c == 'e' || c == 'E') then none
    else (integer? radix digits).map fun n => (n, skipped + digits.length)
  | [] => (integer? radix digits).map fun n => (n, skipped + digits.length)

def twoCharacterMarks : List (List Char) :=
  [['/', '/'], ['*', '*'], ['=', '='], ['!', '='], ['>', '='], ['<', '=']]

def oneCharacterMarks : List Char :=
  "+-*/%.,:~|=><()[]\x7b\x7d".toList

def balanceChange (c : Char) : Int :=
  if c == '(' || c == '[' || c == '\x7b' then 1
  else if c == ')' || c == ']' || c == '\x7d' then -1
  else 0

/-- One token inside of a tag, its length, and the change in the depth of brackets. -/
def readInTag (behindPoint : Bool) (cs : List Char) : Option (Token × Nat × Int) :=
  match cs with
  | [] => none
  | c :: rest =>
    if twoCharacterMarks.contains (cs.take 2) then some (.mark (String.ofList (cs.take 2)), 2, 0)
    else if oneCharacterMarks.contains c then some (.mark (String.singleton c), 1, balanceChange c)
    else if c == '"' || c == '\'' then
      (stringBody c rest).map fun body =>
        match unescape body with
        | some content => (.string (String.ofList content), body.length + 2, 0)
        | none => (.badEscape, body.length + 2, 0)
    else if c.isDigit then (readInteger behindPoint cs).map fun (n, length) => (.integer n, length, 0)
    else if isNameStart c then
      let name := cs.takeWhile isNamePart
      some (.word (String.ofList name), name.length, 0)
    else none

inductive Mode where
  | text
  | tag (block : Bool) (balance : Int)
deriving DecidableEq, Repr

def textToken (content : List Char) (line : Nat) : List Located :=
  if content.isEmpty then [] else [⟨.text (String.ofList content), line⟩]

/-- The end of a tag at a place, as its length and what it does to the white space behind it. The
end is only looked for outside of all brackets. -/
def tagEnd? (block : Bool) (balance : Int) (cs : List Char) : Option (Nat × Control) :=
  if balance = 0 then
    let close := if block then ['%', '}'] else ['}', '}']
    let control := Control.ofHead cs
    if close.isPrefixOf (cs.drop control.width) then some (2 + control.width, control) else none
  else none

/-- The tokens from a place on. Every step passes some text, so as many steps as there are
characters are enough. -/
def tokensFrom (whitespace : Whitespace) : Nat → Mode → Cursor → List Located
  | 0, _, _ => []
  | fuel + 1, .text, cursor =>
    match findOpening 0 cursor.rest with
    | none => textToken cursor.rest cursor.line
    | some (length, kind) =>
      let control := Control.ofHead (cursor.rest.drop (length + 2))
      let lead := cursor.rest.take length
      let before := textToken (textBefore whitespace kind control lead cursor.seen) cursor.line
      let cursor := cursor.advance length
      before ++
      match kind with
      | .output =>
        ⟨.outputBegin, cursor.line⟩ ::
          tokensFrom whitespace fuel (.tag false 0) (cursor.advance (2 + control.width))
      | .comment =>
        let opening := 2 + control.width
        match findText ['#', '}'] 0 (cursor.rest.drop opening) with
        | none => [⟨.malformed, cursor.line⟩]
        | some length =>
          let last := (cursor.rest.drop (opening + length - 1)).take 1
          let behind := if length = 0 then .configured else Control.ofHead last
          tokensFrom whitespace fuel .text
            ((cursor.advance (opening + length + 2)).skipAfter whitespace behind)
      | .block =>
        match readWordTag "raw".toList (cursor.rest.drop (2 + control.width)) with
        | none =>
          ⟨.blockBegin, cursor.line⟩ ::
            tokensFrom whitespace fuel (.tag true 0) (cursor.advance (2 + control.width))
        | some (length, opening) =>
          let cursor := cursor.advance (2 + control.width + length)
          match findRawEnd 0 cursor.rest with
          | none => [⟨.malformed, cursor.line⟩]
          | some (length, closing, behind, total) =>
            textToken (rawText whitespace opening closing (cursor.rest.take length)) cursor.line ++
              tokensFrom whitespace fuel .text ((cursor.advance total).skipAfter whitespace behind)
  | fuel + 1, .tag block balance, cursor =>
    let cursor := cursor.advance (cursor.rest.takeWhile isTagBlank).length
    if cursor.rest.isEmpty then []
    else
      match tagEnd? block balance cursor.rest with
      | some (length, control) =>
        let after := cursor.advance length
        let after :=
          if block then after.skipAfter whitespace control
          else if control = .remove then after.skipBlanks
          else after
        ⟨if block then .blockEnd else .outputEnd, cursor.line⟩ ::
          tokensFrom whitespace fuel .text after
      | none =>
        match readInTag (cursor.seen.head? == some '.') cursor.rest with
        | none => [⟨.malformed, cursor.line⟩]
        | some (.badEscape, _, _) => [⟨.badEscape, cursor.line⟩]
        | some (token, length, change) =>
          ⟨token, cursor.line⟩ ::
            tokensFrom whitespace fuel (.tag block (balance + change)) (cursor.advance length)

/-- The source without the line break at its end, unless that is to be kept. -/
def sourceText (whitespace : Whitespace) (source : String) : List Char :=
  let cs := source.toList
  if whitespace.keepTrailingNewline then cs
  else
    let dropLast (c : Char) (cs : List Char) := if cs.getLast? == some c then cs.dropLast else cs
    dropLast '\r' (dropLast '\n' cs)

def tokens (whitespace : Whitespace) (source : String) : List Located :=
  let cs := sourceText whitespace source
  tokensFrom whitespace (cs.length + 1) .text ⟨cs, [], 1⟩

end Stencil.Template
