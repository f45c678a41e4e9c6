import FormCodemod.Syntax.Gap
import FormCodemod.Text.Identifier

/-!
# Reading tokens

One token at a time is read off the front of the input. What a `/`, a backquote, a `<` or a `>`
means depends on the grammar, so the plain reading (`Token.read`) takes them for operators, and the
readers of regular expressions, template pieces and markup start over from the place of the token:

* `Token.read`: words, numbers, strings and the longest punctuators;
* `Token.readRegex`: a regular expression at a `/`;
* `TemplatePiece.read`: the text of a template up to its end or to the next `${`;
* `Token.readTag`, `Token.readMarkupText`: the tokens of a tag, and the text between tags.
-/

namespace FormCodemod.Syntax

/-! ### Words -/

/-- The value of a hexadecimal digit. -/
def hexDigit? (c : Char) : Option Nat :=
  if c.isDigit then some (c.toNat - '0'.toNat)
  else if 'a' ≤ c && c ≤ 'f' then some (c.toNat - 'a'.toNat + 10)
  else if 'A' ≤ c && c ≤ 'F' then some (c.toNat - 'A'.toNat + 10)
  else none

/-- The number that hexadecimal digits spell. -/
def hexValue? (digits : List Char) : Option Nat :=
  digits.foldl (fun n c => do return (← n) * 16 + (← hexDigit? c)) (some 0)

/-- The character that a Unicode escape behind `\u` spells, and the number of characters read. -/
def unicodeEscape? : List Char → Option (Char × Nat)
  | '{' :: cs =>
    let digits := cs.takeWhile (· ≠ '}')
    match hexValue? digits with
    | some n =>
      if digits.isEmpty || digits.length = cs.length || n > 0x10FFFF then none
      else some (Char.ofNat n, digits.length + 2)
    | none => none
  | a :: b :: c :: d :: _ => (hexValue? [a, b, c, d]).map fun n => (Char.ofNat n, 4)
  | _ => none

/-- What a word consists of. -/
structure Spelling where
  /-- The characters that it spells, escapes decoded. -/
  chars : List Char
  /-- The number of characters that it takes. -/
  count : Nat
  escaped : Bool
  fault : Option Fault
  deriving Repr

/-- Reads on in a word, given a bound on the number of its characters. -/
def scanWord : Nat → Nat → List Char → Spelling
  | 0, _, _ => ⟨[], 0, false, none⟩
  | n + 1, offset, '\\' :: cs =>
    match cs with
    | 'u' :: ds =>
      match unicodeEscape? ds with
      | some (c, k) =>
        let rest := scanWord n (offset + 2 + Text.width (ds.take k)) (ds.drop k)
        if Text.isIdentifierPart c then
          ⟨c :: rest.chars, rest.count + k + 2, true, rest.fault⟩
        else ⟨[], 0, true, some ⟨offset, .invalidUnicodeEscape⟩⟩
      | none => ⟨[], 0, true, some ⟨offset, .badEscape "4 hex characters"⟩⟩
    | _ => ⟨[], 0, true, some ⟨offset, .expectedUnicodeEscape⟩⟩
  | n + 1, offset, c :: cs =>
    if Text.isIdentifierPart c then
      let rest := scanWord n (offset + c.utf8Size) cs
      ⟨c :: rest.chars, rest.count + 1, rest.escaped, rest.fault⟩
    else ⟨[], 0, false, none⟩
  | _ + 1, _, [] => ⟨[], 0, false, none⟩

/-- The word that the input begins with. -/
def Input.spelling (i : Input) : Spelling :=
  scanWord (i.chars.length + 1) i.offset i.chars

/-- A word can begin with the characters. -/
def startsWord : List Char → Bool
  | '\\' :: _ => true
  | c :: _ => Text.isIdentifierStart c
  | [] => false

/-! ### Numbers -/

/-- The digits of a number in some radix and the separators between them. -/
def digitRun (isDigit : Char → Bool) (cs : List Char) : List Char :=
  cs.takeWhile fun c => isDigit c || c = '_'

/-- A separator stands at an end of the digits or beside another one. -/
def misplacesSeparator : List Char → Bool
  | '_' :: _ => true
  | cs => go cs
where
  go : List Char → Bool
    | '_' :: '_' :: _ => true
    | ['_'] => true
    | _ :: cs => go cs
    | [] => false

/-- The digits of a radix. -/
def isRadixDigit (radix : Nat) (c : Char) : Bool :=
  match hexDigit? c with
  | some d => d < radix
  | none => false

/-- The length of an exponent, or nothing if digits are missing in it. -/
def exponentLength? : List Char → Option Nat
  | 'e' :: cs | 'E' :: cs =>
    let sign := match cs with
      | '+' :: _ | '-' :: _ => 1
      | _ => 0
    let digits := digitRun Char.isDigit (cs.drop sign)
    if digits.isEmpty then none else some (1 + sign + digits.length)
  | _ => some 0

/-- A number: its length, what is wrong with it for good, and what only offends strictness. -/
structure Numeral where
  count : Nat
  fatal : Option Flaw := none
  minor : Option Flaw := none
  deriving Repr

/-- A number with a prefix such as `0x`. -/
def radixNumeral (radix : Nat) (cs : List Char) : Numeral :=
  let digits := digitRun (isRadixDigit radix) cs
  let big := match cs.drop digits.length with
    | 'n' :: _ => 1
    | _ => 0
  if digits.isEmpty then ⟨2, some (.expectedDigits radix), none⟩
  else ⟨2 + digits.length + big, none,
    if misplacesSeparator digits then some .misplacedSeparator else none⟩

/-- A decimal number that begins with a digit or a point. -/
def decimalNumeral (cs : List Char) : Numeral :=
  let whole := digitRun Char.isDigit cs
  let rest := cs.drop whole.length
  let old := match whole with
    | '0' :: _ :: _ => true
    | _ => false
  match rest with
  | 'n' :: _ => ⟨whole.length + 1, none, if old then some .legacyDecimal else none⟩
  | _ =>
    let fraction := match rest with
      | '.' :: ds => 1 + (digitRun Char.isDigit ds).length
      | _ => 0
    let minor :=
      if old then
        some (if whole.all fun c => c ≠ '8' && c ≠ '9' then Flaw.legacyOctal else .legacyDecimal)
      else if misplacesSeparator whole || misplacesSeparator ((rest.take fraction).drop 1) then
        some .misplacedSeparator
      else none
    match exponentLength? (rest.drop fraction) with
    | some k => ⟨whole.length + fraction + k, none, minor⟩
    | none => ⟨whole.length + fraction + 1, some .expectedExponent, none⟩

/-- The number that the characters begin with. -/
def numeral : List Char → Numeral
  | '0' :: 'x' :: cs | '0' :: 'X' :: cs => radixNumeral 16 cs
  | '0' :: 'o' :: cs | '0' :: 'O' :: cs => radixNumeral 8 cs
  | '0' :: 'b' :: cs | '0' :: 'B' :: cs => radixNumeral 2 cs
  | cs => decimalNumeral cs

/-! ### Strings -/

/-- What a scan over a string finds: the number of characters up to and with the closing quote, and
    flaws. A string that is not closed reaches to the end of its line. -/
structure StringScan where
  count : Nat
  fatal : Option Fault := none
  minor : Option Fault := none
  deriving Repr

/-- The scan with some characters put ahead. -/
def StringScan.ahead (s : StringScan) (count : Nat) (minor : Option Fault := none) : StringScan :=
  { s with count := s.count + count, minor := minor <|> s.minor }

/-- Scans a string behind its opening quote, which stands at `start`. -/
def scanString (quote : Char) (start : Nat) : Nat → List Char → StringScan
  | _, [] => ⟨0, none, some ⟨start, .unterminatedString⟩⟩
  | offset, ['\\'] => ⟨0, some ⟨offset, .invalidEscape⟩, none⟩
  | offset, '\\' :: 'x' :: cs =>
    match cs with
    | a :: b :: _ =>
      if (hexValue? [a, b]).isSome then (scanString quote start (offset + 2) cs).ahead 2
      else ⟨0, some ⟨offset, .badEscape "2 hex characters"⟩, none⟩
    | _ => ⟨0, some ⟨offset, .badEscape "2 hex characters"⟩, none⟩
  | offset, '\\' :: 'u' :: cs =>
    if (unicodeEscape? cs).isSome then (scanString quote start (offset + 2) cs).ahead 2
    else ⟨0, some ⟨offset, .badEscape "4 hex characters"⟩, none⟩
  | offset, '\\' :: '\r' :: '\n' :: cs => (scanString quote start (offset + 3) cs).ahead 3
  | offset, '\\' :: c :: cs =>
    let octal := ('1' ≤ c && c ≤ '7') || (c = '0' && (cs.head?.any Char.isDigit))
    (scanString quote start (offset + 1 + c.utf8Size) cs).ahead 2
      (if octal then some ⟨offset, .legacyOctal⟩ else none)
  | offset, c :: cs =>
    if c = quote then ⟨1, none, none⟩
    else if c = '\n' || c = '\r' then ⟨0, none, some ⟨start, .unterminatedString⟩⟩
    else (scanString quote start (offset + c.utf8Size) cs).ahead 1

/-! ### Tokens of expressions and statements -/

namespace Token

/-- A token that takes the given number of characters. -/
def take (kind : String → TokenKind) (count : Nat) (here : Input) (newline : Bool)
    (fault : Option Fault) : Token :=
  ⟨kind (String.ofList (here.chars.take count)), here, here.skip count, newline, fault, false⟩

/-- Something that is no token; it reaches to the end of the text. -/
def broken (fault : Fault) (here : Input) (newline : Bool) : Token :=
  ⟨.broken fault, here, here.skip here.chars.length, newline, none, false⟩

/-- The word at the input. -/
def readWord (here : Input) (newline : Bool) (fault : Option Fault) : Token :=
  let s := here.spelling
  match s.fault with
  | some f => broken f here newline
  | none =>
    let role := Word.ofChars? s.chars
    let text := String.ofList s.chars
    if s.escaped && role.any Word.isReserved then
      broken ⟨here.offset, .escapedReservedWord text⟩ here newline
    else ⟨.word text role, here, here.skip s.count, newline, fault, false⟩

/-- The number at the input. -/
def readNumber (here : Input) (newline : Bool) (fault : Option Fault) : Token :=
  let n := numeral here.chars
  match n.fatal with
  | some flaw => broken ⟨here.offset, flaw⟩ here newline
  | none =>
    let next := here.skip n.count
    if startsWord next.chars then broken ⟨next.offset, .wordAfterNumber⟩ here newline
    else take .number n.count here newline
      (fault <|> n.minor.map fun flaw => ⟨here.offset, flaw⟩)

/-- The string at the input, whose first character is the quote. -/
def readString (quote : Char) (here : Input) (newline : Bool) (fault : Option Fault) : Token :=
  let s := scanString quote here.offset (here.offset + 1) (here.chars.drop 1)
  match s.fatal with
  | some f => broken f here newline
  | none => take .string (s.count + 1) here newline (fault <|> s.minor)

/-- The token that the input begins with, nothing skipped. -/
def readHere (here : Input) (newline : Bool) (fault : Option Fault) : Token :=
  match here.chars with
  | [] => ⟨.endOfText, here, here, newline, fault, false⟩
  | '"' :: _ => readString '"' here newline fault
  | '\'' :: _ => readString '\'' here newline fault
  | '#' :: cs =>
    if startsWord cs then
      let s := (here.skip 1).spelling
      match s.fault with
      | some f => broken f here newline
      | none =>
        ⟨.privateName (String.ofList s.chars), here, here.skip (s.count + 1), newline, fault, false⟩
    else ⟨.punct .hash, here, here.skip 1, newline, fault, false⟩
  | c :: cs =>
    if startsWord (c :: cs) then readWord here newline fault
    else if c.isDigit || (c = '.' && cs.head?.any Char.isDigit) then
      readNumber here newline fault
    else
      match Punct.ofChars? (c :: cs) with
      | some (p, n) => ⟨.punct p, here, here.skip n, newline, fault, false⟩
      | none => broken ⟨here.offset, .unexpectedCharacter c⟩ here newline

/-- The next token of the input. -/
def read (i : Input) : Token :=
  let (finding, here) := skipGap i
  readHere here finding.newline finding.fault

/-! ### Regular expressions -/

/-- The length of the body of a regular expression with its closing `/`. -/
def regexBody? : (inClass : Bool) → List Char → Option Nat
  | _, [] => none
  | inClass, '\\' :: c :: cs => if isLineEnd c then none else (regexBody? inClass cs).map (· + 2)
  | false, '/' :: _ => some 1
  | inClass, c :: cs =>
    if isLineEnd c then none
    else (regexBody? (c = '[' || (inClass && c ≠ ']')) cs).map (· + 1)

/-- The token as a regular expression, if it begins with a `/` and one begins there. -/
def readRegex (t : Token) : Token :=
  match regexBody? false (t.here.chars.drop 1) with
  | none => broken ⟨t.here.offset, .unterminatedRegex⟩ t.here t.newline
  | some n =>
    let flags := (t.here.skip (n + 1)).spelling
    match flags.fault with
    | some f => broken f t.here t.newline
    | none => take .regex (n + 1 + flags.count) t.here t.newline t.fault

/-! ### Single characters -/

/-- The token cut down to its first character, a punctuator. -/
def cut (t : Token) (p : Punct) : Token :=
  { t with kind := .punct p, next := t.here.skip 1 }

end Token

/-! ### Templates -/

/-- The text of a template up to its closing backquote or to the next `${`. -/
structure TemplatePiece where
  text : String
  next : Input
  closes : Bool
  deriving Repr

/-- The length of a piece of a template, and whether the template ends behind it. -/
def scanPiece? : List Char → Option (Nat × Bool)
  | [] => none
  | '`' :: _ => some (0, true)
  | '$' :: '{' :: _ => some (0, false)
  | '\\' :: _ :: cs => (scanPiece? cs).map fun r => (r.1 + 2, r.2)
  | _ :: cs => (scanPiece? cs).map fun r => (r.1 + 1, r.2)

/-- The piece of a template that the input begins with. -/
def TemplatePiece.read? (i : Input) : Option TemplatePiece :=
  (scanPiece? i.chars).map fun r =>
    ⟨String.ofList (i.chars.take r.1), i.skip (r.1 + if r.2 then 1 else 2), r.2⟩

/-! ### Markup -/

namespace Token

/-- The character may go on with a name in a tag. -/
def isTagNamePart (c : Char) : Bool :=
  Text.isIdentifierPart c || c = '-'

/-- A string in a tag, of which the characters behind the opening quote are given. -/
def readTagString (quote : Char) (cs : List Char) (here : Input) (newline : Bool)
    (fault : Option Fault) : Token :=
  let body := cs.takeWhile (· ≠ quote)
  if body.length = cs.length then
    take .string (body.length + 1) here newline (fault <|> some ⟨here.offset, .unterminatedString⟩)
  else take .string (body.length + 2) here newline fault

/-- The next token of a tag: a name, a string without escapes, or a punctuator, of which `<` and `>`
    stand alone. -/
def readTag (i : Input) : Token :=
  let (finding, here) := skipGap i
  let token := match here.chars with
    | '"' :: cs => readTagString '"' cs here finding.newline finding.fault
    | '\'' :: cs => readTagString '\'' cs here finding.newline finding.fault
    | '<' :: _ => ⟨.punct .less, here, here.skip 1, finding.newline, finding.fault, true⟩
    | '>' :: _ => ⟨.punct .greater, here, here.skip 1, finding.newline, finding.fault, true⟩
    | c :: cs =>
      if Text.isIdentifierStart c then
        take .jsxName (1 + (cs.takeWhile isTagNamePart).length) here finding.newline finding.fault
      else readHere here finding.newline finding.fault
    | [] => readHere here finding.newline finding.fault
  { token with inTag := true }

/-- The places of characters that text between tags must not contain, with what to write there. -/
def markupFault? (offset : Nat) : List Char → Option Fault
  | [] => none
  | '>' :: _ => some ⟨offset, .markupCharacter ["`\x7b'>'\x7d`", "`&gt;`"]⟩
  | '}' :: _ => some ⟨offset, .markupCharacter ["`\x7b'\x7d'\x7d`", "`&rbrace;`"]⟩
  | c :: cs => markupFault? (offset + c.utf8Size) cs

/-- The next token between tags: a `<`, a `{` or the text up to one of them. -/
def readMarkupText (i : Input) : Token :=
  match i.chars with
  | [] => ⟨.endOfText, i, i, false, none, false⟩
  | '<' :: _ => ⟨.punct .less, i, i.skip 1, false, none, false⟩
  | '{' :: _ => ⟨.punct .braceOpen, i, i.skip 1, false, none, false⟩
  | cs =>
    let text := cs.takeWhile fun c => c ≠ '<' && c ≠ '{'
    take .jsxText text.length i false (markupFault? i.offset text)

end Token

end FormCodemod.Syntax
