import ReserveAccounting.Text.Integer
import ReserveAccounting.Text.WordTable

/-!
# Literals

A tag of the console may carry arguments in the form of literals: numbers, quoted
texts, constants, and tuples, sets and mappings of literals. Only whether a text
is a literal matters here, not its value. A literal is read in two steps: its
characters become tokens, and these become a kind of value.
-/

namespace ReserveAccounting
namespace Console
namespace Literal

/-! ## Tokens -/

inductive Token where
  | number (imaginary : Bool)
  | quoted (bytes : Bool)
  | word (name : String)
  | ellipsis
  | mark (c : Char)
  | lineEnd
deriving DecidableEq, Repr

/-- Whether a character may stand in a word; beyond ASCII every character may. -/
def isWordPart (c : Char) : Bool := c.isAlphanum || c = '_' || 128 ≤ c.toNat

def takeDigits? (p : Char → Bool) (count : Nat) : List Char → Option (Nat × List Char)
  | [] => if count = 0 then none else some (count, [])
  | '_' :: c :: rest =>
      if count ≠ 0 && p c then takeDigits? p (count + 1) rest
      else if count = 0 then none else some (count, '_' :: c :: rest)
  | c :: rest =>
      if p c then takeDigits? p (count + 1) rest
      else if count = 0 then none else some (count, c :: rest)

def radixDigit? (mark : Char) : Option (Char → Bool) :=
  match mark.toLower with
  | 'x' => some fun c => c.isDigit || ('a' ≤ c.toLower && c.toLower ≤ 'f')
  | 'o' => some fun c => '0' ≤ c && c ≤ '7'
  | 'b' => some fun c => c = '0' || c = '1'
  | _ => none

def closeNumber (imaginary : Bool) (rest : List Char) : Option (Token × List Char) :=
  if rest.head?.any isWordPart then none else some (.number imaginary, rest)

/-- The exponent of a number, if there is one; `false` if it has no digits. -/
def takeExponent (cs : List Char) : Option (Bool × List Char) :=
  match cs with
  | e :: rest =>
      if e.toLower = 'e' then
        let digits := match rest with
          | '+' :: rest => rest
          | '-' :: rest => rest
          | rest => rest
        (takeDigits? Char.isDigit 0 digits).map fun r => (true, r.2)
      else some (false, cs)
  | [] => some (false, [])

def takeDecimals : List Char → Bool × List Char
  | '.' :: rest =>
      match takeDigits? Char.isDigit 0 rest with
      | some (_, rest) => (true, rest)
      | none => (true, rest)
  | rest => (false, rest)

/--
A number in base ten whose whole part has been read. A whole number has no zeros
in front and not too many digits.
-/
def finishDecimal (whole : List Char) (count : Nat) (rest : List Char) : Option (Token × List Char) := do
  let (pointed, rest) := takeDecimals rest
  let (scaled, rest) ← takeExponent rest
  match rest with
  | c :: rest =>
      if c.toLower = 'j' then closeNumber true rest
      else if pointed || scaled || isWhole then closeNumber false (c :: rest) else none
  | [] => if pointed || scaled || isWhole then closeNumber false [] else none
where
  isWhole : Bool :=
    count ≤ Text.maxIntegerDigits &&
      (whole.head? ≠ some '0' || whole.all fun c => c = '0' || c = '_')

def takeNumber? (cs : List Char) : Option (Token × List Char) :=
  match cs with
  | '0' :: c :: rest =>
      match radixDigit? c with
      | some p =>
          let digits := match rest with
            | '_' :: rest => rest
            | rest => rest
          (takeDigits? p 0 digits).bind fun r => closeNumber false r.2
      | none => decimal
  | _ => decimal
where
  decimal : Option (Token × List Char) :=
    match takeDigits? Char.isDigit 0 cs with
    | some (count, rest) => finishDecimal (cs.take (cs.length - rest.length)) count rest
    | none => finishDecimal [] 0 cs

/-! ### Quoted texts -/

structure QuoteForm where
  bytes : Bool
  /-- Backslashes stand for themselves. -/
  raw : Bool

def QuoteForm.ofWord? (word : String) : Option QuoteForm :=
  match (String.ofList (word.toList.map Char.toLower)) with
  | "" => some ⟨false, false⟩
  | "u" => some ⟨false, false⟩
  | "r" => some ⟨false, true⟩
  | "b" => some ⟨true, false⟩
  | "br" => some ⟨true, true⟩
  | "rb" => some ⟨true, true⟩
  | _ => none

def isHexDigit (c : Char) : Bool := c.isDigit || ('a' ≤ c.toLower && c.toLower ≤ 'f')

def escapeDigits? (form : QuoteForm) (c : Char) : Option Nat :=
  match c with
  | 'x' => some 2
  | 'u' => if form.bytes then none else some 4
  | 'U' => if form.bytes then none else some 8
  | _ => none

def isCodePoint (digits : List Char) : Bool :=
  digits.all isHexDigit &&
    ((String.ofList digits).toList.foldl
      (fun n c => 16 * n + (Text.digitIn? 16 c).getD 0) 0 : Nat) ≤ 0x10FFFF

/-- Whether the escape behind a backslash has a meaning; most characters stand for themselves. -/
def isEscape (form : QuoteForm) (c : Char) (rest : List Char) : Bool :=
  match escapeDigits? form c with
  | some n => (rest.take n).length = n && isCodePoint (rest.take n)
  | none => c ≠ 'N' || form.bytes

def closeQuote (form : QuoteForm) (quote : Char) (long : Bool) : List Char → Option (List Char)
  | [] => none
  | [c] => if c = quote && !long then some [] else none
  | c :: d :: rest =>
      if form.bytes && 128 ≤ c.toNat then none
      else if c = '\\' then
        if form.bytes && 128 ≤ d.toNat then none
        else if form.raw || isEscape form d rest then closeQuote form quote long rest else none
      else if c = quote then
        if !long then some (d :: rest)
        else if d = quote && rest.head? = some quote then some rest.tail
        else closeQuote form quote long (d :: rest)
      else if c = '\n' && !long then none
      else closeQuote form quote long (d :: rest)

def takeQuoted? (form : QuoteForm) : List Char → Option (Token × List Char)
  | a :: b :: c :: rest =>
      if a = b && b = c then (closeQuote form a true rest).map (.quoted form.bytes, ·)
      else (closeQuote form a false (b :: c :: rest)).map (.quoted form.bytes, ·)
  | a :: rest => (closeQuote form a false rest).map (.quoted form.bytes, ·)
  | [] => none

def isQuote (c : Char) : Bool := c = '\'' || c = '"'

def isMark (c : Char) : Bool := ['(', ')', '\x7b', '\x7d', ',', ':', '+', '-'].contains c

def depthAfter (c : Char) (depth : Nat) : Nat :=
  if c = '(' || c = '\x7b' then depth + 1 else if c = ')' || c = '\x7d' then depth - 1 else depth

def maxDepth : Nat := 200

def takeToken? : List Char → Option (Token × List Char)
  | [] => none
  | '.' :: '.' :: '.' :: rest => some (.ellipsis, rest)
  | c :: rest =>
      if c.isDigit || (c = '.' && rest.head?.any Char.isDigit) then takeNumber? (c :: rest)
      else if isQuote c then takeQuoted? ⟨false, false⟩ (c :: rest)
      else if isMark c then some (.mark c, rest)
      else if isWordPart c then
        let word := String.ofList ((c :: rest).takeWhile isWordPart)
        let rest := (c :: rest).dropWhile isWordPart
        if rest.head?.any isQuote then
          (QuoteForm.ofWord? word).bind fun form => takeQuoted? form rest
        else some (.word word, rest)
      else none

/-- The tokens of a text; line ends inside brackets, blanks and remarks are left out. -/
def tokens? : Nat → Nat → List Char → Option (List Token)
  | _, _, [] => some []
  | 0, _, _ => none
  | fuel + 1, depth, c :: rest =>
      if c = ' ' || c = '\t' || c = '\x0c' then tokens? fuel depth rest
      else if c = '#' then tokens? fuel depth (rest.dropWhile (· ≠ '\n'))
      else if c = '\n' then
        if depth = 0 then (tokens? fuel depth rest).map (.lineEnd :: ·) else tokens? fuel depth rest
      else if c = '\\' && rest.head? = some '\n' then tokens? fuel depth rest.tail
      else do
        let (token, rest) ← takeToken? (c :: rest)
        let depth := match token with
          | .mark c => depthAfter c depth
          | _ => depth
        if maxDepth < depth then none else (tokens? fuel depth rest).map (token :: ·)

/-! ## Values -/

inductive Kind where
  | real
  | imaginary
  | signedReal
  | constant
  | mutable
deriving DecidableEq, Repr

def Kind.isKey (k : Kind) : Bool := k ≠ mutable

def Kind.sum? : Kind → Kind → Option Kind
  | real, imaginary => some constant
  | signedReal, imaginary => some constant
  | _, _ => none

def Kind.signed? : Kind → Option Kind
  | real => some signedReal
  | imaginary => some constant
  | _ => none

/-- Quoted texts one after another make one; texts and bytes do not mix. -/
def skipQuoted (bytes : Bool) : List Token → Option (List Token)
  | .quoted b :: rest => if b = bytes then skipQuoted bytes rest else none
  | rest => some rest

def constants : List String := ["None", "True", "False"]

mutual

def operand? : Nat → List Token → Option (Kind × List Token)
  | 0, _ => none
  | fuel + 1, tokens =>
      match tokens with
      | .number imaginary :: rest => some (if imaginary then .imaginary else .real, rest)
      | .quoted bytes :: rest => (skipQuoted bytes rest).map (.constant, ·)
      | .ellipsis :: rest => some (.constant, rest)
      | .word name :: rest =>
          if constants.contains name then some (.constant, rest)
          else
            match rest with
            | .mark '(' :: .mark ')' :: rest => if name = "set" then some (.mutable, rest) else none
            | _ => none
      | .mark '+' :: rest => signed? fuel rest
      | .mark '-' :: rest => signed? fuel rest
      | .mark '(' :: .mark ')' :: rest => some (.constant, rest)
      | .mark '(' :: rest => do
          let (kind, rest) ← value? fuel rest
          match rest with
          | .mark ')' :: rest => some (kind, rest)
          | _ => do
              let (isKey, rest) ← items? fuel ')' rest
              some (if kind.isKey && isKey then .constant else .mutable, rest)
      | .mark '\x7b' :: .mark '\x7d' :: rest => some (.mutable, rest)
      | .mark '\x7b' :: rest => do
          let (kind, rest) ← value? fuel rest
          if !kind.isKey then none
          match rest with
          | .mark ':' :: rest => do
              let (_, rest) ← value? fuel rest
              some (.mutable, ← entries? fuel rest)
          | .mark '\x7d' :: rest => some (.mutable, rest)
          | _ => do
              let (isKey, rest) ← items? fuel '\x7d' rest
              if isKey then some (.mutable, rest) else none
      | _ => none

def signed? : Nat → List Token → Option (Kind × List Token)
  | 0, _ => none
  | fuel + 1, tokens => do
      let (kind, rest) ← operand? fuel tokens
      some (← kind.signed?, rest)

def value? : Nat → List Token → Option (Kind × List Token)
  | 0, _ => none
  | fuel + 1, tokens => do
      let (kind, rest) ← operand? fuel tokens
      match rest with
      | .mark c :: more =>
          if c = '+' || c = '-' then do
            let (other, rest) ← operand? fuel more
            some (← kind.sum? other, rest)
          else some (kind, rest)
      | _ => some (kind, rest)

def items? : Nat → Char → List Token → Option (Bool × List Token)
  | 0, _, _ => none
  | fuel + 1, close, tokens =>
      match tokens with
      | .mark c :: rest =>
          if c = close then some (true, rest)
          else if c = ',' then
            match rest with
            | [] => none
            | token :: more =>
                if token = .mark close then some (true, more)
                else do
                  let (kind, rest) ← value? fuel rest
                  let (areKeys, rest) ← items? fuel close rest
                  some (kind.isKey && areKeys, rest)
          else none
      | _ => none

def entries? : Nat → List Token → Option (List Token)
  | 0, _ => none
  | fuel + 1, tokens =>
      match tokens with
      | .mark '\x7d' :: rest => some rest
      | .mark ',' :: .mark '\x7d' :: rest => some rest
      | .mark ',' :: rest => do
          let (kind, rest) ← value? fuel rest
          if !kind.isKey then none
          match rest with
          | .mark ':' :: rest => do
              let (_, rest) ← value? fuel rest
              entries? fuel rest
          | _ => none
      | _ => none

end

def areValues : Nat → List Token → Bool
  | 0, _ => false
  | fuel + 1, tokens =>
      match value? (4 * tokens.length + 4) tokens with
      | some (_, .mark ',' :: rest) =>
          if rest.all (· = .lineEnd) then true else areValues fuel rest
      | some (_, rest) => rest.all (· = .lineEnd)
      | none => false

def isLiteral (cs : List Char) : Bool :=
  !cs.any (·.toNat = 0) &&
    match tokens? (cs.length + 1) 0 cs with
    | some tokens => areValues (tokens.length + 1) (tokens.dropWhile (· = .lineEnd))
    | none => false

/-! ## Handlers -/

def isHandlerName (c : Char) : Bool := Text.isWordChar c || c = '.'

/--
Whether a text says how a tag is handled: by a name, with arguments in round
brackets or without, or by a literal alone.
-/
def isHandler (text : List Char) : Bool :=
  match text.dropWhile isHandlerName with
  | [] => true
  | arguments =>
      if arguments.head? = some '(' && arguments.getLast? = some ')' && !arguments.contains '\n' then
        isLiteral arguments
      else isLiteral text

end Literal
end Console
end ReserveAccounting
