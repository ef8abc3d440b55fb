/-!
# Reading JSON

Readers of the parts of a JSON text. Each takes a piece off the front of the text and gives the
rest, or says what is the first flaw it meets: the text is malformed, a value has the wrong
type, or the text ends too early.

## Main definitions

* `Flaw` — the kinds of first flaws.
* `readString`, `readNatural`, `readLiteral` — single values.
* `refuse` — the flaw of a value where another type is wanted.
* `skipValue` — any value, which nobody looks at.
* `nextElement`, `endList`, `nextKey`, `endObject` — the joints of lists and objects.
-/

namespace Tunnel.Json

/-- What is wrong with a text. -/
inductive Flaw
  | malformed | mistyped | unfinished
  deriving DecidableEq, Repr, Inhabited

/-- A reader gives a value and the rest of the text. -/
abbrev Reader (α : Type) := List Char → Except Flaw (α × List Char)

def isSpace (c : Char) : Bool := c = ' ' || c = '\n' || c = '\t' || c = '\r'

def skipSpace (cs : List Char) : List Char := cs.dropWhile isSpace

/-! ### Strings -/

def hexDigit? (c : Char) : Option Nat :=
  if '0' ≤ c ∧ c ≤ '9' then some (c.toNat - 48)
  else if 'a' ≤ c ∧ c ≤ 'f' then some (c.toNat - 87)
  else if 'A' ≤ c ∧ c ≤ 'F' then some (c.toNat - 55)
  else none

/-- Whether the text goes on for at least four bytes. -/
def hasFourBytes (cs : List Char) : Bool := 4 ≤ (String.ofList (cs.take 4)).utf8ByteSize

/-- The four hexadecimal digits of an escape. -/
def readFourHex (cs : List Char) : Except Flaw (Nat × List Char) :=
  if hasFourBytes cs then
    match cs with
    | a :: b :: c :: d :: rest =>
      match hexDigit? a, hexDigit? b, hexDigit? c, hexDigit? d with
      | some a, some b, some c, some d => .ok (((a * 16 + b) * 16 + c) * 16 + d, rest)
      | _, _, _, _ => .error .malformed
    | _ => .error .malformed
  else .error .unfinished

/-- The second half of a pair of escapes, of which the first half was `high`. -/
def readLowSurrogate (high : Nat) (cs : List Char) : Except Flaw (Char × List Char) :=
  match cs with
  | [] => .error .unfinished
  | ['\\'] => .error .unfinished
  | '\\' :: 'u' :: rest =>
    match readFourHex rest with
    | .error e => .error e
    | .ok (low, rest) =>
      if 0xDC00 ≤ low ∧ low ≤ 0xDFFF then
        .ok (Char.ofNat ((high - 0xD800) * 0x400 + (low - 0xDC00) + 0x10000), rest)
      else .error .malformed
  | _ => .error .malformed

/-- The character that the rest of an escape, after its backslash, stands for. -/
def readEscape (cs : List Char) : Except Flaw (Char × List Char) :=
  match cs with
  | [] => .error .unfinished
  | 'u' :: rest =>
    match readFourHex rest with
    | .error e => .error e
    | .ok (n, rest) =>
      if 0xD800 ≤ n ∧ n ≤ 0xDBFF then readLowSurrogate n rest
      else if 0xDC00 ≤ n ∧ n ≤ 0xDFFF then .error .malformed
      else .ok (Char.ofNat n, rest)
  | c :: rest =>
    match c with
    | '"' => .ok ('"', rest)
    | '\\' => .ok ('\\', rest)
    | '/' => .ok ('/', rest)
    | 'b' => .ok ('\x08', rest)
    | 'f' => .ok ('\x0c', rest)
    | 'n' => .ok ('\n', rest)
    | 'r' => .ok ('\r', rest)
    | 't' => .ok ('\t', rest)
    | _ => .error .malformed

theorem readFourHex_length {cs rest : List Char} {n : Nat} (h : readFourHex cs = .ok (n, rest)) :
    rest.length < cs.length := by
  unfold readFourHex at h
  repeat' split at h
  all_goals simp_all
  omega

theorem readLowSurrogate_length {high : Nat} {cs rest : List Char} {c : Char}
    (h : readLowSurrogate high cs = .ok (c, rest)) : rest.length < cs.length := by
  unfold readLowSurrogate at h
  split at h
  · simp at h
  · simp at h
  · split at h
    · simp at h
    · rename_i h'
      have := readFourHex_length h'
      split at h <;> simp_all
      omega
  · simp at h

theorem readEscape_length {cs rest : List Char} {c : Char}
    (h : readEscape cs = .ok (c, rest)) : rest.length < cs.length := by
  unfold readEscape at h
  split at h
  · simp at h
  · split at h
    · simp at h
    · rename_i h'
      have := readFourHex_length h'
      split at h
      · have := readLowSurrogate_length h
        simp
        omega
      · split at h <;> simp_all
        omega
  · split at h <;> simp_all

/-- The characters up to the closing quote, after those already read, last first. -/
def readChars (done : List Char) (cs : List Char) : Except Flaw (String × List Char) :=
  match cs with
  | [] => .error .unfinished
  | c :: rest =>
    if c = '"' then .ok (String.ofList done.reverse, rest)
    else if c = '\\' then
      match _h : readEscape rest with
      | .error e => .error e
      | .ok (c, after) => readChars (c :: done) after
    else if c.toNat < 0x20 then .error .malformed
    else readChars (c :: done) rest
termination_by cs.length
decreasing_by
  · have := readEscape_length _h
    simp
    omega
  · simp

/-- A string, after its opening quote. -/
def readString : Reader String := readChars []

/-- A string that nobody looks at, after its opening quote. Escaped code units need not pair. -/
def skipString (cs : List Char) : Except Flaw (List Char) :=
  match cs with
  | [] => .error .unfinished
  | ['\\'] => .error .unfinished
  | '\\' :: 'u' :: rest =>
    match _h : readFourHex rest with
    | .error e => .error e
    | .ok (_, after) => skipString after
  | '\\' :: c :: rest => if c ∈ "\"\\/bfnrt".toList then skipString rest else .error .malformed
  | c :: rest =>
    if c = '"' then .ok rest
    else if c.toNat < 0x20 then .error .malformed
    else skipString rest
termination_by cs.length
decreasing_by
  · have := readFourHex_length _h
    simp only [List.length_cons]
    omega
  · simp only [List.length_cons]
    omega
  · simp

/-! ### Numbers -/

def isDigit (c : Char) : Bool := '0' ≤ c && c ≤ '9'

/-- The value of a run of digits. -/
def value (digits : List Char) : Nat := digits.foldl (fun n c => 10 * n + (c.toNat - 48)) 0

/-- What a number looks like. -/
structure Number where
  negative : Bool
  /-- Digits before the decimal point. -/
  whole : List Char
  /-- Digits after the decimal point. -/
  fraction : List Char := []
  /-- The decimal exponent, if one is written. -/
  exponent : Option Int := none

namespace Number

/-- The least magnitude that rounds to no double: half a unit beyond the greatest one. -/
def doubleBound : Nat := 1 <<< 1024 - 1 <<< 970

/-- Whether the magnitude is too large for a double. -/
def overflows (n : Number) : Bool :=
  let digits := n.whole ++ n.fraction
  let m := value digits
  match n.exponent.getD 0 - n.fraction.length with
  | .ofNat k => m != 0 && (308 < k || doubleBound ≤ m * Nat.pow 10 k)
  | .negSucc k => k + 1 < digits.length && doubleBound * Nat.pow 10 (k + 1) ≤ m

/-- The value of a number that is written as a natural number of at most 64 bits. -/
def natural? (n : Number) : Option UInt64 :=
  if n.negative || !n.fraction.isEmpty || n.exponent.isSome then none
  else
    let m := value n.whole
    if m < UInt64.size then some (UInt64.ofNat m) else none

end Number

/-- The digits of an exponent with its sign. Its mark has been read. -/
def readExponent (atEnd : Flaw) (n : Number) (cs : List Char) :
    Except Flaw (Number × List Char) :=
  let (negative, cs) := match cs with
    | '+' :: rest => (false, rest)
    | '-' :: rest => (true, rest)
    | cs => (false, cs)
  let digits := cs.takeWhile isDigit
  let rest := cs.dropWhile isDigit
  if digits.isEmpty then .error (if rest.isEmpty then atEnd else .malformed)
  else
    let e : Int := value digits
    .ok ({ n with exponent := some (if negative then -e else e) }, rest)

/-- What may follow the whole part of a number. -/
def readTail (atEnd : Flaw) (n : Number) (cs : List Char) : Except Flaw (Number × List Char) :=
  match cs with
  | '.' :: rest =>
    let fraction := rest.takeWhile isDigit
    let after := rest.dropWhile isDigit
    if fraction.isEmpty then .error (if after.isEmpty then atEnd else .malformed)
    else
      let n := { n with fraction }
      match after with
      | 'e' :: rest => readExponent atEnd n rest
      | 'E' :: rest => readExponent atEnd n rest
      | _ => .ok (n, after)
  | 'e' :: rest => readExponent atEnd n rest
  | 'E' :: rest => readExponent atEnd n rest
  | _ => .ok (n, cs)

/-- A number, after its sign. `atEnd` is the flaw of a text that ends within it. -/
def readNumber (atEnd : Flaw) (negative : Bool) (cs : List Char) :
    Except Flaw (Number × List Char) :=
  match cs with
  | [] => .error atEnd
  | '0' :: rest =>
    if rest.head?.any isDigit then .error .malformed
    else readTail atEnd { negative, whole := ['0'] } rest
  | c :: _ =>
    if isDigit c then
      readTail atEnd { negative, whole := cs.takeWhile isDigit } (cs.dropWhile isDigit)
    else .error .malformed

/-- A number that somebody looks at, after its sign; it must fit a double. -/
def readFitting (negative : Bool) (cs : List Char) : Except Flaw (Number × List Char) :=
  match readNumber .unfinished negative cs with
  | .error e => .error e
  | .ok (n, rest) =>
    if n.natural?.isNone && n.overflows then .error .malformed else .ok (n, rest)

/-! ### Literals and values of the wrong type -/

/-- The remaining letters of a literal. -/
def readLiteral : List Char → List Char → Except Flaw (List Char)
  | [], cs => .ok cs
  | _ :: _, [] => .error .unfinished
  | l :: ls, c :: cs => if l = c then readLiteral ls cs else .error .malformed

/-- The flaw of a value at the front of the text where a value of another type is wanted: the
value's own first flaw if it has one. -/
def refuse (cs : List Char) : Flaw :=
  let flawOf {α : Type} : Except Flaw α → Flaw
    | .error e => e
    | .ok _ => .mistyped
  match cs with
  | 'n' :: rest => flawOf (readLiteral "ull".toList rest)
  | 't' :: rest => flawOf (readLiteral "rue".toList rest)
  | 'f' :: rest => flawOf (readLiteral "alse".toList rest)
  | '-' :: rest => flawOf (readFitting true rest)
  | '"' :: rest => flawOf (readString rest)
  | '[' :: _ => .mistyped
  | '\x7b' :: _ => .mistyped
  | c :: _ => if isDigit c then flawOf (readFitting false cs) else .malformed
  | [] => .unfinished

/-- A string where one is wanted. -/
def readText (cs : List Char) : Except Flaw (String × List Char) :=
  match skipSpace cs with
  | [] => .error .unfinished
  | '"' :: rest => readString rest
  | cs => .error (refuse cs)

/-- A natural number of at most 64 bits where one is wanted. -/
def readNatural (cs : List Char) : Except Flaw (UInt64 × List Char) :=
  match skipSpace cs with
  | [] => .error .unfinished
  | '-' :: rest =>
    match readFitting true rest with
    | .error e => .error e
    | .ok _ => .error .mistyped
  | c :: rest =>
    if isDigit c then
      match readFitting false (c :: rest) with
      | .error e => .error e
      | .ok (n, after) =>
        match n.natural? with
        | some n => .ok (n, after)
        | none => .error .mistyped
    else .error (refuse (c :: rest))

/-! ### Lists and objects -/

/-- Whether a list goes on, and the text at its next element or at its end. `first` tells that
nothing was read of it yet. -/
def nextElement (first : Bool) (cs : List Char) : Except Flaw (Bool × List Char) :=
  match skipSpace cs with
  | [] => .error .unfinished
  | ']' :: rest => .ok (false, ']' :: rest)
  | c :: rest =>
    if first then .ok (true, c :: rest)
    else if c = ',' then
      match skipSpace rest with
      | [] => .error .unfinished
      | ']' :: _ => .error .malformed
      | cs => .ok (true, cs)
    else .error .malformed

/-- The end of a list. -/
def endList (cs : List Char) : Except Flaw (List Char) :=
  match skipSpace cs with
  | [] => .error .unfinished
  | ']' :: rest => .ok rest
  | _ => .error .malformed

/-- The next key of an object, if there is one, and the text after it or at the end. -/
def nextKey (first : Bool) (cs : List Char) : Except Flaw (Option String × List Char) :=
  let key (cs : List Char) : Except Flaw (Option String × List Char) :=
    match readString cs with
    | .error e => .error e
    | .ok (key, rest) => .ok (some key, rest)
  match skipSpace cs with
  | [] => .error .unfinished
  | '\x7d' :: rest => .ok (none, '\x7d' :: rest)
  | c :: rest =>
    if first then (if c = '"' then key rest else .error .malformed)
    else if c = ',' then
      match skipSpace rest with
      | [] => .error .unfinished
      | '"' :: rest => key rest
      | _ => .error .malformed
    else .error .malformed

/-- The colon between a key and its value. -/
def readColon (cs : List Char) : Except Flaw (List Char) :=
  match skipSpace cs with
  | [] => .error .unfinished
  | ':' :: rest => .ok rest
  | _ => .error .malformed

/-- The end of an object. -/
def endObject (cs : List Char) : Except Flaw (List Char) :=
  match skipSpace cs with
  | [] => .error .unfinished
  | '\x7d' :: rest => .ok rest
  | _ => .error .malformed

/-- A list of strings where one is wanted, after those already read, last first. At most `n`
elements are read. -/
def readTexts : Nat → Bool → List String → List Char → Except Flaw (List String × List Char)
  | 0, _, _, _ => .error .malformed
  | n + 1, first, done, cs =>
    match nextElement first cs with
    | .error e => .error e
    | .ok (false, cs) =>
      match endList cs with
      | .error e => .error e
      | .ok rest => .ok (done.reverse, rest)
    | .ok (true, cs) =>
      match readText cs with
      | .error e => .error e
      | .ok (s, rest) => readTexts n false (s :: done) rest

/-- A list of strings where one is wanted. -/
def readTextList (cs : List Char) : Except Flaw (List String × List Char) :=
  match skipSpace cs with
  | [] => .error .unfinished
  | '[' :: rest => readTexts (rest.length + 1) true [] rest
  | cs => .error (refuse cs)

/-! ### Values that nobody looks at -/

/-- What encloses a value. -/
inductive Frame
  | list | object
  deriving DecidableEq

/-- Where a skipping reader is: before a value, or after a value or an opening bracket. -/
inductive SkipState
  | before
  | after (comma : Bool)

/-- The key of a skipped object, its colon included. -/
def skipKey (cs : List Char) : Except Flaw (List Char) :=
  match skipSpace cs with
  | [] => .error .unfinished
  | '"' :: rest =>
    match skipString rest with
    | .error e => .error e
    | .ok rest => readColon rest
  | _ => .error .malformed

/-- Before the next value in a frame. -/
def skipToValue (frame : Frame) (cs : List Char) : Except Flaw (List Char) :=
  match frame with
  | .list => .ok cs
  | .object => skipKey cs

/-- A value without parts: a literal, a number or a string. -/
def skipScalar (cs : List Char) : Except Flaw (List Char) :=
  match cs with
  | 'n' :: rest => readLiteral "ull".toList rest
  | 't' :: rest => readLiteral "rue".toList rest
  | 'f' :: rest => readLiteral "alse".toList rest
  | '"' :: rest => skipString rest
  | '-' :: rest => (readNumber .malformed true rest).map (·.2)
  | c :: _ => if isDigit c then (readNumber .malformed false cs).map (·.2) else .error .malformed
  | [] => .error .unfinished

/-- Skips within the given frames, innermost first, for at most `n` steps. -/
def skipWithin : Nat → SkipState → List Frame → List Char → Except Flaw (List Char)
  | 0, _, _, _ => .error .malformed
  | n + 1, .before, frames, cs =>
    match skipSpace cs with
    | '[' :: rest => skipWithin n (.after false) (.list :: frames) rest
    | '\x7b' :: rest => skipWithin n (.after false) (.object :: frames) rest
    | cs =>
      match skipScalar cs with
      | .error e => .error e
      | .ok rest => skipWithin n (.after true) frames rest
  | _ + 1, .after _, [], cs => .ok cs
  | n + 1, .after comma, frame :: frames, cs =>
    let closing := match frame with
      | .list => ']'
      | .object => '\x7d'
    match skipSpace cs with
    | [] => .error .unfinished
    | c :: rest =>
      if c = closing then skipWithin n (.after true) frames rest
      else if comma then
        if c = ',' then
          match skipToValue frame rest with
          | .error e => .error e
          | .ok rest => skipWithin n .before (frame :: frames) rest
        else .error .malformed
      else
        match skipToValue frame (c :: rest) with
        | .error e => .error e
        | .ok rest => skipWithin n .before (frame :: frames) rest

/-- Any value. Every second step at least takes a character. -/
def skipValue (cs : List Char) : Except Flaw (List Char) :=
  skipWithin (2 * cs.length + 4) .before [] cs

/-- Nothing but space is left. -/
def atEnd (cs : List Char) : Bool := (skipSpace cs).isEmpty

end Tunnel.Json
