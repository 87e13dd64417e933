import SchemaPlan.Json.Fault

namespace SchemaPlan.Json.Reader

open Decimal Stop

/-- What is left of a text after a step that takes something off its front. -/
abbrev Rest (s : List Char) := { r : List Char // r.length < s.length }

abbrev Tail (s : List Char) := { r : List Char // r.length ≤ s.length }

abbrev Step (α : Type) (s : List Char) := Except Stop (α × Rest s)

/-- A string off the front of a text, which takes more characters there than it has. -/
structure Spelled (s : List Char) where
  chars : List Char
  rest : List Char
  shorter : chars.length + rest.length < s.length

def isBlank (c : Char) : Bool :=
  c == ' ' || c == '\t' || c == '\n' || c == '\r'

def skip (s : List Char) : List Char :=
  s.dropWhile isBlank

theorem length_dropWhile_le (p : Char → Bool) (s : List Char) :
    (s.dropWhile p).length ≤ s.length :=
  (List.dropWhile_sublist p).length_le

theorem length_le_of_skip {s r : List Char} (h : skip s = r) : r.length ≤ s.length :=
  h ▸ length_dropWhile_le isBlank s

theorem length_lt_of_skip {s r : List Char} {c : Char} (h : skip s = c :: r) :
    r.length < s.length :=
  length_le_of_skip h

theorem length_lt_cons (c : Char) {r s : List Char} (h : r.length ≤ s.length) :
    r.length < (c :: s).length :=
  Nat.lt_succ_of_le h

section

variable {r t u s : List Char}

theorem shorter_trans (h₁ : r.length < t.length) (h₂ : t.length < s.length) :
    r.length < s.length :=
  Nat.lt_trans h₁ h₂

theorem shorter_of_name {name : List Char} (h₁ : r.length < t.length)
    (h₂ : name.length + t.length < u.length) (h₃ : u.length < s.length) : r.length < s.length := by
  omega

theorem shorter_of_skip (h₁ : r.length < t.length) (h₂ : skip s = t) : r.length < s.length :=
  Nat.lt_of_lt_of_le h₁ (length_le_of_skip h₂)

end

def readWord : (word s : List Char) → Except Stop (Tail s)
  | [], s => .ok ⟨s, Nat.le_refl _⟩
  | _ :: _, [] => before .endOfValue []
  | w :: word, c :: s =>
    if c = w then (readWord word s).map fun ⟨r, h⟩ => ⟨r, by simp; omega⟩
    else after .expectedWord (c :: s)

def digitsValue (ds : List Char) : Nat :=
  ds.foldl (fun n d => 10 * n + (d.toNat - 48)) 0

def readDigits (s : List Char) : Step (List Char) s :=
  match s with
  | [] => before .endOfValue []
  | c :: cs =>
    if c.isDigit then
      .ok (c :: cs.takeWhile Char.isDigit,
        ⟨cs.dropWhile Char.isDigit, length_lt_cons c (length_dropWhile_le Char.isDigit cs)⟩)
    else after .badNumber (c :: cs)

def readFraction (s : List Char) : Except Stop (Option (List Char) × Tail s) :=
  match s with
  | '.' :: cs => do
    let (ds, ⟨r, _⟩) ← readDigits cs
    pure (some ds, ⟨r, by simp only [List.length_cons]; omega⟩)
  | cs => pure (none, ⟨cs, Nat.le_refl _⟩)

def readSign (s : List Char) : Bool × Tail s :=
  match s with
  | '-' :: cs => (true, ⟨cs, by simp⟩)
  | '+' :: cs => (false, ⟨cs, by simp⟩)
  | cs => (false, ⟨cs, Nat.le_refl _⟩)

structure Exponent where
  negative : Bool
  digits : List Char
deriving DecidableEq, Repr

namespace Exponent

def value (e : Exponent) : Int :=
  if e.negative then -(digitsValue e.digits : Int) else digitsValue e.digits

/-- How many digits are passed when the exponent is found to be greater than a signed word of 32
bits, all of them if it never is. -/
def wordDigits (e : Exponent) : Nat :=
  let passed := (List.range e.digits.length).find? fun n =>
    0x7FFFFFFF < digitsValue (e.digits.take (n + 1))
  (passed.map (· + 1)).getD e.digits.length

end Exponent

def readExponent (s : List Char) : Except Stop (Option Exponent × Tail s) :=
  match s with
  | c :: cs =>
    if c = 'e' ∨ c = 'E' then do
      let (negative, ⟨t, ht⟩) := readSign cs
      let (ds, ⟨r, hr⟩) ← readDigits t
      pure (some ⟨negative, ds⟩,
        ⟨r, Nat.le_of_lt (length_lt_cons c (Nat.le_trans (Nat.le_of_lt hr) ht))⟩)
    else pure (none, ⟨c :: cs, Nat.le_refl _⟩)
  | [] => pure (none, ⟨[], Nat.le_refl _⟩)

/-- The number with these parts. Without a point and an exponent it is whole, but `-0` is not: it
is the float. A number beyond the finite floats is refused. -/
def number? (negative : Bool) (whole : List Char) (fraction : Option (List Char))
    (exponent : Option Exponent) : Option Json :=
  match fraction, exponent with
  | none, none =>
    let n : Int := digitsValue whole
    if negative then (if n = 0 then some (.float (.zero true)) else ofInt? (-n)) else ofInt? n
  | _, _ =>
    let places := fraction.getD []
    (Finite64.ofDecimal? negative (digitsValue (whole ++ places))
      ((exponent.map Exponent.value).getD 0 - places.length)).map .float

/-- The bytes of an exponent that are not read before a number is refused for its size. -/
def unreadExponent (exponent : Option Exponent) : Nat :=
  match exponent with
  | some e => e.digits.length - e.wordDigits
  | none => 0

/-- A number after its sign. Only a lone zero may start with a zero. -/
def readNumber (negative : Bool) (s : List Char) : Step Json s := do
  let (whole, ⟨r₁, _⟩) ← readDigits s
  if whole.head? = some '0' ∧ whole ≠ ['0'] then afterBytes 2 .badNumber s
  else
    let (fraction, ⟨r₂, _⟩) ← readFraction r₁
    let (exponent, ⟨r₃, _⟩) ← readExponent r₂
    match number? negative whole fraction exponent with
    | some v => pure (v, ⟨r₃, by omega⟩)
    | none => .error (.here .numberOutOfRange (unreadExponent exponent + size r₃))

def hexValue? (c : Char) : Option Nat :=
  if c.isDigit then some (c.toNat - 48)
  else if 'a' ≤ c ∧ c ≤ 'f' then some (c.toNat - 87)
  else if 'A' ≤ c ∧ c ≤ 'F' then some (c.toNat - 55)
  else none

/-- Four hexadecimal digits. The text ends too early if fewer than four bytes are left, whatever
they are. -/
def readHex4 (s : List Char) : Step Nat s :=
  if size (s.take 4) < 4 then before .endOfString []
  else
    match s with
    | a :: b :: c :: d :: r =>
      match hexValue? a, hexValue? b, hexValue? c, hexValue? d with
      | some n₁, some n₂, some n₃, some n₄ =>
        .ok (((n₁ * 16 + n₂) * 16 + n₃) * 16 + n₄, ⟨r, length_lt_cons a (Nat.le_add_right _ 3)⟩)
      | _, _, _, _ => afterBytes 4 .badEscape s
    | _ => afterBytes 4 .badEscape s

def isHighSurrogate (n : Nat) : Bool :=
  0xD800 ≤ n && n ≤ 0xDBFF

def isLowSurrogate (n : Nat) : Bool :=
  0xDC00 ≤ n && n ≤ 0xDFFF

/-- A character by its number. One beyond the first plane is two numbers, a high and a low
surrogate, and a surrogate alone is refused. -/
def readUnicode (s : List Char) : Step Char s := do
  let (n, ⟨r, hr⟩) ← readHex4 s
  if isLowSurrogate n then before .loneSurrogate r
  else if isHighSurrogate n then
    match r, hr with
    | [], _ | ['\\'], _ => before .endOfString []
    | '\\' :: 'u' :: t, ht =>
      let (m, ⟨r₂, _⟩) ← readHex4 t
      if isLowSurrogate m then
        pure (.ofNat (0x10000 + (n - 0xD800) * 0x400 + (m - 0xDC00)),
          ⟨r₂, by simp only [List.length_cons] at ht; omega⟩)
      else before .loneSurrogate r₂
    | '\\' :: t, _ => after .cutEscape t
    | t, _ => after .cutEscape t
  else pure (.ofNat n, ⟨r, by omega⟩)

def escapes : List (Char × Char) :=
  [('\x22', '\x22'), ('\\', '\\'), ('/', '/'), ('b', '\x08'), ('f', '\x0c'), ('n', '\n'),
    ('r', '\r'), ('t', '\t')]

def readEscape (s : List Char) : Step Char s :=
  match s with
  | [] => before .endOfString []
  | c :: cs =>
    match escapes.lookup c with
    | some d => .ok (d, ⟨cs, by simp⟩)
    | none =>
      if c = 'u' then (readUnicode cs).map fun (d, ⟨r, h⟩) => (d, ⟨r, by simp; omega⟩)
      else after .badEscape (c :: cs)

def readString (s : List Char) : Except Stop (Spelled s) :=
  match s with
  | [] => before .endOfString []
  | c :: cs =>
    if c = '\x22' then .ok ⟨[], cs, by simp⟩
    else if c = '\\' then do
      let (d, ⟨r, _⟩) ← readEscape cs
      let ⟨ds, t, _⟩ ← readString r
      pure ⟨d :: ds, t, by simp only [List.length_cons]; omega⟩
    else if c.toNat < 0x20 then after .controlCharacter (c :: cs)
    else do
      let ⟨ds, t, _⟩ ← readString cs
      pure ⟨c :: ds, t, by simp only [List.length_cons]; omega⟩
termination_by s.length
decreasing_by all_goals simp only [List.length_cons]; omega

def readConstant (v : Json) (word s : List Char) : Except Stop (Json × Tail s) :=
  (readWord word s).map (v, ·)

def readScalar (c : Char) (cs : List Char) : Step Json (c :: cs) := do
  if c = 'n' then
    let (v, ⟨r, h⟩) ← readConstant .null "ull".toList cs
    pure (v, ⟨r, length_lt_cons c h⟩)
  else if c = 't' then
    let (v, ⟨r, h⟩) ← readConstant (.bool true) "rue".toList cs
    pure (v, ⟨r, length_lt_cons c h⟩)
  else if c = 'f' then
    let (v, ⟨r, h⟩) ← readConstant (.bool false) "alse".toList cs
    pure (v, ⟨r, length_lt_cons c h⟩)
  else if c = '\x22' then
    let ⟨ds, r, h⟩ ← readString cs
    pure (.string (String.ofList ds), ⟨r, length_lt_cons c (by omega)⟩)
  else if c = '-' then
    let (v, ⟨r, h⟩) ← readNumber true cs
    pure (v, ⟨r, length_lt_cons c (Nat.le_of_lt h)⟩)
  else if c.isDigit then readNumber false (c :: cs)
  else after .expectedValue (c :: cs)

end SchemaPlan.Json.Reader
