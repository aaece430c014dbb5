/-
Characters out of bytes, with the place of the first fault.

A byte sequence falls into pieces: characters, broken sequences (the longest run of bytes that
could have started a character, at least one) and, only as the last piece, a character cut off by
the end. Reading is an automaton with one step for each byte: between characters a lead byte says
how many bytes follow and within which bounds the first of them lies, which excludes overlong forms
and surrogates; a byte that does not fit ends the broken piece and is read afresh.
-/
namespace GraphGateway.Text.Utf8

/-- A part of a byte sequence. -/
inductive Piece where
  | char (c : Char)
  /-- Bytes that start a character and are followed by one that does not continue it. -/
  | broken (bytes : List UInt8)
  /-- Bytes that start a character that the end of the sequence cuts off. -/
  | cut (bytes : List UInt8)
deriving DecidableEq, Repr

/-- Where the automaton stands. -/
inductive State where
  | between
  /-- Inside a character: `left` more bytes are due, the next one from `low` to `high`; `seen` are
  the bytes so far, last first, and `value` is what they add to the code point. -/
  | inside (left : Nat) (low high : UInt8) (seen : List UInt8) (value : Nat)
deriving DecidableEq, Repr

/-- Reads the first byte of a character. -/
def begin (b : UInt8) : List Piece × State :=
  let n := b.toNat
  if n < 0x80 then ([.char (Char.ofNat n)], .between)
  else if n < 0xC2 then ([.broken [b]], .between)
  else if n < 0xE0 then ([], .inside 1 0x80 0xBF [b] (n % 0x20))
  else if n = 0xE0 then ([], .inside 2 0xA0 0xBF [b] (n % 0x10))
  else if n = 0xED then ([], .inside 2 0x80 0x9F [b] (n % 0x10))
  else if n < 0xF0 then ([], .inside 2 0x80 0xBF [b] (n % 0x10))
  else if n = 0xF0 then ([], .inside 3 0x90 0xBF [b] (n % 0x8))
  else if n < 0xF4 then ([], .inside 3 0x80 0xBF [b] (n % 0x8))
  else if n = 0xF4 then ([], .inside 3 0x80 0x8F [b] (n % 0x8))
  else ([.broken [b]], .between)

/-- Reads one byte: the pieces that it ends, and where the automaton stands then. -/
def step : State → UInt8 → List Piece × State
  | .between, b => begin b
  | .inside left low high seen value, b =>
    if low ≤ b ∧ b ≤ high then
      let value := value * 0x40 + b.toNat % 0x40
      if left ≤ 1 then ([.char (Char.ofNat value)], .between)
      else ([], .inside (left - 1) 0x80 0xBF (b :: seen) value)
    else
      let (pieces, state) := begin b
      (.broken seen.reverse :: pieces, state)

/-- The pieces of a byte sequence, read from a given state. -/
def run : State → List UInt8 → List Piece
  | .between, [] => []
  | .inside _ _ _ seen _, [] => [.cut seen.reverse]
  | state, b :: bytes =>
    let (pieces, next) := step state b
    pieces ++ run next bytes

/-- The pieces of a byte sequence. -/
def pieces (bytes : List UInt8) : List Piece := run .between bytes

/-- Why a byte sequence is no text: the index of the first byte that belongs to no character, and
how many bytes of a character it starts. -/
inductive Fault where
  | invalid (count index : Nat)
  | incomplete (index : Nat)
deriving DecidableEq, Repr

def Fault.message : Fault → String
  | .invalid count index => s!"invalid utf-8 sequence of {count} bytes from index {index}"
  | .incomplete index => s!"incomplete utf-8 byte sequence from index {index}"

/-- The characters of pieces that start at `index`, or the first fault. -/
def charsOf (index : Nat) : List Piece → Except Fault (List Char)
  | [] => .ok []
  | .char c :: rest => (charsOf (index + c.utf8Size) rest).map (c :: ·)
  | .broken bytes :: _ => .error (.invalid bytes.length index)
  | .cut _ :: _ => .error (.incomplete index)

/-- The text that bytes stand for. -/
def decode (bytes : List UInt8) : Except Fault String :=
  (charsOf 0 (pieces bytes)).map String.ofList

/-- The text that bytes stand for, with U+FFFD in place of each piece that is no character. -/
def decodeLossy (bytes : List UInt8) : String :=
  String.ofList ((pieces bytes).map fun piece =>
    match piece with
    | .char c => c
    | .broken _ | .cut _ => '\ufffd')

/-- The bytes of a text. -/
def encode (s : String) : List UInt8 := s.toUTF8.toList

/-- How many bytes the characters take. -/
def size : List Char → Nat
  | [] => 0
  | c :: cs => c.utf8Size + size cs

@[simp] theorem size_nil : size [] = 0 := rfl

@[simp] theorem size_cons (c : Char) (cs : List Char) : size (c :: cs) = c.utf8Size + size cs := rfl

@[simp] theorem size_append (cs ds : List Char) : size (cs ++ ds) = size cs + size ds := by
  induction cs with
  | nil => simp
  | cons c cs ih => simp [ih, Nat.add_assoc]

/-- A lead byte whose second byte does not fit is broken alone, and that byte is read afresh. -/
example : pieces [0xE2, 0x41] = [.broken [0xE2], .char 'A'] := by decide +kernel

/-- An encoded surrogate is three broken bytes. -/
example : (pieces [0xED, 0xA0, 0x80]).length = 3 := by decide +kernel

end GraphGateway.Text.Utf8
