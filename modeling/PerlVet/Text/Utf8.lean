/-!
UTF-8: encoding a character, reading the first character of a byte sequence, and decoding a whole
sequence either strictly or with a replacement character for every maximal ill-formed part.
-/

namespace PerlVet.Text.Utf8

/-- Why a sequence of bytes does not start with a character. -/
inductive Fault where
  /-- The first byte starts no character. -/
  | start
  /-- A byte that should continue a character does not. -/
  | continuation
  /-- The bytes end inside a character. -/
  | truncated
  deriving DecidableEq, Repr

/-- What the head of a byte sequence holds. -/
inductive Head where
  /-- A character, and how many bytes it takes. -/
  | char (c : Char) (size : Nat)
  /-- An ill-formed part, and how many bytes it takes. -/
  | fault (reason : Fault) (size : Nat)
  deriving DecidableEq, Repr

/-- A byte of the form 10xxxxxx. -/
def isContinuation (b : UInt8) : Bool := 0x80 ≤ b && b ≤ 0xBF

/-- The bytes that may follow the first byte `a` of a character of three or four bytes: overlong
forms, surrogates and values past U+10FFFF are shut out here. -/
def isSecond (a b : UInt8) : Bool :=
  isContinuation b && !(a == 0xE0 && b < 0xA0) && !(a == 0xED && 0xA0 ≤ b) &&
    !(a == 0xF0 && b < 0x90) && !(a == 0xF4 && 0x90 ≤ b)

/-- The six payload bits of a continuation byte. -/
def payload (b : UInt8) : Nat := b.toNat % 0x40

/-- The head of the bytes `a :: rest`. -/
def head (a : UInt8) (rest : List UInt8) : Head :=
  if a < 0x80 then .char (Char.ofNat a.toNat) 1
  else if a < 0xC2 || 0xF4 < a then .fault .start 1
  else if a < 0xE0 then
    match rest with
    | [] => .fault .truncated 1
    | b :: _ =>
      if isContinuation b then .char (Char.ofNat (a.toNat % 0x20 * 0x40 + payload b)) 2
      else .fault .continuation 1
  else if a < 0xF0 then
    match rest with
    | [] => .fault .truncated 1
    | [b] => if isSecond a b then .fault .truncated 2 else .fault .continuation 1
    | b :: c :: _ =>
      if !isSecond a b then .fault .continuation 1
      else if !isContinuation c then .fault .continuation 2
      else .char (Char.ofNat ((a.toNat % 0x10 * 0x40 + payload b) * 0x40 + payload c)) 3
  else
    match rest with
    | [] => .fault .truncated 1
    | [b] => if isSecond a b then .fault .truncated 2 else .fault .continuation 1
    | [b, c] =>
      if !isSecond a b then .fault .continuation 1
      else if !isContinuation c then .fault .continuation 2
      else .fault .truncated 3
    | b :: c :: d :: _ =>
      if !isSecond a b then .fault .continuation 1
      else if !isContinuation c then .fault .continuation 2
      else if !isContinuation d then .fault .continuation 3
      else
        .char (Char.ofNat (((a.toNat % 8 * 0x40 + payload b) * 0x40 + payload c) * 0x40
          + payload d)) 4

/-- Decodes bytes, after skipping the first `skip` of them, which belong to a part already read.
Every ill-formed part becomes one U+FFFD. -/
def decodeFrom : Nat → List UInt8 → List Char
  | _, [] => []
  | skip + 1, _ :: bs => decodeFrom skip bs
  | 0, b :: bs =>
    match head b bs with
    | .char c size => c :: decodeFrom (size - 1) bs
    | .fault _ size => '\uFFFD' :: decodeFrom (size - 1) bs

/-- Decodes bytes, with one U+FFFD for every maximal ill-formed part. -/
def decode (bs : List UInt8) : List Char := decodeFrom 0 bs

/-- Where and why strict decoding fails. -/
structure DecodeError where
  /-- Index of the first byte of the ill-formed part. -/
  position : Nat
  /-- The bytes of the ill-formed part. -/
  bytes : List UInt8
  reason : Fault
  deriving DecidableEq, Repr

/-- Decodes bytes strictly from index `position` on, after skipping `skip` bytes. -/
def decodeStrictFrom (position : Nat) : Nat → List UInt8 → Except DecodeError (List Char)
  | _, [] => .ok []
  | skip + 1, _ :: bs => decodeStrictFrom (position + 1) skip bs
  | 0, b :: bs =>
    match head b bs with
    | .char c size => (c :: ·) <$> decodeStrictFrom (position + 1) (size - 1) bs
    | .fault reason size => .error ⟨position, (b :: bs).take size, reason⟩

/-- Decodes bytes that must all be well formed. -/
def decodeStrict (bs : List UInt8) : Except DecodeError (List Char) := decodeStrictFrom 0 0 bs

/-- One hexadecimal digit, in lower case. -/
def hexDigit (n : Nat) : Char := if n < 10 then Char.ofNat (48 + n) else Char.ofNat (87 + n)

/-- Words for the reason of a failure. -/
def Fault.text : Fault → String
  | .start => "invalid start byte"
  | .continuation => "invalid continuation byte"
  | .truncated => "unexpected end of data"

/-- The report of a strict decoding failure: one byte is shown, several are located. -/
def DecodeError.message (e : DecodeError) : String :=
  let place := match e.bytes with
    | [b] => "byte 0x" ++ String.ofList [hexDigit (b.toNat / 16), hexDigit (b.toNat % 16)] ++
        " in position " ++ toString e.position
    | bs => "bytes in position " ++ toString e.position ++ "-" ++
        toString (e.position + bs.length - 1)
  "'utf-8' codec can't decode " ++ place ++ ": " ++ e.reason.text

/-- The bytes of one character. -/
def encodeChar (c : Char) : List UInt8 :=
  let n := c.toNat
  let tail (k : Nat) : UInt8 := UInt8.ofNat (0x80 + n / k % 0x40)
  if n < 0x80 then [UInt8.ofNat n]
  else if n < 0x800 then [UInt8.ofNat (0xC0 + n / 0x40), tail 1]
  else if n < 0x10000 then [UInt8.ofNat (0xE0 + n / 0x1000), tail 0x40, tail 1]
  else [UInt8.ofNat (0xF0 + n / 0x40000), tail 0x1000, tail 0x40, tail 1]

/-- The bytes of a text. -/
def encode (cs : List Char) : List UInt8 := cs.flatMap encodeChar

end PerlVet.Text.Utf8
