import LuaIndex.Text.Quoted

namespace LuaIndex.Utf8

/-- The bytes of a character. -/
def encodeChar (c : Char) : List UInt8 :=
  let n := c.toNat
  if n < 128 then [n.toUInt8]
  else if n < 2048 then [(192 + n / 64).toUInt8, (128 + n % 64).toUInt8]
  else if n < 65536 then
    [(224 + n / 4096).toUInt8, (128 + n / 64 % 64).toUInt8, (128 + n % 64).toUInt8]
  else
    [(240 + n / 262144).toUInt8, (128 + n / 4096 % 64).toUInt8, (128 + n / 64 % 64).toUInt8,
      (128 + n % 64).toUInt8]

def encode (t : Text) : List UInt8 :=
  t.flatMap encodeChar

/-- The number of bytes of a text. -/
def size (t : Text) : Nat :=
  (encode t).length

/-- What is wrong with a byte sequence. -/
inductive Fault where
  /-- No character starts with the byte. -/
  | start
  /-- A byte cannot go on with the character that the bytes before it began. -/
  | continuation
  /-- The bytes end inside a character. -/
  | incomplete
deriving DecidableEq

/-- The first undecodable part of a byte sequence: where it starts, its first byte, its length. -/
structure Failure where
  position : Nat
  byte : UInt8
  length : Nat
  fault : Fault
deriving DecidableEq

namespace Failure

def reason : Fault → Text
  | .start => "invalid start byte".toList
  | .continuation => "invalid continuation byte".toList
  | .incomplete => "unexpected end of data".toList

def message (f : Failure) : Text :=
  "'utf-8' codec can't decode byte".toList ++
    (if f.length = 1 then
      " 0x".toList ++ Text.hex 2 f.byte.toNat ++ " in position ".toList ++ Text.ofNat f.position
    else
      "s in position ".toList ++ Text.ofNat f.position ++ "-".toList ++
        Text.ofNat (f.position + f.length - 1)) ++
    ": ".toList ++ reason f.fault

end Failure

/-- How many bytes follow a start byte, the range of the first of them, and the bits that the start
byte gives. -/
def lead? (b : Nat) : Option (Nat × Nat × Nat × Nat) :=
  if b < 128 then some (0, 0, 0, b)
  else if b < 194 then none
  else if b < 224 then some (1, 128, 191, b - 192)
  else if b = 224 then some (2, 160, 191, 0)
  else if b = 237 then some (2, 128, 159, 13)
  else if b < 240 then some (2, 128, 191, b - 224)
  else if b = 240 then some (3, 144, 191, 0)
  else if b < 244 then some (3, 128, 191, b - 240)
  else if b = 244 then some (3, 128, 143, 4)
  else none

/-- Takes `count` following bytes, the first of them from `lo` to `hi`. Gives the code point, or the
number of good bytes and the fault. -/
def follow (count lo hi value : Nat) (bytes : List UInt8) : Except (Nat × Fault) Nat :=
  match count with
  | 0 => .ok value
  | count + 1 =>
    match bytes with
    | [] => .error (0, .incomplete)
    | b :: rest =>
      if lo ≤ b.toNat && b.toNat ≤ hi then
        match follow count 128 191 (value * 64 + (b.toNat - 128)) rest with
        | .ok v => .ok v
        | .error (n, fault) => .error (n + 1, fault)
      else .error (0, .continuation)

/-- Reads the rest of a byte sequence from a position on. The first `skip` bytes belong to the
character read before. -/
def decodeFrom (position skip : Nat) : List UInt8 → Except Failure Text
  | [] => .ok []
  | b :: rest =>
    match skip with
    | n + 1 => decodeFrom (position + 1) n rest
    | 0 =>
      match lead? b.toNat with
      | none => .error ⟨position, b, 1, .start⟩
      | some (count, lo, hi, value) =>
        match follow count lo hi value rest with
        | .error (n, fault) => .error ⟨position, b, n + 1, fault⟩
        | .ok v =>
          match decodeFrom (position + 1) count rest with
          | .error f => .error f
          | .ok t => .ok (Char.ofNat v :: t)

/-- The text of a byte sequence, or its first undecodable part. -/
def decode (bytes : List UInt8) : Except Failure Text :=
  decodeFrom 0 0 bytes

end LuaIndex.Utf8
